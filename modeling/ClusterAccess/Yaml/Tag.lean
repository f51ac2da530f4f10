import ClusterAccess.Yaml.Moment

/-!
# Tags

A tag says which kind of value a node stands for. `Tag.ofName` reads a full tag name, and
`Tag.ofScalar` finds the tag of a scalar without one from its form: words for booleans and null,
numerals, dates, the merge key `<<` and the value key `=`. A newline at the end of a scalar does not
change its form.
-/

namespace ClusterAccess.Yaml

inductive Tag where
  | null
  | bool
  | int
  | float
  | binary
  | timestamp
  | omap
  | pairs
  | set
  | str
  | seq
  | map
  | merge
  | value
  | other (name : String)
  deriving DecidableEq, Repr

namespace Tag

/-- What the names of the tags of the standard begin with. -/
def standard : String := "tag:yaml.org,2002:"

/-- The tags of the standard by the rest of their names. -/
def known : List (String × Tag) :=
  [("null", null), ("bool", bool), ("int", int), ("float", float), ("binary", binary),
    ("timestamp", timestamp), ("omap", omap), ("pairs", pairs), ("set", set), ("str", str),
    ("seq", seq), ("map", map), ("merge", merge), ("value", value)]

def ofName (name : String) : Tag :=
  match known.find? fun (rest, _) => standard ++ rest = name with
  | some (_, t) => t
  | none => other name

/-! ## The form of scalars -/

def boolWords : List String :=
  ["yes", "Yes", "YES", "no", "No", "NO", "true", "True", "TRUE", "false", "False", "FALSE",
    "on", "On", "ON", "off", "Off", "OFF"]

def nullWords : List String := ["~", "null", "Null", "NULL", ""]

def isDigitOrBar (c : Char) : Bool := isAsciiDigit c || c = '_'

def dropSign : List Char → List Char
  | '+' :: cs => cs
  | '-' :: cs => cs
  | cs => cs

/-- The rest of a text behind a digit and any digits and underscores. -/
def behindDigits (first : Char → Bool) : List Char → Option (List Char)
  | c :: cs => if first c then some (cs.dropWhile isDigitOrBar) else none
  | [] => none

/-- The rest of a text behind groups of a colon and one or two digits that are below sixty. -/
def behindSixties : List Char → List Char
  | ':' :: a :: b :: cs =>
    if '0' ≤ a && a ≤ '5' && isAsciiDigit b then behindSixties cs
    else if isAsciiDigit a then behindSixties (b :: cs)
    else ':' :: a :: b :: cs
  | ':' :: a :: [] => if isAsciiDigit a then [] else [':', a]
  | cs => cs

/-- At least one group of base sixty, then the rest. -/
def behindSomeSixties (cs : List Char) : Option (List Char) :=
  let rest := behindSixties cs
  if rest.length < cs.length then some rest else none

/-- Nothing, or an exponent with its sign, is left. -/
def isExponent : List Char → Bool
  | [] => true
  | e :: s :: cs => (e = 'e' || e = 'E') && (s = '+' || s = '-') && !cs.isEmpty && cs.all isAsciiDigit
  | _ => false

/-- A point and digits are left, then whatever `last` admits. -/
def isFraction (last : List Char → Bool) : List Char → Bool
  | '.' :: cs => last (cs.dropWhile isDigitOrBar)
  | _ => false

def isFloat (cs : List Char) : Bool :=
  let unsigned := dropSign cs
  let behindWhole := behindDigits isAsciiDigit unsigned
  behindWhole.any (isFraction isExponent) ||
    (match cs with
      | '.' :: rest => (behindDigits isAsciiDigit rest).any isExponent
      | _ => false) ||
    (behindWhole.bind behindSomeSixties).any (isFraction List.isEmpty) ||
    [".inf", ".Inf", ".INF"].contains (String.ofList unsigned) ||
    [".nan", ".NaN", ".NAN"].contains (String.ofList cs)

def isInt (cs : List Char) : Bool :=
  let nonZero (c : Char) : Bool := '1' ≤ c && c ≤ '9'
  match dropSign cs with
  | ['0'] => true
  | '0' :: c :: rest =>
    (c = 'b' && !rest.isEmpty && rest.all fun d => d = '0' || d = '1' || d = '_') ||
      (c = 'x' && !rest.isEmpty && rest.all fun d => d = '_' || (Text.baseDigit? 16 d).isSome) ||
      (c :: rest).all fun d => d = '_' || ('0' ≤ d && d ≤ '7')
  | unsigned =>
    match behindDigits nonZero unsigned with
    | some rest => (behindSixties rest).isEmpty
    | none => false

/-- Dates without a time count only when month and day have two digits. -/
def isTimestamp (cs : List Char) : Bool :=
  match MomentFields.read? cs with
  | some f => f.padded || f.time.isSome
  | none => false

/-- The text without a newline at its end. -/
def dropNewline (cs : List Char) : List Char :=
  if cs.getLast? = some '\n' then cs.dropLast else cs

/-- The tag of a scalar by its form. -/
def ofScalar (s : String) : Tag :=
  let cs := dropNewline s.toList
  let word := String.ofList cs
  if boolWords.contains word then bool
  else if isFloat cs then float
  else if isInt cs then int
  else if word = "<<" then merge
  else if nullWords.contains word && s != "\n" then null
  else if isTimestamp cs then timestamp
  else if word = "=" then value
  else if word = "!" || word = "&" || word = "*" then other (standard ++ "yaml")
  else str

end Tag

end ClusterAccess.Yaml
