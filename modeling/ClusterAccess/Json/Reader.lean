import ClusterAccess.Json.Basic
import ClusterAccess.Text.Numeral
import ClusterAccess.Text.Units

/-!
# Reading JSON

`Json.ofText` reads the one document that a text is. Between tokens there may be spaces, tabs and line
breaks. Strings hold no control characters. Numbers have no superfluous zero in front; besides numerals
there are the words for what is no number and for the two infinities. Half of a pair of units that
stands alone becomes the replacement character.
-/

namespace ClusterAccess.Json

/-- Why a text is no document. -/
inductive Fault where
  | malformed
  | number (fault : Text.IntegerFault)
  deriving DecidableEq, Repr

abbrev Result (α : Type) := Except Fault α

def refuse {α : Type} : Result α := .error .malformed

def isGap (c : Char) : Bool := c = ' ' || c = '\t' || c = '\n' || c = '\r'

def skipGap (cs : List Char) : List Char := cs.dropWhile isGap

/-- The rest behind a word. -/
def behind? (word : String) (cs : List Char) : Option (List Char) :=
  if word.toList.isPrefixOf cs then some (cs.drop word.length) else none

/-- The unit of four hexadecimal digits. -/
def unit? : List Char → Option (Nat × List Char)
  | a :: b :: c :: d :: cs => do
    let a ← Text.baseDigit? 16 a
    let b ← Text.baseDigit? 16 b
    let c ← Text.baseDigit? 16 c
    let d ← Text.baseDigit? 16 d
    pure (((a * 16 + b) * 16 + c) * 16 + d, cs)
  | _ => none

/-- The character that the digits of an escape stand for, with the second half of a pair. -/
def escapedUnit (cs : List Char) : Option (Char × List Char) :=
  match unit? cs with
  | none => none
  | some (n, rest) =>
    if Units.isHigh n then
      match rest with
      | '\\' :: 'u' :: more =>
        match unit? more with
        | some (m, rest') =>
          if Units.isLow m then
            some (Char.ofNat (0x10000 + (n - 0xD800) * 1024 + (m - 0xDC00)), rest')
          else some (Utf8.replacement, rest)
        | none => some (Utf8.replacement, rest)
      | _ => some (Utf8.replacement, rest)
    else some (Units.single n, rest)

/-- The character behind a backslash. -/
def escaped? : List Char → Option (Char × List Char)
  | '"' :: cs => some ('"', cs)
  | '\\' :: cs => some ('\\', cs)
  | '/' :: cs => some ('/', cs)
  | 'b' :: cs => some ('\x08', cs)
  | 'f' :: cs => some ('\x0C', cs)
  | 'n' :: cs => some ('\n', cs)
  | 'r' :: cs => some ('\r', cs)
  | 't' :: cs => some ('\t', cs)
  | 'u' :: cs => escapedUnit cs
  | _ => none

/-- The characters of a string up to its closing quote, and what follows. -/
def readString : Nat → List Char → Result (List Char × List Char)
  | 0, _ => refuse
  | _, [] => refuse
  | fuel + 1, c :: cs =>
    if c = '"' then .ok ([], cs)
    else if c = '\\' then
      match escaped? cs with
      | some (e, rest) => do
        let (s, rest) ← readString fuel rest
        pure (e :: s, rest)
      | none => refuse
    else if c.toNat < 32 then refuse
    else do
      let (s, rest) ← readString fuel cs
      pure (c :: s, rest)

def isDigit (c : Char) : Bool := '0' ≤ c && c ≤ '9'

/-- The digits of a whole number: a zero, or digits that do not begin with one. -/
def wholeDigits (cs : List Char) : Option (List Char × List Char) :=
  match cs with
  | '0' :: rest => some (['0'], rest)
  | c :: _ => if isDigit c then some (cs.takeWhile isDigit, cs.dropWhile isDigit) else none
  | [] => none

/-- A point and digits, if both are there. -/
def fraction : List Char → List Char × List Char
  | '.' :: c :: rest =>
    if isDigit c then ('.' :: (c :: rest).takeWhile isDigit, (c :: rest).dropWhile isDigit)
    else ([], '.' :: c :: rest)
  | cs => ([], cs)

/-- A mark, a sign that may be missing, and digits, if mark and digits are there. -/
def exponent (cs : List Char) : List Char × List Char :=
  match cs with
  | e :: rest =>
    if e = 'e' || e = 'E' then
      let (sign, digits) :=
        match rest with
        | '+' :: ds => (['+'], ds)
        | '-' :: ds => (['-'], ds)
        | ds => ([], ds)
      if digits.head?.any isDigit then
        (e :: sign ++ digits.takeWhile isDigit, digits.dropWhile isDigit)
      else ([], cs)
    else ([], cs)
  | [] => ([], [])

/-- A number, as far as the text goes on like one. -/
def readNumber (cs : List Char) : Result (Json × List Char) :=
  let (sign, cs) := match cs with | '-' :: rest => (['-'], rest) | _ => ([], cs)
  match wholeDigits cs with
  | none => refuse
  | some (whole, rest) =>
    let (fraction, rest) := fraction rest
    let (exponent, rest) := exponent rest
    if fraction.isEmpty && exponent.isEmpty then
      match Text.readInteger 10 (sign ++ whole) with
      | .ok n => .ok (.int n, rest)
      | .error fault => .error (.number fault)
    else .ok (.real (String.ofList (sign ++ whole ++ fraction ++ exponent)), rest)

/-- A word or a number. -/
def readAtom (cs : List Char) : Result (Json × List Char) :=
  let words : List (String × Json) :=
    [("null", .null), ("true", .bool true), ("false", .bool false), ("NaN", .real "NaN"),
      ("Infinity", .real "Infinity"), ("-Infinity", .real "-Infinity")]
  match words.findSome? fun (word, v) => (behind? word cs).map (v, ·) with
  | some r => .ok r
  | none => readNumber cs

mutual

/-- A value, and what follows it. -/
def readValue : Nat → List Char → Result (Json × List Char)
  | 0, _ => refuse
  | fuel + 1, cs =>
    match cs with
    | '"' :: rest => do
      let (s, rest) ← readString rest.length.succ rest
      pure (.text (String.ofList s), rest)
    | '[' :: rest =>
      match skipGap rest with
      | ']' :: rest => .ok (.array [], rest)
      | rest => do
        let (items, rest) ← readItems fuel rest
        pure (.array items, rest)
    | '\x7b' :: rest =>
      match skipGap rest with
      | '\x7d' :: rest => .ok (.object [], rest)
      | rest => do
        let (members, rest) ← readMembers fuel rest
        pure (.object (collect members), rest)
    | _ => readAtom cs

/-- The items of an array up to its end. -/
def readItems : Nat → List Char → Result (List Json × List Char)
  | 0, _ => refuse
  | fuel + 1, cs => do
    let (v, rest) ← readValue fuel cs
    match skipGap rest with
    | ',' :: rest =>
      let (vs, rest) ← readItems fuel (skipGap rest)
      pure (v :: vs, rest)
    | ']' :: rest => pure ([v], rest)
    | _ => refuse

/-- The members of an object up to its end. -/
def readMembers : Nat → List Char → Result (List (String × Json) × List Char)
  | 0, _ => refuse
  | fuel + 1, cs =>
    match cs with
    | '"' :: rest => do
      let (name, rest) ← readString rest.length.succ rest
      match skipGap rest with
      | ':' :: rest =>
        let (v, rest) ← readValue fuel (skipGap rest)
        match skipGap rest with
        | ',' :: rest =>
          let (ms, rest) ← readMembers fuel (skipGap rest)
          pure ((String.ofList name, v) :: ms, rest)
        | '\x7d' :: rest => pure ([(String.ofList name, v)], rest)
        | _ => refuse
      | _ => refuse
    | _ => refuse

end

/-- The document that the characters are. -/
def ofChars (cs : List Char) : Result Json := do
  let (v, rest) ← readValue (cs.length + 1) (skipGap cs)
  if (skipGap rest).isEmpty then pure v else refuse

def ofText (s : String) : Result Json := ofChars s.toList

end ClusterAccess.Json
