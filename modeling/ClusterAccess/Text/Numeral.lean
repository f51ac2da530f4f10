import ClusterAccess.Text.Blank
import ClusterAccess.Text.Digit
import ClusterAccess.Text.Quoted
import ClusterAccess.Text.Binary64

/-!
# Numerals

`readInteger` reads an integer numeral in a given base and `readDecimal` a decimal one with a fraction
or an exponent. Both allow blanks around the numeral, a sign, decimal digits of any script, and
single underscores between digits. A base of 2, 8 or 16 also admits its marker (`0b`, `0o`, `0x`). A
numeral whose base is no power of two may have at most 4300 digits.
-/

namespace ClusterAccess.Text

/-- The digits and marks of a numeral in ASCII: blanks beyond ASCII become spaces, and digits of any
script become ASCII digits. A text that is ASCII already stays as it is. -/
def plainNumeral (cs : List Char) : List Char :=
  if cs.all (·.toNat < 128) then cs
  else cs.map fun c =>
    if c.toNat < 127 then c
    else if isBlank c then ' '
    else
      match decimalDigit? c with
      | some d => Char.ofNat (48 + d)
      | none => '?'

/-- The blanks of ASCII that may surround a numeral. -/
def isNumeralBlank (c : Char) : Bool :=
  c = ' ' || (9 ≤ c.toNat && c.toNat ≤ 13)

/-- The text without the blanks around a numeral. -/
def stripNumeral (cs : List Char) : List Char :=
  ((cs.dropWhile isNumeralBlank).reverse.dropWhile isNumeralBlank).reverse

/-- A sign and what follows it; `true` is negative. -/
def splitSign : List Char → Bool × List Char
  | '-' :: cs => (true, cs)
  | '+' :: cs => (false, cs)
  | cs => (false, cs)

/-- The value of a digit in bases up to 36. -/
def baseDigit? (base : Nat) (c : Char) : Option Nat :=
  let n := c.toNat
  let d :=
    if 48 ≤ n && n ≤ 57 then n - 48
    else if 97 ≤ n && n ≤ 122 then n - 87
    else if 65 ≤ n && n ≤ 90 then n - 55
    else base
  if d < base then some d else none

/-- Digits with single underscores between them. -/
def digitRun? (base : Nat) : List Char → Option (List Nat)
  | [] => none
  | [c] => (baseDigit? base c).map ([·])
  | c :: '_' :: cs => do
    let d ← baseDigit? base c
    let ds ← digitRun? base cs
    pure (d :: ds)
  | c :: cs => do
    let d ← baseDigit? base c
    let ds ← digitRun? base cs
    pure (d :: ds)

/-- The natural number with the given digits, most significant first. -/
def ofDigits (base : Nat) (ds : List Nat) : Nat :=
  ds.foldl (fun n d => n * base + d) 0

/-- The letter that marks a numeral's base. -/
def baseMark? : Nat → Option Char
  | 2 => some 'b'
  | 8 => some 'o'
  | 16 => some 'x'
  | _ => none

/-- The numeral without the marker of its base, and without one underscore behind the marker. -/
def dropBaseMark (base : Nat) : List Char → List Char
  | '0' :: m :: cs =>
    if baseMark? base = some m.toLower then
      match cs with
      | '_' :: rest => rest
      | _ => cs
    else '0' :: m :: cs
  | cs => cs

/-- Why a text is no integer numeral. -/
inductive IntegerFault where
  | notNumeral (base : Nat) (text : String)
  | tooLong (digits : Nat)
  deriving DecidableEq, Repr

/-- The most digits that a numeral may have, unless its base is a power of two. -/
def maxDigits : Nat := 4300

def IntegerFault.message : IntegerFault → String
  | notNumeral base text =>
    "invalid literal for int() with base " ++ toString base ++ ": " ++
      String.ofList ((quoted text).toList.take 200)
  | tooLong digits =>
    "Exceeds the limit (" ++ toString maxDigits ++ " digits) for integer string conversion: value has "
      ++ toString digits ++ " digits; use sys.set_int_max_str_digits() to increase the limit"

/-- The integer that a numeral denotes. -/
def readInteger (base : Nat) (text : List Char) : Except IntegerFault Int :=
  let (negative, body) := splitSign (stripNumeral (plainNumeral text))
  match digitRun? base (dropBaseMark base body) with
  | none => .error (.notNumeral base (String.ofList text))
  | some ds =>
    if (baseMark? base).isNone && maxDigits < ds.length then .error (.tooLong ds.length)
    else
      let n : Int := ofDigits base ds
      .ok (if negative then -n else n)

/-- A run of digits that may be empty, and what follows it. An underscore counts only between
digits. -/
def takeDigits : List Char → List Char × List Char
  | c :: '_' :: d :: cs =>
    if c.isDigit then
      if d.isDigit then
        let (ds, rest) := takeDigits (d :: cs)
        (c :: ds, rest)
      else ([c], '_' :: d :: cs)
    else ([], c :: '_' :: d :: cs)
  | c :: cs =>
    if c.isDigit then
      let (ds, rest) := takeDigits cs
      (c :: ds, rest)
    else ([], c :: cs)
  | [] => ([], [])

def digitValues (cs : List Char) : List Nat :=
  cs.map fun c => c.toNat - 48

/-- The exponent part of a real numeral, which must reach the end of the text. -/
def readExponent : List Char → Option Int
  | [] => some 0
  | e :: cs =>
    if e = 'e' || e = 'E' then
      let (negative, body) := splitSign cs
      match takeDigits body with
      | ([], _) => none
      | (ds, []) =>
        let n : Int := ofDigits 10 (digitValues ds)
        some (if negative then -n else n)
      | _ => none
    else none

/-- An unsigned real numeral. -/
def readMagnitude (negative : Bool) (cs : List Char) : Option Binary64 :=
  let word := String.ofList (cs.map Char.toLower)
  if word = "inf" || word = "infinity" then some (.infinity negative)
  else if word = "nan" then some .nan
  else
    let (whole, rest) := takeDigits cs
    let (fraction, rest) :=
      match rest with
      | '.' :: more => takeDigits more
      | _ => ([], rest)
    if whole.isEmpty && fraction.isEmpty then none
    else do
      let exponent ← readExponent rest
      pure (.ofDecimal negative (ofDigits 10 (digitValues (whole ++ fraction)))
        (exponent - fraction.length))

/-- The real number that a numeral denotes. -/
def readDecimal (text : List Char) : Option Binary64 :=
  let (negative, body) := splitSign (stripNumeral (plainNumeral text))
  readMagnitude negative body

end ClusterAccess.Text
