import ClusterAccess.Text.Utf8

/-!
# Texts in wide units

A text may be encoded in units of two or four bytes, with the most or the least significant byte first.
`Units.decode` reads both; pairs of two-byte units make the characters beyond the basic plane. Half of
a pair that stands alone becomes the replacement character. The `Fault` is the first unit that is not
complete or names no character.
-/

namespace ClusterAccess.Units

/-- The width of a unit in bytes, and which of its bytes comes first. -/
inductive Form where
  | pairs (bigFirst : Bool)
  | quads (bigFirst : Bool)
  deriving DecidableEq, Repr

namespace Form

def width : Form → Nat
  | pairs _ => 2
  | quads _ => 4

def bigFirst : Form → Bool
  | pairs b => b
  | quads b => b

def name (f : Form) : String :=
  "utf-" ++ toString (8 * f.width) ++ (if f.bigFirst then "-be" else "-le")

/-- The number in the bytes of a unit. -/
def number (f : Form) (unit : Bytes) : Nat :=
  if f.bigFirst then Bytes.toNat unit else Bytes.toNatLittle unit

end Form

/-- Bytes `first` to `last` are no unit, or one that names no character. -/
structure Fault where
  form : Form
  first : Nat
  last : Nat
  byte : UInt8
  incomplete : Bool
  deriving DecidableEq, Repr

def Fault.message (f : Fault) : String :=
  let subject :=
    if f.first = f.last then
      let hex := String.ofList
        [Utf8.hexDigit (f.byte.toNat / 16), Utf8.hexDigit (f.byte.toNat % 16)]
      "byte 0x" ++ hex ++ " in position " ++ toString f.first
    else "bytes in position " ++ toString f.first ++ "-" ++ toString f.last
  "'" ++ f.form.name ++ "' codec can't decode " ++ subject ++ ": " ++
    (if f.incomplete then "truncated data" else "code point not in range(0x110000)")

/-- The units of bytes from a position on, at most `n` of them. -/
def unitsFrom (form : Form) : Nat → Nat → Bytes → Except Fault (List Nat)
  | 0, _, _ => .ok []
  | n + 1, pos, b =>
    match b with
    | [] => .ok []
    | first :: _ =>
      let unit := b.take form.width
      let last := pos + unit.length - 1
      if unit.length < form.width then .error ⟨form, pos, last, first, true⟩
      else
        let number := form.number unit
        if 0x110000 ≤ number then .error ⟨form, pos, last, first, false⟩
        else do
          let rest ← unitsFrom form n (pos + form.width) (b.drop form.width)
          pure (number :: rest)

def isHigh (n : Nat) : Bool := 0xD800 ≤ n && n < 0xDC00

def isLow (n : Nat) : Bool := 0xDC00 ≤ n && n < 0xE000

/-- The character of a unit that belongs to no pair. -/
def single (n : Nat) : Char := if isHigh n || isLow n then Utf8.replacement else Char.ofNat n

/-- The characters of units of two bytes. -/
def joinPairs : List Nat → List Char
  | [] => []
  | h :: l :: ns =>
    if isHigh h && isLow l then
      Char.ofNat (0x10000 + (h - 0xD800) * 1024 + (l - 0xDC00)) :: joinPairs ns
    else single h :: joinPairs (l :: ns)
  | [n] => [single n]

/-- The text that the bytes encode. Positions count from `start`. -/
def decode (form : Form) (start : Nat) (b : Bytes) : Except Fault String := do
  let ns ← unitsFrom form b.length start b
  match form with
  | .pairs _ => pure (String.ofList (joinPairs ns))
  | .quads _ => pure (String.ofList (ns.map single))

end ClusterAccess.Units
