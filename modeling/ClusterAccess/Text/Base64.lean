import ClusterAccess.Text.Bytes

/-!
# Base64

Groups of four digits of six bits stand for three bytes. `decode` is strict: it accepts the digits of
the standard alphabet and the padding that completes the last group, and its `Fault` is the first
thing wrong from left to right. Bits left over in the last group may be anything, and padding
directly behind a complete last group is ignored. `decodeLoose` skips foreign characters and stops at
the padding that completes a group. `encode` writes the standard form.
-/

namespace ClusterAccess.Base64

/-- Why a text is no strict base64. -/
inductive Fault where
  | notAscii
  | leadingPadding
  | discontinuousPadding
  | excessData
  | foreignCharacter
  | incompletePadding
  | loneDigit (digits : Nat)
  deriving DecidableEq, Repr

def Fault.message : Fault → String
  | notAscii => "string argument should contain only ASCII characters"
  | leadingPadding => "Leading padding not allowed"
  | discontinuousPadding => "Discontinuous padding not allowed"
  | excessData => "Excess data after padding"
  | foreignCharacter => "Only base64 data is allowed"
  | incompletePadding => "Incorrect padding"
  | loneDigit digits =>
    "Invalid base64-encoded string: number of data characters (" ++ toString digits ++
      ") cannot be 1 more than a multiple of 4"

/-- The six bits of a digit. -/
def sextet? (c : Char) : Option Nat :=
  let n := c.toNat
  if 65 ≤ n && n ≤ 90 then some (n - 65)
  else if 97 ≤ n && n ≤ 122 then some (n - 71)
  else if 48 ≤ n && n ≤ 57 then some (n + 4)
  else if c = '+' then some 62
  else if c = '/' then some 63
  else none

/-- The digit of six bits. -/
def digit (v : Nat) : Char :=
  if v < 26 then Char.ofNat (65 + v)
  else if v < 52 then Char.ofNat (71 + v)
  else if v < 62 then Char.ofNat (v - 4)
  else if v = 62 then '+'
  else '/'

/-- The open group: how many digits it has, their bits not yet written, the padding that followed
them, and whether there was padding at all. `groups` are complete before it. -/
structure Group where
  digits : Nat
  rest : Nat
  pads : Nat
  padded : Bool
  groups : Nat

namespace Group

def start : Group := ⟨0, 0, 0, false, 0⟩

/-- The group with one more digit. -/
def push (g : Group) (v : Nat) : Group :=
  match g.digits with
  | 0 => { g with digits := 1, rest := v, pads := 0 }
  | 1 => { g with digits := 2, rest := v % 16, pads := 0 }
  | 2 => { g with digits := 3, rest := v % 4, pads := 0 }
  | _ => { g with digits := 0, rest := 0, pads := 0, groups := g.groups + 1 }

/-- The byte that one more digit completes. -/
def emit (g : Group) (v : Nat) : Bytes :=
  match g.digits with
  | 0 => []
  | 1 => [UInt8.ofNat (g.rest * 4 + v / 16)]
  | 2 => [UInt8.ofNat (g.rest * 16 + v / 4)]
  | _ => [UInt8.ofNat (g.rest * 64 + v)]

/-- What is wrong when the text ends here. -/
def fault? (g : Group) : Option Fault :=
  match g.digits with
  | 0 => none
  | 1 => some (.loneDigit (g.groups * 4 + 1))
  | _ => some .incompletePadding

/-- One more padding character completes the group. -/
def completes (g : Group) : Bool := 2 ≤ g.digits && 4 ≤ g.digits + g.pads + 1

/-- The group behind a padding character that does not complete it. -/
def pad (g : Group) : Group :=
  { g with pads := if 2 ≤ g.digits then g.pads + 1 else g.pads, padded := true }

end Group

/-- Strict decoding in the middle of a text. -/
def decodeFrom (g : Group) : List Char → Except Fault Bytes
  | [] =>
    match g.fault? with
    | none => .ok []
    | some f => .error f
  | c :: cs =>
    if c = '=' then
      if g.completes then
        if cs.isEmpty then .ok [] else .error .excessData
      else decodeFrom g.pad cs
    else
      match sextet? c with
      | none => .error .foreignCharacter
      | some v =>
        if g.padded then .error .discontinuousPadding
        else do
          let bs ← decodeFrom (g.push v) cs
          pure (g.emit v ++ bs)

/-- The bytes that a strict base64 text stands for. -/
def decode (cs : List Char) : Except Fault Bytes :=
  if cs.any (127 < ·.toNat) then .error .notAscii
  else if cs.head? = some '=' then .error .leadingPadding
  else decodeFrom .start cs

/-- Loose decoding in the middle of a text. -/
def decodeLooseFrom (g : Group) : List Char → Option Bytes
  | [] => if g.fault?.isNone then some [] else none
  | c :: cs =>
    if c = '=' then
      if g.completes then some [] else decodeLooseFrom g.pad cs
    else
      match sextet? c with
      | none => decodeLooseFrom g cs
      | some v => (decodeLooseFrom (g.push v) cs).map (g.emit v ++ ·)

/-- The bytes that a text stands for when foreign characters count for nothing. -/
def decodeLoose (cs : List Char) : Option Bytes :=
  decodeLooseFrom .start cs

/-- The standard base64 text of a byte string. -/
def encode : Bytes → List Char
  | [] => []
  | [a] =>
    let n := a.toNat * 16
    [digit (n / 64), digit (n % 64), '=', '=']
  | [a, b] =>
    let n := (a.toNat * 256 + b.toNat) * 4
    [digit (n / 4096), digit (n / 64 % 64), digit (n % 64), '=']
  | a :: b :: c :: rest =>
    let n := (a.toNat * 256 + b.toNat) * 256 + c.toNat
    digit (n / 262144) :: digit (n / 4096 % 64) :: digit (n / 64 % 64) :: digit (n % 64) ::
      encode rest

/-- The standard base64 text of a byte string, as a `String`. -/
def encodeText (b : Bytes) : String := String.ofList (encode b)

end ClusterAccess.Base64
