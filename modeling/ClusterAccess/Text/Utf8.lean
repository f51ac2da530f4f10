import ClusterAccess.Text.Bytes

/-!
# UTF-8

`Utf8.decode` is strict: it refuses the first byte that no well-formed text continues with, and the
`Fault` says which bytes are to blame and why. A sequence is checked byte by byte, so the bytes of a
fault are the longest beginning of a well-formed sequence, or the single byte that starts none.
-/

namespace ClusterAccess.Utf8

/-- Why bytes are no UTF-8 text. -/
inductive Reason where
  | invalidStart
  | invalidContinuation
  | truncated
  deriving DecidableEq, Repr

def Reason.message : Reason → String
  | invalidStart => "invalid start byte"
  | invalidContinuation => "invalid continuation byte"
  | truncated => "unexpected end of data"

/-- Bytes `first` to `last` are no UTF-8 text; `byte` is the one at `first`. -/
structure Fault where
  first : Nat
  last : Nat
  byte : UInt8
  reason : Reason
  deriving DecidableEq, Repr

/-- A hexadecimal digit below 16, in lower case. -/
def hexDigit (d : Nat) : Char :=
  if d < 10 then Char.ofNat (48 + d) else Char.ofNat (87 + d)

def Fault.message (f : Fault) : String :=
  let subject :=
    if f.first = f.last then
      let hex := String.ofList [hexDigit (f.byte.toNat / 16), hexDigit (f.byte.toNat % 16)]
      "byte 0x" ++ hex ++ " in position " ++ toString f.first
    else "bytes in position " ++ toString f.first ++ "-" ++ toString f.last
  "'utf-8' codec can't decode " ++ subject ++ ": " ++ f.reason.message

/-- A sequence that has begun: where and with which byte, the bits so far, how many bytes are owed,
and the bounds of the next one. -/
structure Pending where
  start : Nat
  lead : UInt8
  bits : Nat
  owed : Nat
  low : Nat
  high : Nat

/-- What a byte above 0x7F begins, if it begins a sequence. -/
def opening (pos : Nat) (b : UInt8) : Option Pending :=
  let n := b.toNat
  if 0xC2 ≤ n ∧ n ≤ 0xDF then some ⟨pos, b, n - 0xC0, 1, 0x80, 0xBF⟩
  else if 0xE0 ≤ n ∧ n ≤ 0xEF then
    some ⟨pos, b, n - 0xE0, 2, if n = 0xE0 then 0xA0 else 0x80, if n = 0xED then 0x9F else 0xBF⟩
  else if 0xF0 ≤ n ∧ n ≤ 0xF4 then
    some ⟨pos, b, n - 0xF0, 3, if n = 0xF0 then 0x90 else 0x80, if n = 0xF4 then 0x8F else 0xBF⟩
  else none

/-- Decoding from position `pos`, in the middle of a sequence or between characters. -/
def decodeFrom (pos : Nat) : Option Pending → Bytes → Except Fault (List Char)
  | none, [] => .ok []
  | some p, [] => .error ⟨p.start, pos - 1, p.lead, .truncated⟩
  | none, b :: bs =>
    if b.toNat < 0x80 then do
      let cs ← decodeFrom (pos + 1) none bs
      pure (Char.ofNat b.toNat :: cs)
    else
      match opening pos b with
      | some p => decodeFrom (pos + 1) (some p) bs
      | none => .error ⟨pos, pos, b, .invalidStart⟩
  | some p, b :: bs =>
    if p.low ≤ b.toNat ∧ b.toNat ≤ p.high then
      let bits := p.bits * 64 + (b.toNat - 0x80)
      if p.owed ≤ 1 then do
        let cs ← decodeFrom (pos + 1) none bs
        pure (Char.ofNat bits :: cs)
      else decodeFrom (pos + 1) (some ⟨p.start, p.lead, bits, p.owed - 1, 0x80, 0xBF⟩) bs
    else .error ⟨p.start, pos - 1, p.lead, .invalidContinuation⟩

/-- The text that the bytes encode. -/
def decode (b : Bytes) : Except Fault String :=
  (decodeFrom 0 none b).map String.ofList

/-- What stands for bytes that are no character. -/
def replacement : Char := '\uFFFD'

/-- A byte between characters: the characters it completes, and what it begins. -/
def lossyStart (b : UInt8) : List Char × Option Pending :=
  if b.toNat < 0x80 then ([Char.ofNat b.toNat], none)
  else
    match opening 0 b with
    | some p => ([], some p)
    | none => ([replacement], none)

/-- A byte in the middle of a sequence. -/
def lossyNext (p : Pending) (b : UInt8) : List Char × Option Pending :=
  if p.low ≤ b.toNat ∧ b.toNat ≤ p.high then
    let bits := p.bits * 64 + (b.toNat - 0x80)
    if p.owed ≤ 1 then ([Char.ofNat bits], none)
    else ([], some ⟨p.start, p.lead, bits, p.owed - 1, 0x80, 0xBF⟩)
  else
    let (cs, next) := lossyStart b
    (replacement :: cs, next)

def decodeLossyFrom : Option Pending → Bytes → List Char
  | none, [] => []
  | some _, [] => [replacement]
  | none, b :: bs =>
    let (cs, next) := lossyStart b
    cs ++ decodeLossyFrom next bs
  | some p, b :: bs =>
    let (cs, next) := lossyNext p b
    cs ++ decodeLossyFrom next bs

/-- The text that the bytes encode, with a replacement for each fault that strict decoding would find. -/
def decodeLossy (b : Bytes) : String := String.ofList (decodeLossyFrom none b)

end ClusterAccess.Utf8
