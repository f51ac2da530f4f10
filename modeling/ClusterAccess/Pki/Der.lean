import ClusterAccess.Text.Bytes

/-!
# Distinguished encoding

Values are written as elements: a tag, a length and a body, where the body of a constructed element
holds elements again. Every value has one encoding only, so lengths and numbers are as short as they
can be. A `Reader` takes elements off the front of bytes; `Reader.parse` runs one on bytes that hold
nothing else.
-/

namespace ClusterAccess.Pki.Der

/-- The tag of an element: its class, from 0 to 3, whether it holds elements, and its number. -/
structure Tag where
  family : Nat
  constructed : Bool
  number : Nat
  deriving DecidableEq, Repr

namespace Tag

def boolean : Tag := ⟨0, false, 1⟩

def integer : Tag := ⟨0, false, 2⟩

def bitString : Tag := ⟨0, false, 3⟩

def octetString : Tag := ⟨0, false, 4⟩

def null : Tag := ⟨0, false, 5⟩

def identifier : Tag := ⟨0, false, 6⟩

def sequence : Tag := ⟨0, true, 16⟩

def set : Tag := ⟨0, true, 17⟩

def shortTime : Tag := ⟨0, false, 23⟩

def longTime : Tag := ⟨0, false, 24⟩

/-- The tag that numbers a part of a sequence. -/
def part (n : Nat) (constructed : Bool) : Tag := ⟨2, constructed, n⟩

end Tag

/-- An element: its tag, its body, and its bytes from the tag on. -/
structure Element where
  tag : Tag
  body : Bytes
  whole : Bytes
  deriving DecidableEq, Repr

/-- A number in groups of seven bits, of which all but the last are marked; it does not begin with an
empty group. -/
def readMarkedFrom (total : Nat) : Bytes → Option (Nat × Bytes)
  | [] => none
  | b :: bs =>
    let total := total * 128 + b.toNat % 128
    if b.toNat < 128 then some (total, bs) else readMarkedFrom total bs

def readMarked : Bytes → Option (Nat × Bytes)
  | [] => none
  | b :: bs => if b = 0x80 then none else readMarkedFrom 0 (b :: bs)

/-- A tag. Numbers below 31 share the first byte with the class. -/
def readTag : Bytes → Option (Tag × Bytes)
  | [] => none
  | b :: bs =>
    let n := b.toNat
    let tag : Tag := ⟨n / 64, n / 32 % 2 = 1, n % 32⟩
    if tag.number < 31 then some (tag, bs)
    else
      match readMarked bs with
      | some (number, rest) =>
        if 31 ≤ number ∧ number < Nat.pow 2 32 then some ({ tag with number := number }, rest) else none
      | none => none

/-- A length, in as few bytes as possible and at most four behind the first. -/
def readLength : Bytes → Option (Nat × Bytes)
  | [] => none
  | b :: bs =>
    let n := b.toNat
    if n < 128 then some (n, bs)
    else
      let count := n - 128
      let digits := bs.take count
      let length := Bytes.toNat digits
      if 1 ≤ count ∧ count ≤ 4 ∧ digits.length = count ∧ 128 ≤ length ∧
          Nat.pow 256 (count - 1) ≤ length then
        some (length, bs.drop count)
      else none

/-- The first element of bytes, and what follows it. -/
def readElement (b : Bytes) : Option (Element × Bytes) := do
  let (tag, rest) ← readTag b
  let (length, rest) ← readLength rest
  let body := rest.take length
  if body.length = length then
    let rest := rest.drop length
    pure (⟨tag, body, b.take (b.length - rest.length)⟩, rest)
  else none

/-- Takes values off the front of bytes, or fails. -/
abbrev Reader := StateT Bytes Option

namespace Reader

/-- The value of bytes that hold nothing else. -/
def parse {α : Type} (r : Reader α) (b : Bytes) : Option α := do
  let (a, rest) ← r.run b
  if rest.isEmpty then pure a else none

def fail {α : Type} : Reader α := fun _ => none

/-- The value, if it fulfils a condition. -/
def require {α : Type} (p : α → Bool) (a : α) : Reader α := if p a then pure a else fail

/-- Any element. -/
def element : Reader Element := readElement

/-- The body of an element with a tag. -/
def body (t : Tag) : Reader Bytes := do
  let e ← element
  if e.tag = t then pure e.body else fail

/-- The value that the body of an element holds. -/
def inside {α : Type} (t : Tag) (r : Reader α) : Reader α := do
  let b ← body t
  match r.parse b with
  | some a => pure a
  | none => fail

def sequence {α : Type} (r : Reader α) : Reader α := inside .sequence r

/-- Whether nothing is left. -/
def atEnd : Reader Bool := do
  let b ← get
  pure b.isEmpty

/-- Whether an element with a tag comes next. -/
def sees (t : Tag) : Reader Bool := do
  let b ← get
  pure ((readTag b).map (·.1) = some t)

/-- A value that is there if its tag is. -/
def optional {α : Type} (t : Tag) (r : Reader α) : Reader (Option α) := do
  if ← sees t then some <$> r else pure none

/-- Values up to the end, at most `n` of them. -/
def manyUpTo {α : Type} (r : Reader α) : Nat → Reader (List α)
  | 0 => do if ← atEnd then pure [] else fail
  | n + 1 => do
    if ← atEnd then pure []
    else do
      let a ← r
      let as ← manyUpTo r n
      pure (a :: as)

/-- Values up to the end. -/
def many {α : Type} (r : Reader α) : Reader (List α) := do
  let b ← get
  manyUpTo r b.length

/-- Whether bytes write a whole number as shortly as possible. -/
def isShortest : Bytes → Bool
  | [] => false
  | [_] => true
  | a :: b :: _ => !(a = 0 && b.toNat < 128) && !(a = 0xFF && 128 ≤ b.toNat)

/-- The digits of a whole number of either sign. -/
def integerDigits : Reader Bytes := do
  let b ← body .integer
  require isShortest b

/-- A number that is not negative. -/
def natural : Reader Nat := do
  let b ← integerDigits
  let _ ← require (fun b => (b.headD 0).toNat < 128) b
  pure (Bytes.toNat b)

/-- A number below 256. -/
def small : Reader Nat := do
  let n ← natural
  require (· < 256) n

def boolean : Reader Bool := do
  let b ← body .boolean
  match b with
  | [0x00] => pure false
  | [0xFF] => pure true
  | _ => fail

def octets : Reader Bytes := body .octetString

/-- How many bits at the end do not count, and the bytes; those bits are zero. -/
def bits : Reader (Nat × Bytes) := do
  let b ← body .bitString
  match b with
  | [] => fail
  | unused :: bytes =>
    let n := unused.toNat
    if n < 8 && (n = 0 || (!bytes.isEmpty && (bytes.getLastD 0).toNat % Nat.pow 2 n = 0)) then
      pure (n, bytes)
    else fail

def null : Reader Unit := do
  let _ ← inside .null (pure ())

/-- The numbers of an identifier behind the first. -/
def identifierParts : Nat → Bytes → Option (List Nat)
  | _, [] => some []
  | 0, _ => none
  | fuel + 1, b => do
    let (n, rest) ← readMarked b
    let ns ← identifierParts fuel rest
    pure (n :: ns)

/-- The numbers of an object identifier. The first of its bytes holds the first two. -/
def identifierOf (b : Bytes) : Option (List Nat) :=
  if 63 < b.length then none
  else
    match identifierParts b.length b with
    | some (n :: ns) =>
      if ns.all (· < Nat.pow 2 128) then
        let first := min (n / 40) 2
        some (first :: (n - 40 * first) :: ns)
      else none
    | _ => none

def identifier : Reader (List Nat) := do
  let b ← body .identifier
  match identifierOf b with
  | some ns => pure ns
  | none => fail

end Reader

/-! ## Writing -/

/-- The bytes of a number without leading zeros. -/
def digits (n : Nat) : Bytes := if n = 0 then [0] else Bytes.ofNat (Nat.log2 n / 8 + 1) n

def writeLength (n : Nat) : Bytes :=
  if n < 128 then [UInt8.ofNat n]
  else UInt8.ofNat (128 + (digits n).length) :: digits n

/-- An element with a tag number below 31. -/
def write (t : Tag) (body : Bytes) : Bytes :=
  UInt8.ofNat (t.family * 64 + (if t.constructed then 32 else 0) + t.number) ::
    writeLength body.length ++ body

def writeSequence (parts : List Bytes) : Bytes := write .sequence parts.flatten

/-- A number that is not negative. -/
def writeNatural (n : Nat) : Bytes :=
  let b := digits n
  write .integer (if (b.headD 0).toNat < 128 then b else 0 :: b)

/-- A number in groups of seven bits, at most `k` of them. -/
def markedGroups : Nat → Nat → Bytes
  | 0, _ => []
  | k + 1, n => markedGroups k (n / 128) ++ [UInt8.ofNat (128 + n % 128)]

def writeMarked (n : Nat) : Bytes :=
  let high := n / 128
  let groups := if high = 0 then 0 else Nat.log2 high / 7 + 1
  markedGroups groups high ++ [UInt8.ofNat (n % 128)]

def writeIdentifier : List Nat → Bytes
  | a :: b :: ns => write .identifier (((40 * a + b) :: ns).flatMap writeMarked)
  | _ => write .identifier []

def writeOctets (b : Bytes) : Bytes := write .octetString b

def writeBits (b : Bytes) : Bytes := write .bitString (0 :: b)

def writeNull : Bytes := write .null []

end ClusterAccess.Pki.Der
