import ClusterAccess.Text.Base64
import ClusterAccess.Text.Case
import ClusterAccess.Yaml.Tag
import ClusterAccess.Yaml.Token

/-!
# Values of a document

`Value` is what a document says once tags are resolved. `Value.ofScalar` builds the value of a scalar
from its tag and content. A mapping keeps its entries in the order they were written: when a key
comes twice, the last entry counts, and `Value.get?` looks from the end.
-/

namespace ClusterAccess.Yaml

open Text (Binary64 Content)

inductive Value where
  | null
  | bool (b : Bool)
  | int (n : Int)
  | float (r : Binary64)
  | text (s : String)
  | brokenText (b : Text.Broken)
  | bytes (b : Bytes)
  | moment (m : Moment)
  | seq (items : List Value)
  | pairs (items : List (Value × Value))
  | set (items : List Value)
  | map (entries : List (Value × Value))

namespace Value

/-- The number that a value is, for comparison: truth values count as one and zero. -/
def number? : Value → Option (Int ⊕ Binary64)
  | bool b => some (.inl (if b then 1 else 0))
  | int n => some (.inl n)
  | float r => some (match r.toInt? with | some n => .inl n | none => .inr r)
  | _ => none

/-- Two values that can be keys are the same key. -/
def sameKey (a b : Value) : Bool :=
  match a.number?, b.number? with
  | some (.inl m), some (.inl n) => m = n
  | some (.inr r), some (.inr s) => r.same s
  | some _, _ => false
  | _, some _ => false
  | none, none =>
    match a, b with
    | null, null => true
    | text s, text t => s = t
    | brokenText s, brokenText t => s = t
    | bytes s, bytes t => s = t
    | moment s, moment t => s = t
    | _, _ => false

/-- The members of a set, each once. -/
def distinct (vs : List Value) : List Value :=
  vs.foldl (fun kept v => if kept.any (sameKey v) then kept else kept ++ [v]) []

/-- The value of a text key in a mapping: of several, the last. -/
def get? (entries : List (Value × Value)) (key : String) : Option Value :=
  (entries.reverse.find? fun e => match e.1 with | text s => s = key | _ => false).map (·.2)

theorem get?_append (es fs : List (Value × Value)) (key : String) :
    get? (es ++ fs) key = (get? fs key).or (get? es key) := by
  rw [get?, List.reverse_append, List.find?_append, Option.map_or]
  rfl

theorem get?_singleton (name : String) (v : Value) (key : String) :
    get? [(text name, v)] key = if name = key then some v else none := by
  by_cases h : name = key <;> simp [get?, h]

theorem get?_cons (name : String) (v : Value) (es : List (Value × Value)) (key : String) :
    get? ((text name, v) :: es) key = (get? es key).or (if name = key then some v else none) := by
  rw [← List.singleton_append, get?_append, get?_singleton]

/-! ## Scalars -/

def boolOf (cs : List Char) : Result Value :=
  match String.ofList (Text.lower cs) with
  | "yes" => .ok (bool true)
  | "true" => .ok (bool true)
  | "on" => .ok (bool true)
  | "no" => .ok (bool false)
  | "false" => .ok (bool false)
  | "off" => .ok (bool false)
  | _ => .error (.unbuildable .notBoolean)

def readInt (base : Nat) (cs : List Char) : Result Int :=
  (Text.readInteger base cs).mapError fun f => .unbuildable (.integer f)

/-- A numeral without its sign: in base 2, 16, 8 or 60 by its form, else in base 10. -/
def magnitudeOf : List Char → Result Int
  | [] => .error (.unbuildable .emptyNumber)
  | '0' :: [] => .ok 0
  | '0' :: 'b' :: cs => readInt 2 cs
  | '0' :: 'x' :: cs => readInt 16 cs
  | '0' :: cs => readInt 8 ('0' :: cs)
  | cs => do
    if cs.contains ':' then
      let parts ← (Text.pieces ':' cs).mapM (readInt 10)
      pure (parts.foldl (fun n d => n * 60 + d) 0)
    else readInt 10 cs

def isNegative (cs : List Char) : Bool := cs.head? = some '-'

def dropBars (cs : List Char) : List Char := cs.filter (· != '_')

def intOf (cs : List Char) : Result Value := do
  let cs := dropBars cs
  if cs.isEmpty then .error (.unbuildable .emptyNumber)
  else
    let n ← magnitudeOf (Tag.dropSign cs)
    pure (int (if isNegative cs then -n else n))

def readFloat (cs : List Char) : Result Float :=
  match Text.readDecimal cs with
  | some r => .ok r.toFloat
  | none => .error (.unbuildable (.real (Text.quoted (String.ofList cs))))

/-- A real numeral without its sign: infinity, the undefined number, base 60 or base 10. -/
def realOf (cs : List Char) : Result Float := do
  let word := String.ofList cs
  if word = ".inf" then pure (Binary64.infinity false).toFloat
  else if word = ".nan" then pure Binary64.nan.toFloat
  else if cs.contains ':' then
    let parts ← (Text.pieces ':' cs).mapM readFloat
    let add (sum : Float × Float) (digit : Float) : Float × Float :=
      (sum.1 + digit * sum.2, sum.2 * 60)
    pure (parts.reverse.foldl add (0.0, 1.0)).1
  else readFloat cs

def floatOf (cs : List Char) : Result Value := do
  let cs := Text.lower (dropBars cs)
  if cs.isEmpty then .error (.unbuildable .emptyNumber)
  else
    let x ← realOf (Tag.dropSign cs)
    pure (float (.ofFloat (if isNegative cs then -x else x)))

def binaryOf (cs : List Char) : Result Value :=
  if cs.all (·.toNat < 128) then
    match Base64.decodeLoose cs with
    | some b => .ok (bytes b)
    | none => refuse .badBinary
  else refuse .badBinary

def timestampOf (cs : List Char) : Result Value :=
  match MomentFields.read? (Tag.dropNewline cs) with
  | none => .error (.unbuildable .notTimestamp)
  | some f =>
    match Moment.ofFields f with
    | .ok m => .ok (moment m)
    | .error e => .error (.unbuildable (.moment e))

/-! ### Scalars whose content is no text -/

/-- The code points behind a sign. -/
def unsignedCodes : List Nat → List Nat
  | n :: codes => if n = '+'.toNat || n = '-'.toNat then codes else n :: codes
  | [] => []

def notInteger (base : Nat) (codes : List Nat) : Fault :=
  .unbuildable (.brokenInteger base (String.ofList ((Text.quotedCodes codes).toList.take 200)))

def notReal (codes : List Nat) : Fault := .unbuildable (.real (Text.quotedCodes codes))

/-- The first fault among the parts between colons. A part that is a text is read like any other. -/
def sixtiesFault {α : Type} (read : List Char → Result α) (broken : List Nat → Fault)
    (codes : List Nat) : Fault :=
  let fault? (part : List Nat) : Option Fault :=
    if part.all Text.isScalarValue then
      match read (part.map Char.ofNat) with
      | .ok _ => none
      | .error fault => some fault
    else some (broken part)
  ((Text.pieces ':'.toNat codes).findSome? fault?).getD (broken codes)

/-- Why code points that are no text are no whole number. -/
def integerFault (codes : List Nat) : Fault :=
  let codes := unsignedCodes (codes.filter (· != '_'.toNat))
  match codes.map Char.ofNat with
  | '0' :: 'b' :: _ => notInteger 2 (codes.drop 2)
  | '0' :: 'x' :: _ => notInteger 16 (codes.drop 2)
  | '0' :: _ => notInteger 8 codes
  | _ => sixtiesFault (readInt 10) (notInteger 10) codes

/-- Why code points that are no text are no real number. -/
def realFault (codes : List Nat) : Fault :=
  let lowered (n : Nat) : List Nat :=
    if Text.isScalarValue n then (Text.lower [Char.ofNat n]).map Char.toNat else [n]
  let codes := unsignedCodes ((codes.filter (· != '_'.toNat)).flatMap lowered)
  sixtiesFault readFloat notReal codes

/-- The value of a scalar whose content is no text. -/
def ofBroken (tag : Tag) (b : Text.Broken) : Result Value :=
  match tag with
  | .null => .ok null
  | .str => .ok (brokenText b)
  | .bool => .error (.unbuildable .notBoolean)
  | .int => .error (integerFault b.codes)
  | .float => .error (realFault b.codes)
  | .timestamp => .error (.unbuildable .notTimestamp)
  | .binary => refuse .badBinary
  | _ => refuse .unknownTag

/-- The value of a scalar. -/
def ofScalar (tag : Tag) (content : Content) : Result Value :=
  match content with
  | .broken b => ofBroken tag b
  | .text s =>
    let cs := s.toList
    match tag with
    | .null => .ok null
    | .str => .ok (text s)
    | .bool => boolOf cs
    | .int => intOf cs
    | .float => floatOf cs
    | .timestamp => timestampOf cs
    | .binary => binaryOf cs
    | _ => refuse .unknownTag

end Value

end ClusterAccess.Yaml
