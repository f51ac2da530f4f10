import ClusterAccess.Json.Reader
import ClusterAccess.Text.Units

/-!
# JSON as bytes

The encoding of a document shows in its first bytes: in the mark that it begins with, or in where the
zeros of the first characters are. `Json.ofBytes` reads a document in any of the encodings.
-/

namespace ClusterAccess.Json

/-- An encoding, and how many bytes of mark come first. -/
inductive Encoding where
  | bytes (mark : Nat)
  | units (form : Units.Form) (mark : Nat)
  deriving DecidableEq, Repr

/-- The encoding whose mark comes first. -/
def markedEncoding? (b : Bytes) : Option Encoding :=
  let marks : List (Bytes × Encoding) :=
    [([0x00, 0x00, 0xFE, 0xFF], .units (.quads true) 4), ([0xFF, 0xFE, 0x00, 0x00], .units (.quads false) 4),
      ([0xFE, 0xFF], .units (.pairs true) 2), ([0xFF, 0xFE], .units (.pairs false) 2),
      ([0xEF, 0xBB, 0xBF], .bytes 3)]
  (marks.find? fun m => m.1.isPrefixOf b).map (·.2)

/-- The encoding that the zeros among the first bytes show. -/
def zeroEncoding : Bytes → Encoding
  | 0 :: b :: _ :: _ :: _ => if b = 0 then .units (.quads true) 0 else .units (.pairs true) 0
  | _ :: 0 :: c :: d :: _ =>
    if c = 0 && d = 0 then .units (.quads false) 0 else .units (.pairs false) 0
  | [0, _] => .units (.pairs true) 0
  | [_, 0] => .units (.pairs false) 0
  | _ => .bytes 0

def encodingOf (b : Bytes) : Encoding := (markedEncoding? b).getD (zeroEncoding b)

/-- Why bytes are no document. -/
inductive BytesFault where
  | notText (fault : Utf8.Fault)
  | notUnits (fault : Units.Fault)
  | notDocument (fault : Fault)
  deriving DecidableEq, Repr

/-- The text that the bytes encode. -/
def textOfBytes (b : Bytes) : Except BytesFault String :=
  match encodingOf b with
  | .bytes mark => (Utf8.decode (b.drop mark)).mapError .notText
  | .units form mark => (Units.decode form mark (b.drop mark)).mapError .notUnits

/-- The document that the bytes encode. -/
def ofBytes (b : Bytes) : Except BytesFault Json := do
  let text ← textOfBytes b
  (ofText text).mapError .notDocument

end ClusterAccess.Json
