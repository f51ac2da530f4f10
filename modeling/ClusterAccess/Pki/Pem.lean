import ClusterAccess.Text.Base64
import ClusterAccess.Text.Blank
import ClusterAccess.Text.Utf8

/-!
# Labelled blocks

Certificates and keys are carried as text in blocks: a line that names a label, base64 text, and a line
that names the label again. Header lines and a blank line may come before the base64 text. Whatever
stands around blocks does not count. `Pem.blocks` gives all blocks of a text, `Pem.render` writes one.
-/

namespace ClusterAccess.Pki.Pem

structure Block where
  label : String
  headers : List (String × String)
  body : Bytes
  deriving DecidableEq, Repr

/-- What comes before the first occurrence of a part, and what comes after it. -/
def cut? (part : Bytes) : Bytes → Option (Bytes × Bytes)
  | [] => if part.isEmpty then some ([], []) else none
  | b :: bs =>
    if part.isPrefixOf (b :: bs) then some ([], (b :: bs).drop part.length)
    else (cut? part bs).map fun (before, after) => (b :: before, after)

def beginMark : Bytes := Bytes.ofText "-----BEGIN "

def endMark : Bytes := Bytes.ofText "-----END "

def dashes : Bytes := Bytes.ofText "-----"

/-- Blanks behind the dashes of a line. -/
def skipGap (b : Bytes) : Bytes := b.dropWhile fun c => c = 32 || c = 9 || c = 10 || c = 13

/-- A block as it stands in the text. -/
structure Raw where
  beginLabel : Bytes
  content : Bytes
  endLabel : Bytes

/-- The first block of a text and what follows it. -/
def nextRaw? (b : Bytes) : Option (Raw × Bytes) := do
  let (_, rest) ← cut? beginMark b
  let (beginLabel, rest) ← cut? dashes rest
  let (content, rest) ← cut? endMark (skipGap rest)
  let (endLabel, rest) ← cut? dashes rest
  pure (⟨beginLabel, content, endLabel⟩, skipGap rest)

/-- All blocks of a text, at most `n`. A block without an end ends the search. -/
def rawBlocks : Nat → Bytes → List Raw
  | 0, _ => []
  | n + 1, b =>
    match nextRaw? b with
    | some (r, rest) => r :: rawBlocks n rest
    | none => []

/-- The headers and the base64 text of a block. -/
def splitHeaders (content : Bytes) : Bytes × Bytes :=
  match cut? [10, 10] content with
  | some p => p
  | none =>
    match cut? [13, 10, 13, 10] content with
    | some p => p
    | none => ([], content)

def lines (cs : List Char) : List (List Char) := Text.pieces '\n' cs

/-- A header line: a name, a colon and a value. -/
def header? (line : List Char) : Option (String × String) :=
  if line.contains ':' then
    some (String.ofList (Text.strip (line.takeWhile (· != ':'))),
      String.ofList (Text.strip ((line.dropWhile (· != ':')).drop 1)))
  else none

/-- The header lines of a text; what follows the last line break counts if it is not empty. -/
def headers? (text : String) : Option (List (String × String)) :=
  let ls := lines text.toList
  let ls := if ls.getLast? = some [] then ls.dropLast else ls
  ls.mapM header?

/-- The bytes that the lines of a base64 text stand for. Only the one form in which they are written is
accepted. -/
def bodyOf? (text : String) : Option Bytes :=
  let cs := ((lines text.toList).map Text.strip).flatten
  match Base64.decode cs with
  | .ok b => if Base64.encode b = cs then some b else none
  | .error _ => none

def text? (b : Bytes) : Option String := (Utf8.decode b).toOption

def Raw.block? (r : Raw) : Option Block := do
  let label ← text? r.beginLabel
  let endLabel ← text? r.endLabel
  if label = "" || endLabel != label then none
  else do
    let (headers, body) := splitHeaders r.content
    let body ← (text? body).bind bodyOf?
    let headers ← (text? headers).bind headers?
    pure ⟨label, headers, body⟩

/-- All blocks of a text, if each is well-formed. -/
def blocks? (b : Bytes) : Option (List Block) := (rawBlocks (b.length + 1) b).mapM Raw.block?

/-- Lines of 64 characters, at most `n`. -/
def wrap : Nat → List Char → List Char
  | 0, _ => []
  | n + 1, cs => if cs.isEmpty then [] else cs.take 64 ++ '\n' :: wrap n (cs.drop 64)

/-- The text of a block. -/
def render (label : String) (body : Bytes) : String :=
  let cs := Base64.encode body
  "-----BEGIN " ++ label ++ "-----\n" ++ String.ofList (wrap (cs.length + 1) cs) ++
    "-----END " ++ label ++ "-----\n"

/-- Whether bytes are meant as blocks. -/
def looksLike (b : Bytes) : Bool := Bytes.hasInfix (Bytes.ofText "-----BEGIN") b

end ClusterAccess.Pki.Pem
