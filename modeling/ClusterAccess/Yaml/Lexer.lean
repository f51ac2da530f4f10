import ClusterAccess.Yaml.Lexer.Mark
import ClusterAccess.Yaml.Lexer.Scalar

/-!
# Lexing a document

Indentation opens and closes block collections, and a token becomes a key only when the `:` behind it
is found. `Lexer` keeps the tokens so far, the indentation of the open blocks, and at most one
pending `SimpleKey` for each level of flow brackets: when its `:` comes, a `key` token is inserted
where the pending key began. A pending key lapses at the end of its line or after 1024 characters.

`Tokens.ofText` lexes until the end or the first defect. A reader that asks for one token at a time
must look ahead while the token it would get may still become a key, so it meets a defect before every
token that is pending at that point: those tokens are dropped.
-/

namespace ClusterAccess.Yaml

/-- A token that becomes a key if a `:` follows it. A key is `required` where a block mapping has to go
on. -/
structure SimpleKey where
  position : Nat
  required : Bool
  index : Nat
  line : Nat
  column : Nat

structure Lexer where
  cursor : Cursor
  tokens : Array Token
  flow : Int
  indent : Int
  outer : List Int
  keyAllowed : Bool
  keys : List (Int × SimpleKey)

namespace Lexer

def start (cs : List Char) : Lexer := ⟨.ofText cs, #[], 0, -1, [], true, []⟩

def column (l : Lexer) : Int := l.cursor.column

def inBlock (l : Lexer) : Bool := l.flow = 0

def push (l : Lexer) (t : Token) : Lexer := { l with tokens := l.tokens.push t }

/-- The lexer behind a token of `n` characters. -/
def emit (l : Lexer) (n : Nat) (t : Token) : Lexer :=
  { l with cursor := l.cursor.advance n, tokens := l.tokens.push t }

def insertAt (l : Lexer) (i : Nat) (t : Token) : Lexer :=
  { l with tokens := l.tokens.extract 0 i ++ #[t] ++ l.tokens.extract i l.tokens.size }

/-! ## Pending keys -/

def pendingKey? (l : Lexer) : Option SimpleKey :=
  (l.keys.find? (·.1 = l.flow)).map (·.2)

/-- The pending key of this level is given up. -/
def dropKey (l : Lexer) : Result Lexer :=
  match l.pendingKey? with
  | none => .ok l
  | some k =>
    if k.required then refuse .unfinishedSimpleKey
    else .ok { l with keys := l.keys.filter (·.1 != l.flow) }

/-- The next token may become a key. -/
def saveKey (l : Lexer) : Result Lexer :=
  if l.keyAllowed then do
    let required := l.inBlock && l.indent = l.column
    let l ← l.dropKey
    let c := l.cursor
    pure { l with keys := (l.flow, ⟨l.tokens.size, required, c.index, c.line, c.column⟩) :: l.keys }
  else .ok l

def lapsed (l : Lexer) (k : SimpleKey) : Bool :=
  k.line != l.cursor.line || 1024 < l.cursor.index - k.index

/-- Keys that can no longer be completed are given up. -/
def dropLapsed (l : Lexer) : Result Lexer :=
  if l.keys.any fun (_, k) => l.lapsed k && k.required then refuse .unfinishedSimpleKey
  else .ok { l with keys := l.keys.filter fun (_, k) => !l.lapsed k }

/-- The first token that may still become a key. -/
def firstPending? (l : Lexer) : Option Nat :=
  (l.keys.map (·.2.position)).min?

/-! ## Indentation -/

/-- How many blocks are indented further than `column`, for the open indentation and those around it,
and the indentations that stay open. -/
def unwindFrom (column indent : Int) : List Int → Nat × Int × List Int
  | [] => (0, indent, [])
  | i :: outer =>
    if indent > column then
      let (n, rest) := unwindFrom column i outer
      (n + 1, rest)
    else (0, indent, i :: outer)

/-- Blocks indented further than `column` end. -/
def unwind (column : Int) (l : Lexer) : Lexer :=
  if l.inBlock then
    let (n, indent, outer) := unwindFrom column l.indent l.outer
    { l with indent := indent, outer := outer, tokens := l.tokens ++ Array.replicate n .blockEnd }
  else l

/-- A block at `column` begins if it is indented further than the open one. -/
def openBlock (l : Lexer) (column : Int) : Option Lexer :=
  if l.indent < column then some { l with indent := column, outer := l.indent :: l.outer } else none

/-- A block at the cursor begins, with its token, if it is indented further than the open one. -/
def openBlockHere (l : Lexer) (t : Token) : Lexer :=
  match l.openBlock l.column with
  | some l => l.push t
  | none => l

/-! ## Tokens -/

/-- Spaces, comments and line breaks before the next token. A line break in a block allows a key. -/
def skipToToken : Nat → Lexer → Lexer
  | 0, l => l
  | fuel + 1, l =>
    let c := l.cursor.skipComment
    if isBreak c.peek then
      skipToToken fuel
        { l with cursor := c.lineBreak.2, keyAllowed := l.inBlock || l.keyAllowed }
    else { l with cursor := c }

/-- A byte order mark at the very beginning counts for nothing. -/
def skipMark (l : Lexer) : Lexer :=
  if l.cursor.index = 0 && l.cursor.peek = '\uFEFF' then { l with cursor := l.cursor.next } else l

/-- All blocks end, and no key is pending or allowed. -/
def closeBlocks (l : Lexer) : Result Lexer := do
  let l ← (l.unwind (-1)).dropKey
  pure { l with keyAllowed := false }

def lexDirective (l : Lexer) : Result Lexer := do
  let l ← l.closeBlocks
  let (d, c) ← directive l.cursor
  pure { l with cursor := c, tokens := l.tokens.push (.directive d) }

def lexDocumentMark (t : Token) (l : Lexer) : Result Lexer := do
  pure ((← l.closeBlocks).emit 3 t)

def lexFlowStart (t : Token) (l : Lexer) : Result Lexer := do
  let l ← l.saveKey
  pure ({ l with flow := l.flow + 1, keyAllowed := true }.emit 1 t)

def lexFlowEnd (t : Token) (l : Lexer) : Result Lexer := do
  let l ← l.dropKey
  pure ({ l with flow := l.flow - 1, keyAllowed := false }.emit 1 t)

def lexFlowEntry (l : Lexer) : Result Lexer := do
  let l ← { l with keyAllowed := true }.dropKey
  pure (l.emit 1 .flowEntry)

def lexBlockEntry (l : Lexer) : Result Lexer := do
  if l.inBlock && !l.keyAllowed then refuse .misplacedEntry
  else
    let l := if l.inBlock then l.openBlockHere .blockSequenceStart else l
    let l ← { l with keyAllowed := true }.dropKey
    pure (l.emit 1 .blockEntry)

def lexKey (l : Lexer) : Result Lexer := do
  if l.inBlock && !l.keyAllowed then refuse .misplacedKey
  else
    let l := if l.inBlock then l.openBlockHere .blockMappingStart else l
    let l ← { l with keyAllowed := l.inBlock }.dropKey
    pure (l.emit 1 .key)

/-- The pending key is one: its token goes before it, and a block mapping that it begins before that. -/
def completeKey (l : Lexer) (k : SimpleKey) : Lexer :=
  let l := { l with keys := l.keys.filter (·.1 != l.flow), keyAllowed := false }
  let l := l.insertAt k.position .key
  if l.inBlock then
    match l.openBlock k.column with
    | some l => l.insertAt k.position .blockMappingStart
    | none => l
  else l

def lexValue (l : Lexer) : Result Lexer :=
  match l.pendingKey? with
  | some k => .ok ((l.completeKey k).emit 1 .value)
  | none => do
    if l.inBlock && !l.keyAllowed then refuse .misplacedValue
    else
      let l := if l.inBlock then l.openBlockHere .blockMappingStart else l
      let l ← { l with keyAllowed := l.inBlock }.dropKey
      pure (l.emit 1 .value)

/-- A token that may become a key and after which none may begin. -/
def lexKeyable (l : Lexer) (scan : Cursor → Result (Token × Cursor)) : Result Lexer := do
  let l ← l.saveKey
  let (t, c) ← scan l.cursor
  pure { l with cursor := c, tokens := l.tokens.push t, keyAllowed := false }

def lexPlain (l : Lexer) : Result Lexer := do
  let l ← l.saveKey
  let (cs, c, broke) := plainScalar (!l.inBlock) (l.indent + 1) l.cursor
  let t := Token.scalar (.text (String.ofList cs)) true
  pure { l with cursor := c, tokens := l.tokens.push t, keyAllowed := broke }

def lexBlockScalar (folded : Bool) (l : Lexer) : Result Lexer := do
  let l ← { l with keyAllowed := true }.dropKey
  let (cs, c) ← blockScalar folded l.indent l.cursor
  pure { l with cursor := c, tokens := l.tokens.push (.scalar (.text (String.ofList cs)) false) }

/-- A plain scalar can start with this character, given the one behind it. -/
def startsPlain (l : Lexer) : Bool :=
  let ch := l.cursor.peek
  (!isGapOrEnd ch && !"-?:,[]\x7b\x7d#&*!|>'\"%@\u0060".toList.contains ch) ||
    (!isGapOrEnd (l.cursor.peekAt 1) && (ch = '-' || (l.inBlock && (ch = '?' || ch = ':'))))

/-- The token at the cursor, which stands at no blank and before the end. -/
def lexToken (l : Lexer) : Result Lexer :=
  let c := l.cursor
  let ch := c.peek
  let spaced := isGapOrEnd (c.peekAt 1)
  if ch = '%' && c.column = 0 then l.lexDirective
  else if c.column = 0 && c.atDocumentMark '-' then l.lexDocumentMark .documentStart
  else if c.column = 0 && c.atDocumentMark '.' then l.lexDocumentMark .documentEnd
  else if ch = '[' then l.lexFlowStart .flowSequenceStart
  else if ch = '\x7b' then l.lexFlowStart .flowMappingStart
  else if ch = ']' then l.lexFlowEnd .flowSequenceEnd
  else if ch = '\x7d' then l.lexFlowEnd .flowMappingEnd
  else if ch = ',' then l.lexFlowEntry
  else if ch = '-' && spaced then l.lexBlockEntry
  else if ch = '?' && (!l.inBlock || spaced) then l.lexKey
  else if ch = ':' && (!l.inBlock || spaced) then l.lexValue
  else if ch = '*' then l.lexKeyable fun c => do
    let (name, c) ← anchorName c
    pure (.reference name, c)
  else if ch = '&' then l.lexKeyable fun c => do
    let (name, c) ← anchorName c
    pure (.anchor name, c)
  else if ch = '!' then l.lexKeyable fun c => do
    let (name, c) ← tagName c
    pure (.tag name, c)
  else if ch = '|' && l.inBlock then l.lexBlockScalar false
  else if ch = '>' && l.inBlock then l.lexBlockScalar true
  else if ch = '\'' || ch = '"' then l.lexKeyable fun c => do
    let (content, c) ← quotedScalar (ch = '"') c
    pure (.scalar content false, c)
  else if l.startsPlain then l.lexPlain
  else refuse .strayCharacter

/-- The lexer before the next token, whose pending keys are up to date. -/
def reachToken (l : Lexer) : Result Lexer := do
  let l ← (l.skipMark.skipToToken (l.cursor.rest.length + 1)).dropLapsed
  pure (l.unwind l.column)

/-- The end of the text: every block ends. -/
def finish (l : Lexer) : Result Lexer := do
  pure ((← l.closeBlocks).push .streamEnd)

/-- The tokens that can be handed out when a defect follows. -/
def stopped (l : Lexer) (f : Fault) : Tokens :=
  match l.firstPending? with
  | some n => ⟨l.tokens.toList.take n, some f⟩
  | none => ⟨l.tokens.toList, some f⟩

/-- Lexing on, token by token. -/
def run : Nat → Lexer → Tokens
  | 0, l => ⟨l.tokens.toList, some (.malformed .strayCharacter)⟩
  | fuel + 1, l =>
    match l.dropLapsed with
    | .error f => l.stopped f
    | .ok l =>
      match l.reachToken with
      | .error f => l.stopped f
      | .ok here =>
        if here.cursor.peek = endMark then
          match here.finish with
          | .error f => l.stopped f
          | .ok l => ⟨l.tokens.toList, none⟩
        else
          match here.lexToken with
          | .error f => l.stopped f
          | .ok l => run fuel l

end Lexer

/-- Characters that a document may hold. -/
def isReadable (c : Char) : Bool :=
  let n := c.toNat
  n = 9 || n = 10 || n = 13 || (0x20 ≤ n && n ≤ 0x7E) || n = 0x85 || (0xA0 ≤ n && n ≤ 0xFFFD) ||
    0x10000 ≤ n

/-- The tokens of a document. -/
def Tokens.ofText (s : String) : Tokens :=
  let cs := s.toList
  if cs.all isReadable then (Lexer.start cs).run (cs.length + 2)
  else ⟨[], some (.malformed .unprintableCharacter)⟩

end ClusterAccess.Yaml
