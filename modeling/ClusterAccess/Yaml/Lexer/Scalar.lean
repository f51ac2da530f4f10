import ClusterAccess.Yaml.Cursor
import ClusterAccess.Yaml.Token

/-!
# Scalars in a document

Each scanner starts at the first character of a scalar and answers its content and the cursor behind
it. `plainScalar` reads a scalar without quotes, which may go on over lines that are indented enough;
`quotedScalar` one between single or double quotes, whose line breaks fold; `blockScalar` one behind
`|` or `>`, whose header chooses indentation and what becomes of the breaks at its end.
-/

namespace ClusterAccess.Yaml

open Text (Content)

/-! ## Plain scalars -/

/-- The length of the longest run of a plain scalar without blanks. -/
def plainRun (flow : Bool) : List Char → Nat
  | [] => 0
  | c :: more =>
    let next := more.headD endMark
    let isValueMark :=
      c = ':' && (isGapOrEnd next || (flow && ",[]\x7b\x7d".toList.contains next))
    let isFlowMark := flow && ",?[]\x7b\x7d".toList.contains c
    if isGapOrEnd c || isValueMark || isFlowMark then 0 else plainRun flow more + 1

/-- Breaks and spaces between the lines of a plain scalar: the breaks, or nothing at a document mark. -/
def plainBreaks : Nat → Cursor → Option (List Char) × Cursor
  | 0, c => (some [], c)
  | fuel + 1, c =>
    if c.peek = ' ' then plainBreaks fuel c.next
    else if isBreak c.peek then
      let (b, c) := c.lineBreak
      if c.atAnyDocumentMark then (none, c)
      else
        let (bs, c) := plainBreaks fuel c
        (bs.map (b ++ ·), c)
    else (some [], c)

/-- The blanks inside a plain scalar as its content shows them. -/
structure PlainGap where
  content : List Char
  after : Cursor
  newLine : Bool

def plainGap (c : Cursor) : PlainGap :=
  let (spaces, c) := c.span (· = ' ')
  if isBreak c.peek then
    let (b, c) := c.lineBreak
    if c.atAnyDocumentMark then ⟨[], c, true⟩
    else
      match plainBreaks (c.rest.length + 1) c with
      | (none, c) => ⟨[], c, true⟩
      | (some bs, c) => ⟨if b != ['\n'] then b ++ bs else if bs.isEmpty then [' '] else bs, c, true⟩
  else ⟨spaces, c, false⟩

/-- A plain scalar from its first or a later run on. `gap` is what separates the run from the text
before it. The last component tells whether a line break ended the scalar. -/
def plainRuns (flow : Bool) (indent : Int) (fuel : Nat) (gap : List Char) (c : Cursor)
    (broke : Bool) : List Char × Cursor × Bool :=
  match fuel with
  | 0 => ([], c, broke)
  | fuel + 1 =>
    let length := if c.peek = '#' then 0 else plainRun flow c.rest
    if length = 0 then ([], c, broke)
    else
      let run := gap ++ c.rest.take length
      let g := plainGap (c.advance length)
      if g.content.isEmpty || g.after.peek = '#' || (!flow && (g.after.column : Int) < indent) then
        (run, g.after, g.newLine)
      else
        let (more, after, broke) := plainRuns flow indent fuel g.content g.after g.newLine
        (run ++ more, after, broke)

/-- A plain scalar, the cursor behind it and the blanks that follow it, and whether those hold a line
break. -/
def plainScalar (flow : Bool) (indent : Int) (c : Cursor) : List Char × Cursor × Bool :=
  plainRuns flow indent (c.rest.length + 1) [] c false

/-! ## Quoted scalars -/

/-- The character that an escape by letter stands for. -/
def escapeLetter? : Char → Option Nat
  | '0' => some 0x00
  | 'a' => some 0x07
  | 'b' => some 0x08
  | 't' => some 0x09
  | '\t' => some 0x09
  | 'n' => some 0x0A
  | 'v' => some 0x0B
  | 'f' => some 0x0C
  | 'r' => some 0x0D
  | 'e' => some 0x1B
  | ' ' => some 0x20
  | '"' => some 0x22
  | '\\' => some 0x5C
  | '/' => some 0x2F
  | 'N' => some 0x85
  | '_' => some 0xA0
  | 'L' => some 0x2028
  | 'P' => some 0x2029
  | _ => none

/-- How many hexadecimal digits follow the letter of a numeric escape. -/
def escapeWidth? : Char → Option Nat
  | 'x' => some 2
  | 'u' => some 4
  | 'U' => some 8
  | _ => none

/-- Line breaks inside quotes, each with the blanks around it. -/
def quotedBreaks : Nat → Cursor → Result (List Char × Cursor)
  | 0, c => .ok ([], c)
  | fuel + 1, c =>
    if c.atAnyDocumentMark then refuse .documentMarkInQuote
    else
      let c := c.skipWhile fun ch => ch = ' ' || ch = '\t'
      if isBreak c.peek then do
        let (b, c) := c.lineBreak
        let (bs, c) ← quotedBreaks fuel c
        pure (b ++ bs, c)
      else .ok ([], c)

/-- An escape, from the character behind the backslash on. -/
def quotedEscape (c : Cursor) : Result (List Nat × Cursor) :=
  let ch := c.peek
  match escapeLetter? ch with
  | some code => .ok ([code], c.next)
  | none =>
    match escapeWidth? ch with
    | some width =>
      let c := c.next
      match (c.rest.take width).mapM (Text.baseDigit? 16) with
      | some ds =>
        if ds.length < width then refuse .badEscape
        else
          let code := Text.ofDigits 16 ds
          if code < 0x110000 then .ok ([code], c.advance width)
          else .error (.unbuildable (.codePoint code))
      | none => refuse .badEscape
    | none =>
      if isBreak ch then do
        let (_, c) := c.lineBreak
        let (bs, c) ← quotedBreaks (c.rest.length + 1) c
        pure (bs.map Char.toNat, c)
      else refuse .badEscape

/-- Blanks inside quotes as the content shows them: a single line break is a space. -/
def quotedGap (c : Cursor) : Result (List Char × Cursor) :=
  let (blanks, c) := c.span fun ch => ch = ' ' || ch = '\t'
  if c.peek = endMark then refuse .unclosedQuote
  else if isBreak c.peek then do
    let (b, c) := c.lineBreak
    let (bs, c) ← quotedBreaks (c.rest.length + 1) c
    pure (if b != ['\n'] then b ++ bs else if bs.isEmpty then [' '] else bs, c)
  else .ok (blanks, c)

/-- A quoted scalar from a character inside the quotes on. -/
def quotedRest (double : Bool) : Nat → Cursor → Result (List Nat × Cursor)
  | 0, _ => refuse .unclosedQuote
  | fuel + 1, c =>
    let ch := c.peek
    let more (codes : List Nat) (c : Cursor) : Result (List Nat × Cursor) := do
      let (rest, c) ← quotedRest double fuel c
      pure (codes ++ rest, c)
    if double && ch = '"' then .ok ([], c.next)
    else if !double && ch = '\'' then
      if c.peekAt 1 = '\'' then more [ch.toNat] (c.advance 2) else .ok ([], c.next)
    else if double && ch = '\\' then do
      let (codes, c) ← quotedEscape c.next
      more codes c
    else if isGapOrEnd ch then do
      let (gap, c) ← quotedGap c
      more (gap.map Char.toNat) c
    else more [ch.toNat] c.next

/-- A scalar between quotes, from its opening quote on. -/
def quotedScalar (double : Bool) (c : Cursor) : Result (Content × Cursor) := do
  let (codes, c) ← quotedRest double (c.rest.length + 1) c.next
  pure (.ofCodes codes, c)

/-! ## Block scalars -/

/-- What becomes of the line breaks at the end of a block scalar. -/
inductive Chomping where
  | strip
  | clip
  | keep
  deriving DecidableEq

def chomping? : Char → Option Chomping
  | '+' => some .keep
  | '-' => some .strip
  | _ => none

/-- An indentation indicator, if one is here. -/
def blockIncrement (c : Cursor) : Result (Option Nat × Cursor) :=
  let ch := c.peek
  if '0' ≤ ch && ch ≤ '9' then
    if ch = '0' then refuse .badBlockHeader else .ok (some (ch.toNat - 48), c.next)
  else .ok (none, c)

/-- The indicators behind `|` or `>`, in either order. -/
def blockIndicators (c : Cursor) : Result (Chomping × Option Nat × Cursor) := do
  let (chomping, increment, c) ←
    match chomping? c.peek with
    | some k => do
      let (increment, c) ← blockIncrement c.next
      pure (k, increment, c)
    | none => do
      let (increment, c) ← blockIncrement c
      match increment, chomping? c.peek with
      | some _, some k => pure (k, increment, c.next)
      | _, _ => pure (.clip, increment, c)
  if isSpaceOrEnd c.peek then pure (chomping, increment, c) else refuse .badBlockHeader

/-- The rest of a line that may hold a comment only. -/
def commentLine (what : Malformed) (c : Cursor) : Result Cursor :=
  let c := c.skipComment
  if isBreakOrEnd c.peek then .ok c.lineBreak.2 else refuse what

/-- Leading empty lines, and the widest indentation among them and the first other line. -/
def blockIndentation : Nat → Cursor → Nat → List Char × Nat × Cursor
  | 0, c, widest => ([], widest, c)
  | fuel + 1, c, widest =>
    if c.peek = ' ' then
      let c := c.next
      blockIndentation fuel c (max widest c.column)
    else if isBreak c.peek then
      let (b, c) := c.lineBreak
      let (bs, widest, c) := blockIndentation fuel c widest
      (b ++ bs, widest, c)
    else ([], widest, c)

/-- The cursor behind at most the spaces that indent a line. -/
def skipIndent (indent : Nat) : Nat → Cursor → Cursor
  | 0, c => c
  | fuel + 1, c => if c.column < indent && c.peek = ' ' then skipIndent indent fuel c.next else c

/-- Empty lines inside a block scalar, with the indentation of the line behind them. -/
def blockBreaks (indent : Nat) : Nat → Cursor → List Char × Cursor
  | 0, c => ([], c)
  | fuel + 1, c =>
    let c := skipIndent indent indent c
    if isBreak c.peek then
      let (b, c) := c.lineBreak
      let (bs, c) := blockBreaks indent fuel c
      (b ++ bs, c)
    else ([], c)

/-- The lines of a block scalar, then the break of the last line and the empty lines behind it.
`breaks` are the empty lines before the next line. -/
def blockLines (folded : Bool) (indent : Nat) : Nat → List Char → Cursor →
    List Char × List Char × List Char × Cursor
  | 0, breaks, c => ([], [], breaks, c)
  | fuel + 1, breaks, c =>
    let blankStart (c : Cursor) : Bool := c.peek = ' ' || c.peek = '\t'
    let startsBlank := blankStart c
    let (line, c) := c.span (!isBreakOrEnd ·)
    let (b, c) := c.lineBreak
    let (after, c) := blockBreaks indent (c.rest.length + 1) c
    let text := breaks ++ line
    if c.column = indent && c.peek != endMark then
      let fold := folded && b = ['\n'] && !startsBlank && !blankStart c
      let glue := if fold then if after.isEmpty then [' '] else [] else b
      let (more, lastBreak, tail, c) := blockLines folded indent fuel after c
      (text ++ glue ++ more, lastBreak, tail, c)
    else (text, b, after, c)

/-- A block scalar, from its `|` or `>` on. `parent` is the indentation of the block around it. -/
def blockScalar (folded : Bool) (parent : Int) (c : Cursor) : Result (List Char × Cursor) := do
  let (chomping, increment, c) ← blockIndicators c.next
  let c ← commentLine .badBlockHeader c
  let least := (max (parent + 1) 1).toNat
  let (breaks, indent, c) :=
    match increment with
    | none =>
      let (breaks, widest, c) := blockIndentation (c.rest.length + 1) c 0
      (breaks, max least widest, c)
    | some k =>
      let indent := least + k - 1
      let (breaks, c) := blockBreaks indent (c.rest.length + 1) c
      (breaks, indent, c)
  let (text, lastBreak, tail, c) :=
    if c.column = indent && c.peek != endMark then blockLines folded indent (c.rest.length + 1) breaks c
    else ([], [], breaks, c)
  pure <|
    match chomping with
    | .strip => (text, c)
    | .clip => (text ++ lastBreak, c)
    | .keep => (text ++ lastBreak ++ tail, c)

end ClusterAccess.Yaml
