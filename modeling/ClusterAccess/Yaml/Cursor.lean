/-!
# A position in a document

A `Cursor` is what is left of the text together with the index, line and column of its first
character. The end of the text shows as NUL, which no readable text holds. Five characters break
lines; a carriage return before a newline breaks none of its own, and a byte order mark has no width.
-/

namespace ClusterAccess.Yaml

structure Cursor where
  rest : List Char
  index : Nat
  line : Nat
  column : Nat

/-- What is seen at the end of the text. -/
def endMark : Char := '\x00'

def isBreak (c : Char) : Bool :=
  c = '\n' || c = '\r' || c = '\u0085' || c = '\u2028' || c = '\u2029'

def isBreakOrEnd (c : Char) : Bool := isBreak c || c = endMark

def isSpaceOrEnd (c : Char) : Bool := isBreakOrEnd c || c = ' '

def isGapOrEnd (c : Char) : Bool := isSpaceOrEnd c || c = '\t'

/-- Letters, digits, hyphen and underscore: the characters of names. -/
def isNameChar (c : Char) : Bool :=
  let n := c.toNat
  (48 ≤ n && n ≤ 57) || (65 ≤ n && n ≤ 90) || (97 ≤ n && n ≤ 122) || c = '-' || c = '_'

namespace Cursor

def ofText (cs : List Char) : Cursor := ⟨cs, 0, 0, 0⟩

def peek (c : Cursor) : Char := c.rest.headD endMark

def peekAt (c : Cursor) (i : Nat) : Char := c.rest.getD i endMark

/-- The cursor behind the character `ch`, when `more` follows it. -/
def step (c : Cursor) (ch : Char) (more : List Char) : Cursor :=
  if ch = '\n' || ch = '\u0085' || ch = '\u2028' || ch = '\u2029' ||
      (ch = '\r' && more.head? != some '\n') then
    ⟨more, c.index + 1, c.line + 1, 0⟩
  else if ch = '\uFEFF' then ⟨more, c.index + 1, c.line, c.column⟩
  else ⟨more, c.index + 1, c.line, c.column + 1⟩

/-- The cursor behind the next character. -/
def next (c : Cursor) : Cursor :=
  match c.rest with
  | [] => c
  | ch :: more => c.step ch more

/-- The cursor behind the next `n` characters. -/
def advance : Nat → Cursor → Cursor
  | 0, c => c
  | n + 1, c => advance n c.next

/-- The longest run of characters in a class, and the cursor behind it. -/
def spanFrom (p : Char → Bool) : List Char → Cursor → List Char × Cursor
  | [], c => ([], c)
  | ch :: more, c =>
    if p ch then
      let (run, after) := spanFrom p more (c.step ch more)
      (ch :: run, after)
    else ([], c)

def span (p : Char → Bool) (c : Cursor) : List Char × Cursor := spanFrom p c.rest c

def skipWhile (p : Char → Bool) (c : Cursor) : Cursor := (c.span p).2

/-- The cursor stands at `---` or `...` with nothing attached to it. -/
def atDocumentMark (c : Cursor) (mark : Char) : Bool :=
  c.peek = mark && c.peekAt 1 = mark && c.peekAt 2 = mark && isGapOrEnd (c.peekAt 3)

def atAnyDocumentMark (c : Cursor) : Bool := c.atDocumentMark '-' || c.atDocumentMark '.'

/-- A line break as the content of a scalar shows it, and the cursor behind it. -/
def lineBreak (c : Cursor) : List Char × Cursor :=
  let ch := c.peek
  if ch = '\r' || ch = '\n' || ch = '\u0085' then
    if ch = '\r' && c.peekAt 1 = '\n' then (['\n'], c.advance 2) else (['\n'], c.next)
  else if ch = '\u2028' || ch = '\u2029' then ([ch], c.next)
  else ([], c)

/-- The cursor behind spaces, and behind a comment if one follows them. -/
def skipComment (c : Cursor) : Cursor :=
  let c := c.skipWhile (· = ' ')
  if c.peek = '#' then c.skipWhile (!isBreakOrEnd ·) else c

end Cursor

end ClusterAccess.Yaml
