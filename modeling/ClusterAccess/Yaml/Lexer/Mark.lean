import ClusterAccess.Yaml.Cursor
import ClusterAccess.Yaml.Token
import ClusterAccess.Text.Utf8

/-!
# Directives, anchors and tags

Scanners for the marks of a document that are no scalars and no indicators of structure. Each starts
at the character that introduces the mark.
-/

namespace ClusterAccess.Yaml

/-- The name of an anchor or alias, from its indicator on. -/
def anchorName (c : Cursor) : Result (String × Cursor) :=
  let (name, c) := c.next.span isNameChar
  if name.isEmpty then refuse .badAnchor
  else if isGapOrEnd c.peek || "?:,]\x7d%@\u0060".toList.contains c.peek then .ok (String.ofList name, c)
  else refuse .badAnchor

/-- Characters of a tag's address, apart from the percent sign. -/
def isAddressChar (c : Char) : Bool :=
  isNameChar c || ";/?:@&=+$,.!~*'()[]".toList.contains c

/-- Bytes written with percent signs, and the cursor behind them. -/
def percentBytes : Nat → Cursor → Result (Bytes × Cursor)
  | 0, c => .ok ([], c)
  | fuel + 1, c =>
    if c.peek = '%' then
      match Text.baseDigit? 16 (c.peekAt 1), Text.baseDigit? 16 (c.peekAt 2) with
      | some a, some b => do
        let (bs, c) ← percentBytes fuel (c.advance 3)
        pure (UInt8.ofNat (a * 16 + b) :: bs, c)
      | _, _ => refuse .badTag
    else .ok ([], c)

/-- The address of a tag, possibly empty. -/
def addressRest : Nat → Cursor → Result (List Char × Cursor)
  | 0, c => .ok ([], c)
  | fuel + 1, c =>
    if c.peek = '%' then do
      let (bytes, c) ← percentBytes (c.rest.length + 1) c
      match Utf8.decode bytes with
      | .error _ => refuse .badTag
      | .ok s =>
        let (more, c) ← addressRest fuel c
        pure (s.toList ++ more, c)
    else if isAddressChar c.peek then do
      let (run, c) := c.span isAddressChar
      let (more, c) ← addressRest fuel c
      pure (run ++ more, c)
    else .ok ([], c)

/-- The address of a tag. -/
def address (c : Cursor) : Result (String × Cursor) := do
  if c.peek = '%' || isAddressChar c.peek then
    let (cs, c) ← addressRest (c.rest.length + 1) c
    pure (String.ofList cs, c)
  else refuse .badTag

/-- A tag handle: `!`, `!!` or a name between exclamation marks. -/
def tagHandle (c : Cursor) : Result (String × Cursor) :=
  if c.peek != '!' then refuse .badTag
  else
    let c := c.next
    if c.peek = ' ' then .ok ("!", c)
    else
      let (name, c) := c.span isNameChar
      if c.peek = '!' then .ok (String.ofList ('!' :: name ++ ['!']), c.next) else refuse .badTag

/-- A tag behind its first character, when that character opens no verbatim tag. An exclamation mark
before the next blank makes a handle of what precedes it. -/
def shorthandTag (c : Cursor) : Result (TagName × Cursor) := do
  let (word, _) := c.next.span (!isSpaceOrEnd ·)
  let (handle, c) ← if word.contains '!' then tagHandle c else pure ("!", c.next)
  let (suffix, c) ← address c
  pure (⟨some handle, suffix⟩, c)

/-- A tag, from its exclamation mark on. -/
def tagName (c : Cursor) : Result (TagName × Cursor) := do
  let (name, c) ←
    if c.peekAt 1 = '<' then do
      let (suffix, c) ← address (c.advance 2)
      if c.peek = '>' then pure (⟨none, suffix⟩, c.next) else refuse .badTag
    else if isGapOrEnd (c.peekAt 1) then pure (⟨none, "!"⟩, c.next)
    else shorthandTag c
  if isSpaceOrEnd c.peek then pure (name, c) else refuse .badTag

/-- A number of a version. -/
def versionNumber (c : Cursor) : Result (Int × Cursor) :=
  let (digits, c) := c.span fun ch => '0' ≤ ch && ch ≤ '9'
  if digits.isEmpty then refuse .badDirective
  else
    match Text.readInteger 10 digits with
    | .ok n => .ok (n, c)
    | .error f => .error (.unbuildable (.integer f))

/-- What a directive says, behind its name. -/
def directiveValue (name : String) (c : Cursor) : Result (Directive × Cursor) := do
  if name = "YAML" then
    let (major, c) ← versionNumber (c.skipWhile (· = ' '))
    if c.peek != '.' then refuse .badDirective
    else
      let (_, c) ← versionNumber c.next
      if isSpaceOrEnd c.peek then pure (.yaml major, c) else refuse .badDirective
  else if name = "TAG" then
    let (handle, c) ← tagHandle (c.skipWhile (· = ' '))
    if c.peek != ' ' then refuse .badDirective
    else
      let (uri, c) ← address (c.skipWhile (· = ' '))
      if isSpaceOrEnd c.peek then pure (.tag handle uri, c) else refuse .badDirective
  else pure (.other, c.skipWhile (!isBreakOrEnd ·))

/-- A directive, from its percent sign on to the end of the line. -/
def directive (c : Cursor) : Result (Directive × Cursor) := do
  let (name, c) := c.next.span isNameChar
  if name.isEmpty || !isSpaceOrEnd c.peek then refuse .badDirective
  else
    let (d, c) ← directiveValue (String.ofList name) c
    let c := c.skipComment
    if isBreakOrEnd c.peek then pure (d, c.lineBreak.2) else refuse .badDirective

end ClusterAccess.Yaml
