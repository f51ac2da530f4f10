import ClusterAccess.Yaml.Lexer
import ClusterAccess.Yaml.Tag

/-!
# The node graph of a document

The nodes of a document lie in an array, and a collection knows its parts by their numbers. An alias is
the number of the node that it names, so a node may have several places in a document, and a place in
itself. `Graph.ofTokens` builds the graph of the only document in a stream of tokens; a stream without a
document has none. Aliases must follow their anchors, an anchor's name is used once, and collections lie
in one another no deeper than the limits of the reader allow.
-/

namespace ClusterAccess.Yaml

open Text (Content)

inductive Node where
  | scalar (tag : Tag) (content : Content)
  | seq (tag : Tag) (items : List Nat)
  | map (tag : Tag) (entries : List (Nat × Nat))
  deriving DecidableEq, Repr

namespace Node

def tag : Node → Tag
  | scalar t _ => t
  | seq t _ => t
  | map t _ => t

def withTag (t : Tag) : Node → Node
  | scalar _ content => scalar t content
  | seq _ items => seq t items
  | map _ entries => map t entries

/-- A node without text: null. -/
def absent : Node := scalar (Tag.ofScalar "") (.text "")

end Node

/-- A document: its nodes, and the number of its root. -/
structure Graph where
  nodes : Array Node
  root : Nat

namespace Graph

/-- The node with a number. -/
def node (g : Graph) (id : Nat) : Node := g.nodes[id]?.getD .absent

def tagOf (g : Graph) (id : Nat) : Tag := (g.node id).tag

/-- The graph with another node in place of one. -/
def put (g : Graph) (id : Nat) (n : Node) : Graph := { g with nodes := g.nodes.setIfInBounds id n }

end Graph

/-- Where the reading of tokens stands: what is left, the handles of tags, the nodes so far, and the names
of anchors with the nodes that they are on. -/
structure GraphBuilder where
  tokens : List Token
  fault : Option Fault
  handles : List (String × String)
  nodes : Array Node
  names : List (String × Nat)

namespace GraphBuilder

abbrev Build := StateT GraphBuilder Result

/-- The next token. A defect found while lexing counts when its place is reached. -/
def peek : Build Token := do
  match (← get).tokens with
  | t :: _ => pure t
  | [] => throw ((← get).fault.getD (.malformed .noNodeContent))

def skip : Build Unit :=
  modify fun s => { s with tokens := s.tokens.drop 1 }

def fail {α : Type} (what : Malformed) : Build α := throw (.malformed what)

/-- The next token is one of these; nothing is read. -/
def sees (ts : List Token) : Build Bool := do
  pure (ts.contains (← peek))

/-- A tag as written, in full. -/
def fullTag (t : TagName) : Build String := do
  match t.handle with
  | none => pure t.suffix
  | some h =>
    match (← get).handles.find? (·.1 = h) with
    | some (_, uri) => pure (uri ++ t.suffix)
    | none => fail .undefinedHandle

def anchor? : Build (Option String) := do
  match ← peek with
  | .anchor name => skip; pure (some name)
  | _ => pure none

def tag? : Build (Option TagName) := do
  match ← peek with
  | .tag name => skip; pure (some name)
  | _ => pure none

/-- The anchor and the tag before a node, in either order. -/
def properties : Build (Option String × Option String) := do
  match ← anchor? with
  | some a =>
    let t ← tag?
    pure (some a, ← t.mapM fullTag)
  | none =>
    let t ← tag?
    let a ← if t.isSome then anchor? else pure none
    pure (a, ← t.mapM fullTag)

/-- A new node. Aliases call it by the name of its anchor, if it has one. -/
def place (anchor : Option String) (n : Node) : Build Nat := do
  let s ← get
  let id := s.nodes.size
  match anchor with
  | none => set { s with nodes := s.nodes.push n }
  | some name =>
    if (s.names.lookup name).isSome then fail .duplicateAnchor
    else set { s with nodes := s.nodes.push n, names := (name, id) :: s.names }
  pure id

/-- A new collection. It has its place before its parts, which may be aliases of it. -/
def collect (anchor : Option String) (empty : Node) (filled : Build Node) : Build Nat := do
  let id ← place anchor empty
  let n ← filled
  modify fun s => { s with nodes := s.nodes.setIfInBounds id n }
  pure id

/-- What lies in a collection, if there is room for a collection. -/
def within {α : Type} (room : Nat) (content : Nat → Build α) : Build α :=
  match room with
  | 0 => throw (.unbuildable .tooDeep)
  | room + 1 => content room

/-- The tag of a scalar: a plain one without a tag, and any with the tag `!`, goes by its form. -/
def scalarTag (tag : Option String) (content : Content) (plain : Bool) : Tag :=
  let byForm : Tag :=
    match content with
    | .text s => Tag.ofScalar s
    | .broken _ => .str
  match tag with
  | none => if plain then byForm else .str
  | some "!" => byForm
  | some t => Tag.ofName t

/-- The tag of a collection. -/
def collectionTag (tag : Option String) (standard : Tag) : Tag :=
  match tag with
  | none => standard
  | some "!" => standard
  | some t => Tag.ofName t

/-- A node without content needs an anchor or a tag. -/
def absentOr (anchor tag : Option String) : Build Nat := do
  if anchor.isNone && tag.isNone then fail .noNodeContent
  else place anchor (.scalar (scalarTag tag (.text "") true) (.text ""))

/-- The comma before an item of a flow collection that is not the first. -/
def flowSeparator (first : Bool) : Build Unit := do
  if first then pure ()
  else if ← sees [.flowEntry] then skip
  else fail .noFlowSeparator

mutual

/-- A node, with room for so many collections in one another. In a block it may be a block collection, and
behind a key of a mapping also a sequence that is not indented. -/
def node (fuel room : Nat) (block unindented : Bool) : Build Nat := do
  match fuel with
  | 0 => fail .noNodeContent
  | fuel + 1 =>
    match ← peek with
    | .reference name =>
      skip
      match (← get).names.lookup name with
      | some id => pure id
      | none => fail .undefinedAlias
    | _ =>
      let (anchor, tag) ← properties
      let seqTag := collectionTag tag .seq
      let mapTag := collectionTag tag .map
      match ← peek with
      | .blockEntry =>
        if unindented then
          collect anchor (.seq seqTag []) <| within room fun room => do
            pure (.seq seqTag (← unindentedItems fuel room))
        else absentOr anchor tag
      | .scalar content plain =>
        skip
        place anchor (.scalar (scalarTag tag content plain) content)
      | .flowSequenceStart =>
        collect anchor (.seq seqTag []) <| within room fun room => do
          skip
          pure (.seq seqTag (← flowItems fuel room true))
      | .flowMappingStart =>
        collect anchor (.map mapTag []) <| within room fun room => do
          skip
          pure (.map mapTag (← flowEntries fuel room true))
      | .blockSequenceStart =>
        if block then
          collect anchor (.seq seqTag []) <| within room fun room => do
            skip
            pure (.seq seqTag (← blockItems fuel room))
        else absentOr anchor tag
      | .blockMappingStart =>
        if block then
          collect anchor (.map mapTag []) <| within room fun room => do
            skip
            pure (.map mapTag (← blockEntries fuel room))
        else absentOr anchor tag
      | _ => absentOr anchor tag

/-- A node, unless one of these tokens shows that there is none. -/
def nodeUnless (fuel room : Nat) (ends : List Token) (block unindented : Bool) : Build Nat := do
  match fuel with
  | 0 => fail .noNodeContent
  | fuel + 1 => if ← sees ends then place none .absent else node fuel room block unindented

/-- The value of an entry whose key has been read. -/
def entryValue (fuel room : Nat) (ends : List Token) (block : Bool) : Build Nat := do
  match fuel with
  | 0 => fail .noNodeContent
  | fuel + 1 =>
    if ← sees [.value] then
      skip
      nodeUnless fuel room ends block block
    else place none .absent

def blockItems (fuel room : Nat) : Build (List Nat) := do
  match fuel with
  | 0 => fail .noNodeContent
  | fuel + 1 =>
    match ← peek with
    | .blockEntry =>
      skip
      let n ← nodeUnless fuel room [.blockEntry, .blockEnd] true false
      pure (n :: (← blockItems fuel room))
    | .blockEnd => skip; pure []
    | _ => fail .noBlockEnd

def unindentedItems (fuel room : Nat) : Build (List Nat) := do
  match fuel with
  | 0 => fail .noNodeContent
  | fuel + 1 =>
    match ← peek with
    | .blockEntry =>
      skip
      let n ← nodeUnless fuel room [.blockEntry, .key, .value, .blockEnd] true false
      pure (n :: (← unindentedItems fuel room))
    | _ => pure []

def blockEntries (fuel room : Nat) : Build (List (Nat × Nat)) := do
  match fuel with
  | 0 => fail .noNodeContent
  | fuel + 1 =>
    let ends : List Token := [.key, .value, .blockEnd]
    match ← peek with
    | .key =>
      skip
      let k ← nodeUnless fuel room ends true true
      let v ← entryValue fuel room ends true
      pure ((k, v) :: (← blockEntries fuel room))
    | .blockEnd => skip; pure []
    | _ => fail .noBlockEnd

/-- The items of a sequence in brackets. A pair among them is a mapping of its own. -/
def flowItems (fuel room : Nat) (first : Bool) : Build (List Nat) := do
  match fuel with
  | 0 => fail .noNodeContent
  | fuel + 1 =>
    if ← sees [.flowSequenceEnd] then skip; pure []
    else
      flowSeparator first
      match ← peek with
      | .flowSequenceEnd => skip; pure []
      | .key =>
        skip
        let pair ← collect none (.map .map []) <| within room fun room => do
          let k ← nodeUnless fuel room [.value, .flowEntry, .flowSequenceEnd] false false
          let v ← entryValue fuel room [.flowEntry, .flowSequenceEnd] false
          pure (.map .map [(k, v)])
        pure (pair :: (← flowItems fuel room false))
      | _ =>
        let n ← node fuel room false false
        pure (n :: (← flowItems fuel room false))

def flowEntries (fuel room : Nat) (first : Bool) : Build (List (Nat × Nat)) := do
  match fuel with
  | 0 => fail .noNodeContent
  | fuel + 1 =>
    if ← sees [.flowMappingEnd] then skip; pure []
    else
      flowSeparator first
      match ← peek with
      | .flowMappingEnd => skip; pure []
      | .key =>
        skip
        let k ← nodeUnless fuel room [.value, .flowEntry, .flowMappingEnd] false false
        let v ← entryValue fuel room [.flowEntry, .flowMappingEnd] false
        pure ((k, v) :: (← flowEntries fuel room false))
      | _ =>
        let k ← node fuel room false false
        let v ← place none .absent
        pure ((k, v) :: (← flowEntries fuel room false))

end

/-! ## Documents -/

/-- Handles that every document may use unless it defines them itself. -/
def standardHandles : List (String × String) :=
  [("!", "!"), ("!!", Tag.standard)]

/-- The directives before a document. There is one version at most, and it is 1. -/
def directives : Nat → Bool → Build Unit
  | 0, _ => fail .noDocumentStart
  | fuel + 1, versioned => do
    match ← peek with
    | .directive d =>
      skip
      match d with
      | .yaml major =>
        if versioned then fail .duplicateDirective
        else if major != 1 then fail .incompatibleVersion
        else directives fuel true
      | .tag handle uri =>
        if (← get).handles.any (·.1 = handle) then fail .duplicateHandle
        else
          modify fun s => { s with handles := (handle, uri) :: s.handles }
          directives fuel versioned
      | .other => directives fuel versioned
    | _ => modify fun s => { s with handles := s.handles ++ standardHandles }

def skipDocumentEnds : Nat → Build Unit
  | 0 => pure ()
  | fuel + 1 => do
    if ← sees [.documentEnd] then
      skip
      skipDocumentEnds fuel

/-- The start of a document behind its directives. -/
def documentStart (fuel : Nat) : Build Unit := do
  modify fun s => { s with handles := [] }
  directives fuel false
  if ← sees [.documentStart] then skip else fail .noDocumentStart

def isDirective : Token → Bool
  | .directive _ => true
  | _ => false

/-- The root of the first document, if there is a document. -/
def root? (fuel room : Nat) : Build (Option Nat) := do
  let t ← peek
  if !(isDirective t || t = .documentStart || t = .streamEnd) then
    modify fun s => { s with handles := standardHandles }
    some <$> node fuel room true false
  else
    skipDocumentEnds fuel
    if ← sees [.streamEnd] then pure none
    else
      documentStart fuel
      let t ← peek
      if isDirective t || [Token.documentStart, .documentEnd, .streamEnd].contains t then
        some <$> place none .absent
      else some <$> node fuel room true false

/-- Nothing but document ends may follow the document. -/
def streamEnd (fuel : Nat) : Build Unit := do
  skipDocumentEnds fuel
  if ← sees [.streamEnd] then pure ()
  else
    documentStart fuel
    fail .secondDocument

/-- The root of the only document, if there is a document. -/
def onlyRoot? (fuel room : Nat) : Build (Option Nat) := do
  let r ← root? fuel room
  if r.isSome then streamEnd fuel
  pure r

end GraphBuilder

/-- The graph of the only document among the tokens, built in so many turns. -/
def Graph.ofTokensIn (turns : Nat) (limits : Limits) (t : Tokens) : Result (Option Graph) := do
  let (root, s) ← (GraphBuilder.onlyRoot? turns limits.nesting).run ⟨t.tokens, t.fault, [], #[], []⟩
  pure (root.map fun r => ⟨s.nodes, r⟩)

/-- The graph of the only document among the tokens. No token takes more than four turns. -/
def Graph.ofTokens (limits : Limits) (t : Tokens) : Result (Option Graph) :=
  ofTokensIn (4 * t.tokens.length + 16) limits t

end ClusterAccess.Yaml
