import ClusterAccess.Yaml.Merge
import ClusterAccess.Yaml.Value

/-!
# Reading a document

`Value.ofText` reads the value of the only document in a text; an empty text is null. Building goes
through the graph breadth first: a scalar is built when it is met, and a collection waits and is entered
after all that was met before it. `Construction` is how far this has come, and `Graph.construct` goes all
the way and finds the first fault in that order.

What has been built is a graph still, and `Construction.value` spreads it out. Parts with several places
are built level by level, so that they can have their places without being built for each. A node that
contains itself is cut where there are more levels than such parts and `spareLevels` besides, which is
further than any reader of a configuration looks; then it is null.
-/

namespace ClusterAccess.Yaml

open Text (Content)

namespace Graph

/-- The content of a scalar, or of a mapping that stands for the value under its key `=`. -/
def content (g : Graph) : Nat → Nat → Result Content
  | 0, _ => .error (.unbuildable .tooDeep)
  | depth + 1, id =>
    match g.node id with
    | .scalar _ content => .ok content
    | .map _ entries =>
      match entries.find? fun e => g.tagOf e.1 = .value with
      | some e => g.content depth e.2
      | none => refuse .wrongKind
    | .seq .. => refuse .wrongKind

/-- A collection, whose parts are built after it. -/
def isCollectionTag : Tag → Bool
  | .seq => true
  | .map => true
  | .set => true
  | .omap => true
  | .pairs => true
  | _ => false

/-- The value of a node that is no collection. -/
def scalarValue (g : Graph) (depth id : Nat) : Result Value := do
  match g.tagOf id with
  | .merge => refuse .unknownTag
  | .value => refuse .unknownTag
  | .other _ => refuse .unknownTag
  | tag =>
    let content ← g.content depth id
    match tag, g.node id with
    | .timestamp, .map .. => .error (.unbuildable .timestampOfMapping)
    | _, _ => Value.ofScalar tag content

end Graph

/-! ## Construction -/

/-- What a node has been built to, its parts by their numbers. -/
inductive Form where
  | scalar (v : Value)
  | seq (items : List Nat)
  | pairs (entries : List (Nat × Nat))
  | set (keys : List Nat)
  | map (entries : List (Nat × Nat))

/-- How far the building of a node has come. A collection is met, and built later. -/
inductive Progress where
  | unmet
  | met
  | built (form : Form)

/-- How far the building has come for each node, and the collections that wait, first in first out. -/
structure Construction where
  graph : Graph
  progress : Array Progress
  waiting : List Nat

namespace Construction

abbrev Construct := StateT Construction Result

def attempt {α : Type} (x : Result α) : Construct α := fun c => x.map (·, c)

/-- The building of a node has come so far. -/
def note (id : Nat) (p : Progress) : Construct Unit :=
  modify fun c => { c with progress := c.progress.setIfInBounds id p }

/-- A node is met. -/
def meet (limits : Limits) (id : Nat) : Construct Unit := do
  let c ← get
  match c.progress[id]? with
  | some .unmet =>
    if Graph.isCollectionTag (c.graph.tagOf id) then
      set { c with progress := c.progress.setIfInBounds id .met, waiting := c.waiting ++ [id] }
    else
      let v ← attempt (c.graph.scalarValue limits.chaining id)
      note id (.built (.scalar v))
  | _ => pure ()

/-- A key, which cannot be a collection, and its value are met. -/
def meetEntry (limits : Limits) (entry : Nat × Nat) : Construct Unit := do
  meet limits entry.1
  if Graph.isCollectionTag ((← get).graph.tagOf entry.1) then attempt (refuse .unhashableKey)
  else meet limits entry.2

/-- An item of an ordered mapping is met: a mapping of one entry. -/
def meetPair (limits : Limits) (id : Nat) : Construct (Nat × Nat) := do
  match (← get).graph.node id with
  | .map _ [entry] =>
    meet limits entry.1
    meet limits entry.2
    pure entry
  | _ => attempt (refuse .badPair)

/-- The entries of a mapping are met, and those that it merges. -/
def meetEntries (limits : Limits) (id : Nat) : Construct (List (Nat × Nat)) := do
  let c ← get
  let ((), graph) ← attempt ((Graph.flatten limits.chaining id).run c.graph)
  set { c with graph }
  let entries := graph.entriesOf id
  entries.forM (meetEntry limits)
  pure entries

/-- The parts of a collection with a tag are met, and make its form. -/
def meetParts (limits : Limits) (id : Nat) : Tag → Node → Construct Form
  | .seq, .seq _ items => do
    items.forM (meet limits)
    pure (.seq items)
  | .omap, .seq _ items => .pairs <$> items.mapM (meetPair limits)
  | .pairs, .seq _ items => .pairs <$> items.mapM (meetPair limits)
  | .map, .map .. => .map <$> meetEntries limits id
  | .set, .map .. => (fun entries => .set (entries.map (·.1))) <$> meetEntries limits id
  | _, _ => attempt (refuse .wrongKind)

/-- A collection is entered. -/
def enter (limits : Limits) (id : Nat) : Construct Unit := do
  let g := (← get).graph
  note id (.built (← meetParts limits id (g.tagOf id) (g.node id)))

/-- The first `n` collections are entered, as far as any wait. -/
def enterAll (limits : Limits) : Nat → Construct Unit
  | 0 => pure ()
  | n + 1 => do
    let c ← get
    match c.waiting with
    | [] => pure ()
    | id :: rest =>
      set { c with waiting := rest }
      enter limits id
      enterAll limits n

end Construction

open Construction in
/-- All that is built of a graph, if it has no fault. -/
def Graph.construct (limits : Limits) (g : Graph) : Result Construction := do
  let whole : Construct Unit := do
    meet limits g.root
    enterAll limits g.nodes.size
  let ((), c) ← whole.run ⟨g, Array.replicate g.nodes.size .unmet, []⟩
  pure c

/-! ## Values -/

namespace Form

/-- The parts of a collection. -/
def parts : Form → List Nat
  | scalar _ => []
  | seq items => items
  | pairs entries => entries.flatMap fun e => [e.1, e.2]
  | set keys => keys
  | map entries => entries.flatMap fun e => [e.1, e.2]

/-- The value of a form, given those of its parts. -/
def value (part : Nat → Value) : Form → Value
  | scalar v => v
  | seq items => .seq (items.map part)
  | pairs entries => .pairs (entries.map fun e => (part e.1, part e.2))
  | set keys => .set (Value.distinct (keys.map part))
  | map entries => .map (entries.map fun e => (part e.1, part e.2))

end Form

namespace Construction

/-- What a node has been built to. -/
def form? (c : Construction) (id : Nat) : Option Form :=
  match c.progress[id]? with
  | some (.built f) => some f
  | _ => none

def forms (c : Construction) : List Form :=
  c.progress.toList.filterMap fun p => match p with | .built f => some f | _ => none

/-- How many places each node has. The root has one more than it is a part. -/
def places (c : Construction) : Array Nat :=
  (c.graph.root :: c.forms.flatMap Form.parts).foldl
    (fun counts id => counts.setIfInBounds id (counts[id]?.getD 0 + 1))
    (Array.replicate c.progress.size 0)

/-- The collections with several places. -/
def shared (c : Construction) : List Nat :=
  let places := c.places
  (List.range c.progress.size).filter fun id =>
    1 < places[id]?.getD 0 && ((c.form? id).map fun f => !f.parts.isEmpty).getD false

/-- The value of a node, given those of the shared nodes. -/
def valueOf (c : Construction) (shared : List Nat) (known : List (Nat × Value)) : Nat → Nat → Value
  | 0, _ => .null
  | depth + 1, id =>
    if shared.contains id then (known.lookup id).getD .null
    else ((c.form? id).map (Form.value (c.valueOf shared known depth))).getD .null

/-- The values of the shared nodes, down to so many levels of them. -/
def sharedValues (c : Construction) (shared : List Nat) : Nat → List (Nat × Value)
  | 0 => []
  | levels + 1 =>
    let part := c.valueOf shared (c.sharedValues shared levels) c.progress.size
    shared.map fun id => (id, ((c.form? id).map (Form.value part)).getD .null)

def spareLevels : Nat := 8

def value (c : Construction) : Value :=
  let shared := c.shared
  c.valueOf shared (c.sharedValues shared (shared.length + spareLevels)) (c.progress.size + 1) c.graph.root

end Construction

/-- The value of the only document in a text. -/
def Value.ofText (limits : Limits) (s : String) : Result Value := do
  match ← Graph.ofTokens limits (Tokens.ofText s) with
  | none => pure .null
  | some g => pure (← g.construct limits).value

end ClusterAccess.Yaml
