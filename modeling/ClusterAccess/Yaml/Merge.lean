import ClusterAccess.Yaml.Node

/-!
# Merged mappings

Under the key `<<` a mapping names other mappings, one or several, whose entries come before its own, so
that its own count. `Graph.flatten` takes them in. It changes the graph: an entry that asks for a merge is
taken out before what it names is flattened, so a mapping that leads back to itself merges what is left of
it by then, and whoever merges it later finds it flattened. Afterwards a key `=` is a text like others.
-/

namespace ClusterAccess.Yaml

namespace Graph

/-- The entries of a mapping. -/
def entriesOf (g : Graph) (id : Nat) : List (Nat × Nat) :=
  match g.node id with
  | .map _ entries => entries
  | _ => []

/-- The graph in which a mapping has other entries. -/
def withEntries (g : Graph) (id : Nat) (entries : List (Nat × Nat)) : Graph :=
  g.put id (.map (g.tagOf id) entries)

/-- An entry that asks for a merge. -/
def isMerge (g : Graph) (entry : Nat × Nat) : Bool := g.tagOf entry.1 = .merge

/-- The graph in which a key `=` is a text. -/
def withPlainKey (g : Graph) (key : Nat) : Graph :=
  if g.tagOf key = .value then g.put key ((g.node key).withTag .str) else g

/-- The graph in which a mapping has further entries before its own, whose keys are texts if they are `=`. -/
def inheriting (g : Graph) (id : Nat) (inherited : List (Nat × Nat)) : Graph :=
  let own := g.entriesOf id
  ((own.map (·.1)).foldl withPlainKey g).withEntries id (inherited ++ own)

end Graph

namespace Merge

/-- Changes to a graph that may fail. -/
abbrev Change := StateT Graph Result

/-- The first entry of a mapping that asks for a merge, which is taken out of it. -/
def next? (id : Nat) : Change (Option (Nat × Nat)) := do
  let g ← get
  let entries := g.entriesOf id
  let entry := entries.find? g.isMerge
  if entry.isSome then set (g.withEntries id (entries.eraseP g.isMerge))
  pure entry

section

variable (flatten : Nat → Change Unit)

/-- The entries of a mapping that is merged. -/
def source (id : Nat) : Change (List (Nat × Nat)) := do
  match (← get).node id with
  | .map .. =>
    flatten id
    pure ((← get).entriesOf id)
  | _ => throw (.malformed .badMergeSource)

/-- The entries that a merge gives. Of several mappings the first counts most, so it comes last. -/
def sources (id : Nat) : Change (List (Nat × Nat)) := do
  match (← get).node id with
  | .seq _ items => pure (← items.mapM (source flatten)).reverse.flatten
  | _ => source flatten id

/-- The entries that the first `n` merges of a mapping give. -/
def inherited (id : Nat) : Nat → Change (List (Nat × Nat))
  | 0 => pure []
  | n + 1 => do
    match ← next? id with
    | none => pure []
    | some entry =>
      let first ← sources flatten entry.2
      pure (first ++ (← inherited id n))

end

end Merge

/-- Takes in what a mapping merges. Mappings lead to others no further than `depth` of them. -/
def Graph.flatten : Nat → Nat → Merge.Change Unit
  | 0, _ => throw (.unbuildable .tooDeep)
  | depth + 1, id => do
    let g ← get
    let inherited ← Merge.inherited (flatten depth) id ((g.entriesOf id).countP g.isMerge)
    modify (·.inheriting id inherited)

end ClusterAccess.Yaml
