import ClusterAccess.Yaml.Merge

/-!
# What flattening does

Flattening a mapping may flatten others on the way, and itself. Whatever it changes, the graph it leaves
`Inherits` from the graph it found: no mapping asks for more merges than before, and each keeps the entries
that ask for none at its end, where they count. The mapping itself asks for no merge any more
(`entriesOf_of_flatten`).
-/

namespace ClusterAccess.Yaml

/-- A sequence of changes succeeds when both of its parts do. -/
theorem run_bind_eq_ok {σ α β : Type} {x : StateT σ Result α} {f : α → StateT σ Result β} {s : σ}
    {r : β × σ} : (x >>= f) s = .ok r ↔ ∃ a t, x s = .ok (a, t) ∧ f a t = .ok r := by
  change (x s >>= fun p => f p.1 p.2) = .ok r ↔ _
  cases x s with
  | error e => simp [bind, Except.bind]
  | ok p =>
    constructor
    · intro h
      exact ⟨p.1, p.2, rfl, h⟩
    · rintro ⟨_, _, same, h⟩
      cases same
      exact h

theorem run_map_eq_ok {σ α β : Type} {f : α → β} {x : StateT σ Result α} {s t : σ} {b : β} :
    (f <$> x) s = .ok (b, t) ↔ ∃ a, x s = .ok (a, t) ∧ f a = b := by
  change (x s >>= fun p => .ok (f p.1, p.2)) = .ok (b, t) ↔ _
  cases x s with
  | error e => simp [bind, Except.bind]
  | ok p =>
    constructor
    · intro h
      cases h
      exact ⟨p.1, rfl, rfl⟩
    · rintro ⟨_, same, rfl⟩
      cases same
      rfl

theorem run_get_bind {σ α : Type} (f : σ → StateT σ Result α) (s : σ) : (get >>= f) s = f s s := rfl

/-! ## Graphs with another node -/

namespace Graph

section

variable {g : Graph} {id other : Nat}

theorem node_put_self (h : id < g.nodes.size) (n : Node) : (g.put id n).node id = n := by
  simp [put, node, h]

theorem node_put_of_ne (h : other ≠ id) (n : Node) : (g.put id n).node other = g.node other := by
  simp [put, node, Ne.symm h]

theorem put_of_size_le (h : g.nodes.size ≤ id) (n : Node) : g.put id n = g := by
  rw [put, Array.setIfInBounds_eq_of_size_le h]

theorem size_put (n : Node) : (g.put id n).nodes.size = g.nodes.size := by
  simp [put]

theorem entriesOf_put_of_ne (h : other ≠ id) (n : Node) :
    (g.put id n).entriesOf other = g.entriesOf other := by
  rw [entriesOf, node_put_of_ne h, entriesOf]

/-- A mapping with entries is there. -/
theorem lt_size_of_entriesOf (h : g.entriesOf id ≠ []) : id < g.nodes.size := by
  refine Nat.lt_of_not_le fun outside => h ?_
  have absent : g.node id = .absent := by simp [node, outside]
  rw [entriesOf, absent]
  rfl

theorem tagOf_withEntries (entries : List (Nat × Nat)) (key : Nat) :
    (g.withEntries id entries).tagOf key = g.tagOf key := by
  by_cases inside : id < g.nodes.size
  · by_cases hk : key = id
    · rw [hk, tagOf, withEntries, node_put_self inside]
      rfl
    · rw [tagOf, withEntries, node_put_of_ne hk, tagOf]
  · rw [withEntries, put_of_size_le (Nat.le_of_not_lt inside)]

theorem isMerge_withEntries (entries : List (Nat × Nat)) :
    (g.withEntries id entries).isMerge = g.isMerge := by
  funext entry
  simp only [isMerge, tagOf_withEntries]

theorem entriesOf_withEntries_self (h : id < g.nodes.size) (entries : List (Nat × Nat)) :
    (g.withEntries id entries).entriesOf id = entries := by
  rw [withEntries, entriesOf, node_put_self h]

theorem entriesOf_withPlainKey (key : Nat) : (g.withPlainKey key).entriesOf id = g.entriesOf id := by
  unfold withPlainKey
  split
  · by_cases hk : id = key
    · subst hk
      by_cases inside : id < g.nodes.size
      · rw [entriesOf, node_put_self inside, entriesOf]
        cases g.node id <;> rfl
      · rw [put_of_size_le (Nat.le_of_not_lt inside)]
    · rw [entriesOf_put_of_ne hk]
  · rfl

theorem isMerge_withPlainKey (key : Nat) : (g.withPlainKey key).isMerge = g.isMerge := by
  unfold withPlainKey
  split
  · next plain =>
    funext entry
    by_cases hk : entry.1 = key
    · by_cases inside : key < g.nodes.size
      · have text : ((g.node key).withTag .str).tag = .str := by cases g.node key <;> rfl
        rw [isMerge, isMerge, hk, tagOf, node_put_self inside, text, plain]
        rfl
      · rw [put_of_size_le (Nat.le_of_not_lt inside)]
    · rw [isMerge, isMerge, tagOf, node_put_of_ne hk, tagOf]
  · rfl

end

/-! ## Inheriting graphs -/

/-- How many merges a mapping asks for. -/
def mergesOf (g : Graph) (id : Nat) : Nat := (g.entriesOf id).countP g.isMerge

/-- The entries of a mapping that ask for no merge. -/
def ownOf (g : Graph) (id : Nat) : List (Nat × Nat) := (g.entriesOf id).filter (!g.isMerge ·)

theorem mergesOf_eq_zero {g : Graph} {id : Nat} :
    g.mergesOf id = 0 ↔ ∀ entry ∈ g.entriesOf id, g.isMerge entry = false := by
  simp [mergesOf, List.countP_eq_zero]

/-- The entries of a mapping that asks for no merge are its own. -/
theorem ownOf_of_mergesOf {g : Graph} {id : Nat} (h : g.mergesOf id = 0) : g.ownOf id = g.entriesOf id := by
  rw [ownOf, List.filter_eq_self]
  intro entry he
  rw [mergesOf_eq_zero.mp h entry he]
  rfl

/-- The second graph has the nodes of the first. The same keys ask for merges, no mapping asks for more of
them, and what a mapping has of its own stays at its end. -/
structure Inherits (g g' : Graph) : Prop where
  root : g'.root = g.root
  size : g'.nodes.size = g.nodes.size
  isMerge : g'.isMerge = g.isMerge
  merges : ∀ id, g'.mergesOf id ≤ g.mergesOf id
  own : ∀ id, g.ownOf id <:+ g'.ownOf id

namespace Inherits

variable {g g' g'' : Graph}

theorem refl (g : Graph) : g.Inherits g :=
  ⟨rfl, rfl, rfl, fun _ => Nat.le_refl _, fun _ => List.suffix_rfl⟩

theorem trans (h : g.Inherits g') (h' : g'.Inherits g'') : g.Inherits g'' :=
  ⟨h'.root.trans h.root, h'.size.trans h.size, h'.isMerge.trans h.isMerge,
    fun id => Nat.le_trans (h'.merges id) (h.merges id), fun id => (h.own id).trans (h'.own id)⟩

/-- A mapping gets other entries, with no more merges and its own at their end. -/
theorem withEntries {id : Nat} {entries : List (Nat × Nat)}
    (merges : entries.countP g.isMerge ≤ g.mergesOf id)
    (own : g.ownOf id <:+ entries.filter (!g.isMerge ·)) : g.Inherits (g.withEntries id entries) := by
  have either (other : Nat) : (g.withEntries id entries).entriesOf other = g.entriesOf other ∨
      other = id ∧ (g.withEntries id entries).entriesOf other = entries := by
    by_cases ho : other = id
    · subst ho
      by_cases inside : other < g.nodes.size
      · exact .inr ⟨rfl, entriesOf_withEntries_self inside entries⟩
      · rw [Graph.withEntries, put_of_size_le (Nat.le_of_not_lt inside)]
        exact .inl rfl
    · exact .inl (entriesOf_put_of_ne ho _)
  refine ⟨rfl, size_put _, isMerge_withEntries entries, fun other => ?_, fun other => ?_⟩
  · rw [mergesOf, isMerge_withEntries]
    obtain same | ⟨rfl, changed⟩ := either other
    · exact Nat.le_of_eq (congrArg _ same)
    · rwa [changed]
  · rw [ownOf, ownOf, isMerge_withEntries]
    obtain same | ⟨rfl, changed⟩ := either other
    · exact same ▸ List.suffix_rfl
    · rwa [changed]

/-- A key becomes a text. -/
theorem withPlainKey (g : Graph) (key : Nat) : g.Inherits (g.withPlainKey key) := by
  have merges (id : Nat) : (g.withPlainKey key).mergesOf id = g.mergesOf id := by
    rw [mergesOf, isMerge_withPlainKey, entriesOf_withPlainKey, mergesOf]
  have own (id : Nat) : (g.withPlainKey key).ownOf id = g.ownOf id := by
    rw [ownOf, isMerge_withPlainKey, entriesOf_withPlainKey, ownOf]
  refine ⟨?_, ?_, isMerge_withPlainKey key, fun id => Nat.le_of_eq (merges id),
    fun id => own id ▸ List.suffix_rfl⟩
  · unfold Graph.withPlainKey
    split <;> rfl
  · unfold Graph.withPlainKey
    split
    · exact size_put _
    · rfl

/-- Several keys become texts, and no mapping gets other entries. -/
theorem withPlainKeys (g : Graph) (keys : List Nat) :
    g.Inherits (keys.foldl Graph.withPlainKey g) ∧
      ∀ id, (keys.foldl Graph.withPlainKey g).entriesOf id = g.entriesOf id := by
  induction keys generalizing g with
  | nil => exact ⟨refl g, fun _ => rfl⟩
  | cons key keys ih =>
    obtain ⟨inherits, same⟩ := ih (g.withPlainKey key)
    exact ⟨(withPlainKey g key).trans inherits, fun id => (same id).trans (entriesOf_withPlainKey key)⟩

end Inherits

/-- A mapping that asks for no merge takes in entries that ask for none. -/
theorem inherits_inheriting {g : Graph} {id : Nat} {inherited : List (Nat × Nat)} (done : g.mergesOf id = 0)
    (plain : ∀ entry ∈ inherited, g.isMerge entry = false) :
    g.Inherits (g.inheriting id inherited) ∧ (g.inheriting id inherited).mergesOf id = 0 := by
  obtain ⟨first, same⟩ := Inherits.withPlainKeys g ((g.entriesOf id).map (·.1))
  have none : (inherited ++ g.entriesOf id).countP g.isMerge = 0 := by
    rw [List.countP_append, List.countP_eq_zero.mpr fun entry he => by simp [plain entry he], Nat.zero_add]
    exact done
  have second : (((g.entriesOf id).map (·.1)).foldl withPlainKey g).Inherits (g.inheriting id inherited) := by
    refine .withEntries ?_ ?_
    · rw [first.isMerge, none]
      exact Nat.zero_le _
    · rw [ownOf, same, first.isMerge, List.filter_append]
      exact List.suffix_append _ _
  refine ⟨first.trans second, Nat.le_zero.mp ?_⟩
  rw [← done]
  exact (first.trans second).merges id

end Graph

/-! ## Changes -/

namespace Merge

theorem run_next?_of_none {g : Graph} {id : Nat} (h : (g.entriesOf id).find? g.isMerge = none) :
    next? id g = .ok (none, g) := by
  rw [next?, run_get_bind]
  simp only [h]
  rfl

theorem run_next?_of_some {g : Graph} {id : Nat} {entry : Nat × Nat}
    (h : (g.entriesOf id).find? g.isMerge = some entry) :
    next? id g = .ok (some entry, g.withEntries id ((g.entriesOf id).eraseP g.isMerge)) := by
  rw [next?, run_get_bind]
  simp only [h]
  rfl

/-- A mapping that has no merge to take out asks for none. -/
theorem mergesOf_of_next? {id : Nat} {g g' : Graph} (h : next? id g = .ok (none, g')) :
    g' = g ∧ g.mergesOf id = 0 := by
  cases hf : (g.entriesOf id).find? g.isMerge with
  | none =>
    rw [run_next?_of_none hf] at h
    cases h
    exact ⟨rfl, Graph.mergesOf_eq_zero.mpr fun entry he => by simpa using List.find?_eq_none.mp hf entry he⟩
  | some entry =>
    rw [run_next?_of_some hf] at h
    cases h

/-- A merge is taken out of a mapping, and nothing else. -/
theorem inherits_of_next? {id : Nat} {g g' : Graph} {entry : Nat × Nat}
    (h : next? id g = .ok (some entry, g')) : g.Inherits g' ∧ g'.mergesOf id + 1 = g.mergesOf id := by
  cases hf : (g.entriesOf id).find? g.isMerge with
  | none =>
    rw [run_next?_of_none hf] at h
    cases h
  | some found =>
    rw [run_next?_of_some hf] at h
    cases h
    obtain ⟨merge, before, after, split, plain⟩ := List.find?_eq_some_iff_append.mp hf
    have inside : id < g.nodes.size := Graph.lt_size_of_entriesOf (by rw [split]; simp)
    have rest : (g.entriesOf id).eraseP g.isMerge = before ++ after := by
      rw [split, List.eraseP_append_right _ (by simpa using plain), List.eraseP_cons_of_pos merge]
    have fewer : (before ++ after).countP g.isMerge + 1 = g.mergesOf id := by
      rw [Graph.mergesOf, split, List.countP_append, List.countP_append, List.countP_cons_of_pos merge,
        Nat.add_assoc]
    have own : g.ownOf id = (before ++ after).filter (!g.isMerge ·) := by
      rw [Graph.ownOf, split, List.filter_append, List.filter_append,
        List.filter_cons_of_neg (by simp [merge])]
    rw [rest]
    refine ⟨.withEntries (by omega) (own ▸ List.suffix_rfl), ?_⟩
    rw [Graph.mergesOf, Graph.isMerge_withEntries, Graph.entriesOf_withEntries_self inside, fewer]

/-- A change that flattens a mapping. -/
def Flattens (flatten : Nat → Change Unit) : Prop :=
  ∀ id g g', flatten id g = .ok ((), g') → g.Inherits g' ∧ g'.mergesOf id = 0

section

variable {flatten : Nat → Change Unit} (flattens : Flattens flatten) {id : Nat} {g g' : Graph}
  {entries : List (Nat × Nat)}

include flattens

/-- The entries of a mapping that is merged ask for no merge. -/
theorem inherits_of_source (h : source flatten id g = .ok (entries, g')) :
    g.Inherits g' ∧ ∀ entry ∈ entries, g'.isMerge entry = false := by
  rw [source, run_get_bind] at h
  cases hn : g.node id with
  | scalar | seq =>
    rw [hn] at h
    cases h
  | map =>
    rw [hn] at h
    obtain ⟨⟨⟩, flat, hf, h⟩ := run_bind_eq_ok.mp h
    cases h
    obtain ⟨inherits, done⟩ := flattens _ _ _ hf
    exact ⟨inherits, Graph.mergesOf_eq_zero.mp done⟩

/-- The entries of several mappings that are merged ask for no merge. -/
theorem inherits_of_mapM_source {ids : List Nat} {lists : List (List (Nat × Nat))}
    (h : ids.mapM (source flatten) g = .ok (lists, g')) :
    g.Inherits g' ∧ ∀ list ∈ lists, ∀ entry ∈ list, g'.isMerge entry = false := by
  induction ids generalizing g lists with
  | nil =>
    cases h
    exact ⟨.refl _, nofun⟩
  | cons id ids ih =>
    rw [List.mapM_cons] at h
    obtain ⟨first, middle, hf, h⟩ := run_bind_eq_ok.mp h
    obtain ⟨others, last, ho, h⟩ := run_bind_eq_ok.mp h
    cases h
    obtain ⟨inherits, plain⟩ := inherits_of_source flattens hf
    obtain ⟨inherits', plain'⟩ := ih ho
    refine ⟨inherits.trans inherits', List.forall_mem_cons.mpr ⟨?_, plain'⟩⟩
    rwa [inherits'.isMerge]

theorem inherits_of_sources (h : sources flatten id g = .ok (entries, g')) :
    g.Inherits g' ∧ ∀ entry ∈ entries, g'.isMerge entry = false := by
  rw [sources, run_get_bind] at h
  cases hn : g.node id with
  | scalar | map =>
    rw [hn] at h
    exact inherits_of_source flattens h
  | seq =>
    rw [hn] at h
    obtain ⟨lists, last, hl, h⟩ := run_bind_eq_ok.mp h
    cases h
    obtain ⟨inherits, plain⟩ := inherits_of_mapM_source flattens hl
    refine ⟨inherits, fun entry he => ?_⟩
    obtain ⟨list, hm, he⟩ := List.mem_flatten.mp he
    exact plain list (List.mem_reverse.mp hm) entry he

/-- With a turn for each of its merges a mapping has none left. What they give asks for none. -/
theorem inherits_of_inherited {n : Nat} (enough : g.mergesOf id ≤ n)
    (h : inherited flatten id n g = .ok (entries, g')) :
    g.Inherits g' ∧ g'.mergesOf id = 0 ∧ ∀ entry ∈ entries, g'.isMerge entry = false := by
  induction n generalizing g entries with
  | zero =>
    cases h
    exact ⟨.refl _, Nat.le_zero.mp enough, nofun⟩
  | succ n ih =>
    rw [inherited] at h
    obtain ⟨found, taken, ht, h⟩ := run_bind_eq_ok.mp h
    cases found with
    | none =>
      cases h
      obtain ⟨rfl, done⟩ := mergesOf_of_next? ht
      exact ⟨.refl _, done, nofun⟩
    | some entry =>
      obtain ⟨first, middle, hf, h⟩ := run_bind_eq_ok.mp h
      obtain ⟨others, last, ho, h⟩ := run_bind_eq_ok.mp h
      cases h
      obtain ⟨taking, fewer⟩ := inherits_of_next? ht
      obtain ⟨giving, plain⟩ := inherits_of_sources flattens hf
      -- what is flattened on the way may be the mapping itself, which then has even fewer merges
      have left : middle.mergesOf id ≤ n := by
        have := giving.merges id
        omega
      obtain ⟨going, done, plain'⟩ := ih left ho
      refine ⟨(taking.trans giving).trans going, done, fun entry he => ?_⟩
      obtain he | he := List.mem_append.mp he
      · rw [going.isMerge]
        exact plain entry he
      · exact plain' entry he

end

end Merge

/-- Flattening leaves a mapping without merges, at any depth. -/
theorem Graph.flattens_flatten (depth : Nat) : Merge.Flattens (flatten depth) := by
  induction depth with
  | zero =>
    intro id g g' h
    cases h
  | succ depth ih =>
    intro id g g' h
    rw [flatten, run_get_bind] at h
    obtain ⟨inherited, middle, hi, h⟩ := run_bind_eq_ok.mp h
    cases h
    obtain ⟨inherits, done, plain⟩ := Merge.inherits_of_inherited ih (Nat.le_refl _) hi
    obtain ⟨taking, none⟩ := inherits_inheriting done plain
    exact ⟨inherits.trans taking, none⟩

/-- A mapping that has been flattened asks for no merge, and its own entries come last, so that they count.
All other mappings keep theirs at the end, too. -/
theorem Graph.entriesOf_of_flatten {depth id : Nat} {g g' : Graph} (h : flatten depth id g = .ok ((), g')) :
    (∀ entry ∈ g'.entriesOf id, g'.isMerge entry = false) ∧ g.ownOf id <:+ g'.entriesOf id ∧
      ∀ other, g.ownOf other <:+ g'.ownOf other := by
  obtain ⟨inherits, done⟩ := flattens_flatten depth id g g' h
  refine ⟨mergesOf_eq_zero.mp done, ?_, inherits.own⟩
  rw [← ownOf_of_mergesOf done]
  exact inherits.own id

end ClusterAccess.Yaml
