import ClusterAccess.Proofs.Kubeconfig.Violation

/-!
# Documents that differ in one place

Two mappings are `AlikeBut` for a key when they have the same under all others. Checks look at nothing but
their own keys, so what is checked under a key that is apart comes to the same. A mapping `Sets` a key when it
has a value under it and is otherwise as another; a document `Relists` a section when it lists items there and
is otherwise as another.
-/

namespace ClusterAccess.Kubeconfig

open Yaml (Value)

/-! ## Keys -/

/-- The mappings have the same under all that is no spelling of the key. -/
def Key.AlikeBut (k : Key) (fs gs : Fields) : Prop :=
  ∀ s, s ∉ k.spellings → Value.get? gs s = Value.get? fs s

/-- An optional field reads the same from both mappings, whatever is read. -/
def Key.ReadsAlike (k : Key) (fs gs : Fields) : Prop :=
  ∀ (α : Type) (read : List Step → Value → Validated α) (path : List Step),
    optional read path gs k = optional read path fs k

/-- The second mapping has the value under the spelling, and is otherwise as the first. -/
structure Sets (fs : Fields) (spelling : String) (v : Value) (gs : Fields) : Prop where
  here : Value.get? gs spelling = some v
  elsewhere (s : String) (h : s ≠ spelling) : Value.get? gs s = Value.get? fs s

theorem sets_append (fs : Fields) (spelling : String) (v : Value) :
    Sets fs spelling v (fs ++ [(.text spelling, v)]) where
  here := by rw [Value.get?_append, Value.get?_singleton, if_pos rfl, Option.some_or]
  elsewhere s h := by rw [Value.get?_append, Value.get?_singleton, if_neg h.symm, Option.none_or]

/-- A value at the end may be exchanged for another. -/
theorem sets_last (fs : Fields) (spelling : String) (v w : Value) :
    Sets (fs ++ [(.text spelling, v)]) spelling w (fs ++ [(.text spelling, w)]) where
  here := (sets_append fs spelling w).here
  elsewhere s h := by
    rw [(sets_append fs spelling w).elsewhere s h, (sets_append fs spelling v).elsewhere s h]

section

variable {k l : Key} {fs gs : Fields}

theorem Sets.alikeBut {spelling : String} {v : Value} (set : Sets fs spelling v gs)
    (h : spelling ∈ k.spellings) : k.AlikeBut fs gs := by
  intro s hs
  refine set.elsewhere s ?_
  rintro rfl
  exact hs h

theorem Key.AlikeBut.get?_eq (alike : k.AlikeBut fs gs) (apart : k.Apart l) {s : String}
    (hs : s ∈ l.spellings) : Value.get? gs s = Value.get? fs s :=
  alike s fun hk => apart s hk hs

theorem Key.ReadsAlike.optionalText_eq (alike : k.ReadsAlike fs gs) (path : List Step) :
    optionalText path gs k = optionalText path fs k := alike Text.Content readText path

theorem Key.find?_congr (same : ∀ s ∈ k.spellings, Value.get? gs s = Value.get? fs s) :
    k.find? gs = k.find? fs := by
  have hyphenated := same k.hyphenated List.mem_cons_self
  have plain := same k.plain (List.mem_cons_of_mem _ List.mem_cons_self)
  rw [find?, find?, hyphenated, plain]

theorem Key.readsAlike_of_get?_eq (same : ∀ s ∈ k.spellings, Value.get? gs s = Value.get? fs s) :
    k.ReadsAlike fs gs := by
  intro α read path
  rw [optional, optional, find?_congr same]

/-- What reads the same describes the same. -/
theorem Key.ReadsAlike.optionally_iff {α : Type} {Of : Value → α → Prop}
    {read : List Step → Value → Validated α} (alike : k.ReadsAlike fs gs) (accepts : Accepts read Of)
    (null : ∀ a, ¬ Of .null a) {o : Option α} : Optionally Of k gs o ↔ Optionally Of k fs o := by
  have same : optional read [] gs k = .accepted o ↔ optional read [] fs k = .accepted o :=
    iff_of_eq (congrArg (· = _) (alike α read []))
  rwa [optional_eq_accepted accepts null, optional_eq_accepted accepts null] at same

theorem Key.AlikeBut.readsAlike (alike : k.AlikeBut fs gs) (apart : k.Apart l) : l.ReadsAlike fs gs :=
  readsAlike_of_get?_eq fun _ hs => alike.get?_eq apart hs

end

/-! ## Records -/

section

variable {α : Type} {s : Section α} {read : List Step → Fields → Validated α} {fs gs : Fields}

theorem Member.describes_congr {m : Member α} (h : m.key.ReadsAlike fs gs) (a : α) :
    m.Describes gs a ↔ m.Describes fs a := by
  cases m with
  | text key field => exact h.optionally_iff accepts_text not_textOf_null
  | truth key field => exact h.optionally_iff accepts_truth not_truthOf_null

theorem Member.problems_congr {m : Member α} (h : m.key.ReadsAlike fs gs) (path : List Step) :
    m.problems path gs = m.problems path fs := by
  cases m with
  | text key field => exact congrArg Validated.problems (h Text.Content readText path)
  | truth key field => exact congrArg Validated.problems (h Bool readTruth path)

/-- Records whose members read alike are checked alike. -/
theorem Section.read_congr (accepts : s.Accepts read) (refuses : s.Refuses read)
    (h : ∀ m ∈ s.members, m.key.ReadsAlike fs gs) (path : List Step) :
    read path gs = read path fs := by
  refine Validated.ext (fun a => ?_) ?_
  · rw [accepts, accepts]
    exact forall₂_congr fun m hm => m.describes_congr (h m hm) a
  · rw [refuses.problems, refuses.problems]
    exact List.flatMap_congr fun m hm => m.problems_congr (h m hm) path

end

/-! ## Sections -/

section

variable {α : Type} {s : Section α} {read : List Step → Fields → Validated α} {fs gs : Fields}

theorem Key.AlikeBut.check_eq {k : Key} (alike : k.AlikeBut fs gs) (apart : k.Apart (.word s.key)) :
    s.check read gs = s.check read fs := by
  rw [Section.check, Section.check, readEntries, readEntries,
    alike.get?_eq apart (s := s.key) List.mem_cons_self]

/-- The first document lists the one list of items in the section and the second the other, and there is no
other difference between them. -/
structure Section.Relists (s : Section α) (fs gs : Fields) (vs ws : List Value) : Prop where
  before : s.Lists fs vs
  after : s.Lists gs ws
  elsewhere : (Key.word s.key).AlikeBut fs gs

end

/-! ## The document -/

theorem validate_congr {fs gs : Fields}
    (clusters : clusterSection.check Cluster.read gs = clusterSection.check Cluster.read fs)
    (contexts : contextSection.check Context.read gs = contextSection.check Context.read fs)
    (users : userSection.check User.read gs = userSection.check User.read fs)
    (current : currentContextKey.ReadsAlike fs gs) : validate gs = validate fs := by
  rw [validate_eq, validate_eq, clusters, contexts, users, current.optionalText_eq]

theorem problems_validate (fs : Fields) :
    (validate fs).problems = (clusterSection.check Cluster.read fs).problems ++
      (contextSection.check Context.read fs).problems ++ (userSection.check User.read fs).problems ++
      (optionalText [] fs currentContextKey).problems := by
  simp only [validate_eq, Validated.problems_seq, Validated.problems_map]

end ClusterAccess.Kubeconfig
