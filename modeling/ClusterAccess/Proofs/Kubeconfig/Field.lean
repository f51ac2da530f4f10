import ClusterAccess.Proofs.Kubeconfig.Scalar

/-!
# Optional fields of a kubeconfig

A key finds at most one value in a mapping, and it counts for the field unless it is null. `Member` is an
optional field of a record under its key.
-/

namespace ClusterAccess.Kubeconfig

open Yaml (Value)

/-! ## Keys -/

def Key.spellings (k : Key) : List String := [k.hyphenated, k.plain]

/-- No spelling belongs to both keys. -/
def Key.Apart (k l : Key) : Prop := ∀ s ∈ k.spellings, s ∉ l.spellings

instance (k l : Key) : Decidable (k.Apart l) :=
  inferInstanceAs (Decidable (∀ s ∈ k.spellings, s ∉ l.spellings))

instance : Std.Symm Key.Apart where
  symm _ _ h s hl hk := h s hk hl

/-- The value under a key. The spelling with hyphens hides the other. -/
inductive Key.Finds (k : Key) (fs : Fields) : String → Value → Prop
  | hyphenated {v : Value} (h : Value.get? fs k.hyphenated = some v) : Finds k fs k.hyphenated v
  | plain {v : Value} (unhidden : Value.get? fs k.hyphenated = none)
      (h : Value.get? fs k.plain = some v) : Finds k fs k.plain v

theorem Key.find?_eq_some {k : Key} {fs : Fields} {spelling : String} {v : Value} :
    k.find? fs = some (spelling, v) ↔ k.Finds fs spelling v := by
  unfold Key.find?
  cases hh : Value.get? fs k.hyphenated with
  | some w =>
    constructor
    · rintro ⟨⟩
      exact .hyphenated hh
    · rintro (h | ⟨unhidden, -⟩)
      · rw [h] at hh
        cases hh
        rfl
      · rw [unhidden] at hh
        cases hh
  | none =>
    simp only [Option.map_eq_some_iff, Prod.mk.injEq]
    constructor
    · rintro ⟨_, h, rfl, rfl⟩
      exact .plain hh h
    · rintro (h | ⟨-, h⟩)
      · rw [h] at hh
        cases hh
      · exact ⟨v, h, rfl, rfl⟩

theorem Key.Finds.mem_spellings {k : Key} {fs : Fields} {spelling : String} {v : Value}
    (h : k.Finds fs spelling v) : spelling ∈ k.spellings := by
  cases h <;> simp [spellings]

/-- A value counts where the other spelling has none. -/
theorem Key.finds_of_get? {k : Key} {fs : Fields} {spelling : String} {v : Value}
    (h : Value.get? fs spelling = some v) (hs : spelling ∈ k.spellings)
    (only : ∀ s ∈ k.spellings, s ≠ spelling → Value.get? fs s = none) : k.Finds fs spelling v := by
  by_cases hyphenated : k.hyphenated = spelling
  · subst hyphenated
    exact .hyphenated h
  · have plain : spelling = k.plain := by simpa [spellings, Ne.symm hyphenated] using hs
    subst plain
    exact .plain (only _ List.mem_cons_self hyphenated) h

/-- A key of one word has one spelling. -/
theorem Key.get?_of_finds_word {key spelling : String} {fs : Fields} {v : Value}
    (found : (word key).Finds fs spelling v) : Value.get? fs key = some v := by
  cases found <;> assumption

theorem Key.find?_eq_none {k : Key} {fs : Fields} :
    k.find? fs = none ↔ ∀ spelling v, ¬ k.Finds fs spelling v := by
  simp only [← find?_eq_some, Option.eq_none_iff_forall_ne_some, Prod.forall, ne_eq]

/-! ## Checks of optional fields -/

/-- An optional field: absent and null are none. -/
inductive Optionally {α : Type} (Of : Value → α → Prop) (k : Key) (fs : Fields) : Option α → Prop
  | absent (h : ∀ spelling v, ¬ k.Finds fs spelling v) : Optionally Of k fs none
  | null {spelling : String} (h : k.Finds fs spelling .null) : Optionally Of k fs none
  | given {spelling : String} {v : Value} {a : α} (h : k.Finds fs spelling v) (hv : Of v a) :
      Optionally Of k fs (some a)

/-- An optional field holds a value with a fault, under the spelling. -/
def Key.Misgiven (k : Key) (Fault : Value → ProblemKind → Prop) (fs : Fields) (spelling : String)
    (kind : ProblemKind) : Prop :=
  ∃ v, k.Finds fs spelling v ∧ v ≠ .null ∧ Fault v kind

section

variable {α : Type} {read : List Step → Value → Validated α} {path : List Step} {fs : Fields} {k : Key}

theorem optional_of_absent (h : ∀ spelling v, ¬ k.Finds fs spelling v) :
    optional read path fs k = .accepted none := by
  simp only [optional, Key.find?_eq_none.mpr h]

theorem optional_of_null {spelling : String} (h : k.Finds fs spelling .null) :
    optional read path fs k = .accepted none := by
  simp only [optional, Key.find?_eq_some.mpr h]

theorem optional_of_finds {spelling : String} {v : Value} (h : k.Finds fs spelling v) (hv : v ≠ .null) :
    optional read path fs k = some <$> read (path ++ [.key spelling]) v := by
  unfold optional
  rw [Key.find?_eq_some.mpr h]
  split
  · contradiction
  · simp_all
  · simp_all

/-- What a key finds is null or not. -/
theorem Key.finds_cases (k : Key) (fs : Fields) :
    (∀ spelling v, ¬ k.Finds fs spelling v) ∨ (∃ spelling, k.Finds fs spelling .null) ∨
      ∃ spelling v, k.Finds fs spelling v ∧ v ≠ .null := by
  cases h : k.find? fs with
  | none => exact .inl (find?_eq_none.mp h)
  | some e =>
    obtain ⟨spelling, v⟩ := e
    have found := find?_eq_some.mp h
    by_cases hv : v = .null
    · exact .inr (.inl ⟨spelling, hv ▸ found⟩)
    · exact .inr (.inr ⟨spelling, v, found, hv⟩)

theorem optional_eq_accepted {Of : Value → α → Prop} (h : Accepts read Of)
    (null : ∀ a, ¬ Of .null a) {o : Option α} :
    optional read path fs k = .accepted o ↔ Optionally Of k fs o := by
  constructor
  · intro ho
    obtain absent | ⟨spelling, found⟩ | ⟨spelling, v, found, hv⟩ := k.finds_cases fs
    · rw [optional_of_absent absent] at ho
      cases ho
      exact .absent absent
    · rw [optional_of_null found] at ho
      cases ho
      exact .null found
    · rw [optional_of_finds found hv] at ho
      obtain ⟨a, ha, rfl⟩ := Validated.map_eq_accepted.mp ho
      exact .given found ((h _ v a).mp ha)
  · rintro (absent | found | ⟨found, ha⟩)
    · exact optional_of_absent absent
    · exact optional_of_null found
    · rw [optional_of_finds found (by rintro rfl; exact null _ ha)]
      exact Validated.map_eq_accepted.mpr ⟨_, (h _ _ _).mpr ha, rfl⟩

variable {Fault : Value → ProblemKind → Prop}

theorem Refuses.mem_problems_optional (h : Refuses read Fault) {p : Problem} :
    p ∈ (optional read path fs k).problems ↔
      ∃ spelling kind, k.Misgiven Fault fs spelling kind ∧ p = ⟨path ++ [.key spelling], kind⟩ := by
  constructor
  · intro hp
    obtain absent | ⟨spelling, found⟩ | ⟨spelling, v, found, hv⟩ := k.finds_cases fs
    · rw [optional_of_absent absent] at hp
      cases hp
    · rw [optional_of_null found] at hp
      cases hp
    · rw [optional_of_finds found hv, Validated.problems_map] at hp
      obtain ⟨kind, hf, rfl⟩ := h.mem_problems.mp hp
      exact ⟨spelling, kind, ⟨v, found, hv, hf⟩, rfl⟩
  · rintro ⟨spelling, kind, ⟨v, found, hv, hf⟩, rfl⟩
    rw [optional_of_finds found hv, Validated.problems_map]
    exact h.mem_problems.mpr ⟨kind, hf, rfl⟩

theorem Refuses.pairwise_optional (h : Refuses read Fault) (path : List Step) (fs : Fields) (k : Key)
    (r : Problem → Problem → Prop) : (optional read path fs k).problems.Pairwise r := by
  obtain absent | ⟨spelling, found⟩ | ⟨spelling, v, found, hv⟩ := k.finds_cases fs
  · rw [optional_of_absent absent]
    exact .nil
  · rw [optional_of_null found]
    exact .nil
  · rw [optional_of_finds found hv, Validated.problems_map]
    exact h.pairwise _ v r

theorem Refuses.founded_optional (h : Refuses read Fault) (path : List Step) (fs : Fields) (k : Key) :
    (optional read path fs k).Founded := by
  obtain absent | ⟨spelling, found⟩ | ⟨spelling, v, found, hv⟩ := k.finds_cases fs
  · rw [optional_of_absent absent]
    exact Validated.founded_accepted none
  · rw [optional_of_null found]
    exact Validated.founded_accepted none
  · rw [optional_of_finds found hv]
    exact (h.founded _ v).map

end

theorem optionalText_eq_accepted {path : List Step} {fs : Fields} {k : Key} {o : Option Text.Content} :
    optionalText path fs k = .accepted o ↔ Optionally TextOf k fs o :=
  optional_eq_accepted accepts_text not_textOf_null

theorem optionalTruth_eq_accepted {path : List Step} {fs : Fields} {k : Key} {o : Option Bool} :
    optional readTruth path fs k = .accepted o ↔ Optionally TruthOf k fs o :=
  optional_eq_accepted accepts_truth not_truthOf_null

theorem founded_optionalText (path : List Step) (fs : Fields) (k : Key) :
    (optionalText path fs k).Founded :=
  refuses_text.founded_optional path fs k

/-! ## Members -/

/-- An optional field of a record, with its key. -/
inductive Member (α : Type) where
  | text (key : Key) (field : α → Option Text.Content)
  | truth (key : Key) (field : α → Option Bool)

def Member.key {α : Type} : Member α → Key
  | text key _ => key
  | truth key _ => key

/-- The entries of a mapping give the field of a record. -/
def Member.Describes {α : Type} (m : Member α) (fs : Fields) (a : α) : Prop :=
  match m with
  | text key field => Optionally TextOf key fs (field a)
  | truth key field => Optionally TruthOf key fs (field a)

/-- What is no value for the field. -/
def Member.Fault {α : Type} : Member α → Value → ProblemKind → Prop
  | text .. => TextFault
  | truth .. => TruthFault

def Member.problems {α : Type} (path : List Step) (fs : Fields) : Member α → List Problem
  | text key _ => (optionalText path fs key).problems
  | truth key _ => (optional readTruth path fs key).problems

theorem Member.mem_problems {α : Type} {m : Member α} {path : List Step} {fs : Fields} {p : Problem} :
    p ∈ m.problems path fs ↔ ∃ spelling kind, m.key.Misgiven m.Fault fs spelling kind ∧
      p = ⟨path ++ [.key spelling], kind⟩ := by
  cases m with
  | text key field => exact refuses_text.mem_problems_optional
  | truth key field => exact refuses_truth.mem_problems_optional

theorem Member.pairwise_problems {α : Type} (m : Member α) (path : List Step) (fs : Fields)
    (r : Problem → Problem → Prop) : (m.problems path fs).Pairwise r := by
  cases m with
  | text key field => exact refuses_text.pairwise_optional path fs key r
  | truth key field => exact refuses_truth.pairwise_optional path fs key r

end ClusterAccess.Kubeconfig
