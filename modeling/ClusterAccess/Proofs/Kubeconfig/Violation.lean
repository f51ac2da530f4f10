import ClusterAccess.Proofs.Kubeconfig.Declaration

/-!
# What is wrong with a document

`Violates` says which values of a document break the declaration of a kubeconfig, where they are and how. A
value that nothing looks at breaks nothing: one under a hidden spelling or an unknown key, or inside a value
that is already wrong as a whole. `validate` finds the violations and nothing else.
-/

namespace ClusterAccess.Kubeconfig

open Yaml (Value)

/-! ## Sections -/

section

variable {α : Type}

/-- What is wrong with an item of the section, which stands at the path. -/
inductive Section.EntryViolates (s : Section α) (path : List Step) : Value → Problem → Prop
  | noEntry {v : Value} (h : ∀ entry, v ≠ .map entry) : EntryViolates s path v ⟨path, .notRecord⟩
  | nameless {entry : Fields} (h : Value.get? entry "name" = none) :
      EntryViolates s path (.map entry) ⟨path ++ [.key "name"], .missing⟩
  | misnamed {entry : Fields} {v : Value} {kind : ProblemKind}
      (h : Value.get? entry "name" = some v) (hv : TextFault v kind) :
      EntryViolates s path (.map entry) ⟨path ++ [.key "name"], kind⟩
  | noRecord {entry : Fields} {v : Value} (h : Value.get? entry s.entryKey = some v)
      (hv : ∀ record, v ≠ .map record) :
      EntryViolates s path (.map entry) ⟨path ++ [.key s.entryKey], .notRecord⟩
  | member {entry record : Fields} {m : Member α} {spelling : String} {kind : ProblemKind}
      (h : Value.get? entry s.entryKey = some (.map record)) (hm : m ∈ s.members)
      (hk : m.key.Misgiven m.Fault record spelling kind) :
      EntryViolates s path (.map entry) ⟨path ++ [.key s.entryKey] ++ [.key spelling], kind⟩

/-- What is wrong with the section in a document. -/
inductive Section.Violates (s : Section α) (fs : Fields) : Problem → Prop
  | noList {v : Value} (h : Value.get? fs s.key = some v) (hn : v ≠ .null)
      (hv : ∀ vs, ¬ Listing v vs) : Violates s fs ⟨[.key s.key], .notList⟩
  | item {vs : List Value} {i : Nat} {v : Value} {p : Problem} (h : s.Lists fs vs)
      (hi : vs[i]? = some v) (hp : s.EntryViolates [.key s.key, .item i] v p) : Violates s fs p

theorem Section.EntryViolates.exists_path {s : Section α} {path : List Step} {v : Value} {p : Problem}
    (h : s.EntryViolates path v p) : ∃ rest, p.path = path ++ rest := by
  cases h
  case noEntry => exact ⟨[], (List.append_nil path).symm⟩
  case member => exact ⟨_, List.append_assoc path _ _⟩
  all_goals exact ⟨_, rfl⟩

theorem Section.Violates.exists_path {s : Section α} {fs : Fields} {p : Problem}
    (h : s.Violates fs p) : ∃ rest, p.path = .key s.key :: rest := by
  cases h with
  | noList => exact ⟨[], rfl⟩
  | item _ _ hp =>
    obtain ⟨rest, hr⟩ := hp.exists_path
    exact ⟨_, hr⟩

/-- The check finds the problems of the members one after another. -/
structure Section.Refuses (s : Section α) (read : List Step → Fields → Validated α) : Prop where
  problems (path : List Step) (fs : Fields) :
    (read path fs).problems = s.members.flatMap (Member.problems path fs)
  founded (path : List Step) (fs : Fields) : (read path fs).Founded

theorem mem_problems_readRecord {read : List Step → Fields → Validated α} {path : List Step}
    {v : Value} {p : Problem} :
    p ∈ (readRecord read path v).problems ↔
      (∃ fs, v = .map fs ∧ p ∈ (read path fs).problems) ∨
        (∀ fs, v ≠ .map fs) ∧ p = ⟨path, .notRecord⟩ := by
  cases v
  case map fs =>
    constructor
    · exact fun h => .inl ⟨fs, rfl, h⟩
    · rintro (⟨_, ⟨⟩, h⟩ | ⟨h, -⟩)
      · exact h
      · exact absurd rfl (h fs)
  all_goals
    constructor
    · exact fun h => .inr ⟨nofun, List.mem_singleton.mp h⟩
    · rintro (⟨_, ⟨⟩, -⟩ | ⟨-, rfl⟩)
      exact List.mem_singleton_self _

theorem mem_problems_requiredName {path : List Step} {fs : Fields} {p : Problem} :
    p ∈ (requiredName path fs).problems ↔
      (Value.get? fs "name" = none ∧ p = ⟨path ++ [.key "name"], .missing⟩) ∨
        ∃ v kind, Value.get? fs "name" = some v ∧ TextFault v kind ∧
          p = ⟨path ++ [.key "name"], kind⟩ := by
  unfold requiredName
  cases Value.get? fs "name" with
  | none => simp [Validated.problem, Validated.problems]
  | some v => simp [refuses_text.mem_problems]

variable {s : Section α} {read : List Step → Fields → Validated α}

theorem Section.mem_problems_checkRecord (h : s.Refuses read) {path : List Step} {entry : Fields}
    {p : Problem} :
    p ∈ (s.checkRecord read path entry).problems ↔
      (∃ v, Value.get? entry s.entryKey = some v ∧ (∀ record, v ≠ .map record) ∧
        p = ⟨path ++ [.key s.entryKey], .notRecord⟩) ∨
      ∃ record, Value.get? entry s.entryKey = some (.map record) ∧
        ∃ m ∈ s.members, p ∈ m.problems (path ++ [.key s.entryKey]) record := by
  unfold checkRecord
  cases Value.get? entry s.entryKey with
  | none => simp [Validated.problems]
  | some v =>
    simp only [mem_problems_readRecord, h.problems, List.mem_flatMap]
    constructor
    · rintro (⟨record, rfl, hp⟩ | ⟨hv, rfl⟩)
      · exact .inr ⟨record, rfl, hp⟩
      · exact .inl ⟨v, rfl, hv, rfl⟩
    · rintro (⟨_, ⟨⟩, hv, rfl⟩ | ⟨record, ⟨⟩, hp⟩)
      · exact .inr ⟨hv, rfl⟩
      · exact .inl ⟨record, rfl, hp⟩

theorem mem_problems_entry (h : s.Refuses read) {path : List Step} {v : Value} {p : Problem} :
    p ∈ (readRecord (Entry.read s.entryKey s.empty read) path v).problems ↔
      s.EntryViolates path v p := by
  simp only [mem_problems_readRecord, Entry.read_eq, Validated.problems_seq, Validated.problems_map,
    List.mem_append, mem_problems_requiredName, Section.mem_problems_checkRecord h,
    Member.mem_problems]
  constructor
  · rintro (⟨entry, rfl, (⟨hn, rfl⟩ | ⟨v, kind, hn, hv, rfl⟩) | ⟨v, hr, hv, rfl⟩ |
      ⟨record, hr, m, hm, spelling, kind, hk, rfl⟩⟩ | ⟨hv, rfl⟩)
    · exact .nameless hn
    · exact .misnamed hn hv
    · exact .noRecord hr hv
    · exact .member hr hm hk
    · exact .noEntry hv
  · rintro (hv | hn | ⟨hn, hv⟩ | ⟨hr, hv⟩ | ⟨hr, hm, hk⟩)
    · exact .inr ⟨hv, rfl⟩
    · exact .inl ⟨_, rfl, .inl (.inl ⟨hn, rfl⟩)⟩
    · exact .inl ⟨_, rfl, .inl (.inr ⟨_, _, hn, hv, rfl⟩)⟩
    · exact .inl ⟨_, rfl, .inr (.inl ⟨_, hr, hv, rfl⟩)⟩
    · exact .inl ⟨_, rfl, .inr (.inr ⟨_, hr, _, hm, _, _, hk, rfl⟩)⟩

theorem Section.mem_problems_check (h : s.Refuses read) {fs : Fields} {p : Problem} :
    p ∈ (s.check read fs).problems ↔ s.Violates fs p := by
  constructor
  · intro hp
    obtain ⟨vs, hvs⟩ | ⟨v, hv, hn, unlisted⟩ := s.lists_or_not fs
    · rw [check_of_lists hvs] at hp
      obtain ⟨i, v, hi, hp⟩ := Validated.mem_problems_items.mp hp
      rw [Nat.zero_add] at hp
      exact .item hvs hi ((mem_problems_entry h).mp hp)
    · rw [check_of_not_listing hv hn unlisted] at hp
      rw [List.mem_singleton.mp hp]
      exact .noList hv hn unlisted
  · rintro (⟨hv, hn, unlisted⟩ | @⟨_, i, _, _, hvs, hi, hp⟩)
    · rw [check_of_not_listing hv hn unlisted]
      exact List.mem_singleton_self _
    · rw [check_of_lists hvs]
      refine Validated.mem_problems_items.mpr ⟨i, _, hi, ?_⟩
      rw [Nat.zero_add]
      exact (mem_problems_entry h).mpr hp

theorem founded_readRecord {β : Type} {read : List Step → Fields → Validated β}
    (h : ∀ path fs, (read path fs).Founded) (path : List Step) (v : Value) :
    (readRecord read path v).Founded := by
  cases v
  case map fs => exact h path fs
  all_goals exact Validated.founded_problem path .notRecord

theorem founded_requiredName (path : List Step) (fs : Fields) : (requiredName path fs).Founded := by
  unfold requiredName
  split
  · exact Validated.founded_problem _ _
  · exact refuses_text.founded _ _

theorem Section.founded_check (h : s.Refuses read) (fs : Fields) : (s.check read fs).Founded := by
  have record (path : List Step) (entry : Fields) : (s.checkRecord read path entry).Founded := by
    unfold checkRecord
    split
    · exact Validated.founded_accepted _
    · exact founded_readRecord h.founded _ _
  obtain ⟨vs, hvs⟩ | ⟨v, hv, hn, unlisted⟩ := s.lists_or_not fs
  · rw [check_of_lists hvs]
    refine Validated.founded_items fun i v => founded_readRecord (fun path entry => ?_) _ v
    rw [Entry.read_eq]
    exact (founded_requiredName path entry).map.seq (record path entry)
  · rw [check_of_not_listing hv hn unlisted]
    exact Validated.founded_problem _ _

end

/-! ## The document -/

theorem refuses_cluster : clusterSection.Refuses Cluster.read where
  problems path fs := by simp [Cluster.read, clusterSection, Member.problems]
  founded path fs :=
    (((founded_optionalText path fs _).map.seq (refuses_truth.founded_optional path fs _)).seq
      (founded_optionalText path fs _)).seq (founded_optionalText path fs _)

theorem refuses_context : contextSection.Refuses Context.read where
  problems path fs := by simp [Context.read, contextSection, Member.problems]
  founded path fs :=
    ((founded_optionalText path fs _).map.seq (founded_optionalText path fs _)).seq
      (founded_optionalText path fs _)

theorem refuses_user : userSection.Refuses User.read where
  problems path fs := by simp [User.read, userSection, Member.problems]
  founded path fs :=
    ((((((founded_optionalText path fs _).map.seq (founded_optionalText path fs _)).seq
      (founded_optionalText path fs _)).seq (founded_optionalText path fs _)).seq
      (founded_optionalText path fs _)).seq (founded_optionalText path fs _)).seq
      (founded_optionalText path fs _)

/-- What is wrong with a document. -/
inductive Violates (fs : Fields) : Problem → Prop
  | cluster {p : Problem} (h : clusterSection.Violates fs p) : Violates fs p
  | context {p : Problem} (h : contextSection.Violates fs p) : Violates fs p
  | user {p : Problem} (h : userSection.Violates fs p) : Violates fs p
  | current {spelling : String} {kind : ProblemKind}
      (h : currentContextKey.Misgiven TextFault fs spelling kind) : Violates fs ⟨[.key spelling], kind⟩

theorem mem_problems_validate {fs : Fields} {p : Problem} :
    p ∈ (validate fs).problems ↔ Violates fs p := by
  simp only [validate_eq, Validated.problems_seq, Validated.problems_map, List.mem_append,
    Section.mem_problems_check refuses_cluster, Section.mem_problems_check refuses_context,
    Section.mem_problems_check refuses_user]
  have current : p ∈ (optionalText [] fs currentContextKey).problems ↔ _ :=
    refuses_text.mem_problems_optional
  rw [current]
  constructor
  · rintro (((h | h) | h) | ⟨spelling, kind, h, rfl⟩)
    · exact .cluster h
    · exact .context h
    · exact .user h
    · exact .current h
  · rintro (h | h | h | h)
    · exact .inl (.inl (.inl h))
    · exact .inl (.inl (.inr h))
    · exact .inl (.inr h)
    · exact .inr ⟨_, _, h, rfl⟩

theorem founded_validate (fs : Fields) : (validate fs).Founded := by
  rw [validate_eq]
  exact (((Section.founded_check refuses_cluster fs).map.seq
    (Section.founded_check refuses_context fs)).seq (Section.founded_check refuses_user fs)).seq
    (founded_optionalText [] fs currentContextKey)

end ClusterAccess.Kubeconfig
