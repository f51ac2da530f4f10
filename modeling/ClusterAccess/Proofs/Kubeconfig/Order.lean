import ClusterAccess.Proofs.Kubeconfig.Violation

/-!
# The order of violations

`Before` is the order in which a kubeconfig is declared, in depth, with the items of a list in the order of
their numbers. `validate` finds violations in this order.
-/

namespace ClusterAccess.Kubeconfig

open Yaml (Value)

/-- The first spelling is of an earlier key than the second. -/
def InOrder (keys : List Key) (a b : String) : Prop :=
  ∃ (i j : Nat) (k l : Key), i < j ∧ keys[i]? = some k ∧ keys[j]? = some l ∧
    a ∈ k.spellings ∧ b ∈ l.spellings

theorem pairwise_inOrder (keys : List Key) :
    keys.Pairwise fun k l => ∀ a ∈ k.spellings, ∀ b ∈ l.spellings, InOrder keys a b := by
  rw [List.pairwise_iff_getElem]
  intro i j hi hj hij a ha b hb
  exact ⟨i, j, _, _, hij, List.getElem?_eq_getElem hi, List.getElem?_eq_getElem hj, ha, hb⟩

theorem InOrder.ne {keys : List Key} (apart : keys.Pairwise Key.Apart) {a b : String}
    (h : InOrder keys a b) : a ≠ b := by
  obtain ⟨i, j, k, l, hij, hi, hj, ha, hb⟩ := h
  obtain ⟨li, rfl⟩ := List.getElem?_eq_some_iff.mp hi
  obtain ⟨lj, rfl⟩ := List.getElem?_eq_some_iff.mp hj
  rintro rfl
  exact List.pairwise_iff_getElem.mp apart i j li lj hij a ha hb

/-! ## Sections -/

section

variable {α : Type}

def Section.entryKeys (s : Section α) : List Key := [.word "name", .word s.entryKey]

def Section.memberKeys (s : Section α) : List Key := s.members.map Member.key

/-- The order of places in the section: items by their numbers, and in an item by the declared keys. -/
inductive Section.Before (s : Section α) : List Step → List Step → Prop
  | item {i j : Nat} (h : i < j) (p q : List Step) :
      Before s (.key s.key :: .item i :: p) (.key s.key :: .item j :: q)
  | key {a b : String} (i : Nat) (h : InOrder s.entryKeys a b) (p q : List Step) :
      Before s (.key s.key :: .item i :: .key a :: p) (.key s.key :: .item i :: .key b :: q)
  | member {a b : String} (i : Nat) (h : InOrder s.memberKeys a b) (p q : List Step) :
      Before s (.key s.key :: .item i :: .key s.entryKey :: .key a :: p)
        (.key s.key :: .item i :: .key s.entryKey :: .key b :: q)

theorem Section.not_before_self (s : Section α) (p : List Step) : ¬ s.Before p p := by
  rintro (h | ⟨_, h⟩ | ⟨_, h⟩)
  · exact Nat.lt_irrefl _ h
  · exact h.ne (by simpa [entryKeys] using s.named) rfl
  · exact h.ne s.apart rfl

variable {s : Section α} {read : List Step → Fields → Validated α}

/-- The members of a record stand in the order of their keys. -/
theorem Section.pairwise_checkRecord (h : s.Refuses read) (i : Nat) (entry : Fields) :
    (s.checkRecord read [.key s.key, .item i] entry).problems.Pairwise
      fun p q => s.Before p.path q.path := by
  unfold checkRecord readRecord
  split
  · exact .nil
  · split
    · rw [h.problems, List.pairwise_flatMap]
      refine ⟨fun m _ => m.pairwise_problems _ _ _, ?_⟩
      refine (List.pairwise_map.mp (pairwise_inOrder s.memberKeys)).imp fun ordered p hp q hq => ?_
      obtain ⟨a, -, ⟨_, ha, -⟩, rfl⟩ := Member.mem_problems.mp hp
      obtain ⟨b, -, ⟨_, hb, -⟩, rfl⟩ := Member.mem_problems.mp hq
      exact .member i (ordered a ha.mem_spellings b hb.mem_spellings) [] []
    · exact List.pairwise_singleton _ _

/-- The name of an entry stands before its record. -/
theorem Section.pairwise_entry (h : s.Refuses read) (i : Nat) (v : Value) :
    (readRecord (Entry.read s.entryKey s.empty read) [.key s.key, .item i] v).problems.Pairwise
      fun p q => s.Before p.path q.path := by
  unfold readRecord
  split
  · rename_i entry
    rw [Entry.read_eq, Validated.problems_seq, Validated.problems_map, List.pairwise_append]
    refine ⟨?_, pairwise_checkRecord h i entry, fun p hp q hq => ?_⟩
    · unfold requiredName
      split
      · exact List.pairwise_singleton _ _
      · exact refuses_text.pairwise _ _ _
    · have name : p.path = [.key s.key, .item i, .key "name"] := by
        obtain ⟨-, rfl⟩ | ⟨v, kind, -, -, rfl⟩ := mem_problems_requiredName.mp hp <;> rfl
      have record : ∃ rest, q.path = .key s.key :: .item i :: .key s.entryKey :: rest := by
        obtain ⟨v, -, -, rfl⟩ | ⟨record, -, m, -, hq⟩ := (mem_problems_checkRecord h).mp hq
        · exact ⟨[], rfl⟩
        · obtain ⟨spelling, kind, -, rfl⟩ := Member.mem_problems.mp hq
          exact ⟨[.key spelling], rfl⟩
      obtain ⟨rest, record⟩ := record
      rw [name, record]
      refine .key i ⟨0, 1, _, _, Nat.zero_lt_one, rfl, rfl, ?_, ?_⟩ [] rest <;>
        exact List.mem_cons_self
  · exact List.pairwise_singleton _ _

theorem Section.pairwise_check (h : s.Refuses read) (fs : Fields) :
    (s.check read fs).problems.Pairwise fun p q => s.Before p.path q.path := by
  obtain ⟨vs, hvs⟩ | ⟨v, hv, hn, unlisted⟩ := s.lists_or_not fs
  · rw [check_of_lists hvs]
    refine Validated.pairwise_problems_items (pairwise_entry h) fun i j v w hij p hp q hq => ?_
    obtain ⟨p', hp⟩ := ((mem_problems_entry h).mp hp).exists_path
    obtain ⟨q', hq⟩ := ((mem_problems_entry h).mp hq).exists_path
    rw [hp, hq]
    exact .item hij p' q'
  · rw [check_of_not_listing hv hn unlisted]
    exact List.pairwise_singleton _ _

end

/-! ## The document -/

def documentKeys : List Key :=
  [.word clusterSection.key, .word contextSection.key, .word userSection.key, currentContextKey]

/-- The order of places in a document. -/
inductive Before : List Step → List Step → Prop
  | key {a b : String} (h : InOrder documentKeys a b) (p q : List Step) :
      Before (.key a :: p) (.key b :: q)
  | cluster {p q : List Step} (h : clusterSection.Before p q) : Before p q
  | context {p q : List Step} (h : contextSection.Before p q) : Before p q
  | user {p q : List Step} (h : userSection.Before p q) : Before p q

theorem not_before_self (p : List Step) : ¬ Before p p := by
  rintro (h | h | h | h)
  · exact h.ne (by decide) rfl
  · exact clusterSection.not_before_self p h
  · exact contextSection.not_before_self p h
  · exact userSection.not_before_self p h

/-- The place is at the key of the document, in one of its spellings, or below it. -/
def StartsAt (k : Key) (path : List Step) : Prop :=
  ∃ a ∈ k.spellings, ∃ rest, path = .key a :: rest

theorem before_of_startsAt (i j : Nat) (hij : i < j) {k l : Key} (hi : documentKeys[i]? = some k)
    (hj : documentKeys[j]? = some l) {p q : List Step} (hp : StartsAt k p) (hq : StartsAt l q) :
    Before p q := by
  obtain ⟨a, ha, p', rfl⟩ := hp
  obtain ⟨b, hb, q', rfl⟩ := hq
  exact .key ⟨i, j, k, l, hij, hi, hj, ha, hb⟩ p' q'

theorem pairwise_validate (fs : Fields) :
    (validate fs).problems.Pairwise fun p q => Before p.path q.path := by
  have starts {β : Type} {s : Section β} {read : List Step → Fields → Validated β}
      (h : s.Refuses read) {p : Problem} (hp : p ∈ (s.check read fs).problems) :
      StartsAt (.word s.key) p.path :=
    ⟨s.key, List.mem_cons_self, ((Section.mem_problems_check h).mp hp).exists_path⟩
  have current {p : Problem} (hp : p ∈ (optionalText [] fs currentContextKey).problems) :
      StartsAt currentContextKey p.path := by
    obtain ⟨a, kind, ⟨v, hk, -⟩, rfl⟩ := refuses_text.mem_problems_optional.mp hp
    exact ⟨a, hk.mem_spellings, [], rfl⟩
  have clusters := (Section.pairwise_check refuses_cluster fs).imp Before.cluster
  have contexts := (Section.pairwise_check refuses_context fs).imp Before.context
  have users := (Section.pairwise_check refuses_user fs).imp Before.user
  simp only [validate_eq, Validated.problems_seq, Validated.problems_map, List.pairwise_append,
    List.mem_append]
  refine ⟨⟨⟨clusters, contexts, fun p hp q hq => ?_⟩, users, ?_⟩,
    refuses_text.pairwise_optional [] fs currentContextKey _, ?_⟩
  · exact before_of_startsAt 0 1 (by decide) rfl rfl (starts refuses_cluster hp)
      (starts refuses_context hq)
  · rintro p (hp | hp) q hq
    · exact before_of_startsAt 0 2 (by decide) rfl rfl (starts refuses_cluster hp)
        (starts refuses_user hq)
    · exact before_of_startsAt 1 2 (by decide) rfl rfl (starts refuses_context hp)
        (starts refuses_user hq)
  · rintro p ((hp | hp) | hp) q hq
    · exact before_of_startsAt 0 3 (by decide) rfl rfl (starts refuses_cluster hp) (current hq)
    · exact before_of_startsAt 1 3 (by decide) rfl rfl (starts refuses_context hp) (current hq)
    · exact before_of_startsAt 2 3 (by decide) rfl rfl (starts refuses_user hp) (current hq)

end ClusterAccess.Kubeconfig
