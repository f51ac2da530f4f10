import ClusterAccess.Kubeconfig.Problem
import Mathlib.Data.List.Forall2

/-!
# Laws of validation

A check is described by what it accepts and by the problems that it finds. Both come from the parts of the
check: parts together accept what each of them accepts, and their problems stand one after another. A
check that is `Founded` refuses nothing without a problem.
-/

namespace ClusterAccess.Kubeconfig.Validated

variable {α β : Type}

/-- What a check found wrong. -/
def problems : Validated α → List Problem
  | accepted _ => []
  | refused ps => ps

/-- What is not accepted has a problem. -/
def Founded (x : Validated α) : Prop := x.problems = [] → ∃ a, x = accepted a

theorem founded_accepted (a : α) : (accepted a).Founded := fun _ => ⟨a, rfl⟩

theorem founded_problem (path : List Step) (kind : ProblemKind) :
    (problem path kind : Validated α).Founded := nofun

/-- Checks that accept the same and find the same problems come to the same. -/
theorem ext {x y : Validated α} (accepts : ∀ a, x = accepted a ↔ y = accepted a)
    (same : x.problems = y.problems) : x = y := by
  cases x with
  | accepted a => exact ((accepts a).mp rfl).symm
  | refused ps =>
    cases y with
    | accepted a => exact (accepts a).mpr rfl
    | refused qs => exact congrArg refused same

/-! ## Parts -/

section

variable {f : Validated (α → β)} {g : α → β} {x : Validated α} {b : β}

theorem map_eq_accepted : g <$> x = accepted b ↔ ∃ a, x = accepted a ∧ g a = b := by
  cases x with
  | accepted a => exact ⟨fun h => ⟨a, rfl, by cases h; rfl⟩, by rintro ⟨_, ⟨⟩, rfl⟩; rfl⟩
  | refused ps => exact ⟨nofun, by rintro ⟨_, ⟨⟩, -⟩⟩

theorem seq_eq_accepted :
    f <*> x = accepted b ↔ ∃ g, f = accepted g ∧ ∃ a, x = accepted a ∧ g a = b := by
  cases f with
  | accepted g =>
    cases x with
    | accepted a =>
      exact ⟨fun h => ⟨g, rfl, a, rfl, by cases h; rfl⟩, by rintro ⟨_, ⟨⟩, _, ⟨⟩, rfl⟩; rfl⟩
    | refused ps => exact ⟨nofun, by rintro ⟨_, -, _, ⟨⟩, -⟩⟩
  | refused ps => cases x <;> exact ⟨nofun, by rintro ⟨_, ⟨⟩, -⟩⟩

@[simp]
theorem problems_map : (g <$> x).problems = x.problems := by cases x <;> rfl

@[simp]
theorem problems_seq : (f <*> x).problems = f.problems ++ x.problems := by
  cases f with
  | accepted g => cases x <;> rfl
  | refused ps =>
    cases x with
    | accepted a => exact (List.append_nil ps).symm
    | refused qs => rfl

theorem Founded.map (h : x.Founded) : (g <$> x).Founded := by
  intro hp
  obtain ⟨a, rfl⟩ := h (problems_map (g := g) ▸ hp)
  exact ⟨g a, rfl⟩

theorem Founded.seq (first : f.Founded) (second : x.Founded) : (f <*> x).Founded := by
  intro hp
  rw [problems_seq, List.append_eq_nil_iff] at hp
  obtain ⟨g, rfl⟩ := first hp.1
  obtain ⟨a, rfl⟩ := second hp.2
  exact ⟨g a, rfl⟩

end

/-! ## Items -/

section

variable {check : Nat → β → Validated α} {i : Nat} {x : β} {xs : List β}

theorem items_cons :
    items check i (x :: xs) = List.cons <$> check i x <*> items check (i + 1) xs := rfl

/-- An item may be replaced by one that is checked alike. -/
theorem items_congr {before after : List β} {y : β} (h : ∀ j, check j y = check j x) :
    items check i (before ++ y :: after) = items check i (before ++ x :: after) := by
  induction before generalizing i with
  | nil => rw [List.nil_append, List.nil_append, items_cons, items_cons, h]
  | cons z before ih => rw [List.cons_append, List.cons_append, items_cons, items_cons, ih]

theorem problems_items_append (xs ys : List β) :
    (items check i (xs ++ ys)).problems =
      (items check i xs).problems ++ (items check (i + xs.length) ys).problems := by
  induction xs generalizing i with
  | nil => rfl
  | cons x xs ih =>
    rw [List.cons_append, items_cons, items_cons, problems_seq, problems_seq, problems_map, ih,
      List.append_assoc, List.length_cons, Nat.add_right_comm, Nat.add_assoc]

theorem items_eq_accepted {r : β → α → Prop} (h : ∀ i x a, check i x = accepted a ↔ r x a)
    {as : List α} : items check i xs = accepted as ↔ List.Forall₂ r xs as := by
  induction xs generalizing i as with
  | nil =>
    rw [List.forall₂_nil_left_iff]
    exact ⟨fun h => by cases h; rfl, fun h => by rw [h]; rfl⟩
  | cons x xs ih =>
    rw [items_cons, seq_eq_accepted, List.forall₂_cons_left_iff]
    simp only [map_eq_accepted, h, ih]
    constructor
    · rintro ⟨_, ⟨a, ha, rfl⟩, bs, hbs, rfl⟩
      exact ⟨a, bs, ha, hbs, rfl⟩
    · rintro ⟨a, bs, ha, hbs, rfl⟩
      exact ⟨_, ⟨a, ha, rfl⟩, bs, hbs, rfl⟩

theorem mem_problems_items {p : Problem} :
    p ∈ (items check i xs).problems ↔ ∃ j x, xs[j]? = some x ∧ p ∈ (check (i + j) x).problems := by
  induction xs generalizing i with
  | nil => simp [items, problems]
  | cons x xs ih =>
    rw [items_cons, problems_seq, problems_map, List.mem_append, ih]
    constructor
    · rintro (h | ⟨j, y, hy, h⟩)
      · exact ⟨0, x, rfl, h⟩
      · exact ⟨j + 1, y, hy, by rwa [Nat.add_right_comm] at h⟩
    · rintro ⟨_ | j, y, hy, h⟩
      · cases hy
        exact .inl h
      · exact .inr ⟨j, y, hy, by rwa [Nat.add_right_comm]⟩

/-- The problems of the items stand in order when those of each item do and those of different items
follow the numbers. -/
theorem pairwise_problems_items {r : Problem → Problem → Prop}
    (own : ∀ j x, (check j x).problems.Pairwise r)
    (across : ∀ j k x y, j < k → ∀ p ∈ (check j x).problems, ∀ q ∈ (check k y).problems, r p q) :
    (items check i xs).problems.Pairwise r := by
  induction xs generalizing i with
  | nil => exact .nil
  | cons x xs ih =>
    rw [items_cons, problems_seq, problems_map]
    refine List.pairwise_append.mpr ⟨own i x, ih, fun p hp q hq => ?_⟩
    obtain ⟨j, y, -, hq⟩ := mem_problems_items.mp hq
    exact across i (i + 1 + j) x y (by omega) p hp q hq

theorem founded_items (h : ∀ i x, (check i x).Founded) : (items check i xs).Founded := by
  induction xs generalizing i with
  | nil => exact founded_accepted []
  | cons x xs ih => exact (h i x).map.seq ih

end

end ClusterAccess.Kubeconfig.Validated
