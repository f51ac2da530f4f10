import ClusterAccess.Failure
import ClusterAccess.Tls.Bounds

/-!
# Which versions bounds admit

The bounds of a span admit just the versions of the span, each raised to the least safe one
(`admits_span`): there is none between them. Names that have bounds all list a version, and there is a
name (`ofNames_eq_ok`), so their bounds admit what they list (`admits_of_ofNames`).
-/

namespace ClusterAccess.Tls

namespace Version

instance : Std.IsLinearOrder Version where
  le_refl v := Nat.le_refl v.rank
  le_trans _ _ _ := Nat.le_trans
  le_antisymm v w := by cases v <;> cases w <;> decide
  le_total v w := Nat.le_total v.rank w.rank

instance : Std.LawfulOrderMin Version where
  min_eq_or v w := by cases v <;> cases w <;> decide
  le_min_iff u v w := by cases u <;> cases v <;> cases w <;> decide

instance : Std.LawfulOrderMax Version where
  max_eq_or v w := by cases v <;> cases w <;> decide
  max_le_iff u v w := by cases u <;> cases v <;> cases w <;> decide

theorem max_le_max {u v : Version} (h : u ≤ v) (w : Version) : max u w ≤ max v w :=
  Std.max_le_iff.mpr ⟨Std.le_trans h Std.left_le_max, Std.right_le_max⟩

end Version

namespace Bounds

/-! ## Spans -/

theorem admits_iff {b : Bounds} {w : Version} :
    b.admits w = true ↔ b.minimum ≤ w ∧ ∀ v, b.maximum = some v → w ≤ v := by
  unfold admits
  cases b.maximum <;> simp

/-- A span admits what it is the span of, raised to the least safe version, and nothing else. -/
theorem admits_span {v w : Version} {vs : List Version} :
    (span v vs).admits w = true ↔ ∃ u ∈ v :: vs, max u leastSafe = w := by
  have least : (v :: vs).min? = some (vs.foldl min v) := List.min?_cons'
  have greatest : (v :: vs).max? = some (vs.foldl max v) := List.max?_cons'
  obtain ⟨lowest, low⟩ := List.min?_eq_some_iff.mp least
  obtain ⟨highest, high⟩ := List.max?_eq_some_iff.mp greatest
  rw [admits_iff, span]
  simp only [Option.some.injEq, forall_eq']
  constructor
  · rintro ⟨above, below⟩
    -- what is safe is the least safe version or the last one, so the lowest or the highest gives it
    cases w with
    | tls10 => exact absurd (Std.le_trans Std.right_le_max above) (by decide)
    | tls11 => exact absurd (Std.le_trans Std.right_le_max above) (by decide)
    | tls12 => exact ⟨_, lowest, Std.le_antisymm above Std.right_le_max⟩
    | tls13 =>
      refine ⟨_, highest, Std.le_antisymm ?_ below⟩
      cases max (vs.foldl max v) leastSafe <;> decide
  · rintro ⟨u, hu, rfl⟩
    exact ⟨Version.max_le_max (low u hu) _, Version.max_le_max (high u hu) _⟩

/-! ## Names -/

/-- The version that a name lists, without the blanks around the name. -/
def listed? (name : String) : Option Version := Version.ofName? (String.ofList (Text.strip name.toList))

theorem version_eq_ok {name : String} {v : Version} : version name = .ok v ↔ listed? name = some v := by
  unfold version listed?
  cases Version.ofName? (String.ofList (Text.strip name.toList)) <;> simp

/-- Names that have bounds list something, and each of them a version; the bounds are their span. -/
theorem ofNames_eq_ok {names : List String} {b : Bounds} (h : ofNames names = .ok b) :
    ∃ v vs, names.mapM version = .ok (v :: vs) ∧ b = span v vs := by
  obtain ⟨versions, hv, h⟩ := Except.bind_eq_ok.mp h
  cases versions with
  | nil => cases h
  | cons v vs =>
    cases h
    exact ⟨v, vs, hv, rfl⟩

theorem ne_nil_of_ofNames {names : List String} {b : Bounds} (h : ofNames names = .ok b) : names ≠ [] := by
  rintro rfl
  cases h

theorem listed?_of_ofNames {names : List String} {b : Bounds} (h : ofNames names = .ok b) {name : String}
    (hn : name ∈ names) : ∃ v, listed? name = some v := by
  obtain ⟨v, vs, hv, -⟩ := ofNames_eq_ok h
  obtain ⟨w, hw⟩ := Except.exists_of_mapM_eq_ok hv hn
  exact ⟨w, version_eq_ok.mp hw⟩

/-- The bounds of names admit the versions that the names list, raised to the least safe one. -/
theorem admits_of_ofNames {names : List String} {b : Bounds} (h : ofNames names = .ok b) (w : Version) :
    b.admits w = true ↔ ∃ name ∈ names, ∃ v, listed? name = some v ∧ max v leastSafe = w := by
  obtain ⟨v, vs, hv, rfl⟩ := ofNames_eq_ok h
  rw [admits_span]
  simp only [Except.mem_of_mapM_eq_ok hv, version_eq_ok]
  constructor
  · rintro ⟨u, ⟨name, hn, hu⟩, hw⟩
    exact ⟨name, hn, u, hu, hw⟩
  · rintro ⟨name, hn, u, hu, hw⟩
    exact ⟨u, ⟨name, hn, hu⟩, hw⟩

end Bounds

end ClusterAccess.Tls
