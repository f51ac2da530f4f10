import ClusterAccess.Config.Basic
import ClusterAccess.Failure

/-!
# Sketches

What a document says of a field may be a broken text, and later something else may be said of the field. A
`Sketch` is a configuration in the making whose texts may be broken. It is a draft if none of them is
(`Sketch.toDraft_eq_ok`).
-/

namespace ClusterAccess.Config

/-! ## Settings of texts -/

/-- Settings of texts. -/
def narrow (ss : List Setting.Wide) : Except Failure (List Setting) :=
  ss.mapM fun s =>
    match s.narrow? with
    | some t => .ok t
    | none => .error .brokenText

/-- What is narrowed speaks of the same fields. -/
theorem fields_map_wide (ss : List Setting) :
    (ss.map Setting.wide).map Setting.Wide.field = ss.map Setting.field := by
  rw [List.map_map]
  rfl

/-- Settings are narrowed to those from which they come. -/
theorem narrow_eq_ok {ws : List Setting.Wide} {ss : List Setting} :
    narrow ws = .ok ss ↔ ws = ss.map Setting.wide := by
  rw [narrow, Except.mapM_eq_ok]
  induction ws generalizing ss with
  | nil => cases ss <;> simp
  | cons w ws ih =>
    cases ss with
    | nil => simp
    | cons s ss =>
      rw [List.map_cons, List.map_cons, List.map_cons, List.cons.injEq, List.cons.injEq, ih,
        ← Setting.Wide.narrow?_eq_some]
      cases w.narrow? <;> simp

/-- Settings of which one is broken, and no others, are not narrowed. -/
theorem narrow_eq_error {ws : List Setting.Wide} {e : Failure} :
    narrow ws = .error e ↔ e = .brokenText ∧ ∃ w ∈ ws, w.narrow? = none := by
  have broken : ∀ e, narrow ws = .error e → e = .brokenText ∧ ∃ w ∈ ws, w.narrow? = none := by
    intro e h
    obtain ⟨before, w, after, rfl, -, hw⟩ := Except.mapM_eq_error.mp h
    split at hw
    · cases hw
    · next broken =>
      cases hw
      exact ⟨rfl, w, by simp, broken⟩
  refine ⟨broken e, ?_⟩
  rintro ⟨rfl, w, hw, none⟩
  cases h : narrow ws with
  | error e => rw [(broken e h).1]
  | ok ss =>
    obtain ⟨s, hs⟩ := Except.exists_of_mapM_eq_ok h hw
    rw [none] at hs
    cases hs

/-! ## What fields hold -/

/-- A configuration in the making whose texts may be broken. -/
@[ext] structure Sketch where
  get : (f : Field) → f.kind.Wide

namespace Sketch

/-- A draft, of which no text is broken. -/
def ofDraft (d : Draft) : Sketch := ⟨fun f => f.kind.wide (d.get f)⟩

def set (k : Sketch) (s : Setting.Wide) : Sketch :=
  ⟨fun f => if h : s.field = f then h ▸ s.value else k.get f⟩

/-- The sketch after settings, the last of a field counting. -/
def update (k : Sketch) (ss : List Setting.Wide) : Sketch := ss.foldl set k

/-- The draft, unless a text is broken. -/
def toDraft (k : Sketch) : Except Failure Draft :=
  ({} : Draft).update <$> narrow (Field.all.map fun f => ⟨f, k.get f⟩)

/-- Some field holds a broken text. -/
def IsBroken (k : Sketch) : Prop := ∃ f : Field, f.kind.narrow? (k.get f) = none

variable {k : Sketch} {d : Draft} {ss : List Setting.Wide} {f : Field}

@[simp] theorem get_ofDraft (d : Draft) (f : Field) : (ofDraft d).get f = f.kind.wide (d.get f) := rfl

theorem ofDraft_injective {d e : Draft} (h : ofDraft d = ofDraft e) : d = e :=
  Draft.ext_get fun f => Kind.wide_injective (congrArg (·.get f) h)

theorem get_set_self (k : Sketch) (f : Field) (v : f.kind.Wide) : (k.set ⟨f, v⟩).get f = v := by
  simp [set]

theorem get_set_of_ne {s : Setting.Wide} (h : s.field ≠ f) : (k.set s).get f = k.get f := by
  simp [set, h]

theorem update_append (k : Sketch) (ss ts : List Setting.Wide) :
    k.update (ss ++ ts) = (k.update ss).update ts := by
  simp [update]

/-- Settings of other fields leave a field alone. -/
theorem get_update_of_not_mem (h : f ∉ ss.map Setting.Wide.field) : (k.update ss).get f = k.get f := by
  induction ss generalizing k with
  | nil => rfl
  | cons s ss ih =>
    rw [List.map_cons, List.mem_cons, not_or] at h
    exact (ih h.2).trans (get_set_of_ne (Ne.symm h.1))

/-- What a field holds after settings depends on what it held before only if they leave it alone. -/
theorem get_update_congr {l : Sketch} (h : f ∈ ss.map Setting.Wide.field ∨ k.get f = l.get f) :
    (k.update ss).get f = (l.update ss).get f := by
  induction ss generalizing k l with
  | nil => exact h.resolve_left (by simp)
  | cons s ss ih =>
    refine ih ?_
    by_cases same : s.field = f
    · subst same
      exact .inr ((get_set_self k _ s.value).trans (get_set_self l _ s.value).symm)
    · rw [get_set_of_ne same, get_set_of_ne same]
      rw [List.map_cons, List.mem_cons] at h
      exact h.imp_left fun h => h.resolve_left (Ne.symm same)

theorem set_wide (d : Draft) (s : Setting) : (ofDraft d).set s.wide = ofDraft (d.set s) := by
  ext f
  by_cases h : s.field = f
  · subst h
    rw [get_ofDraft, Draft.get_set, Setting.for?_self, Option.getD_some]
    exact get_set_self (ofDraft d) s.field (s.field.kind.wide s.value)
  · rw [get_set_of_ne h, get_ofDraft, get_ofDraft, Draft.get_set, Setting.for?_of_ne h, Option.getD_none]

/-- Settings of texts change a draft as they change the draft's sketch. -/
theorem update_map_wide (d : Draft) (ss : List Setting) :
    (ofDraft d).update (ss.map Setting.wide) = ofDraft (d.update ss) := by
  induction ss generalizing d with
  | nil => rfl
  | cons s ss ih => exact (congrArg (update · _) (set_wide d s)).trans (ih _)

/-- Settings of all fields say what a sketch holds. -/
theorem update_all (k l : Sketch) : l.update (Field.all.map fun f => ⟨f, k.get f⟩) = k := by
  ext f
  cases f <;> rfl

/-- A sketch is a draft if it is one of which no text is broken. -/
theorem toDraft_eq_ok : k.toDraft = .ok d ↔ k = ofDraft d := by
  rw [toDraft, Except.map_eq_ok]
  constructor
  · rintro ⟨ss, h, rfl⟩
    rw [← update_map_wide, ← narrow_eq_ok.mp h, update_all]
  · rintro rfl
    have texts : (Field.all.map fun f => (⟨f, (ofDraft d).get f⟩ : Setting.Wide)) =
        (Field.all.map fun f => (⟨f, d.get f⟩ : Setting)).map Setting.wide := by
      rw [List.map_map]
      rfl
    refine ⟨_, narrow_eq_ok.mpr texts, ofDraft_injective ?_⟩
    rw [← update_map_wide, ← texts, update_all]

theorem get_of_toDraft (h : k.toDraft = .ok d) (f : Field) : k.get f = f.kind.wide (d.get f) := by
  rw [toDraft_eq_ok.mp h, get_ofDraft]

/-- A sketch is no draft just when a text in it is broken. -/
theorem toDraft_eq_error {e : Failure} : k.toDraft = .error e ↔ e = .brokenText ∧ k.IsBroken := by
  have narrowed : k.toDraft = .error e ↔ narrow (Field.all.map fun f => ⟨f, k.get f⟩) = .error e := by
    rw [toDraft]
    cases narrow (Field.all.map fun f => ⟨f, k.get f⟩) <;> simp [Functor.map, Except.map]
  rw [narrowed, narrow_eq_error]
  refine and_congr_right fun _ => ?_
  constructor
  · rintro ⟨w, hw, broken⟩
    obtain ⟨f, -, rfl⟩ := List.mem_map.mp hw
    exact ⟨f, Option.map_eq_none_iff.mp broken⟩
  · rintro ⟨f, broken⟩
    refine ⟨⟨f, k.get f⟩, List.mem_map_of_mem (by cases f <;> decide), ?_⟩
    exact Option.map_eq_none_iff.mpr broken

end Sketch

end ClusterAccess.Config
