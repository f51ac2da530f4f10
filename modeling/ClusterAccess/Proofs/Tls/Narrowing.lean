import ClusterAccess.Proofs.Tls.Bounds

/-!
# Narrowing a context

Narrowing sets nothing before every name is known: with names that list no version, or without names, the
limits stay as they were. Else both limits are set, and between them are just the versions that the names
list, raised to the least safe one; only a context that is made for one version cannot be narrowed
(`narrow_exact`). So neither the order of the names nor their repetition nor the blanks around them count, and
nor do the limits that were there before.
-/

namespace ClusterAccess.Tls

/-- The name without the blanks around it. -/
def stripped (name : String) : String := String.ofList (Text.strip name.toList)

/-- A version that a name lists, or TLS 1.2 in place of an older one. -/
def IsRaised (names : List String) (w : Version) : Prop :=
  ∃ name ∈ names, ∃ v, Bounds.listed? name = some v ∧ max v .tls12 = w

/-- Each name lists a version. -/
def AllListed (names : List String) : Prop := ∀ name ∈ names, ∃ v, Bounds.listed? name = some v

/-- The versions from the first to the last are just those that the names list, raised. -/
structure IsSpan (names : List String) (first last : Version) : Prop where
  ordered : first ≤ last
  safe : .tls12 ≤ first
  exact (w : Version) : first ≤ w ∧ w ≤ last ↔ IsRaised names w

/-- A span has only one first and only one last version. -/
theorem IsSpan.unique {names : List String} {u v u' v' : Version} (h : IsSpan names u v)
    (h' : IsSpan names u' v') : u = u' ∧ v = v' := by
  have same (w : Version) : u ≤ w ∧ w ≤ v ↔ u' ≤ w ∧ w ≤ v' := (h.exact w).trans (h'.exact w).symm
  obtain ⟨atFirst, -⟩ := (same u).mp ⟨Std.le_refl u, h.ordered⟩
  obtain ⟨-, atLast⟩ := (same v).mp ⟨h.ordered, Std.le_refl v⟩
  obtain ⟨atFirst', -⟩ := (same u').mpr ⟨Std.le_refl u', h'.ordered⟩
  obtain ⟨-, atLast'⟩ := (same v').mpr ⟨h'.ordered, Std.le_refl v'⟩
  exact ⟨Std.le_antisymm atFirst' atFirst, Std.le_antisymm atLast atLast'⟩

/-- Bounds that names give are the ends of their span. -/
theorem isSpan_of_ofNames {names : List String} {b : Bounds} (h : Bounds.ofNames names = .ok b) :
    ∃ v, b.maximum = some v ∧ IsSpan names b.minimum v := by
  obtain ⟨v, vs, -, rfl⟩ := Bounds.ofNames_eq_ok h
  refine ⟨_, rfl, ?_⟩
  have between (w : Version) : max (vs.foldl min v) leastSafe ≤ w ∧ w ≤ max (vs.foldl max v) leastSafe ↔
      (Bounds.span v vs).admits w = true := by
    rw [Bounds.admits_iff, Bounds.span]
    simp
  have first : (Bounds.span v vs).admits (max v leastSafe) = true :=
    Bounds.admits_span.mpr ⟨v, List.mem_cons_self, rfl⟩
  obtain ⟨low, high⟩ := (between _).mpr first
  exact ⟨Std.le_trans low high, Std.right_le_max, fun w => (between w).trans (Bounds.admits_of_ofNames h w)⟩

/-- The names are the same but for their order, their repetition and the blanks around them. -/
def SameNames (names names' : List String) : Prop := ∀ t, t ∈ names.map stripped ↔ t ∈ names'.map stripped

namespace SameNames

variable {names names' : List String}

theorem symm (h : SameNames names names') : SameNames names' names := fun t => (h t).symm

theorem exists_mem (h : SameNames names names') {name : String} (hn : name ∈ names) :
    ∃ name' ∈ names', Bounds.listed? name' = Bounds.listed? name := by
  obtain ⟨name', hn', same⟩ := List.mem_map.mp ((h _).mp (List.mem_map_of_mem hn))
  exact ⟨name', hn', congrArg Version.ofName? same⟩

theorem ne_nil (h : SameNames names names') (hn : names ≠ []) : names' ≠ [] := by
  obtain ⟨name, hn⟩ := List.exists_mem_of_ne_nil names hn
  obtain ⟨name', hn', -⟩ := h.exists_mem hn
  exact List.ne_nil_of_mem hn'

theorem allListed (h : SameNames names names') (all : AllListed names) : AllListed names' := by
  intro name' hn'
  obtain ⟨name, hn, same⟩ := h.symm.exists_mem hn'
  obtain ⟨v, hv⟩ := all name hn
  exact ⟨v, same ▸ hv⟩

theorem isRaised (h : SameNames names names') {w : Version} (hw : IsRaised names w) : IsRaised names' w := by
  obtain ⟨name, hn, v, hv, raised⟩ := hw
  obtain ⟨name', hn', same⟩ := h.exists_mem hn
  exact ⟨name', hn', v, same.trans hv, raised⟩

theorem isSpan (h : SameNames names names') {u v : Version} (span : IsSpan names u v) : IsSpan names' u v :=
  ⟨span.ordered, span.safe, fun w => (span.exact w).trans ⟨h.isRaised, h.symm.isRaised⟩⟩

end SameNames

/-! ## What names give -/

theorem version_eq_error {name : String} {fault : Fault} (h : Bounds.version name = .error fault) :
    fault = .unknownProtocol name ∧ Bounds.listed? name = none := by
  unfold Bounds.version at h
  unfold Bounds.listed?
  split at h
  · cases h
  · next none =>
    cases h
    exact ⟨rfl, none⟩

/-- Why names give no bounds: there are none, or one of them lists no version. -/
inductive Unlisted (names : List String) : Fault → Prop
  | empty (none : names = []) : Unlisted names .noProtocols
  | unknown {before after : List String} {name : String} (split : names = before ++ name :: after)
      (known : AllListed before) (unlisted : Bounds.listed? name = none) :
      Unlisted names (.unknownProtocol name)

theorem unlisted_of_ofNames {names : List String} {fault : Fault}
    (h : Bounds.ofNames names = .error fault) : Unlisted names fault := by
  obtain unknown | ⟨versions, found, none⟩ := Except.bind_eq_error.mp h
  · obtain ⟨before, name, after, split, known, unknown⟩ := Except.mapM_eq_error.mp unknown
    obtain ⟨rfl, unlisted⟩ := version_eq_error unknown
    refine .unknown split (fun n hn => ?_) unlisted
    obtain ⟨v, hv⟩ := known n hn
    exact ⟨v, Bounds.version_eq_ok.mp hv⟩
  · cases versions with
    | nil =>
      cases none
      exact .empty (List.map_eq_nil_iff.mp (Except.mapM_eq_ok.mp found))
    | cons v vs => cases none

/-- Names that give no bounds are none, or not all listed. -/
theorem Unlisted.not_listed {names : List String} {fault : Fault} (h : Unlisted names fault)
    (nonempty : names ≠ []) : ¬AllListed names := by
  intro all
  cases h with
  | empty none => exact nonempty none
  | @unknown before after name split _ unlisted =>
    obtain ⟨v, hv⟩ := all name (by simp [split])
    rw [unlisted] at hv
    cases hv

/-- Names give bounds when there are some and all of them list a version. -/
theorem isOk_ofNames {names : List String} :
    (∃ b, Bounds.ofNames names = .ok b) ↔ names ≠ [] ∧ AllListed names := by
  constructor
  · rintro ⟨b, h⟩
    exact ⟨Bounds.ne_nil_of_ofNames h, fun name hn => Bounds.listed?_of_ofNames h hn⟩
  · rintro ⟨nonempty, all⟩
    cases h : Bounds.ofNames names with
    | ok b => exact ⟨b, rfl⟩
    | error fault => exact absurd all ((unlisted_of_ofNames h).not_listed nonempty)

/-! ## What becomes of a context -/

variable {α : Type}

/-- The limits of a context are changed, unless it is made for one version. -/
theorem Limits.run_change (f : Limits α → Limits α) (l : Limits α) :
    (Limits.change f).run l = if l.protocol.isRange then .ok () (f l) else .error .fixedProtocol l := by
  have got : (Limits.change f).run l =
      (if l.protocol.isRange then modify f else throw .fixedProtocol : EStateM Failure (Limits α) Unit).run l :=
    rfl
  rw [got]
  cases l.protocol.isRange <;> rfl

/-- Narrowing comes to the bounds that names give, unless there are none or the context is made for one
version. -/
theorem run_narrow (limit : Version → α) (names : List String) (l : Limits α) :
    (narrow limit names).run l =
      match Bounds.ofNames names with
      | .error fault => .error (.access (.tls fault)) l
      | .ok b =>
        if l.protocol.isRange then
          .ok () ⟨l.protocol, limit b.minimum, (b.maximum.map limit).getD l.maximum⟩
        else .error .fixedProtocol l := by
  unfold narrow
  cases Bounds.ofNames names with
  | error fault => rfl
  | ok b =>
    obtain ⟨minimum, maximum⟩ := b
    have first : (Limits.setMinimum (limit minimum)).run l =
        if l.protocol.isRange then .ok () { l with minimum := limit minimum } else .error .fixedProtocol l :=
      Limits.run_change _ l
    show EStateM.run (Limits.setMinimum (limit minimum) >>= _) l = _
    rw [EStateM.run_bind, first]
    cases ranged : l.protocol.isRange with
    | false => rfl
    | true =>
      cases maximum with
      | none => rfl
      | some v =>
        refine (Limits.run_change _ _).trans ?_
        rw [if_pos ranged]
        rfl

/-- What narrowing a context to names is to come to: without names and with a name that lists no version,
the limits stay as they were and the fault tells of the first such name; else the limits are those of the
span of the versions. -/
inductive Narrowing (limit : Version → α) (names : List String) (l : Limits α) :
    EStateM.Result Failure (Limits α) Unit → Prop
  | refused {fault : Fault} (unlisted : Unlisted names fault) :
      Narrowing limit names l (.error (.access (.tls fault)) l)
  | narrowed {u v : Version} (nonempty : names ≠ []) (all : AllListed names) (span : IsSpan names u v) :
      Narrowing limit names l (.ok () ⟨l.protocol, limit u, limit v⟩)

theorem narrow_eq_ok {limit : Version → α} {names : List String} {l r : Limits α} :
    (narrow limit names).run l = .ok () r ↔
      l.protocol.isRange = true ∧ names ≠ [] ∧ AllListed names ∧
        ∃ u v, IsSpan names u v ∧ r = ⟨l.protocol, limit u, limit v⟩ := by
  rw [run_narrow]
  constructor
  · intro h
    cases made : Bounds.ofNames names with
    | error fault =>
      rw [made] at h
      cases h
    | ok b =>
      cases ranged : l.protocol.isRange with
      | false => simp [made, ranged] at h
      | true =>
        obtain ⟨nonempty, all⟩ := isOk_ofNames.mp ⟨b, made⟩
        obtain ⟨v, last, span⟩ := isSpan_of_ofNames made
        simp only [made, ranged, if_true, last] at h
        cases h
        exact ⟨rfl, nonempty, all, _, v, span, rfl⟩
  · rintro ⟨ranged, nonempty, all, u, v, span, rfl⟩
    obtain ⟨b, made⟩ := isOk_ofNames.mpr ⟨nonempty, all⟩
    obtain ⟨w, last, spanned⟩ := isSpan_of_ofNames made
    obtain ⟨rfl, rfl⟩ := spanned.unique span
    simp only [made, ranged, if_true, last]
    rfl

/-- A context that is made for one version is not narrowed, and stays as it was. -/
theorem run_narrow_of_fixed {limit : Version → α} {names : List String} {l : Limits α}
    (fixed : l.protocol.isRange = false) (nonempty : names ≠ []) (all : AllListed names) :
    (narrow limit names).run l = .error .fixedProtocol l := by
  obtain ⟨b, made⟩ := isOk_ofNames.mpr ⟨nonempty, all⟩
  rw [run_narrow, made]
  simp [fixed]

/-- Narrowing comes to what it is to come to for every context that has limits, and for names that give no
bounds; for names that do, a context that is made for one version refuses and stays as it was. Which names
there are decides what the limits become, and not their order, their repetition, the blanks around them or the
limits before. -/
theorem narrow_exact (limit : Version → α) (names : List String) (l : Limits α) :
    (Narrowing limit names l ((narrow limit names).run l) ↔
        l.protocol.isRange = true ∨ names = [] ∨ ¬AllListed names) ∧
      (l.protocol.isRange = false → names ≠ [] → AllListed names →
        (narrow limit names).run l = .error .fixedProtocol l) ∧
      (∀ name, ∃ rest, (Fault.unknownProtocol name).message =
        "Unsupported TLS protocol " ++ Text.quoted name ++ rest) ∧
      ∀ names' l', SameNames names names' → l'.protocol = l.protocol →
        ∀ r, (narrow limit names).run l = .ok () r ↔ (narrow limit names').run l' = .ok () r := by
  refine ⟨⟨fun kept => ?_, fun usual => ?_⟩, run_narrow_of_fixed,
    fun name => ⟨_, String.append_assoc ..⟩, fun names' l' same protocol r => ?_⟩
  · cases fixed : l.protocol.isRange with
    | true => exact .inl rfl
    | false =>
      refine .inr ((Decidable.em (names = [])).imp_right fun nonempty all => ?_)
      rw [run_narrow_of_fixed fixed nonempty all] at kept
      cases kept
  · cases made : Bounds.ofNames names with
    | error fault =>
      rw [run_narrow, made]
      exact .refused (unlisted_of_ofNames made)
    | ok b =>
      obtain ⟨nonempty, all⟩ := isOk_ofNames.mp ⟨b, made⟩
      have ranged : l.protocol.isRange = true := by simpa [nonempty, all] using usual
      obtain ⟨v, -, span⟩ := isSpan_of_ofNames made
      rw [narrow_eq_ok.mpr ⟨ranged, nonempty, all, _, v, span, rfl⟩]
      exact .narrowed nonempty all span
  · rw [narrow_eq_ok, narrow_eq_ok, protocol]
    constructor
    · rintro ⟨ranged, nonempty, all, u, v, span, rfl⟩
      exact ⟨ranged, same.ne_nil nonempty, same.allListed all, u, v, same.isSpan span, rfl⟩
    · rintro ⟨ranged, nonempty, all, u, v, span, rfl⟩
      exact ⟨ranged, same.symm.ne_nil nonempty, same.symm.allListed all, u, v, same.symm.isSpan span, rfl⟩

/-! ### An old version and the last one -/

/-- A client's context that has been narrowed to one version. -/
def sampleNarrowed : Limits (Option Version) := ⟨.client, some .tls13, some .tls13⟩

/-- An old version and the last one narrow limits as they do the other way round, written with blanks. -/
theorem narrow_exact_sample :
    SameNames ["TLSv1", "TLSv1.3"] ["\tTLSv1.3", "TLSv1 ", "TLSv1"] ∧
      (narrow some ["TLSv1", "TLSv1.3"]).run .start = .ok () ⟨.client, some .tls12, some .tls13⟩ ∧
      (narrow some ["\tTLSv1.3", "TLSv1 ", "TLSv1"]).run sampleNarrowed =
        .ok () ⟨.client, some .tls12, some .tls13⟩ ∧
      Narrowing some ["TLSv1", "SSLv3"] .start ((narrow some ["TLSv1", "SSLv3"]).run .start) := by
  have same : SameNames ["TLSv1", "TLSv1.3"] ["\tTLSv1.3", "TLSv1 ", "TLSv1"] := by
    have left : ["TLSv1", "TLSv1.3"].map stripped = ["TLSv1", "TLSv1.3"] := by decide
    have right : ["\tTLSv1.3", "TLSv1 ", "TLSv1"].map stripped = ["TLSv1.3", "TLSv1", "TLSv1"] := by decide
    intro t
    rw [left, right]
    simp only [List.mem_cons, List.not_mem_nil, or_false, or_self]
    exact or_comm
  obtain ⟨-, -, -, decided⟩ := narrow_exact some ["TLSv1", "TLSv1.3"] .start
  have first : (narrow some ["TLSv1", "TLSv1.3"]).run .start =
      .ok () ⟨.client, some .tls12, some .tls13⟩ := rfl
  obtain ⟨usual, -, -, -⟩ := narrow_exact some ["TLSv1", "SSLv3"] .start
  exact ⟨same, first, (decided _ sampleNarrowed same rfl _).mp first, usual.mpr (.inl rfl)⟩

/-- A context that is made for one version, with the limits that it cannot change. -/
def sampleFixed : Limits (Option Version) := ⟨.only .tls12, none, none⟩

/-- Not every context is narrowed to names that all list a version. -/
theorem not_narrowing_sampleFixed :
    (narrow some ["TLSv1.2"]).run sampleFixed = .error .fixedProtocol sampleFixed ∧
      ¬∀ (names : List String) (l : Limits (Option Version)),
        Narrowing some names l ((narrow some names).run l) := by
  have refused : (narrow some ["TLSv1.2"]).run sampleFixed = .error .fixedProtocol sampleFixed := rfl
  refine ⟨refused, fun all => ?_⟩
  have kept := all ["TLSv1.2"] sampleFixed
  rw [refused] at kept
  cases kept

end ClusterAccess.Tls
