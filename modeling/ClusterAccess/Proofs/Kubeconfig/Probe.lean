import ClusterAccess.Kubeconfig.Probe

/-!
# What the kubeconfig probe comes to

`outcome_probe` computes the probe in any file system. `found?` is the kubeconfig at the location and
`governed` what the current context of a kubeconfig says: a probe that succeeds gives just that
(`probe_eq_ok`). `probe_eq_error` lists all that a probe can fail for.
-/

namespace ClusterAccess.Kubeconfig

open Config (Setting)

/-- The settings of the current context, without what is told about them. -/
def governed (k : Kubeconfig) (path : String) (home : Path) : List Setting.Wide :=
  let base := (Path.ofText path).parent
  match k.currentContext? with
  | none => []
  | some context =>
    match k.cluster? context with
    | none => []
    | some cluster =>
      cluster.settings base home ++
        match k.user? context with
        | none => []
        | some user => user.settings base home

/-- The settings of a kubeconfig are always found. -/
theorem outcome_settings (k : Kubeconfig) (path : String) (home : Path) :
    (k.settings path home).outcome = .ok (k.governed path home) := by
  unfold settings governed
  cases k.currentContext? with
  | none => rfl
  | some context =>
    dsimp only
    cases k.cluster? context with
    | none => rfl
    | some cluster =>
      dsimp only
      cases k.user? context with
      | none => simp [Logged.outcome_bind, Except.bind]
      | some user => rfl

/-- What a reading says about a configuration. Only what cannot be built is a failure. -/
def Reading.governed (path : String) (home : Path) : Reading → Except Failure (List Setting.Wide)
  | .kubeconfig k => .ok (k.governed path home)
  | .faulty _ => .ok []
  | .unbuildable what => .error (.unbuildable what)

theorem outcome_probe (s : Sources) :
    (probe s).outcome =
      ((s.filesystem.isFile (location s)).mapError .unreadable).bind fun found =>
        if found then (load s (location s)).bind (Reading.governed (location s) s.home) else .ok [] := by
  simp only [probe, Logged.outcome_bind, Logged.outcome_ofExcept]
  congr 1
  funext found
  split
  · rw [Logged.outcome_bind]
    congr 1
    funext r
    cases r with
    | kubeconfig k => exact outcome_settings k _ _
    | faulty fault => rfl
    | unbuildable what => rfl
  · rfl

/-! ## Readings of a file -/

theorem load_of_readText {s : Sources} {path text : String} (h : s.filesystem.readText path = .ok text) :
    load s path = .ok (.ofText s.limits text) := by
  rw [load, h]

theorem load_of_nulInPath {s : Sources} {path : String}
    (h : s.filesystem.readText path = .error .nulInPath) :
    load s path = .error (.unreadable .nulInPath) := by
  rw [load, h]

theorem load_of_fault {s : Sources} {path : String} {fault : ReadFault}
    (h : s.filesystem.readText path = .error fault) (hn : fault ≠ .nulInPath) :
    load s path = .ok (.faulty (.unreadable fault)) := by
  rw [load, h]
  cases fault with
  | nulInPath => exact absurd rfl hn
  | io cause path => rfl
  | notText fault => rfl

theorem Reading.ofText_eq_unbuildable {limits : Yaml.Limits} {text : String} {what : Yaml.Unbuildable} :
    Reading.ofText limits text = .unbuildable what ↔
      Yaml.Value.ofText limits text = .error (.unbuildable what) := by
  unfold Reading.ofText
  split
  · next h => simp [h]
  · next h => simp [h]
  · next v h =>
    rw [h]
    split <;> simp

theorem Reading.ofText_eq_kubeconfig {limits : Yaml.Limits} {text : String} {k : Kubeconfig} :
    Reading.ofText limits text = .kubeconfig k ↔
      ∃ v, Yaml.Value.ofText limits text = .ok v ∧ ofValue v = .ok k := by
  unfold Reading.ofText
  split
  · next h => simp [h]
  · next h => simp [h]
  · next v h =>
    rw [h]
    split
    · next k' hk => simp [hk]
    · next fault hf => simp [hf]

/-! ## Success and failure -/

def Reading.kubeconfig? : Reading → Option Kubeconfig
  | .kubeconfig k => some k
  | _ => none

/-- The kubeconfig at the location, if a file is there and describes one. -/
def found? (s : Sources) : Option Kubeconfig :=
  match s.filesystem.isFile (location s), s.filesystem.readText (location s) with
  | .ok true, .ok text => (Reading.ofText s.limits text).kubeconfig?
  | _, _ => none

theorem Reading.kubeconfig?_eq_some {r : Reading} {k : Kubeconfig} :
    r.kubeconfig? = some k ↔ r = .kubeconfig k := by
  cases r <;> simp [kubeconfig?]

theorem found?_eq_some {s : Sources} {k : Kubeconfig} :
    found? s = some k ↔
      s.filesystem.isFile (location s) = .ok true ∧
        ∃ text v, s.filesystem.readText (location s) = .ok text ∧ Yaml.Value.ofText s.limits text = .ok v ∧
          ofValue v = .ok k := by
  unfold found?
  split
  · next text hi ht =>
    simp [hi, ht, Reading.kubeconfig?_eq_some, Reading.ofText_eq_kubeconfig]
  · next h =>
    refine ⟨fun h => (by cases h), fun ⟨hi, text, _, ht, _⟩ => ?_⟩
    exact absurd ht (h text hi)

theorem Reading.governed_eq_ok {r : Reading} {path : String} {home : Path} {ss : List Setting.Wide}
    (h : r.governed path home = .ok ss) :
    ss = (r.kubeconfig?.map (Kubeconfig.governed · path home)).getD [] := by
  cases r with
  | kubeconfig k => cases h; rfl
  | faulty fault => cases h; rfl
  | unbuildable what => cases h

theorem Reading.governed_eq_error {r : Reading} {path : String} {home : Path} {e : Failure} :
    r.governed path home = .error e ↔ ∃ what, r = .unbuildable what ∧ e = .unbuildable what := by
  cases r <;> simp [governed, eq_comm]

/-- A probe that succeeds gives what the current context of the kubeconfig governs. -/
theorem probe_eq_ok {s : Sources} {ss : List Setting.Wide} (h : (probe s).outcome = .ok ss) :
    ss = ((found? s).map (governed · (location s) s.home)).getD [] := by
  rw [outcome_probe] at h
  obtain ⟨there, hi, h⟩ := Except.bind_eq_ok.mp h
  rw [Except.mapError_eq_ok] at hi
  unfold found?
  rw [hi]
  cases there with
  | false => cases h; rfl
  | true =>
    cases ht : s.filesystem.readText (location s) with
    | ok text =>
      rw [if_pos rfl, load_of_readText ht] at h
      exact Reading.governed_eq_ok h
    | error fault =>
      by_cases hn : fault = .nulInPath
      · subst hn
        rw [if_pos rfl, load_of_nulInPath ht] at h
        cases h
      · rw [if_pos rfl, load_of_fault ht hn] at h
        cases h
        rfl

/-- A probe that finds a kubeconfig succeeds. -/
theorem outcome_probe_of_found? {s : Sources} {k : Kubeconfig} (h : found? s = some k) :
    (probe s).outcome = .ok (k.governed (location s) s.home) := by
  obtain ⟨hi, text, v, ht, hv, hk⟩ := found?_eq_some.mp h
  have reading : Reading.ofText s.limits text = .kubeconfig k := Reading.ofText_eq_kubeconfig.mpr ⟨v, hv, hk⟩
  rw [outcome_probe, hi]
  change (load s (location s)).bind _ = _
  rw [load_of_readText ht, reading]
  rfl

/-- A probe fails when the system refuses the location, or when something in the file cannot be built. -/
theorem probe_eq_error {s : Sources} {e : Failure} :
    (probe s).outcome = .error e ↔
      (∃ fault, s.filesystem.isFile (location s) = .error fault ∧ e = .unreadable fault) ∨
        s.filesystem.isFile (location s) = .ok true ∧
          (s.filesystem.readText (location s) = .error .nulInPath ∧ e = .unreadable .nulInPath ∨
            ∃ text what, s.filesystem.readText (location s) = .ok text ∧
              Yaml.Value.ofText s.limits text = .error (.unbuildable what) ∧ e = .unbuildable what) := by
  rw [outcome_probe]
  cases hi : s.filesystem.isFile (location s) with
  | error fault => simp [Except.bind, eq_comm]
  | ok there =>
    cases there with
    | false => simp [Except.bind]
    | true =>
      cases ht : s.filesystem.readText (location s) with
      | error fault =>
        by_cases hn : fault = .nulInPath
        · subst hn
          simp [Except.bind, load_of_nulInPath ht, eq_comm]
        · simp [Except.bind, load_of_fault ht hn, Reading.governed, hn]
      | ok text =>
        simp [Except.bind, load_of_readText ht, Reading.governed_eq_error,
          Reading.ofText_eq_unbuildable]

end ClusterAccess.Kubeconfig
