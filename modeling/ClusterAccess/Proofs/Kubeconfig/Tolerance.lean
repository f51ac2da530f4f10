import ClusterAccess.Proofs.Config.Precedence
import ClusterAccess.Proofs.Kubeconfig.Probe
import ClusterAccess.Proofs.ServiceAccount
import Mathlib.Data.List.Basic

/-!
# Bad kubeconfigs

Over a table of files, a kubeconfig that is `Unusable` is passed over: the draft is the one that the
sources give with the kubeconfig switched off. Only what is nested too deep, and a scalar that has the form
of a value and stands for none (`Breaks`), end the search for a configuration, and then they do so with a
failure of their own.
-/

namespace ClusterAccess

namespace Kubeconfig

/-- The file at a path is a text with something in it that cannot be built. -/
def Breaks (limits : Yaml.Limits) (files : List (String × Bytes)) (unreadable : List String)
    (path : String) (what : Yaml.Unbuildable) : Prop :=
  path ∉ unreadable ∧
    ∃ b text, files.lookup path = some b ∧ Utf8.decode b = .ok text ∧
      Yaml.Value.ofText limits text = .error (.unbuildable what)

/-- The file at a path is missing, cannot be read, or is no kubeconfig. -/
inductive Unusable (limits : Yaml.Limits) (files : List (String × Bytes)) (unreadable : List String)
    (path : String) : Prop
  | missing (h : files.lookup path = none)
  | locked (h : path ∈ unreadable)
  | notText {b : Bytes} {fault : Utf8.Fault} (hb : files.lookup path = some b)
      (h : Utf8.decode b = .error fault)
  | notDocument {b : Bytes} {text : String} {what : Yaml.Malformed} (hb : files.lookup path = some b)
      (ht : Utf8.decode b = .ok text) (h : Yaml.Value.ofText limits text = .error (.malformed what))
  | notKubeconfig {b : Bytes} {text : String} {v : Yaml.Value} {fault : Fault}
      (hb : files.lookup path = some b) (ht : Utf8.decode b = .ok text)
      (hv : Yaml.Value.ofText limits text = .ok v) (h : ofValue v = .error fault)

section

variable {s : Sources} {files : List (String × Bytes)} {unreadable : List String}

/-- A probe of a table of files fails for what cannot be built, and for nothing else. -/
theorem probe_withFiles_eq_error {e : Failure} :
    (probe (s.withFiles files unreadable)).outcome = .error e ↔
      ∃ what, e = .unbuildable what ∧
        Breaks s.limits files unreadable (location (s.withFiles files unreadable)) what := by
  rw [probe_eq_error]
  generalize location (s.withFiles files unreadable) = path
  have hi : (s.withFiles files unreadable).filesystem.isFile path =
    .ok (files.lookup path).isSome := rfl
  have ht : (s.withFiles files unreadable).filesystem.readText path =
    (Filesystem.inMemory files unreadable).readText path := rfl
  have hl : (s.withFiles files unreadable).limits = s.limits := rfl
  rw [hi, ht, hl]
  constructor
  · rintro (⟨fault, h, -⟩ | ⟨-, ⟨h, -⟩ | ⟨text, what, h, hw, rfl⟩⟩)
    · cases h
    · exact absurd h (Filesystem.readText_inMemory_ne_nulInPath files unreadable path)
    · obtain ⟨hu, b, hb, hd⟩ := Filesystem.readText_inMemory.mp h
      exact ⟨what, rfl, hu, b, text, hb, hd, hw⟩
  · rintro ⟨what, rfl, hu, b, text, hb, hd, hw⟩
    refine .inr ⟨by rw [hb]; rfl, .inr ⟨text, what, ?_, hw, rfl⟩⟩
    exact Filesystem.readText_inMemory.mpr ⟨hu, b, hb, hd⟩

theorem Unusable.not_breaks {limits : Yaml.Limits} {path : String}
    (h : Unusable limits files unreadable path) (what : Yaml.Unbuildable) :
    ¬ Breaks limits files unreadable path what := by
  rintro ⟨hu, b, text, hb, ht, hw⟩
  cases h <;> simp_all

theorem Unusable.found?_eq_none
    (h : Unusable s.limits files unreadable (location (s.withFiles files unreadable))) :
    found? (s.withFiles files unreadable) = none := by
  refine Option.eq_none_iff_forall_ne_some.mpr fun k hk => ?_
  obtain ⟨-, text, v, ht, hv, hk⟩ := found?_eq_some.mp hk
  change Yaml.Value.ofText s.limits text = .ok v at hv
  obtain ⟨hu, b, hb, hd⟩ := Filesystem.readText_inMemory.mp ht
  cases h <;> simp_all

/-- A probe of an unusable file succeeds and has nothing to say. -/
theorem Unusable.outcome_probe
    (h : Unusable s.limits files unreadable (location (s.withFiles files unreadable))) :
    (probe (s.withFiles files unreadable)).outcome = .ok [] := by
  cases hp : (probe (s.withFiles files unreadable)).outcome with
  | ok ss => rw [probe_eq_ok hp, h.found?_eq_none, Option.map_none, Option.getD_none]
  | error e =>
    obtain ⟨what, -, hw⟩ := probe_withFiles_eq_error.mp hp
    exact absurd hw (h.not_breaks what)

end

end Kubeconfig

namespace Config

/-! ## Drafts -/

section

variable {s : Sources} {files : List (String × Bytes)} {unreadable : List String}

end

namespace Draft

open Kubeconfig (Breaks Unusable location)

end Draft

end Config

end ClusterAccess
