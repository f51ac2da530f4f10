import ClusterAccess.Kubeconfig.Document
import ClusterAccess.Proofs.Kubeconfig.Order

/-!
# Validation is exact

A document is read as the kubeconfig that its entries describe. One that describes none is refused with all
its violations, each once and in the order of the declaration.
-/

namespace ClusterAccess.Kubeconfig

open Yaml (Value)

/-- The entries of a document: of a mapping, and none where nothing is written. -/
inductive EntriesOf : Value → Fields → Prop
  | map (fs : Fields) : EntriesOf (.map fs) fs
  | null : EntriesOf .null []

variable {v : Value} {fs : Fields}

theorem ofValue_of_refused (hv : EntriesOf v fs) {ps : List Problem} (h : validate fs = .refused ps) :
    ofValue v = .error (.invalid ps) := by
  cases hv with
  | map => simp only [ofValue, h]
  | null => cases h

theorem ofValue_eq_ok (hv : EntriesOf v fs) {k : Kubeconfig} : ofValue v = .ok k ↔ Describes fs k := by
  rw [← validate_eq_accepted]
  cases h : validate fs with
  | accepted a =>
    have read : ofValue v = .ok a := by
      cases hv with
      | map => simp only [ofValue, h]
      | null =>
        cases h
        rfl
    rw [read, Except.ok.injEq, Validated.accepted.injEq]
  | refused ps =>
    rw [ofValue_of_refused hv h]
    exact ⟨nofun, nofun⟩

theorem exists_describes_iff : (∃ k, Describes fs k) ↔ ∀ p, ¬ Violates fs p := by
  simp only [← validate_eq_accepted, ← mem_problems_validate]
  rw [← List.eq_nil_iff_forall_not_mem]
  refine ⟨?_, founded_validate fs⟩
  rintro ⟨k, h⟩
  rw [h]
  rfl

/-- A mapping that describes no kubeconfig is refused with its violations in order. -/
theorem exists_refused (h : ¬ ∃ k, Describes fs k) :
    ∃ ps, validate fs = .refused ps ∧ ps ≠ [] ∧ (∀ p, p ∈ ps ↔ Violates fs p) ∧
      (ps.map Problem.path).Pairwise Before := by
  cases hf : validate fs with
  | accepted k => exact absurd ⟨k, validate_eq_accepted.mp hf⟩ h
  | refused ps =>
    have problems : (validate fs).problems = ps := by rw [hf]; rfl
    refine ⟨ps, rfl, ?_, fun p => ?_, ?_⟩
    · rintro rfl
      obtain ⟨k, hk⟩ := founded_validate fs problems
      exact h ⟨k, validate_eq_accepted.mp hk⟩
    · rw [← problems]
      exact mem_problems_validate
    · rw [← problems]
      exact List.pairwise_map.mpr (pairwise_validate fs)

theorem nodup_of_pairwise {paths : List (List Step)} (h : paths.Pairwise Before) : paths.Nodup := by
  refine h.imp ?_
  rintro p _ before rfl
  exact not_before_self p before

theorem ofText_of_ofText {limits : Yaml.Limits} {source text : String}
    (h : Value.ofText limits text = .ok v) :
    ofText limits source text = (ofValue v).mapError fun fault => .access (.kubeconfig source fault) := by
  simp only [ofText, Reading.ofText, h]
  cases ofValue v <;> rfl

/-- A document that describes a kubeconfig has no violations, and is read as that kubeconfig. Any other is
refused with its violations, all of them and nothing else, each at a place of its own and in order. -/
theorem schema_exact (hv : EntriesOf v fs) :
    (∀ k, ofValue v = .ok k ↔ Describes fs k) ∧
      ((∃ k, Describes fs k) ↔ ∀ p, ¬ Violates fs p) ∧
      ((¬ ∃ k, Describes fs k) → ∃ ps, ofValue v = .error (.invalid ps) ∧ ps ≠ [] ∧
        (∀ p, p ∈ ps ↔ Violates fs p) ∧ (ps.map Problem.path).Nodup ∧
        (ps.map Problem.path).Pairwise Before) ∧
      ∀ limits source text, Value.ofText limits text = .ok v →
        ofText limits source text =
          (ofValue v).mapError fun fault => .access (.kubeconfig source fault) := by
  refine ⟨fun k => ofValue_eq_ok hv, exists_describes_iff, fun none => ?_,
    fun limits source text => ofText_of_ofText⟩
  obtain ⟨ps, h, nonempty, all, ordered⟩ := exists_refused none
  exact ⟨ps, ofValue_of_refused hv h, nonempty, all, nodup_of_pairwise ordered, ordered⟩

/-! ### A document with two violations -/

/-- A document with an entry that has no name and a server that is a number. The list under the hidden
spelling is no truth value, but nothing looks at it. -/
def sampleNameless : Fields :=
  [(.text "clusters", .seq [.map [(.text "cluster", .map [
      (.text "server", .int 1),
      (.text "insecure-skip-tls-verify", .text "Yes"),
      (.text "insecure_skip_tls_verify", .seq [])])]]),
    (.text "users", .null),
    (.text "current-context", .bytes [99])]

def sampleNamelessProblems : List Problem :=
  [⟨[.key "clusters", .item 0, .key "name"], .missing⟩,
    ⟨[.key "clusters", .item 0, .key "cluster", .key "server"], .notText⟩]

/-- The nameless entry is refused with both of its violations, and an empty document is not refused. -/
theorem schema_exact_sampleNameless :
    (¬ ∃ k, Describes sampleNameless k) ∧
      (∀ p, p ∈ sampleNamelessProblems ↔ Violates sampleNameless p) ∧
      Value.ofText {} "" = .ok .null ∧ Describes [] {} ∧ ofText {} "<string>" "" = .ok {} := by
  have refused : ofValue (.map sampleNameless) = .error (.invalid sampleNamelessProblems) := by decide
  have written : Value.ofText {} "" = .ok .null := rfl
  obtain ⟨accepts, -, refuses, -⟩ := schema_exact (.map sampleNameless)
  obtain ⟨acceptsEmpty, -, -, read⟩ := schema_exact .null
  have none : ¬ ∃ k, Describes sampleNameless k := by
    rintro ⟨k, hk⟩
    rw [(accepts k).mpr hk] at refused
    cases refused
  obtain ⟨ps, h, -, all, -⟩ := refuses none
  cases refused.symm.trans h
  exact ⟨none, all, written, (acceptsEmpty {}).mp rfl, read _ _ _ written⟩

end ClusterAccess.Kubeconfig
