import ClusterAccess.Kubeconfig.Schema
import ClusterAccess.Proofs.Kubeconfig.Validated

/-!
# Scalars of a kubeconfig

Which values give a text or a truth value, and what is wrong with those that give none. A check `Accepts`
the former for what they give and `Refuses` the latter for their fault.
-/

namespace ClusterAccess.Kubeconfig

open Text (Content)
open Yaml (Value)

/-- The check accepts a value for what it gives, wherever it stands. -/
def Accepts {α : Type} (read : List Step → Value → Validated α) (Of : Value → α → Prop) : Prop :=
  ∀ path v a, read path v = .accepted a ↔ Of v a

/-- The check refuses a value for its fault alone, at the place where it stands. -/
def Refuses {α : Type} (read : List Step → Value → Validated α) (Fault : Value → ProblemKind → Prop) :
    Prop :=
  ∀ path v ps, read path v = .refused ps ↔ ∃ kind, Fault v kind ∧ ps = [⟨path, kind⟩]

section

variable {α : Type} {read : List Step → Value → Validated α} {Fault : Value → ProblemKind → Prop}

theorem Refuses.mem_problems (h : Refuses read Fault) {path : List Step} {v : Value} {p : Problem} :
    p ∈ (read path v).problems ↔ ∃ kind, Fault v kind ∧ p = ⟨path, kind⟩ := by
  cases hr : read path v with
  | accepted a =>
    constructor
    · nofun
    · rintro ⟨kind, hv, -⟩
      rw [(h path v _).mpr ⟨kind, hv, rfl⟩] at hr
      cases hr
  | refused ps =>
    obtain ⟨kind, hv, rfl⟩ := (h path v ps).mp hr
    constructor
    · intro hp
      exact ⟨kind, hv, List.mem_singleton.mp hp⟩
    · rintro ⟨kind', hv', rfl⟩
      rw [(h path v _).mpr ⟨kind', hv', rfl⟩] at hr
      cases hr
      exact List.mem_singleton_self _

/-- One fault is one problem. -/
theorem Refuses.pairwise (h : Refuses read Fault) (path : List Step) (v : Value)
    (r : Problem → Problem → Prop) : (read path v).problems.Pairwise r := by
  cases hr : read path v with
  | accepted a => exact .nil
  | refused ps =>
    obtain ⟨kind, -, rfl⟩ := (h path v ps).mp hr
    exact List.pairwise_singleton r _

theorem Refuses.founded (h : Refuses read Fault) (path : List Step) (v : Value) :
    (read path v).Founded := by
  cases hr : read path v with
  | accepted a => exact Validated.founded_accepted a
  | refused ps =>
    obtain ⟨kind, -, rfl⟩ := (h path v ps).mp hr
    exact nofun

end

/-! ## Texts -/

/-- The text that a value gives: itself, broken or not, or what its bytes encode. -/
inductive TextOf : Value → Content → Prop
  | text (s : String) : TextOf (.text s) (.text s)
  | broken (b : Text.Broken) : TextOf (.brokenText b) (.broken b)
  | bytes {b : Bytes} {s : String} (h : Utf8.decode b = .ok s) : TextOf (.bytes b) (.text s)

/-- The value is no text, and how. -/
inductive TextFault : Value → ProblemKind → Prop
  | undecodable {b : Bytes} {fault : Utf8.Fault} (h : Utf8.decode b = .error fault) :
      TextFault (.bytes b) .notUnicode
  | other {v : Value} (text : ∀ s, v ≠ .text s) (broken : ∀ b, v ≠ .brokenText b)
      (bytes : ∀ b, v ≠ .bytes b) : TextFault v .notText

theorem not_textOf_null (s : Content) : ¬ TextOf .null s := by
  rintro ⟨⟩

theorem accepts_text : Accepts readText TextOf := by
  intro path v s
  constructor
  · intro h
    unfold readText at h
    split at h
    · cases h
      exact .text _
    · cases h
      exact .broken _
    · split at h <;> cases h
      exact .bytes ‹_›
    · cases h
  · rintro (_ | _ | h)
    · rfl
    · rfl
    · simp only [readText, h]

theorem refuses_text : Refuses readText TextFault := by
  intro path v ps
  constructor
  · intro h
    unfold readText at h
    split at h
    · cases h
    · cases h
    · split at h <;> cases h
      exact ⟨_, .undecodable ‹_›, rfl⟩
    · cases h
      exact ⟨_, .other ‹_› ‹_› ‹_›, rfl⟩
  · rintro ⟨_, h | ⟨text, broken, bytes⟩, rfl⟩
    · simp only [readText, h]
      rfl
    · unfold readText
      split
      · exact absurd rfl (text _)
      · exact absurd rfl (broken _)
      · exact absurd rfl (bytes _)
      · rfl

/-! ## Truth values -/

/-- The whole number that a value is. -/
inductive WholeOf : Value → Int → Prop
  | int (n : Int) : WholeOf (.int n) n
  | float {r : Text.Binary64} {n : Int} (h : r.toInt? = some n) : WholeOf (.float r) n

/-- The words for a truth value, in lower case. -/
def truthWords : Bool → List String
  | false => ["0", "off", "f", "false", "n", "no"]
  | true => ["1", "on", "t", "true", "y", "yes"]

/-- A word for a truth value, in any case of its letters. -/
def IsTruthWord (s : String) (b : Bool) : Prop :=
  String.ofList (s.toList.map Char.toLower) ∈ truthWords b

/-- The truth value that a value gives: itself, as a number, or as a word. -/
inductive TruthOf : Value → Bool → Prop
  | bool (b : Bool) : TruthOf (.bool b) b
  | number {v : Value} {b : Bool} (h : WholeOf v b.toInt) : TruthOf v b
  | word {v : Value} {s : String} {b : Bool} (hv : TextOf v (.text s)) (h : IsTruthWord s b) : TruthOf v b

/-- The value is no truth value, and how. Texts and whole numbers of 64 bits count as words that stand for
none. -/
inductive TruthFault : Value → ProblemKind → Prop
  | broken (b : Text.Broken) : TruthFault (.brokenText b) .notUnicode
  | word {v : Value} {s : String} (hv : TextOf v (.text s)) (h : ∀ b, ¬ IsTruthWord s b) :
      TruthFault v .notTruthWord
  | undecodable {b : Bytes} {fault : Utf8.Fault} (h : Utf8.decode b = .error fault) :
      TruthFault (.bytes b) .notTruthWord
  | number {v : Value} {n : Int} (hv : WholeOf v n) (h : ∀ b : Bool, n ≠ b.toInt)
      (fits : isWord64 n) : TruthFault v .notTruthWord
  | huge {v : Value} {n : Int} (hv : WholeOf v n) (h : ¬ isWord64 n) : TruthFault v .notTruthValue
  | fraction {r : Text.Binary64} (h : r.toInt? = none) : TruthFault (.float r) .notTruthValue
  | other {v : Value} (bool : ∀ b, v ≠ .bool b) (int : ∀ n, v ≠ .int n) (float : ∀ r, v ≠ .float r)
      (text : ∀ s, v ≠ .text s) (broken : ∀ b, v ≠ .brokenText b) (bytes : ∀ b, v ≠ .bytes b) :
      TruthFault v .notTruthValue

theorem not_truthOf_null (b : Bool) : ¬ TruthOf .null b := by
  rintro (_ | ⟨⟨⟩⟩ | ⟨⟨⟩, -⟩)

theorem truthWord?_eq_some {s : String} {b : Bool} : truthWord? s = some b ↔ IsTruthWord s b := by
  unfold IsTruthWord
  generalize hw : String.ofList (s.toList.map Char.toLower) = word
  have apart := (by decide : ∀ w ∈ truthWords true, w ∉ truthWords false) word
  have looked : truthWord? s =
      if word ∈ truthWords false then some false
      else if word ∈ truthWords true then some true else none := by
    simp only [truthWord?, hw, List.contains_iff_mem]
    rfl
  rw [looked]
  cases b <;> split_ifs <;> simp_all

theorem readTruthWord_eq_accepted {path : List Step} {s : String} {b : Bool} :
    readTruthWord path s = .accepted b ↔ IsTruthWord s b := by
  rw [← truthWord?_eq_some, readTruthWord]
  cases truthWord? s with
  | some c => exact ⟨fun h => by cases h; rfl, fun h => by cases h; rfl⟩
  | none => exact ⟨nofun, nofun⟩

theorem readTruthNumber_eq_accepted {path : List Step} {n : Int} {b : Bool} :
    readTruthNumber path n = .accepted b ↔ n = b.toInt := by
  unfold readTruthNumber
  cases b <;> split_ifs <;> simp_all [Validated.problem]

theorem readTruth_of_wholeOf {path : List Step} {v : Value} {n : Int} (h : WholeOf v n) :
    readTruth path v = readTruthNumber path n := by
  cases h with
  | int => rfl
  | float h => simp only [readTruth, h]

theorem readTruth_of_textOf {path : List Step} {v : Value} {s : String} (h : TextOf v (.text s)) :
    readTruth path v = readTruthWord path s := by
  cases h with
  | text => rfl
  | bytes h => simp only [readTruth, h]

theorem accepts_truth : Accepts readTruth TruthOf := by
  intro path v b
  constructor
  · intro h
    unfold readTruth at h
    split at h
    · cases h
      exact .bool b
    · cases readTruthNumber_eq_accepted.mp h
      exact .number (.int _)
    · split at h
      · cases readTruthNumber_eq_accepted.mp h
        exact .number (.float ‹_›)
      · cases h
    · exact .word (.text _) (readTruthWord_eq_accepted.mp h)
    · cases h
    · split at h
      · exact .word (.bytes ‹_›) (readTruthWord_eq_accepted.mp h)
      · cases h
    · cases h
  · rintro (_ | hv | ⟨hv, hw⟩)
    · rfl
    · rw [readTruth_of_wholeOf hv]
      exact readTruthNumber_eq_accepted.mpr rfl
    · rw [readTruth_of_textOf hv]
      exact readTruthWord_eq_accepted.mpr hw

theorem readTruthWord_eq_refused {path : List Step} {s : String} {ps : List Problem} :
    readTruthWord path s = .refused ps ↔
      (∀ b, ¬ IsTruthWord s b) ∧ ps = [⟨path, .notTruthWord⟩] := by
  simp only [← truthWord?_eq_some, readTruthWord]
  cases truthWord? s <;> simp [Validated.problem, eq_comm]

theorem readTruthNumber_eq_refused {path : List Step} {n : Int} {ps : List Problem} :
    readTruthNumber path n = .refused ps ↔ (∀ b : Bool, n ≠ b.toInt) ∧
      ps = [⟨path, if isWord64 n then .notTruthWord else .notTruthValue⟩] := by
  have both : (∀ b : Bool, n ≠ b.toInt) ↔ n ≠ 0 ∧ n ≠ 1 := Bool.forall_bool
  rw [both, readTruthNumber]
  by_cases h0 : n = 0
  · simp [h0]
  · by_cases h1 : n = 1
    · simp [h1]
    · cases isWord64 n <;> simp [h0, h1, Validated.problem, eq_comm]

theorem truthFault_of_number {v : Value} {n : Int} (hv : WholeOf v n) (h : ∀ b : Bool, n ≠ b.toInt) :
    TruthFault v (if isWord64 n then .notTruthWord else .notTruthValue) := by
  split
  · exact .number hv h ‹_›
  · exact .huge hv ‹_›

theorem refuses_truth : Refuses readTruth TruthFault := by
  intro path v ps
  constructor
  · intro h
    unfold readTruth at h
    split at h
    · cases h
    · obtain ⟨hn, rfl⟩ := readTruthNumber_eq_refused.mp h
      exact ⟨_, truthFault_of_number (.int _) hn, rfl⟩
    · split at h
      · obtain ⟨hn, rfl⟩ := readTruthNumber_eq_refused.mp h
        exact ⟨_, truthFault_of_number (.float ‹_›) hn, rfl⟩
      · cases h
        exact ⟨_, .fraction ‹_›, rfl⟩
    · obtain ⟨hw, rfl⟩ := readTruthWord_eq_refused.mp h
      exact ⟨_, .word (.text _) hw, rfl⟩
    · cases h
      exact ⟨_, .broken _, rfl⟩
    · split at h
      · obtain ⟨hw, rfl⟩ := readTruthWord_eq_refused.mp h
        exact ⟨_, .word (.bytes ‹_›) hw, rfl⟩
      · cases h
        exact ⟨_, .undecodable ‹_›, rfl⟩
    · cases h
      exact ⟨_, .other ‹_› ‹_› ‹_› ‹_› ‹_› ‹_›, rfl⟩
  · rintro ⟨_, _ | ⟨hv, hw⟩ | h | ⟨hv, hn, fits⟩ | ⟨hv, huge⟩ | h |
        ⟨bool, int, float, text, broken, bytes⟩, rfl⟩
    · rfl
    · rw [readTruth_of_textOf hv]
      exact readTruthWord_eq_refused.mpr ⟨hw, rfl⟩
    · simp only [readTruth, h]
      rfl
    · rw [readTruth_of_wholeOf hv, readTruthNumber_eq_refused, if_pos fits]
      exact ⟨hn, rfl⟩
    · rw [readTruth_of_wholeOf hv, readTruthNumber_eq_refused, if_neg huge]
      refine ⟨?_, rfl⟩
      rintro b rfl
      exact huge (by cases b <;> rfl)
    · simp only [readTruth, h]
      rfl
    · unfold readTruth
      split
      · exact absurd rfl (bool _)
      · exact absurd rfl (int _)
      · exact absurd rfl (float _)
      · exact absurd rfl (text _)
      · exact absurd rfl (broken _)
      · exact absurd rfl (bytes _)
      · rfl

end ClusterAccess.Kubeconfig
