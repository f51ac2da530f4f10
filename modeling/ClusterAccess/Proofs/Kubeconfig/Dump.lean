import ClusterAccess.Proofs.Kubeconfig.Revision
import ClusterAccess.Proofs.Kubeconfig.Validation

/-!
# Writing a kubeconfig down

`Kubeconfig.dump` writes a kubeconfig as the entries of a document: all of its keys, with a null for what it has
none of. Each key of each mapping has the spelling that is chosen for it there. A kubeconfig is read back from
what it is written as, whatever the choice.
-/

namespace ClusterAccess.Kubeconfig

open Text (Content)
open Yaml (Value)

/-! ## Mappings -/

def Key.spelled (k : Key) (hyphens : Bool) : String := if hyphens then k.hyphenated else k.plain

/-- The values under their keys, each key in the spelling that is chosen for it. -/
def keyed (hyphens : Key → Bool) (ms : List (Key × Value)) : Fields :=
  ms.map fun m => (.text (m.1.spelled (hyphens m.1)), m.2)

section

variable {k l : Key} {fs gs : Fields} {spelling : String} {v : Value} {hyphens : Key → Bool}
  {ms : List (Key × Value)}

theorem Key.spelled_mem_spellings (k : Key) (hyphens : Bool) : k.spelled hyphens ∈ k.spellings := by
  cases hyphens <;> simp [spelled, spellings]

theorem Key.AlikeBut.finds_iff (alike : k.AlikeBut fs gs) (apart : k.Apart l) :
    l.Finds gs spelling v ↔ l.Finds fs spelling v := by
  rw [← find?_eq_some, ← find?_eq_some, find?_congr fun _ hs => alike.get?_eq apart hs]

/-- A key at the front of a mapping does not count for the others. -/
theorem Key.alikeBut_cons (k : Key) (hyphens : Bool) (v : Value) (fs : Fields) :
    k.AlikeBut fs ((.text (k.spelled hyphens), v) :: fs) := by
  intro s hs
  have other : k.spelled hyphens ≠ s := by
    rintro rfl
    exact hs (k.spelled_mem_spellings hyphens)
  rw [Value.get?_cons, if_neg other, Option.or_none]

theorem get?_keyed_of_apart (apart : ∀ m ∈ ms, k.Apart m.1) (hs : spelling ∈ k.spellings) :
    Value.get? (keyed hyphens ms) spelling = none := by
  induction ms with
  | nil => rfl
  | cons m ms ih =>
    obtain ⟨first, rest⟩ := List.forall_mem_cons.mp apart
    have alike := m.1.alikeBut_cons (hyphens m.1) m.2 (keyed hyphens ms)
    exact (alike spelling (first spelling hs)).trans (ih rest)

/-- Keys that are apart do not hide each other. -/
theorem finds_keyed (apart : (ms.map Prod.fst).Pairwise Key.Apart) (h : (k, v) ∈ ms) :
    k.Finds (keyed hyphens ms) (k.spelled (hyphens k)) v := by
  induction ms with
  | nil => cases h
  | cons m ms ih =>
    obtain ⟨first, rest⟩ := List.pairwise_cons.mp apart
    rw [List.forall_mem_map] at first
    cases h with
    | head =>
      have absent (s : String) (hs : s ∈ k.spellings) : Value.get? (keyed hyphens ms) s = none :=
        get?_keyed_of_apart first hs
      have own := k.spelled_mem_spellings (hyphens k)
      refine Key.finds_of_get? ?_ own fun s hs other => ?_
      · rw [keyed, List.map_cons, Value.get?_cons, if_pos rfl]
        exact absent _ own ▸ rfl
      · rw [keyed, List.map_cons, Value.get?_cons, if_neg other.symm, Option.or_none]
        exact absent s hs
    | tail _ h => exact ((m.1.alikeBut_cons _ _ _).finds_iff (first _ h)).mpr (ih rest h)

end

/-! ## Fields -/

/-- A text as a value. -/
def textValue : Content → Value
  | .text s => .text s
  | .broken b => .brokenText b

theorem textOf_textValue (c : Content) : TextOf (textValue c) c := by
  cases c with
  | text s => exact .text s
  | broken b => exact .broken b

/-- The value of an optional field: null if there is none. -/
def orNull {β : Type} (value : β → Value) (o : Option β) : Value := o.elim .null value

theorem optionally_of_finds {β : Type} {Of : Value → β → Prop} {value : β → Value}
    (of : ∀ b, Of (value b) b) {k : Key} {fs : Fields} {spelling : String} {o : Option β}
    (found : k.Finds fs spelling (orNull value o)) : Optionally Of k fs o := by
  cases o with
  | none => exact .null found
  | some b => exact .given found (of b)

variable {α : Type}

def Member.value (m : Member α) (a : α) : Value :=
  match m with
  | text _ field => orNull textValue (field a)
  | truth _ field => orNull .bool (field a)

theorem Member.describes_of_finds {m : Member α} {fs : Fields} {spelling : String} {a : α}
    (found : m.key.Finds fs spelling (m.value a)) : m.Describes fs a := by
  cases m with
  | text key field => exact optionally_of_finds textOf_textValue found
  | truth key field => exact optionally_of_finds TruthOf.bool found

/-! ## Sections -/

namespace Section

/-- All the members of a record. -/
def dumpRecord (s : Section α) (hyphens : Key → Bool) (a : α) : Fields :=
  keyed hyphens (s.members.map fun m => (m.key, m.value a))

/-- The entry of the section at a place of the list. -/
def dumpEntry (s : Section α) (hyphens : List Step → Key → Bool) (i : Nat) (e : Entry α) : Value :=
  .map (keyed (hyphens [.key s.key, .item i])
    [(.word "name", textValue e.name),
      (.word s.entryKey,
        .map (s.dumpRecord (hyphens [.key s.key, .item i, .key s.entryKey]) e.record))])

def dump (s : Section α) (hyphens : List Step → Key → Bool) (es : List (Entry α)) : Value :=
  .seq (es.mapIdx (s.dumpEntry hyphens))

variable (s : Section α) {fs : Fields}

theorem describes_dumpRecord (hyphens : Key → Bool) (a : α) :
    ∀ m ∈ s.members, m.Describes (s.dumpRecord hyphens a) a := by
  intro m hm
  refine Member.describes_of_finds (finds_keyed ?_ (List.mem_map_of_mem hm))
  rw [List.map_map]
  exact s.apart

theorem entryOf_dumpEntry (hyphens : List Step → Key → Bool) (i : Nat) (e : Entry α) :
    s.EntryOf (s.dumpEntry hyphens i e) e := by
  have apart : [Key.word "name", .word s.entryKey].Pairwise Key.Apart :=
    List.pairwise_pair.mpr s.named
  refine .named (Key.get?_of_finds_word (finds_keyed apart List.mem_cons_self)) (textOf_textValue e.name) ?_
  refine .given (Key.get?_of_finds_word (finds_keyed apart (List.mem_cons_of_mem _ List.mem_cons_self))) ?_
  exact s.describes_dumpRecord _ e.record

/-- What stands under the key of the section as it is written describes its entries. -/
theorem describes_of_finds (hyphens : List Step → Key → Bool) {es : List (Entry α)} {spelling : String}
    (found : (Key.word s.key).Finds fs spelling (s.dump hyphens es)) : s.Describes fs es := by
  refine ⟨_, .listed (Key.get?_of_finds_word found) (.seq _), ?_⟩
  refine List.forall₂_iff_get.mpr ⟨List.length_mapIdx, fun i _ _ => ?_⟩
  simpa using s.entryOf_dumpEntry hyphens i _

end Section

/-! ## The document -/

/-- All the keys of a kubeconfig. The choice of a spelling is for a key in the mapping at a path. -/
def dump (k : Kubeconfig) (hyphens : List Step → Key → Bool) : Fields :=
  keyed (hyphens [])
    [(.word clusterSection.key, clusterSection.dump hyphens k.clusters),
      (.word contextSection.key, contextSection.dump hyphens k.contexts),
      (.word userSection.key, userSection.dump hyphens k.users),
      (currentContextKey, orNull textValue k.currentContext)]

theorem describes_dump (k : Kubeconfig) (hyphens : List Step → Key → Bool) :
    Describes (k.dump hyphens) k := by
  have apart : [Key.word clusterSection.key, .word contextSection.key, .word userSection.key,
      currentContextKey].Pairwise Key.Apart := by decide
  constructor
  · exact clusterSection.describes_of_finds hyphens (finds_keyed apart (by simp))
  · exact contextSection.describes_of_finds hyphens (finds_keyed apart (by simp))
  · exact userSection.describes_of_finds hyphens (finds_keyed apart (by simp))
  · exact optionally_of_finds textOf_textValue (finds_keyed apart (by simp))

/-- A kubeconfig is read back from what it is written as, in whatever spelling. So what is read of a document
is read again from what it is written as. -/
theorem ofValue_dump (hyphens : List Step → Key → Bool) :
    (∀ k : Kubeconfig, ofValue (.map (k.dump hyphens)) = .ok k) ∧
      ∀ v, ((ofValue v).bind fun k => ofValue (.map (k.dump hyphens))) = ofValue v := by
  have again (k : Kubeconfig) : ofValue (.map (k.dump hyphens)) = .ok k :=
    (ofValue_eq_ok (.map _)).mpr (describes_dump k hyphens)
  refine ⟨again, fun v => ?_⟩
  cases h : ofValue v with
  | ok k => exact again k
  | error fault => rfl

end ClusterAccess.Kubeconfig
