import ClusterAccess.Proofs.Kubeconfig.Revision
import ClusterAccess.Proofs.Kubeconfig.Validation
import Mathlib.Logic.Relation

/-!
# Nulls and absent keys

A null under a key that was absent changes nothing for the sections of a document, for its current context and
for the members of a record (`GainsField`). Only the record of an entry may be absent and may not be null: a
document that was in order is refused for such a null, and for nothing else (`GainsRecord`).
-/

namespace ClusterAccess.Kubeconfig

open Yaml (Value)

/-! ## Keys -/

/-- The second mapping has a null under a key, in one of its spellings, that the first has in neither. -/
structure Key.GainsNull (k : Key) (fs gs : Fields) : Prop where
  absent : ∀ s ∈ k.spellings, Value.get? fs s = none
  null : ∃ s ∈ k.spellings, Sets fs s .null gs

namespace Key.GainsNull

variable {k : Key} {fs gs : Fields}

theorem alikeBut (gains : k.GainsNull fs gs) : k.AlikeBut fs gs := by
  obtain ⟨s, hs, set⟩ := gains.null
  exact set.alikeBut hs

theorem not_finds (gains : k.GainsNull fs gs) (spelling : String) (v : Value) :
    ¬ k.Finds fs spelling v := by
  intro found
  have absent := gains.absent spelling found.mem_spellings
  cases found with
  | hyphenated h =>
    rw [h] at absent
    cases absent
  | plain _ h =>
    rw [h] at absent
    cases absent

theorem finds_null (gains : k.GainsNull fs gs) : ∃ spelling, k.Finds gs spelling .null := by
  obtain ⟨s, hs, set⟩ := gains.null
  refine ⟨s, finds_of_get? set.here hs fun t ht other => ?_⟩
  rw [set.elsewhere t other, gains.absent t ht]

/-- An optional field that is null is none, as one that is absent. -/
theorem readsAlike (gains : k.GainsNull fs gs) : k.ReadsAlike fs gs := by
  intro α read path
  obtain ⟨spelling, found⟩ := gains.finds_null
  rw [optional_of_null found, optional_of_absent gains.not_finds]

theorem sets_word {key : String} (gains : (word key).GainsNull fs gs) : Sets fs key .null gs := by
  obtain ⟨s, hs, set⟩ := gains.null
  have same : s = key := by simpa [word, spellings] using hs
  exact same ▸ set

end Key.GainsNull

/-! ## Sections -/

section

variable {α : Type} {s : Section α} {read : List Step → Fields → Validated α}

/-- The record of an entry has a null for a member where it had nothing. -/
inductive Section.EntryGains (s : Section α) : Value → Value → Prop
  | member {entry entry' record record' : Fields} {m : Member α}
      (given : Value.get? entry s.entryKey = some (.map record)) (hm : m ∈ s.members)
      (gains : m.key.GainsNull record record') (set : Sets entry s.entryKey (.map record') entry') :
      EntryGains s (.map entry) (.map entry')

/-- A document has a null in the section where it had nothing: for the list, or for a member of one of its
records. -/
inductive Section.GainsField (s : Section α) (fs gs : Fields) : Prop
  | list (gains : (Key.word s.key).GainsNull fs gs)
  | member {before after : List Value} {v w : Value} (gains : s.EntryGains v w)
      (relisted : s.Relists fs gs (before ++ v :: after) (before ++ w :: after))

/-- A document has a null for a record of the section, at the path, where it had nothing. -/
inductive Section.GainsRecord (s : Section α) (fs gs : Fields) : List Step → Prop
  | record {before after : List Value} {entry entry' : Fields}
      (gains : (Key.word s.entryKey).GainsNull entry entry')
      (relisted : s.Relists fs gs (before ++ .map entry :: after) (before ++ .map entry' :: after)) :
      GainsRecord s fs gs [.key s.key, .item before.length, .key s.entryKey]

/-- The member reads the null as nothing, and the others do not look at it. -/
theorem Section.readsAlike_members {record record' : Fields} {m : Member α} (hm : m ∈ s.members)
    (gains : m.key.GainsNull record record') : ∀ n ∈ s.members, n.key.ReadsAlike record record' := by
  intro n hn
  by_cases same : m.key = n.key
  · exact same ▸ gains.readsAlike
  · exact gains.alikeBut.readsAlike (s.apart_of_ne hm hn same)

theorem requiredName_congr {entry entry' : Fields} {v : Value} (set : Sets entry s.entryKey v entry')
    (path : List Step) : requiredName path entry' = requiredName path entry := by
  rw [requiredName, requiredName, set.elsewhere "name" s.name_ne_entryKey]

theorem Section.EntryGains.read_eq {v w : Value} (gains : s.EntryGains v w) (accepts : s.Accepts read)
    (refuses : s.Refuses read) (path : List Step) :
    readRecord (Entry.read s.entryKey s.empty read) path w =
      readRecord (Entry.read s.entryKey s.empty read) path v := by
  obtain @⟨entry, entry', _, _, m, given, hm, gains, set⟩ := gains
  have record : s.checkRecord read path entry' = s.checkRecord read path entry := by
    rw [checkRecord, checkRecord, given, set.here]
    exact read_congr accepts refuses (readsAlike_members hm gains) _
  rw [readRecord, readRecord, Entry.read_eq, Entry.read_eq, requiredName_congr set, record]

theorem Section.GainsField.check_eq {fs gs : Fields} (gains : s.GainsField fs gs)
    (accepts : s.Accepts read) (refuses : s.Refuses read) : s.check read gs = s.check read fs := by
  cases gains with
  | list gains =>
    have absent : s.Lists fs [] := .absent (gains.absent s.key List.mem_cons_self)
    have null : s.Lists gs [] := .null gains.sets_word.here
    rw [check_of_lists absent, check_of_lists null]
  | member gains relisted =>
    rw [check_of_lists relisted.before, check_of_lists relisted.after]
    exact Validated.items_congr fun i => gains.read_eq accepts refuses _

theorem Section.GainsField.alikeBut {fs gs : Fields} (gains : s.GainsField fs gs) :
    (Key.word s.key).AlikeBut fs gs := by
  cases gains with
  | list gains => exact gains.alikeBut
  | member _ relisted => exact relisted.elsewhere

/-- Where the section had no problem, a null for a record is the only one. -/
theorem Section.GainsRecord.problems_check {fs gs : Fields} {path : List Step}
    (gains : s.GainsRecord fs gs path) (clean : (s.check read fs).problems = []) :
    (s.check read gs).problems = [⟨path, .notRecord⟩] := by
  obtain @⟨before, after, entry, entry', gains, relisted⟩ := gains
  have null : Value.get? entry' s.entryKey = some .null := gains.sets_word.here
  rw [check_of_lists relisted.before] at clean
  rw [check_of_lists relisted.after]
  simp only [checkItems, Validated.problems_items_append, Validated.items_cons, Validated.problems_seq,
    Validated.problems_map, Nat.zero_add, List.append_eq_nil_iff] at clean ⊢
  obtain ⟨front, own, back⟩ := clean
  rw [readRecord, Entry.read_eq, Validated.problems_seq, Validated.problems_map,
    List.append_eq_nil_iff] at own
  rw [front, back, readRecord, Entry.read_eq, Validated.problems_seq, Validated.problems_map,
    requiredName_congr gains.sets_word, own.1, checkRecord, null]
  rfl

theorem Section.GainsRecord.alikeBut {fs gs : Fields} {path : List Step}
    (gains : s.GainsRecord fs gs path) : (Key.word s.key).AlikeBut fs gs := by
  cases gains with
  | record _ relisted => exact relisted.elsewhere

end

/-! ## The document -/

/-- A document has a null where it had nothing: for a section, for the current context, or for a member of a
record. -/
inductive GainsField (fs gs : Fields) : Prop
  | cluster (gains : clusterSection.GainsField fs gs)
  | context (gains : contextSection.GainsField fs gs)
  | user (gains : userSection.GainsField fs gs)
  | current (gains : currentContextKey.GainsNull fs gs)

/-- A document has a null for the record of an entry, at the path, where it had nothing. -/
inductive GainsRecord (fs gs : Fields) (path : List Step) : Prop
  | cluster (gains : clusterSection.GainsRecord fs gs path)
  | context (gains : contextSection.GainsRecord fs gs path)
  | user (gains : userSection.GainsRecord fs gs path)

section

variable {fs gs : Fields}

theorem validate_of_gainsField (gains : GainsField fs gs) : validate gs = validate fs := by
  cases gains with
  | cluster gains =>
    have alike := gains.alikeBut
    exact validate_congr (gains.check_eq accepts_cluster refuses_cluster) (alike.check_eq (by decide))
      (alike.check_eq (by decide)) (alike.readsAlike (by decide))
  | context gains =>
    have alike := gains.alikeBut
    exact validate_congr (alike.check_eq (by decide)) (gains.check_eq accepts_context refuses_context)
      (alike.check_eq (by decide)) (alike.readsAlike (by decide))
  | user gains =>
    have alike := gains.alikeBut
    exact validate_congr (alike.check_eq (by decide)) (alike.check_eq (by decide))
      (gains.check_eq accepts_user refuses_user) (alike.readsAlike (by decide))
  | current gains =>
    have alike := gains.alikeBut
    exact validate_congr (alike.check_eq (by decide)) (alike.check_eq (by decide))
      (alike.check_eq (by decide)) gains.readsAlike

/-- Nulls in any number of places, one after another, change nothing. -/
theorem validate_of_gainsFields (gains : Relation.ReflTransGen GainsField fs gs) :
    validate gs = validate fs := by
  induction gains with
  | refl => rfl
  | tail _ gains ih => rw [validate_of_gainsField gains, ih]

theorem problems_of_gainsRecord {path : List Step} (gains : GainsRecord fs gs path)
    (clean : (validate fs).problems = []) : (validate gs).problems = [⟨path, .notRecord⟩] := by
  simp only [problems_validate, List.append_eq_nil_iff] at clean
  obtain ⟨⟨⟨clusters, contexts⟩, users⟩, current⟩ := clean
  rw [problems_validate]
  cases gains with
  | cluster gains =>
    have alike := gains.alikeBut
    rw [gains.problems_check clusters, alike.check_eq (by decide), contexts, alike.check_eq (by decide),
      users, (alike.readsAlike (by decide)).optionalText_eq, current]
    rfl
  | context gains =>
    have alike := gains.alikeBut
    rw [alike.check_eq (by decide), clusters, gains.problems_check contexts, alike.check_eq (by decide),
      users, (alike.readsAlike (by decide)).optionalText_eq, current]
    rfl
  | user gains =>
    have alike := gains.alikeBut
    rw [alike.check_eq (by decide), clusters, alike.check_eq (by decide), contexts,
      gains.problems_check users, (alike.readsAlike (by decide)).optionalText_eq, current]
    rfl

/-- A document that was in order is refused for a null in place of a record. -/
theorem validate_of_gainsRecord {path : List Step} (gains : GainsRecord fs gs path) {k : Kubeconfig}
    (h : validate fs = .accepted k) : validate gs = .refused [⟨path, .notRecord⟩] := by
  have problems : (validate gs).problems = [⟨path, .notRecord⟩] := by
    refine problems_of_gainsRecord gains ?_
    rw [h]
    rfl
  cases hg : validate gs with
  | accepted a =>
    rw [hg] at problems
    cases problems
  | refused ps =>
    rw [hg] at problems
    exact congrArg _ problems

/-- A null under an absent key changes nothing, however many there are, save for the record of an entry: for a
null there, and for nothing else, a document is refused. -/
theorem null_means_absent {k : Kubeconfig} (h : ofValue (.map fs) = .ok k) :
    (∀ gs, Relation.ReflTransGen GainsField fs gs → ofValue (.map gs) = .ok k) ∧
      ∀ gs path, GainsRecord fs gs path → ofValue (.map gs) = .error (.invalid [⟨path, .notRecord⟩]) := by
  have accepted : validate fs = .accepted k :=
    validate_eq_accepted.mpr ((ofValue_eq_ok (.map fs)).mp h)
  constructor
  · intro gs gains
    rw [ofValue_eq_ok (.map gs), ← validate_eq_accepted, validate_of_gainsFields gains, accepted]
  · intro gs path gains
    exact ofValue_of_refused (.map gs) (validate_of_gainsRecord gains accepted)

end

/-! ### Users without credentials -/

/-- A document that lists the users. -/
def sampleUsers (users : List Value) : Fields := [(.text "users", .seq users)]

theorem relists_sampleUsers (vs ws : List Value) :
    userSection.Relists (sampleUsers vs) (sampleUsers ws) vs ws where
  before := .listed rfl (.seq vs)
  after := .listed rfl (.seq ws)
  elsewhere := (sets_last [] "users" (.seq vs) (.seq ws)).alikeBut (by decide)

/-- A user with the given record, and one with a name and what is given. -/
def sampleOwner (record : Fields) : Value := .map [(.text "name", .text "a"), (.text "user", .map record)]

def sampleGuest (rest : Fields) : Value := .map ([(.text "name", .text "b")] ++ rest)

theorem gainsField_sampleUsers :
    GainsField (sampleUsers [sampleOwner [], sampleGuest []])
      (sampleUsers [sampleOwner [(.text "client_key", .null)], sampleGuest []]) := by
  have gains : (Key.mk "client-key" "client_key").GainsNull [] [(.text "client_key", .null)] :=
    ⟨by decide, _, by decide, sets_append [] "client_key" .null⟩
  have known : Member.text ⟨"client-key", "client_key"⟩ User.clientKey ∈ userSection.members := by
    simp [userSection]
  have owner : userSection.EntryGains (sampleOwner []) (sampleOwner [(.text "client_key", .null)]) :=
    .member rfl known gains (sets_last [(.text "name", .text "a")] "user" _ _)
  exact .user (.member owner (relists_sampleUsers ([] ++ _ :: _) ([] ++ _ :: _)))

theorem gainsRecord_sampleUsers :
    GainsRecord (sampleUsers [sampleOwner [], sampleGuest []])
      (sampleUsers [sampleOwner [], sampleGuest [(.text "user", .null)]])
      [.key "users", .item 1, .key "user"] := by
  have gains : (Key.word "user").GainsNull ([(.text "name", .text "b")] ++ [])
      ([(.text "name", .text "b")] ++ [(.text "user", .null)]) :=
    ⟨by decide, _, by decide, sets_append [(.text "name", .text "b")] "user" .null⟩
  exact .user (.record gains (relists_sampleUsers ([sampleOwner []] ++ _ :: _) ([_] ++ _ :: _)))

theorem ofValue_sampleUsers :
    ofValue (.map (sampleUsers [sampleOwner [], sampleGuest []])) =
      .ok { users := [⟨.text "a", {}⟩, ⟨.text "b", {}⟩] } := by
  decide

/-- A null for a key is as good as nothing, and a null for the missing record is the one problem. -/
theorem null_means_absent_sampleUsers :
    ofValue (.map (sampleUsers [sampleOwner [(.text "client_key", .null)], sampleGuest []])) =
        .ok { users := [⟨.text "a", {}⟩, ⟨.text "b", {}⟩] } ∧
      ofValue (.map (sampleUsers [sampleOwner [], sampleGuest [(.text "user", .null)]])) =
        .error (.invalid [⟨[.key "users", .item 1, .key "user"], .notRecord⟩]) := by
  obtain ⟨field, record⟩ := null_means_absent ofValue_sampleUsers
  exact ⟨field _ (.single gainsField_sampleUsers), record _ _ gainsRecord_sampleUsers⟩

/-- A document that a null under an absent key spoils. -/
theorem null_refused_sampleUsers :
    ∃ fs gs path k, ofValue (.map fs) = .ok k ∧ GainsRecord fs gs path ∧ ofValue (.map gs) ≠ .ok k := by
  refine ⟨_, _, _, _, ofValue_sampleUsers, gainsRecord_sampleUsers, ?_⟩
  decide

end ClusterAccess.Kubeconfig
