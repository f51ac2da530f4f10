import ClusterAccess.Proofs.Kubeconfig.Field
import Mathlib.Data.List.Pairwise

/-!
# What a kubeconfig is declared to be

The records of a kubeconfig are declared by tables: a `Section` is a list of named records at the top of the
document, and its members are the fields of a record. `Describes` says when the entries of a mapping describe
a kubeconfig by these tables, and `validate` accepts what they describe.
-/

namespace ClusterAccess.Kubeconfig

open Yaml (Value)

/-! ## Sections -/

/-- A list of named records at the top of a document. An entry has the keys `name` and `entryKey`, a record
those of its members. -/
structure Section (α : Type) where
  key : String
  entryKey : String
  members : List (Member α)
  empty : α
  named : (Key.word "name").Apart (.word entryKey) := by decide
  apart : (members.map Member.key).Pairwise Key.Apart := by decide

def clusterSection : Section Cluster where
  key := "clusters"
  entryKey := "cluster"
  members := [
    .text (.word "server") Cluster.server,
    .truth ⟨"insecure-skip-tls-verify", "insecure_skip_tls_verify"⟩ Cluster.insecureSkipTlsVerify,
    .text ⟨"certificate-authority", "certificate_authority"⟩ Cluster.certificateAuthority,
    .text ⟨"certificate-authority-data", "certificate_authority_data"⟩
      Cluster.certificateAuthorityData]
  empty := {}

def contextSection : Section Context where
  key := "contexts"
  entryKey := "context"
  members := [
    .text (.word "cluster") Context.cluster,
    .text (.word "user") Context.user,
    .text (.word "namespace") Context.namespaceName]
  empty := {}

def userSection : Section User where
  key := "users"
  entryKey := "user"
  members := [
    .text ⟨"client-certificate", "client_certificate"⟩ User.clientCertificate,
    .text ⟨"client-certificate-data", "client_certificate_data"⟩ User.clientCertificateData,
    .text ⟨"client-key", "client_key"⟩ User.clientKey,
    .text ⟨"client-key-data", "client_key_data"⟩ User.clientKeyData,
    .text (.word "token") User.token,
    .text (.word "username") User.username,
    .text (.word "password") User.password]
  empty := {}

/-- The key of the one field of a document that is no section. -/
def currentContextKey : Key := ⟨"current-context", "current_context"⟩

/-- The items that a value lists. A pair of an ordered mapping is a sequence of two. -/
inductive Listing : Value → List Value → Prop
  | seq (vs : List Value) : Listing (.seq vs) vs
  | set (vs : List Value) : Listing (.set vs) vs
  | pairs (ps : List (Value × Value)) : Listing (.pairs ps) (ps.map fun p => .seq [p.1, p.2])

theorem listed?_eq_some {v : Value} {vs : List Value} : listed? v = some vs ↔ Listing v vs := by
  constructor
  · intro h
    unfold listed? at h
    split at h <;> cases h
    · exact .seq vs
    · exact .set vs
    · exact .pairs _
  · rintro (_ | _ | _) <;> rfl

section

variable {α : Type}

theorem Section.name_ne_entryKey (s : Section α) : "name" ≠ s.entryKey := by
  intro same
  exact s.named "name" List.mem_cons_self (same ▸ List.mem_cons_self)

theorem Section.apart_of_ne (s : Section α) {m n : Member α} (hm : m ∈ s.members) (hn : n ∈ s.members)
    (h : m.key ≠ n.key) : m.key.Apart n.key :=
  s.apart.forall (List.mem_map_of_mem hm) (List.mem_map_of_mem hn) h

/-- The items under the key of the section. Absent and null are none. -/
inductive Section.Lists (s : Section α) (fs : Fields) : List Value → Prop
  | absent (h : Value.get? fs s.key = none) : Lists s fs []
  | null (h : Value.get? fs s.key = some .null) : Lists s fs []
  | listed {v : Value} {vs : List Value} (h : Value.get? fs s.key = some v) (hv : Listing v vs) :
      Lists s fs vs

/-- The record under the key of an entry: a mapping that gives its fields, or the empty record if the
key is absent. -/
inductive Section.RecordOf (s : Section α) (entry : Fields) : α → Prop
  | absent (h : Value.get? entry s.entryKey = none) : RecordOf s entry s.empty
  | given {record : Fields} {a : α} (h : Value.get? entry s.entryKey = some (.map record))
      (ha : ∀ m ∈ s.members, m.Describes record a) : RecordOf s entry a

/-- The entry that a value gives: a mapping with a name. -/
inductive Section.EntryOf (s : Section α) : Value → Entry α → Prop
  | named {entry : Fields} {v : Value} {e : Entry α} (h : Value.get? entry "name" = some v)
      (hv : TextOf v e.name) (ha : s.RecordOf entry e.record) : EntryOf s (.map entry) e

/-- The entries of a mapping give the named records of the section. -/
def Section.Describes (s : Section α) (fs : Fields) (es : List (Entry α)) : Prop :=
  ∃ vs, s.Lists fs vs ∧ List.Forall₂ s.EntryOf vs es

/-- The check accepts the records whose fields the entries give. -/
def Section.Accepts (s : Section α) (read : List Step → Fields → Validated α) : Prop :=
  ∀ path fs a, read path fs = .accepted a ↔ ∀ m ∈ s.members, m.Describes fs a

theorem requiredName_eq_accepted {path : List Step} {fs : Fields} {name : Text.Content} :
    requiredName path fs = .accepted name ↔
      ∃ v, Value.get? fs "name" = some v ∧ TextOf v name := by
  unfold requiredName
  cases Value.get? fs "name" with
  | none => exact ⟨nofun, by rintro ⟨_, ⟨⟩, -⟩⟩
  | some v =>
    rw [accepts_text]
    exact ⟨fun h => ⟨v, rfl, h⟩, by rintro ⟨_, ⟨⟩, h⟩; exact h⟩

theorem readRecord_eq_accepted {read : List Step → Fields → Validated α} {path : List Step}
    {v : Value} {a : α} :
    readRecord read path v = .accepted a ↔ ∃ fs, v = .map fs ∧ read path fs = .accepted a := by
  cases v
  case map fs => exact ⟨fun h => ⟨fs, rfl, h⟩, by rintro ⟨_, ⟨⟩, h⟩; exact h⟩
  all_goals exact ⟨nofun, by rintro ⟨_, ⟨⟩, -⟩⟩

variable {s : Section α} {read : List Step → Fields → Validated α}

/-- The check of the record in an entry. -/
def Section.checkRecord (s : Section α) (read : List Step → Fields → Validated α) (path : List Step)
    (entry : Fields) : Validated α :=
  match Value.get? entry s.entryKey with
  | none => .accepted s.empty
  | some v => readRecord read (path ++ [.key s.entryKey]) v

theorem Section.checkRecord_eq_accepted (h : s.Accepts read) {path : List Step} {entry : Fields}
    {a : α} : s.checkRecord read path entry = .accepted a ↔ s.RecordOf entry a := by
  unfold checkRecord
  constructor
  · intro ha
    split at ha
    · cases ha
      exact .absent ‹_›
    · obtain ⟨record, rfl, ha⟩ := readRecord_eq_accepted.mp ha
      exact .given ‹_› ((h _ _ _).mp ha)
  · rintro (hr | ⟨hr, ha⟩)
    · rw [hr]
    · rw [hr]
      exact readRecord_eq_accepted.mpr ⟨_, rfl, (h _ _ _).mpr ha⟩

theorem Entry.read_eq (s : Section α) (read : List Step → Fields → Validated α) (path : List Step)
    (entry : Fields) :
    Entry.read s.entryKey s.empty read path entry =
      Entry.mk <$> requiredName path entry <*> s.checkRecord read path entry := rfl

theorem Entry.read_eq_accepted (h : s.Accepts read) {path : List Step} {entry : Fields} {e : Entry α} :
    Entry.read s.entryKey s.empty read path entry = .accepted e ↔ s.EntryOf (.map entry) e := by
  simp only [Entry.read_eq, Validated.seq_eq_accepted, Validated.map_eq_accepted,
    requiredName_eq_accepted, Section.checkRecord_eq_accepted h]
  constructor
  · rintro ⟨_, ⟨name, ⟨v, hn, hv⟩, rfl⟩, a, ha, rfl⟩
    exact .named hn hv ha
  · rintro ⟨hn, hv, ha⟩
    exact ⟨_, ⟨_, ⟨_, hn, hv⟩, rfl⟩, _, ha, rfl⟩

theorem readEntry_eq_accepted (h : s.Accepts read) {path : List Step} {v : Value} {e : Entry α} :
    readRecord (Entry.read s.entryKey s.empty read) path v = .accepted e ↔ s.EntryOf v e := by
  rw [readRecord_eq_accepted]
  constructor
  · rintro ⟨entry, rfl, he⟩
    exact (Entry.read_eq_accepted h).mp he
  · intro he
    obtain ⟨entry, rfl⟩ : ∃ entry, v = .map entry := by
      cases he
      exact ⟨_, rfl⟩
    exact ⟨entry, rfl, (Entry.read_eq_accepted h).mpr he⟩

theorem Section.EntryOf.unique (h : s.Accepts read) {v : Value} {e e' : Entry α} (he : s.EntryOf v e)
    (he' : s.EntryOf v e') : e = e' := by
  have read_eq {e : Entry α} (he : s.EntryOf v e) :
      readRecord (Entry.read s.entryKey s.empty read) [] v = .accepted e :=
    (readEntry_eq_accepted h).mpr he
  exact Validated.accepted.inj ((read_eq he).symm.trans (read_eq he'))

/-- The check of the section in a document. -/
def Section.check (s : Section α) (read : List Step → Fields → Validated α) (fs : Fields) :
    Validated (List (Entry α)) :=
  readEntries s.key s.entryKey s.empty read fs

/-- The check of the items of the section. -/
def Section.checkItems (s : Section α) (read : List Step → Fields → Validated α) (vs : List Value) :
    Validated (List (Entry α)) :=
  Validated.items
    (fun i v => readRecord (Entry.read s.entryKey s.empty read) [.key s.key, .item i] v) 0 vs

theorem Section.check_of_lists {fs : Fields} {vs : List Value} (h : s.Lists fs vs) :
    s.check read fs = s.checkItems read vs := by
  unfold check readEntries
  obtain h | h | ⟨h, hv⟩ := h
  · rw [h]
    rfl
  · rw [h]
    rfl
  · have listed := listed?_eq_some.mpr hv
    rw [h]
    cases hv <;> simp only [listed] <;> rfl

/-- What lists nothing is the one thing that a section can hold and that has no items. -/
theorem Section.lists_or_not (s : Section α) (fs : Fields) :
    (∃ vs, s.Lists fs vs) ∨
      ∃ v, Value.get? fs s.key = some v ∧ v ≠ .null ∧ ∀ vs, ¬ Listing v vs := by
  cases h : Value.get? fs s.key with
  | none => exact .inl ⟨[], .absent h⟩
  | some v =>
    by_cases hn : v = .null
    · exact .inl ⟨[], .null (hn ▸ h)⟩
    · by_cases hv : ∃ vs, Listing v vs
      · obtain ⟨vs, hv⟩ := hv
        exact .inl ⟨vs, .listed h hv⟩
      · exact .inr ⟨v, rfl, hn, not_exists.mp hv⟩

theorem Section.check_of_not_listing {fs : Fields} {v : Value} (h : Value.get? fs s.key = some v)
    (hn : v ≠ .null) (hv : ∀ vs, ¬ Listing v vs) :
    s.check read fs = .problem [.key s.key] .notList := by
  have unlisted : listed? v = none :=
    Option.eq_none_iff_forall_ne_some.mpr fun vs hvs => hv vs (listed?_eq_some.mp hvs)
  unfold check readEntries
  rw [h]
  cases v <;> first | exact absurd rfl hn | simp only [unlisted]

theorem Section.checkItems_eq_accepted (h : s.Accepts read) {vs : List Value} {es : List (Entry α)} :
    s.checkItems read vs = .accepted es ↔ List.Forall₂ s.EntryOf vs es :=
  Validated.items_eq_accepted (r := s.EntryOf) fun _ _ _ => readEntry_eq_accepted h

theorem Section.check_eq_accepted (h : s.Accepts read) {fs : Fields} {es : List (Entry α)} :
    s.check read fs = .accepted es ↔ s.Describes fs es := by
  constructor
  · intro he
    obtain ⟨vs, hvs⟩ | ⟨v, hv, hn, unlisted⟩ := s.lists_or_not fs
    · exact ⟨vs, hvs, (checkItems_eq_accepted h).mp (check_of_lists hvs ▸ he)⟩
    · rw [check_of_not_listing hv hn unlisted] at he
      cases he
  · rintro ⟨vs, hvs, he⟩
    rw [check_of_lists hvs]
    exact (checkItems_eq_accepted h).mpr he

theorem Section.Lists.describes_iff (h : s.Accepts read) {fs : Fields} {vs : List Value}
    (hvs : s.Lists fs vs) {es : List (Entry α)} :
    s.Describes fs es ↔ List.Forall₂ s.EntryOf vs es := by
  rw [← check_eq_accepted h, check_of_lists hvs, checkItems_eq_accepted h]

end

/-! ## The document -/

theorem accepts_cluster : clusterSection.Accepts Cluster.read := by
  rintro path fs ⟨server, insecure, authority, data⟩
  simp [Cluster.read, clusterSection, Member.Describes, Validated.seq_eq_accepted,
    Validated.map_eq_accepted, optionalText_eq_accepted, optionalTruth_eq_accepted, and_assoc]

theorem accepts_context : contextSection.Accepts Context.read := by
  rintro path fs ⟨cluster, user, namespaceName⟩
  simp [Context.read, contextSection, Member.Describes, Validated.seq_eq_accepted,
    Validated.map_eq_accepted, optionalText_eq_accepted]

theorem accepts_user : userSection.Accepts User.read := by
  rintro path fs ⟨certificate, certificateData, key, keyData, token, username, password⟩
  simp [User.read, userSection, Member.Describes, Validated.seq_eq_accepted,
    Validated.map_eq_accepted, optionalText_eq_accepted, and_assoc]

/-- The entries of a mapping give the fields of the kubeconfig. -/
structure Describes (fs : Fields) (k : Kubeconfig) : Prop where
  clusters : clusterSection.Describes fs k.clusters
  contexts : contextSection.Describes fs k.contexts
  users : userSection.Describes fs k.users
  currentContext : Optionally TextOf currentContextKey fs k.currentContext

theorem validate_eq (fs : Fields) :
    validate fs = Kubeconfig.mk <$> clusterSection.check Cluster.read fs
      <*> contextSection.check Context.read fs <*> userSection.check User.read fs
      <*> optionalText [] fs currentContextKey := rfl

theorem validate_eq_accepted {fs : Fields} {k : Kubeconfig} :
    validate fs = .accepted k ↔ Describes fs k := by
  simp only [validate_eq, Validated.seq_eq_accepted, Validated.map_eq_accepted,
    Section.check_eq_accepted accepts_cluster, Section.check_eq_accepted accepts_context,
    Section.check_eq_accepted accepts_user, optionalText_eq_accepted]
  constructor
  · rintro ⟨_, ⟨_, ⟨_, ⟨clusters, hc, rfl⟩, contexts, hx, rfl⟩, users, hu, rfl⟩, current, hn, rfl⟩
    exact ⟨hc, hx, hu, hn⟩
  · intro h
    exact ⟨_, ⟨_, ⟨_, ⟨_, h.clusters, rfl⟩, _, h.contexts, rfl⟩, _, h.users, rfl⟩, _, h.currentContext,
      rfl⟩

end ClusterAccess.Kubeconfig
