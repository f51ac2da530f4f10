import ClusterAccess.Proofs.Kubeconfig.Finding
import ClusterAccess.Proofs.Kubeconfig.Revision
import ClusterAccess.Proofs.Kubeconfig.Validation

/-!
# Entries that no name leads to

The first entry of a name counts. So entries of other names may be inserted anywhere in a list, and entries of
that name behind the first. A document with such entries is still a kubeconfig, and a probe finds and tells the
same.
-/

namespace ClusterAccess.Kubeconfig

open Yaml (Value)

/-! ## Sections -/

section

variable {α : Type} {s : Section α} {read : List Step → Fields → Validated α}

/-- The second list has the items of the first, and entries inserted among them. None has the reserved name,
until an item of that name is passed. -/
inductive Section.Inserted (s : Section α) : Option Text.Content → List Value → List Value → Prop
  | nil {reserved : Option Text.Content} : Inserted s reserved [] []
  | keep {reserved : Option Text.Content} {vs ws : List Value} (v : Value) (rest : Inserted s reserved vs ws) :
      Inserted s reserved (v :: vs) (v :: ws)
  | insert {reserved : Option Text.Content} {vs ws : List Value} {w : Value} {e : Entry α}
      (entry : s.EntryOf w e) (free : some e.name ≠ reserved) (rest : Inserted s reserved vs ws) :
      Inserted s reserved vs (w :: ws)
  | pass {vs ws : List Value} {v : Value} {e : Entry α} (entry : s.EntryOf v e)
      (rest : Inserted s none vs ws) : Inserted s (some e.name) (v :: vs) (v :: ws)

/-- The second document has entries inserted in its list of the section. -/
inductive Section.Inserts (s : Section α) (reserved : Option Text.Content) (fs gs : Fields) : Prop
  | lists {vs ws : List Value} (before : s.Lists fs vs) (after : s.Lists gs ws)
      (inserted : s.Inserted reserved vs ws)

theorem find?_cons_of_eq (e : Entry α) (es : List (Entry α)) :
    find? (e :: es) (some e.name) = some e.record := by
  simp [find?]

theorem find?_cons_of_ne {e : Entry α} {name : Option Text.Content} (h : some e.name ≠ name)
    (es : List (Entry α)) : find? (e :: es) name = find? es name := by
  simp [find?, h]

/-- An entry in front of two lists hides from both what it hides from one. -/
theorem find?_cons_congr (e : Entry α) {es es' : List (Entry α)} {name : Option Text.Content}
    (h : find? es' name = find? es name) : find? (e :: es') name = find? (e :: es) name := by
  by_cases hn : some e.name = name
  · subst hn
    rw [find?_cons_of_eq, find?_cons_of_eq]
  · rw [find?_cons_of_ne hn, find?_cons_of_ne hn, h]

/-- The list with entries inserted is one of entries, and the reserved name leads to what it led to. -/
theorem Section.Inserted.exists_entries (accepts : s.Accepts read) {reserved : Option Text.Content}
    {vs ws : List Value} (inserted : s.Inserted reserved vs ws) {es : List (Entry α)}
    (given : List.Forall₂ s.EntryOf vs es) :
    ∃ es', List.Forall₂ s.EntryOf ws es' ∧ find? es' reserved = find? es reserved := by
  induction inserted generalizing es with
  | nil => exact ⟨es, given, rfl⟩
  | keep v _ ih =>
    obtain _ | ⟨first, rest⟩ := given
    obtain ⟨es', given', found⟩ := ih rest
    exact ⟨_, .cons first given', find?_cons_congr _ found⟩
  | insert entry free _ ih =>
    obtain ⟨es', given', found⟩ := ih given
    exact ⟨_, .cons entry given', (find?_cons_of_ne free es').trans found⟩
  | pass entry _ ih =>
    obtain _ | ⟨first, rest⟩ := given
    obtain ⟨es', given', -⟩ := ih rest
    -- behind the entry of the name any other may follow, for the search ends with it
    cases entry.unique accepts first
    exact ⟨_, .cons entry given', by rw [find?_cons_of_eq, find?_cons_of_eq]⟩

theorem Section.Inserts.exists_describes (accepts : s.Accepts read) {reserved : Option Text.Content}
    {fs gs : Fields} (inserts : s.Inserts reserved fs gs) {es : List (Entry α)}
    (described : s.Describes fs es) :
    ∃ es', s.Describes gs es' ∧ find? es' reserved = find? es reserved := by
  obtain ⟨before, after, inserted⟩ := inserts
  have given := (before.describes_iff accepts).mp described
  obtain ⟨es', given', found⟩ := inserted.exists_entries accepts given
  exact ⟨es', (after.describes_iff accepts).mpr given', found⟩

end

/-! ## The document -/

/-- The second document has entries inserted in all of its lists. Reserved are the names that the current
context has and that it points at. -/
structure Inserts (current : Option Text.Content) (context : Context) (fs gs : Fields) : Prop where
  clusters : clusterSection.Inserts context.cluster fs gs
  contexts : contextSection.Inserts current fs gs
  users : userSection.Inserts context.user fs gs
  currentContext (s : String) (h : s ∈ currentContextKey.spellings) : Value.get? gs s = Value.get? fs s

/-- The names that the context of a kubeconfig has and that it points at lead to the same in another. -/
structure LeadsAlike (context : Context) (k k' : Kubeconfig) : Prop where
  current : k'.currentContext = k.currentContext
  used : find? k'.contexts k.currentContext = find? k.contexts k.currentContext
  cluster : k'.cluster? context = k.cluster? context
  user : k'.user? context = k.user? context

section

variable {fs gs : Fields} {k k' : Kubeconfig} {context : Context}

theorem exists_describes_of_inserts (described : Describes fs k)
    (inserts : Inserts k.currentContext context fs gs) :
    ∃ k', Describes gs k' ∧ LeadsAlike context k k' := by
  obtain ⟨clusters, describedClusters, cluster⟩ :=
    inserts.clusters.exists_describes accepts_cluster described.clusters
  obtain ⟨contexts, describedContexts, used⟩ :=
    inserts.contexts.exists_describes accepts_context described.contexts
  obtain ⟨users, describedUsers, user⟩ :=
    inserts.users.exists_describes accepts_user described.users
  have current : Optionally TextOf currentContextKey gs k.currentContext :=
    ((Key.readsAlike_of_get?_eq inserts.currentContext).optionally_iff accepts_text
      not_textOf_null).mpr described.currentContext
  exact ⟨⟨clusters, contexts, users, k.currentContext⟩,
    ⟨describedClusters, describedContexts, describedUsers, current⟩, ⟨rfl, used, cluster, user⟩⟩

theorem LeadsAlike.uses (alike : LeadsAlike context k k') (used : k.Uses context) : k'.Uses context := by
  obtain ⟨nonempty, leads⟩ := used
  rw [← find?_eq_some] at leads
  rw [Uses, alike.current, ← find?_eq_some, alike.used]
  exact ⟨nonempty, leads⟩

theorem LeadsAlike.settings_eq (alike : LeadsAlike context k k') (used : k.Uses context)
    (path : String) (home : Path) : k'.settings path home = k.settings path home := by
  have first := currentContext?_eq_some.mpr used
  have second := currentContext?_eq_some.mpr (alike.uses used)
  simp only [settings, first, second, alike.cluster, alike.user]

theorem probe_of_holds {s : Sources} (held : Holds s k) : probe s = k.settings (location s) s.home := by
  obtain ⟨text, ht, hk⟩ := held.described
  simp only [probe, held.isFile, load_of_readText ht, hk]
  rfl

/-- A document with entries inserted that no name leads to is still a kubeconfig. A probe of a file that holds
it finds and tells what the current context of the document said before. -/
theorem probe_of_inserts (described : ofValue (.map fs) = .ok k) (used : k.Uses context)
    (inserts : Inserts k.currentContext context fs gs) :
    ∃ k', ofValue (.map gs) = .ok k' ∧ ∀ s s', location s' = location s → s'.home = s.home →
      Holds s k → Holds s' k' →
        probe s = k.settings (location s) s.home ∧ probe s' = probe s := by
  obtain ⟨k', described', alike⟩ :=
    exists_describes_of_inserts ((ofValue_eq_ok (.map fs)).mp described) inserts
  refine ⟨k', (ofValue_eq_ok (.map gs)).mpr described', fun s s' place home held held' => ?_⟩
  have before := probe_of_holds held
  have after := probe_of_holds held'
  rw [place, home, alike.settings_eq used, ← before] at after
  exact ⟨before, after⟩

end

/-! ### A context without a user -/

/-- A document that lists the clusters, contexts and users. -/
def sampleLists (clusters contexts users : List Value) : Fields :=
  [(.text "current-context", .text "a"), (.text "clusters", .seq clusters),
    (.text "contexts", .seq contexts), (.text "users", .seq users)]

/-- An entry that has a name and nothing else. -/
def sampleName (name : String) : Value := .map [(.text "name", .text name)]

/-- The entry of the context in use. -/
def sampleUse : Value :=
  .map [(.text "name", .text "a"),
    (.text "context", .map [(.text "cluster", .text "c"), (.text "user", .text "u")])]

def sampleFew : Fields := sampleLists [sampleName "c"] [sampleUse] []

/-- A namesake of the cluster stands behind it, another context in front of the one in use, and there is a
user that no name leads to. -/
def sampleMany : Fields :=
  sampleLists [sampleName "c", sampleName "c"] [sampleName "b", sampleUse] [sampleName "v"]

theorem entryOf_sampleName {α : Type} (s : Section α) (name : String) :
    s.EntryOf (sampleName name) ⟨.text name, s.empty⟩ := by
  refine .named rfl (.text name) (.absent ?_)
  rw [Value.get?_singleton, if_neg s.name_ne_entryKey]

theorem inserts_sampleMany :
    Inserts (some (.text "a")) ⟨some (.text "c"), some (.text "u"), none⟩ sampleFew sampleMany where
  clusters := .lists (.listed rfl (.seq _)) (.listed rfl (.seq _))
    (.pass (entryOf_sampleName _ "c") (.insert (entryOf_sampleName _ "c") nofun .nil))
  contexts := .lists (.listed rfl (.seq _)) (.listed rfl (.seq _))
    (.insert (entryOf_sampleName _ "b") (by decide) (.keep _ .nil))
  users := .lists (.listed rfl (.seq _)) (.listed rfl (.seq _))
    (.insert (entryOf_sampleName _ "v") (by decide) .nil)
  currentContext := List.forall_mem_cons.mpr ⟨rfl, List.forall_mem_singleton.mpr rfl⟩

def sampleFewRead : Kubeconfig where
  clusters := [⟨.text "c", {}⟩]
  contexts := [⟨.text "a", ⟨some (.text "c"), some (.text "u"), none⟩⟩]
  currentContext := some (.text "a")

def sampleManyRead : Kubeconfig where
  clusters := [⟨.text "c", {}⟩, ⟨.text "c", {}⟩]
  contexts := [⟨.text "b", {}⟩, ⟨.text "a", ⟨some (.text "c"), some (.text "u"), none⟩⟩]
  users := [⟨.text "v", {}⟩]
  currentContext := some (.text "a")

/-- Sources whose kubeconfig is the text. -/
def sampleStored (text : String) : Sources where
  properties := [("kubeconfig", "/c")]
  environ := []
  filesystem := .inMemory [("/c", Bytes.ofText text)] []
  home := .ofText "/root"

theorem location_sampleStored (text : String) : location (sampleStored text) = "/c" := rfl

def sampleFewStored : Sources :=
  sampleStored ("current-context: a\nclusters: [name: c]\n" ++
    "contexts:\n- name: a\n  context:\n    cluster: c\n    user: u\n")

def sampleManyStored : Sources :=
  sampleStored ("current-context: a\nclusters: [name: c, name: c]\n" ++
    "contexts:\n- name: b\n- name: a\n  context:\n    cluster: c\n    user: u\nusers: [name: v]\n")

/-- With and without the other entries, the probe tells that the user is missing. -/
theorem probe_of_inserts_sampleMany :
    probe sampleManyStored = probe sampleFewStored ∧
      (probe sampleFewStored).events = [.kubeconfigUserMissing "/c" (some (.text "u"))] := by
  have described : ofValue (.map sampleFew) = .ok sampleFewRead := by decide
  have used : sampleFewRead.Uses ⟨some (.text "c"), some (.text "u"), none⟩ :=
    currentContext?_eq_some.mp (by decide)
  have few : Holds sampleFewStored sampleFewRead :=
    found?_eq_some_iff_holds.mp (by decide +kernel)
  have many : Holds sampleManyStored sampleManyRead :=
    found?_eq_some_iff_holds.mp (by decide +kernel)
  obtain ⟨k, hk, same⟩ := probe_of_inserts described used inserts_sampleMany
  have read : ofValue (.map sampleMany) = .ok sampleManyRead := by decide
  cases hk.symm.trans read
  have place : location sampleManyStored = location sampleFewStored :=
    (location_sampleStored _).trans (location_sampleStored _).symm
  obtain ⟨before, after⟩ := same _ _ place rfl few many
  refine ⟨after, ?_⟩
  rw [before]
  decide

end ClusterAccess.Kubeconfig
