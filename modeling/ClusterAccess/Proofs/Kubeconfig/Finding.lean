import ClusterAccess.Proofs.Config.Precedence
import ClusterAccess.Proofs.Kubeconfig.Probe

/-!
# What a kubeconfig probe finds

A kubeconfig leads from its current context to a cluster and a user by names, and the first entry of a name
counts (`Uses`, `PointsAt`). A probe goes as far as the names lead: it has nothing to say, or all that the
cluster governs, or all that the cluster and the user govern, and it tells the first part that is missing
(`Finding`).
-/

namespace ClusterAccess.Kubeconfig

open Config (Field Setting)
open Text (Content)

/-! ## Names -/

/-- The first of the entries with a name has the record. -/
def FirstNamed {α : Type} (entries : List (Entry α)) (name : Content) (record : α) : Prop :=
  ∃ before after, entries = before ++ ⟨name, record⟩ :: after ∧ ∀ e ∈ before, e.name ≠ name

/-- A name that leads to the record. -/
def PointsAt {α : Type} (name : Option Content) (entries : List (Entry α)) (record : α) : Prop :=
  ∃ n, name = some n ∧ FirstNamed entries n record

/-- The context that the kubeconfig names as its current one. The empty name is none. -/
def Uses (k : Kubeconfig) (context : Context) : Prop :=
  k.currentContext ≠ some (.text "") ∧ PointsAt k.currentContext k.contexts context

theorem find?_eq_some {α : Type} {entries : List (Entry α)} {name : Option Content} {record : α} :
    find? entries name = some record ↔ PointsAt name entries record := by
  cases name with
  | none =>
    have nobody : (entries.find? fun _ => false) = none := by simp
    simp [find?, PointsAt, nobody]
  | some n =>
    simp only [find?, PointsAt, FirstNamed, Option.map_eq_some_iff, List.find?_eq_some_iff_append,
      Option.some.injEq, decide_eq_true_eq, Bool.not_eq_true', decide_eq_false_iff_not]
    constructor
    · rintro ⟨⟨m, r⟩, ⟨rfl, before, after, h, other⟩, rfl⟩
      exact ⟨m, rfl, before, after, h, other⟩
    · rintro ⟨_, rfl, before, after, h, other⟩
      exact ⟨⟨n, record⟩, ⟨rfl, before, after, h, other⟩, rfl⟩

theorem find?_eq_none {α : Type} {entries : List (Entry α)} {name : Option Content}
    (h : find? entries name = none) (record : α) : ¬ PointsAt name entries record := by
  rw [← find?_eq_some, h]
  simp

theorem currentContext?_eq_some {k : Kubeconfig} {context : Context} :
    k.currentContext? = some context ↔ k.Uses context := by
  unfold currentContext? Uses
  cases k.currentContext with
  | none => simp [PointsAt]
  | some name =>
    dsimp only
    by_cases he : name = .text ""
    · simp [he]
    · rw [if_neg he, find?_eq_some]
      simp [he]

theorem currentContext?_eq_none {k : Kubeconfig} (h : k.currentContext? = none) (context : Context) :
    ¬ k.Uses context := by
  rw [← currentContext?_eq_some, h]
  simp

/-! ## Fields -/

def clusterFields : List Field := [.masterUrl, .trustCerts, .caCertFile, .caCertData]

def userFields : List Field :=
  [.clientCertFile, .clientCertData, .clientKeyFile, .clientKeyData, .oauthToken, .username, .password]

theorem fields_clusterSettings (c : Cluster) (base home : Path) :
    (c.settings base home).map Setting.Wide.field = clusterFields := rfl

theorem fields_userSettings (u : User) (base home : Path) :
    (u.settings base home).map Setting.Wide.field = userFields := rfl

/-! ## Findings -/

/-- The file at the location is a text that describes the kubeconfig. -/
structure Holds (s : Sources) (k : Kubeconfig) : Prop where
  isFile : s.filesystem.isFile (location s) = .ok true
  described : ∃ text, s.filesystem.readText (location s) = .ok text ∧
    Reading.ofText s.limits text = .kubeconfig k

theorem found?_eq_some_iff_holds {s : Sources} {k : Kubeconfig} : found? s = some k ↔ Holds s k := by
  rw [found?_eq_some]
  constructor
  · rintro ⟨isFile, text, v, ht, hv, hk⟩
    exact ⟨isFile, text, ht, Reading.ofText_eq_kubeconfig.mpr ⟨v, hv, hk⟩⟩
  · rintro ⟨isFile, text, ht, hk⟩
    obtain ⟨v, hv, hk⟩ := Reading.ofText_eq_kubeconfig.mp hk
    exact ⟨isFile, text, v, ht, hv, hk⟩

/-- The directory of the kubeconfig. -/
def directory (s : Sources) : Path := (Path.ofText (location s)).parent

/-- What a probe finds and tells. The settings are those of the records that the names lead to, and what is
told names the first part that is missing. -/
inductive Finding (s : Sources) : List Setting.Wide → List Event → Prop
  | noFile (h : s.filesystem.isFile (location s) = .ok false) : Finding s [] []
  | unreadable {fault : ReadFault} (there : s.filesystem.isFile (location s) = .ok true)
      (h : s.filesystem.readText (location s) = .error fault) :
      Finding s [] [.kubeconfigParseFailed (location s) (.unreadable fault)]
  | noKubeconfig {text : String} {fault : Fault} (there : s.filesystem.isFile (location s) = .ok true)
      (read : s.filesystem.readText (location s) = .ok text)
      (h : Reading.ofText s.limits text = .faulty fault) :
      Finding s [] [.kubeconfigParseFailed (location s) fault]
  | noContext {k : Kubeconfig} (held : Holds s k) (h : ∀ context, ¬ k.Uses context) :
      Finding s [] [.kubeconfigContextMissing (location s) k.currentContext]
  | noCluster {k : Kubeconfig} {context : Context} (held : Holds s k) (used : k.Uses context)
      (h : ∀ cluster, ¬ PointsAt context.cluster k.clusters cluster) :
      Finding s [] [.kubeconfigClusterMissing (location s) context.cluster]
  | noUser {k : Kubeconfig} {context : Context} {cluster : Cluster} (held : Holds s k)
      (used : k.Uses context) (reached : PointsAt context.cluster k.clusters cluster)
      (h : ∀ user, ¬ PointsAt context.user k.users user) :
      Finding s (cluster.settings (directory s) s.home)
        [.kubeconfigUserMissing (location s) context.user]
  | whole {k : Kubeconfig} {context : Context} {cluster : Cluster} {user : User} (held : Holds s k)
      (used : k.Uses context) (reached : PointsAt context.cluster k.clusters cluster)
      (known : PointsAt context.user k.users user) :
      Finding s (cluster.settings (directory s) s.home ++ user.settings (directory s) s.home) []

section

variable {s : Sources}

/-- The settings of a kubeconfig go as far as its names lead. -/
theorem finding_of_holds {k : Kubeconfig} (held : Holds s k) :
    Finding s (k.governed (location s) s.home) (k.settings (location s) s.home).events := by
  unfold settings governed
  cases hx : k.currentContext? with
  | none => exact .noContext held (currentContext?_eq_none hx)
  | some context =>
    have used := currentContext?_eq_some.mp hx
    dsimp only
    cases hc : k.cluster? context with
    | none => exact .noCluster held used (find?_eq_none hc)
    | some cluster =>
      have reached := find?_eq_some.mp hc
      dsimp only
      cases hu : k.user? context with
      | none =>
        rw [List.append_nil]
        exact .noUser held used reached (find?_eq_none hu)
      | some user => exact .whole held used reached (find?_eq_some.mp hu)

/-- A probe that succeeds has what there is to find. -/
theorem finding_of_probe {ss : List Setting.Wide} (h : (probe s).outcome = .ok ss) :
    Finding s ss (probe s).events := by
  unfold probe at h ⊢
  obtain ⟨there, hi, h⟩ := Logged.outcome_bind_eq_ok.mp h
  have isFile : s.filesystem.isFile (location s) = .ok there := Except.mapError_eq_ok.mp hi
  rw [Logged.events_bind_ok hi, Logged.events_ofExcept, List.nil_append]
  cases there with
  | false =>
    cases h
    exact .noFile isFile
  | true =>
    rw [if_pos rfl] at h ⊢
    obtain ⟨reading, hr, h⟩ := Logged.outcome_bind_eq_ok.mp h
    rw [Logged.events_bind_ok hr, Logged.events_ofExcept, List.nil_append]
    rw [Logged.outcome_ofExcept] at hr
    cases ht : s.filesystem.readText (location s) with
    | error fault =>
      by_cases hn : fault = .nulInPath
      · rw [load_of_nulInPath (hn ▸ ht)] at hr
        cases hr
      · rw [load_of_fault ht hn] at hr
        cases hr
        cases h
        exact .unreadable isFile ht
    | ok text =>
      rw [load_of_readText ht] at hr
      cases hk : Reading.ofText s.limits text with
      | kubeconfig k =>
        rw [hk] at hr
        cases hr
        rw [outcome_settings] at h
        cases h
        exact finding_of_holds ⟨isFile, text, ht, hk⟩
      | faulty fault =>
        rw [hk] at hr
        cases hr
        cases h
        exact .noKubeconfig isFile ht hk
      | unbuildable what =>
        rw [hk] at hr
        cases hr
        cases h

namespace Finding

variable {ss : List Setting.Wide} {es : List Event}

theorem length_events_le (h : Finding s ss es) : es.length ≤ 1 := by
  cases h <;> simp

theorem fields_eq (h : Finding s ss es) :
    ss = [] ∨ ss.map Setting.Wide.field = clusterFields ∨
      ss.map Setting.Wide.field = clusterFields ++ userFields := by
  cases h with
  | noFile | unreadable | noKubeconfig | noContext | noCluster => exact .inl rfl
  | noUser => exact .inr (.inl rfl)
  | whole => exact .inr (.inr rfl)

/-- Settings come from a cluster. -/
theorem exists_cluster (h : Finding s ss es) (hne : ss ≠ []) :
    ∃ k context cluster, Holds s k ∧ k.Uses context ∧ PointsAt context.cluster k.clusters cluster := by
  cases h with
  | noFile | unreadable | noKubeconfig | noContext | noCluster => exact absurd rfl hne
  | noUser held used reached => exact ⟨_, _, _, held, used, reached⟩
  | whole held used reached => exact ⟨_, _, _, held, used, reached⟩

/-- The settings that a user governs come from a user. -/
theorem exists_user (h : Finding s ss es) (all : ss.map Setting.Wide.field = clusterFields ++ userFields) :
    ∃ k context cluster user, Holds s k ∧ k.Uses context ∧
      PointsAt context.cluster k.clusters cluster ∧ PointsAt context.user k.users user := by
  cases h with
  | noFile | unreadable | noKubeconfig | noContext | noCluster => cases all
  | noUser =>
    rw [fields_clusterSettings] at all
    cases all
  | whole held used reached known => exact ⟨_, _, _, _, held, used, reached, known⟩

end Finding

/-- With a cluster a probe has its settings and those of the user, if there is one. -/
theorem settings_of_cluster {ss : List Setting.Wide} (h : (probe s).outcome = .ok ss) {k : Kubeconfig}
    (held : Holds s k) {context : Context} (used : k.Uses context) {cluster : Cluster}
    (reached : PointsAt context.cluster k.clusters cluster) :
    ss = cluster.settings (directory s) s.home ++
      ((k.user? context).map (·.settings (directory s) s.home)).getD [] := by
  rw [outcome_probe_of_found? (found?_eq_some_iff_holds.mpr held)] at h
  cases h
  have hx := currentContext?_eq_some.mpr used
  have hc : k.cluster? context = some cluster := find?_eq_some.mpr reached
  simp only [governed, hx, hc]
  cases k.user? context <;> rfl

/-- A probe that succeeds has no settings, those of a cluster, or those of a cluster and a user. It has
settings exactly if the kubeconfig, its context and the cluster of that are there, and all of them exactly
if the user is there too. It tells at most one event, which says what is missing first. -/
theorem probe_all_or_nothing {ss : List Setting.Wide} (h : (probe s).outcome = .ok ss) :
    Finding s ss (probe s).events ∧ (probe s).events.length ≤ 1 ∧
      (ss = [] ∨ ss.map Setting.Wide.field = clusterFields ∨
        ss.map Setting.Wide.field = clusterFields ++ userFields) ∧
      (ss ≠ [] ↔ ∃ k context cluster, Holds s k ∧ k.Uses context ∧
        PointsAt context.cluster k.clusters cluster) ∧
      (ss.map Setting.Wide.field = clusterFields ++ userFields ↔ ∃ k context cluster user, Holds s k ∧
        k.Uses context ∧ PointsAt context.cluster k.clusters cluster ∧
        PointsAt context.user k.users user) := by
  have found := finding_of_probe h
  refine ⟨found, found.length_events_le, found.fields_eq, ⟨found.exists_cluster, ?_⟩,
    ⟨found.exists_user, ?_⟩⟩
  · rintro ⟨k, context, cluster, held, used, reached⟩
    rw [settings_of_cluster h held used reached]
    simp [Cluster.settings]
  · rintro ⟨k, context, cluster, user, held, used, reached, known⟩
    have hu : k.user? context = some user := find?_eq_some.mpr known
    rw [settings_of_cluster h held used reached, hu, List.map_append, fields_clusterSettings,
      Option.map_some, Option.getD_some, fields_userSettings]

end

/-! ### A context without a user -/

open Config.Draft (sampleSources kubeconfig_sampleSources)

theorem probe_sampleSources : (probe sampleSources).outcome =
    .ok [⟨.masterUrl, none⟩, ⟨.trustCerts, true⟩, ⟨.caCertFile, none⟩, ⟨.caCertData, none⟩] := by
  have on : sampleSources.lookupFlag Config.tryKubeconfigProperty true = true := by decide
  have found := kubeconfig_sampleSources
  rw [Config.outcome_layer_on on] at found
  exact found

/-- The cluster is there, and says just what clusters govern. -/
theorem probe_all_or_nothing_sampleSources :
    ∃ ss, (probe sampleSources).outcome = .ok ss ∧
      Finding sampleSources ss (probe sampleSources).events ∧
      (probe sampleSources).events.length ≤ 1 ∧ ss.map Setting.Wide.field = clusterFields ∧
      (∃ k context cluster, Holds sampleSources k ∧ k.Uses context ∧
        PointsAt context.cluster k.clusters cluster) ∧
      ¬ ∃ k context cluster user, Holds sampleSources k ∧ k.Uses context ∧
        PointsAt context.cluster k.clusters cluster ∧ PointsAt context.user k.users user := by
  obtain ⟨found, short, -, some, all⟩ := probe_all_or_nothing probe_sampleSources
  refine ⟨_, probe_sampleSources, found, short, rfl, some.mp (by simp), fun known => ?_⟩
  have fields := all.mpr known
  revert fields
  decide

end ClusterAccess.Kubeconfig
