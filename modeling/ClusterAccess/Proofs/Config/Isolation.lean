import ClusterAccess.Proofs.Config.Precedence
import ClusterAccess.Proofs.Kubeconfig.Probe
import ClusterAccess.Proofs.ServiceAccount

/-!
# A kubeconfig hides the service account

Two sources `AgreeOff` some paths when they differ in the files there at most. If the kubeconfig is at none
of these paths, it says the same in both, so what else the two drafts hold can differ only where the
kubeconfig leaves the word to the service account: in the token when the user of its current context is
missing, and in the certificate too when the cluster is.
-/

namespace ClusterAccess

/-! ## Sources that agree off some paths -/

/-- The sources differ at most in the files at some paths. -/
structure Sources.AgreeOff (paths : String → Prop) (a b : Sources) : Prop where
  properties : a.properties = b.properties
  environ : a.environ = b.environ
  home : a.home = b.home
  limits : a.limits = b.limits
  isFile : ∀ path, ¬ paths path → a.filesystem.isFile path = b.filesystem.isFile path
  readText : ∀ path, ¬ paths path → a.filesystem.readText path = b.filesystem.readText path

section

variable {paths : String → Prop} {a b : Sources}

theorem Sources.AgreeOff.lookup_eq (h : a.AgreeOff paths b) (property : String) :
    a.lookup property = b.lookup property := by
  rw [Sources.lookup, Sources.lookup, h.properties, h.environ]

theorem Sources.AgreeOff.lookupFlag_eq (h : a.AgreeOff paths b) (property : String) (default : Bool) :
    a.lookupFlag property default = b.lookupFlag property default := by
  rw [Sources.lookupFlag, Sources.lookupFlag, h.lookup_eq]

namespace Kubeconfig

theorem location_eq_of_agreeOff (h : a.AgreeOff paths b) : location a = location b := by
  rw [location, location, h.lookup_eq, location.standard, location.standard, h.home]

/-- The probe comes to the same where the kubeconfig is the same. -/
theorem outcome_probe_eq_of_agreeOff (h : a.AgreeOff paths b) (apart : ¬ paths (location a)) :
    (probe a).outcome = (probe b).outcome := by
  have load_eq : load a (location a) = load b (location a) := by
    rw [load, load, h.readText _ apart, h.limits]
  rw [outcome_probe, outcome_probe, ← location_eq_of_agreeOff h, ← h.isFile _ apart, load_eq, h.home]

end Kubeconfig

end

/-! ## What a kubeconfig says -/

namespace Kubeconfig

open Config (Setting)

/-- The current context of the kubeconfig leads to a cluster. -/
def ResolvesCluster (s : Sources) : Prop :=
  ∃ k context cluster, found? s = some k ∧ k.currentContext? = some context ∧
    k.cluster? context = some cluster

/-- The current context of the kubeconfig leads to a user. -/
def ResolvesUser (s : Sources) : Prop :=
  ∃ k context user, found? s = some k ∧ k.currentContext? = some context ∧ k.user? context = some user

section

variable {s : Sources} {ss : List Setting.Wide}

/-- A cluster says something about its certificate, and be it that there is none. -/
theorem caCertFile_mem_fields (h : (probe s).outcome = .ok ss) (hc : ResolvesCluster s) :
    .caCertFile ∈ ss.map Setting.Wide.field := by
  obtain ⟨k, context, cluster, hk, hx, hc⟩ := hc
  rw [probe_eq_ok h, hk]
  simp [governed, hx, hc, Cluster.settings]

/-- A user says something about the token, and be it that there is none. -/
theorem oauthToken_mem_fields (h : (probe s).outcome = .ok ss) (hc : ResolvesCluster s)
    (hu : ResolvesUser s) : .oauthToken ∈ ss.map Setting.Wide.field := by
  obtain ⟨k, context, cluster, hk, hx, hc⟩ := hc
  obtain ⟨k', context', user, hk', hx', hu⟩ := hu
  cases hk.symm.trans hk'
  cases hx.symm.trans hx'
  rw [probe_eq_ok h, hk]
  simp [governed, hx, hc, hu, User.settings]

end

end Kubeconfig

namespace Config

open Kubeconfig (ResolvesCluster ResolvesUser location)

section

variable {paths : String → Prop} {a b : Sources}

theorem settings_eq_of_agreeOff (h : a.AgreeOff paths b) (os : List Override) :
    Override.settings a os = Override.settings b os := by
  have said : Override.setting? a = Override.setting? b :=
    funext fun o => by rw [Override.setting?, Override.setting?, h.lookup_eq]
  rw [Override.settings, Override.settings, said]

/-- The layer of the kubeconfig is the same where the kubeconfig is. -/
theorem outcome_layer_eq_of_agreeOff (h : a.AgreeOff paths b) (apart : ¬ paths (location a)) :
    (layer a tryKubeconfigProperty (Kubeconfig.probe a)).outcome =
      (layer b tryKubeconfigProperty (Kubeconfig.probe b)).outcome := by
  rw [layer, layer, ← h.lookupFlag_eq]
  split
  · exact Kubeconfig.outcome_probe_eq_of_agreeOff h apart
  · rfl

/-- The layer of the service account leaves all fields but the certificate and the token as they are. -/
theorem get_update_account {s : Sources} {account : List Setting}
    (h : (layer s tryServiceAccountProperty (ServiceAccount.probe s {})).outcome = .ok account) {f : Field}
    (hc : f ≠ .caCertFile) (ht : f ≠ .oauthToken) (d : Draft) : (d.update account).get f = d.get f := by
  have silent : Setting.last? account f = none := by
    obtain ⟨-, h⟩ | ⟨-, rfl⟩ := layer_eq_ok.mp h
    · exact ServiceAccount.last?_probe h hc ht
    · rfl
  rw [Draft.get_update, silent, Option.getD_none]

end

namespace Draft

section

variable {paths : String → Prop} {a b : Sources} {d e : Draft}

/-- The two drafts hold the same in a field that the kubeconfig speaks of, and in one that no service account
speaks of. -/
theorem get_eq_of_agreeOff (agree : a.AgreeOff paths b) (apart : ¬ paths (location a))
    (ha : (ofSources a).outcome = .ok d) (hb : (ofSources b).outcome = .ok e) {f : Field}
    (hf : (∃ ss, (layer a tryKubeconfigProperty (Kubeconfig.probe a)).outcome = .ok ss ∧
        f ∈ ss.map Setting.Wide.field) ∨
      f ≠ .caCertFile ∧ f ≠ .oauthToken) : d.get f = e.get f := by
  obtain ⟨account, kubeconfig, hs, hk, hd⟩ := Sketch.ofSources_eq_ok.mp (ofSources_eq_ok.mp ha)
  obtain ⟨account', kubeconfig', hs', hk', he⟩ := Sketch.ofSources_eq_ok.mp (ofSources_eq_ok.mp hb)
  rw [← outcome_layer_eq_of_agreeOff agree apart, hk] at hk'
  cases hk'
  refine Kind.wide_injective (?_ : (Sketch.ofDraft d).get f = (Sketch.ofDraft e).get f)
  rw [hd, he, settings_eq_of_agreeOff agree]
  refine Sketch.get_update_congr (.inr (Sketch.get_update_congr ?_))
  obtain ⟨ss, hk', named⟩ | ⟨hc, ht⟩ := hf
  · rw [hk] at hk'
    cases hk'
    exact .inl named
  · refine .inr (congrArg f.kind.wide ?_)
    rw [get_update_account hs hc ht, get_update_account hs' hc ht]

/-- Two sources that differ in other files than the kubeconfig only give drafts that hold the same in every
field but the certificate and the token. With a cluster the certificate is the same, and with a user too
the drafts are equal. -/
theorem kubeconfig_hides_account (agree : a.AgreeOff paths b) (apart : ¬ paths (location a))
    (on : a.lookupFlag tryKubeconfigProperty true = true) (ha : (ofSources a).outcome = .ok d)
    (hb : (ofSources b).outcome = .ok e) :
    (ResolvesCluster a → ResolvesUser a → d = e) ∧
      (ResolvesCluster a → ∀ f, f ≠ .oauthToken → d.get f = e.get f) ∧
      ∀ f, f ≠ .caCertFile → f ≠ .oauthToken → d.get f = e.get f := by
  have others : ∀ f, f ≠ .caCertFile → f ≠ .oauthToken → d.get f = e.get f :=
    fun f hc ht => get_eq_of_agreeOff agree apart ha hb (.inr ⟨hc, ht⟩)
  obtain ⟨-, kubeconfig, -, hk, -⟩ := Sketch.ofSources_eq_ok.mp (ofSources_eq_ok.mp ha)
  have hp : (Kubeconfig.probe a).outcome = .ok kubeconfig := by rw [← hk, outcome_layer_on on]
  have certificate : ResolvesCluster a → d.get .caCertFile = e.get .caCertFile := fun hc =>
    get_eq_of_agreeOff agree apart ha hb (.inl ⟨_, hk, Kubeconfig.caCertFile_mem_fields hp hc⟩)
  have token : ResolvesCluster a → ResolvesUser a → d.get .oauthToken = e.get .oauthToken := fun hc hu =>
    get_eq_of_agreeOff agree apart ha hb (.inl ⟨_, hk, Kubeconfig.oauthToken_mem_fields hp hc hu⟩)
  have withCluster : ResolvesCluster a → ∀ f, f ≠ .oauthToken → d.get f = e.get f := by
    intro hc f ht
    by_cases hf : f = .caCertFile
    · subst hf
      exact certificate hc
    · exact others f hf ht
  -- with the cluster only the token is open, and the user settles it
  refine ⟨fun hc hu => ext_get fun f => ?_, withCluster, others⟩
  by_cases hf : f = .oauthToken
  · subst hf
    exact token hc hu
  · exact withCluster hc f hf

end

/-! ### A program inside one cluster that talks to another -/

def sampleDocument : Bytes :=
  Bytes.ofText <|
    "current-context: c\ncontexts: [{name: c, context: {cluster: k, user: u}}]\n" ++
    "clusters: [{name: k}]\nusers: [{name: u}]\n"

def sampleKubeconfig : Kubeconfig where
  clusters := [⟨.text "k", {}⟩]
  contexts := [⟨.text "c", { cluster := some (.text "k"), user := some (.text "u") }⟩]
  users := [⟨.text "u", {}⟩]
  currentContext := some (.text "c")

def sampleOutside : Sources where
  properties := [("kubeconfig", "/c")]
  environ := []
  filesystem := .inMemory [("/c", sampleDocument)] []
  home := .ofText "/"

def sampleInside : Sources :=
  sampleOutside.withFiles
    [("/c", sampleDocument), (({} : ServiceAccount.Mount).tokenPath, Bytes.ofText "t")] []

def sampleMount (path : String) : Prop :=
  path = ({} : ServiceAccount.Mount).tokenPath ∨ path = ({} : ServiceAccount.Mount).caCertPath

theorem agreeOff_sampleInside : sampleInside.AgreeOff sampleMount sampleOutside := by
  have same : ∀ path, ¬ sampleMount path →
      List.lookup path [("/c", sampleDocument),
          (({} : ServiceAccount.Mount).tokenPath, Bytes.ofText "t")] =
        List.lookup path [("/c", sampleDocument)] := by
    intro path hp
    have hb : (path == ({} : ServiceAccount.Mount).tokenPath) = false := by
      simpa using fun h => hp (.inl h)
    simp [List.lookup_cons, hb]
  refine ⟨rfl, rfl, rfl, rfl, fun path hp => ?_, fun path hp => ?_⟩
  · simp only [sampleInside, sampleOutside, Sources.withFiles, Filesystem.inMemory, same path hp]
  · simp only [sampleInside, sampleOutside, Sources.withFiles, Filesystem.inMemory,
      Filesystem.contents, same path hp]

theorem found?_sampleInside : Kubeconfig.found? sampleInside = some sampleKubeconfig := by
  decide +kernel

/-- The token of the cluster around the program does not reach the other cluster. -/
theorem kubeconfig_hides_account_sampleInside :
    (ServiceAccount.probe sampleInside {}).outcome = .ok [⟨.oauthToken, some "t"⟩] ∧
      (ServiceAccount.probe sampleOutside {}).outcome = .ok [] ∧
      ∃ d e, (ofSources sampleInside).outcome = .ok d ∧ (ofSources sampleOutside).outcome = .ok e ∧
        ResolvesCluster sampleInside ∧ ResolvesUser sampleInside ∧ d = e := by
  have inside : (ServiceAccount.probe sampleInside {}).outcome =
      .ok [⟨.oauthToken, some "t"⟩] := by decide +kernel
  have outside : (ServiceAccount.probe sampleOutside {}).outcome = .ok [] := by decide
  have account : sampleInside.lookupFlag tryServiceAccountProperty true = true := by decide
  have account' : sampleOutside.lookupFlag tryServiceAccountProperty true = true := by
    rwa [← agreeOff_sampleInside.lookupFlag_eq]
  have kubeconfig : sampleInside.lookupFlag tryKubeconfigProperty true = true := by decide
  have kubeconfig' : sampleOutside.lookupFlag tryKubeconfigProperty true = true := by
    rwa [← agreeOff_sampleInside.lookupFlag_eq]
  have apart : ¬ sampleMount (location sampleInside) := by
    have : location sampleInside = "/c" := by decide
    rw [this]
    rintro (h | h) <;> revert h <;> decide
  have texts : sampleKubeconfig.governed (location sampleInside) sampleInside.home =
      List.map Setting.wide
        [⟨.masterUrl, none⟩, ⟨.trustCerts, false⟩, ⟨.caCertFile, none⟩, ⟨.caCertData, none⟩,
          ⟨.clientCertFile, none⟩, ⟨.clientCertData, none⟩, ⟨.clientKeyFile, none⟩,
          ⟨.clientKeyData, none⟩, ⟨.oauthToken, none⟩, ⟨.username, none⟩, ⟨.password, none⟩] := rfl
  have probed := Kubeconfig.outcome_probe_of_found? found?_sampleInside
  rw [texts] at probed
  have probed' := probed
  rw [Kubeconfig.outcome_probe_eq_of_agreeOff agreeOff_sampleInside apart] at probed'
  have ha := ofSources_of_texts ((outcome_layer_on account).trans inside)
    ((outcome_layer_on kubeconfig).trans probed)
  have hb := ofSources_of_texts ((outcome_layer_on account').trans outside)
    ((outcome_layer_on kubeconfig').trans probed')
  have hc : ResolvesCluster sampleInside :=
    ⟨sampleKubeconfig, _, {}, found?_sampleInside, rfl, rfl⟩
  have hu : ResolvesUser sampleInside := ⟨sampleKubeconfig, _, {}, found?_sampleInside, rfl, rfl⟩
  exact ⟨inside, outside, _, _, ha, hb, hc, hu,
    (kubeconfig_hides_account agreeOff_sampleInside apart kubeconfig ha hb).1 hc hu⟩

end Draft

end Config

end ClusterAccess
