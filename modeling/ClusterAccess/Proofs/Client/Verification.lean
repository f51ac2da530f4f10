import ClusterAccess.Proofs.Client.Opening
import ClusterAccess.Proofs.Config.Precedence
import ClusterAccess.Proofs.Kubeconfig.Probe
import ClusterAccess.Proofs.ServiceAccount

/-!
# When the server is not verified

`TrustRequested s calls` says that blind trust was asked for: by the last call about it, else by the
override, else by the cluster of the kubeconfig's current context. The client that the sources and the
calls lead to is `Unverified` in just that case; otherwise its context checks the certificate and the
name of the server, or there is none and the platform does.
-/

namespace ClusterAccess

open Config (Setting Call Draft narrowed overridden? saidBy? tryKubeconfigProperty tryServiceAccountProperty)

variable {via : Pki.Provider}

/-! ## What each layer says about trust -/

/-- The cluster of the current context. -/
def Kubeconfig.currentCluster? (k : Kubeconfig) : Option Kubeconfig.Cluster :=
  k.currentContext?.bind k.cluster?

/-- A cluster without a flag asks for verification. -/
theorem Kubeconfig.last?_trustCerts (k : Kubeconfig) (path : String) (home : Path) :
    Setting.last? ((k.governed path home).filterMap Setting.Wide.narrow?) .trustCerts =
      k.currentCluster?.map fun cluster => cluster.insecureSkipTlsVerify.getD false := by
  unfold governed currentCluster?
  cases hx : k.currentContext? with
  | none => rfl
  | some context =>
    simp only
    cases hc : k.cluster? context with
    | none => simp [hc]
    | some cluster =>
      simp only [Option.bind_some, hc, Option.map_some]
      refine Setting.last?_of_mem (s := ⟨.trustCerts, cluster.insecureSkipTlsVerify.getD false⟩)
        ((Config.fields_narrowed _).nodup ?_) ?_
      · cases k.user? context <;> simp [Cluster.settings, User.settings]
      · exact List.mem_filterMap.mpr ⟨⟨.trustCerts, _⟩, List.mem_append_left _ (.tail _ (.head _)), rfl⟩

/-- Trust was asked for by the last call about it, else by the override, else by the kubeconfig. -/
def TrustRequested (s : Sources) (calls : List Call) : Prop :=
  match Call.lastSaid? calls .trustCerts with
  | some b => b = true
  | none =>
    match s.lookup "kubernetes.trust.certificates" with
    | some raw => Text.lower (Text.strip raw.toList) = "true".toList
    | none =>
      s.lookupFlag tryKubeconfigProperty true = true ∧
        ∃ k cluster, Kubeconfig.found? s = some k ∧ k.currentCluster? = some cluster ∧
          cluster.insecureSkipTlsVerify = some true

section

variable {s : Sources} {d : Draft}

theorem trustCerts_kubeconfig (h : (Draft.ofSources s).outcome = .ok d) :
    saidBy? s tryKubeconfigProperty (narrowed (Kubeconfig.probe s)) .trustCerts = some true ↔
      s.lookupFlag tryKubeconfigProperty true = true ∧
        ∃ k cluster, Kubeconfig.found? s = some k ∧ k.currentCluster? = some cluster ∧
          cluster.insecureSkipTlsVerify = some true := by
  obtain ⟨account, kubeconfig, -, hk, -⟩ := Config.Sketch.ofSources_eq_ok.mp (Draft.ofSources_eq_ok.mp h)
  rw [← Config.last?_of_layer (Config.layer_narrowed_eq_ok.mpr ⟨_, hk, rfl⟩)]
  obtain ⟨on, hk⟩ | ⟨off, rfl⟩ := Config.layer_eq_ok.mp hk
  · rw [Kubeconfig.probe_eq_ok hk]
    cases hf : Kubeconfig.found? s with
    | none => simp
    | some k =>
      rw [Option.map_some, Option.getD_some, Kubeconfig.last?_trustCerts]
      cases hc : k.currentCluster? with
      | none => simp [hc]
      | some cluster => cases hi : cluster.insecureSkipTlsVerify <;> simp [on, hc, hi]
  · simp [off]

theorem trustCerts_account (h : (Draft.ofSources s).outcome = .ok d) :
    saidBy? s tryServiceAccountProperty (ServiceAccount.probe s {}) .trustCerts = none := by
  obtain ⟨account, kubeconfig, ha, -, -⟩ := Config.Sketch.ofSources_eq_ok.mp (Draft.ofSources_eq_ok.mp h)
  rw [← Config.last?_of_layer ha]
  obtain ⟨-, ha⟩ | ⟨-, rfl⟩ := Config.layer_eq_ok.mp ha
  · exact ServiceAccount.last?_probe ha (by decide) (by decide)
  · rfl

/-- The draft trusts blindly when that was asked for. -/
theorem trustCerts_after (h : (Draft.ofSources s).outcome = .ok d) (calls : List Call) :
    (d.after calls).trustCerts = true ↔ TrustRequested s calls := by
  have hv : (d.after calls).trustCerts =
      (Call.lastSaid? calls .trustCerts).getD
        (((overridden? s .trustCerts).or
          (saidBy? s tryKubeconfigProperty (narrowed (Kubeconfig.probe s)) .trustCerts)).getD false) := by
    have := Draft.get_after d calls .trustCerts
    rw [Draft.get_of_ofSources h, Draft.found?, trustCerts_account h, Option.or_none] at this
    exact this
  have ho : overridden? s .trustCerts =
      (s.lookup "kubernetes.trust.certificates").map Config.readFlag := rfl
  rw [hv, ho, TrustRequested]
  cases Call.lastSaid? calls .trustCerts with
  | some b => rfl
  | none =>
    cases s.lookup "kubernetes.trust.certificates" with
    | some raw => simp [Config.readFlag]
    | none =>
      rw [Option.map_none, Option.none_or, Option.getD_none, ← trustCerts_kubeconfig h]
      cases saidBy? s tryKubeconfigProperty (narrowed (Kubeconfig.probe s)) .trustCerts with
      | none => simp
      | some b => simp

end

namespace Client

/-! ## Contexts -/

/-- The client takes any server. -/
def Unverified (client : Client) : Prop :=
  ∃ context, client.session.context = some context ∧ context.verification = .off ∧
    context.checksHostname = false

/-- The client checks the certificate and the name of the server, or leaves that to the platform. -/
def Verified (client : Client) : Prop :=
  client.session.context = none ∨
    ∃ context, client.session.context = some context ∧ context.verification = .required ∧
      context.checksHostname = true

theorem unverified_of_trustCerts {c : Config} {fs : Filesystem} {client : Client}
    (h : (ofConfig via c fs).outcome = .ok client) (ht : c.trustCerts = true) : client.Unverified := by
  obtain ⟨-, -, context, hc, rfl⟩ := ofConfig_eq_ok h
  obtain ⟨-, ⟨hn, -⟩ | ⟨-, trust, keys, bounds, -, -, -, -, -, rfl⟩⟩ := Tls.Context.ofConfig_eq_ok hc
  · simp [Config.Options.needsCustomContext, ht] at hn
  · refine ⟨_, rfl, ?_⟩
    simp [Tls.Context.assemble, Tls.Context.trustingAll, ht]

theorem verified_of_not_trustCerts {c : Config} {fs : Filesystem} {client : Client}
    (h : (ofConfig via c fs).outcome = .ok client) (ht : c.trustCerts = false) : client.Verified := by
  obtain ⟨-, -, context, hc, rfl⟩ := ofConfig_eq_ok h
  obtain ⟨-, ⟨-, rfl⟩ | ⟨-, trust, keys, bounds, -, -, -, -, -, rfl⟩⟩ := Tls.Context.ofConfig_eq_ok hc
  · exact .inl rfl
  · refine .inr ⟨_, rfl, ?_⟩
    simp [Tls.Context.assemble, ht]

theorem Unverified.not_verified {client : Client} (h : client.Unverified) :
    ¬ client.Verified := by
  obtain ⟨context, hc, hv, -⟩ := h
  rintro (hn | ⟨other, ho, hr, -⟩)
  · rw [hc] at hn
    cases hn
  · rw [hc] at ho
    cases ho
    rw [hv] at hr
    cases hr

/-- A client takes any server exactly when that was asked for, and otherwise verifies the server or leaves
that to the platform. -/
theorem unverified_iff {s : Sources} {d : Draft} {calls : List Call} {c : Config}
    {fs : Filesystem} {client : Client} (hd : (Draft.ofSources s).outcome = .ok d)
    (hc : (d.after calls).build = .ok c) (hk : (ofConfig via c fs).outcome = .ok client) :
    (client.Unverified ↔ TrustRequested s calls) ∧ (¬ TrustRequested s calls → client.Verified) := by
  obtain ⟨_, _, -, -, -, rfl⟩ := Draft.build_eq_ok hc
  rw [← trustCerts_after hd calls]
  cases ht : (d.after calls).trustCerts with
  | true =>
    have hu := unverified_of_trustCerts hk ht
    exact ⟨iff_of_true hu rfl, fun hn => absurd rfl hn⟩
  | false =>
    have hv := verified_of_not_trustCerts hk ht
    exact ⟨iff_of_false (fun hu => hu.not_verified hv) (by simp), fun _ => hv⟩

/-! ### A kubeconfig that asks for blind trust -/

def sampleMaster : List Call := [.choose (.setting ⟨.masterUrl, some "http://a"⟩)]

def sampleConfig : Config where
  masterUrl := "http://a/api/v2/"
  extendedApiUrl := "http://a/oapi/v1/"
  apiVersion := "v2"
  trustCerts := true
  username := some ""
  oauthToken := some "t"

theorem build_sampleDraft : (Draft.sampleDraft.after sampleMaster).build = .ok sampleConfig := by
  decide

def sampleContext : Tls.Context where
  bounds := ⟨.tls12, some .tls12⟩
  trusted := none
  identity := none
  verification := .off
  checksHostname := false

def sampleClient : Client where
  config := sampleConfig
  session := { context := some sampleContext, auth := some (.bearer "t") }

theorem ofConfig_sampleConfig (fs : Filesystem) :
    (Client.ofConfig .standard sampleConfig fs).outcome = .ok sampleClient := by
  have checked : Client.checkEndpoints sampleConfig = .ok () := by decide
  have context : (Tls.Context.ofConfig .standard sampleConfig fs).outcome = .ok (some sampleContext) := rfl
  simp only [Client.ofConfig, Logged.outcome_bind, Logged.outcome_ofExcept, checked, context]
  rfl

/-- The word `y` in a kubeconfig reaches the client, and nobody says otherwise. -/
theorem unverified_sampleConfig :
    ∃ client, (ofConfig .standard sampleConfig Draft.sampleSources.filesystem).outcome = .ok client ∧
      client.Unverified ∧ TrustRequested Draft.sampleSources sampleMaster := by
  have hk := ofConfig_sampleConfig Draft.sampleSources.filesystem
  have hu : sampleClient.Unverified := ⟨sampleContext, rfl, rfl, rfl⟩
  exact ⟨_, hk, hu, (unverified_iff Draft.ofSources_sampleSources build_sampleDraft hk).1.mp hu⟩

end Client

end ClusterAccess
