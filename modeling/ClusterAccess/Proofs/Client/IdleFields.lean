import ClusterAccess.Client.Lifecycle
import ClusterAccess.Proofs.Client.Report

/-!
# Fields that do not count

A field is `idle` where the other fields of a configuration leave it nothing to decide: a text beside the
name of a file, half an identity, protocols without a context, a token beside a user name and password.
Configurations that differ in idle fields only are refused alike or lead to clients that act alike
(`Client.idle_unfelt`), whatever the idle fields hold.
-/

namespace ClusterAccess

open Pki (Material)
open Tls.Context (caMaterial clientMaterial)

variable {via : Pki.Provider}

namespace Config

/-- The field decides nothing, given what the others hold. -/
def idle (c : Config) : Field → Bool
  | .caCertData => isGiven c.caCertFile
  | .clientCertFile => !c.hasClientIdentity
  | .clientCertData => isGiven c.clientCertFile || !c.hasClientIdentity
  | .clientKeyFile => !c.hasClientIdentity
  | .clientKeyData => isGiven c.clientKeyFile || !c.hasClientIdentity
  | .clientKeyAlgo => !c.hasClientIdentity
  | .clientKeyPassphrase => !c.hasClientIdentity
  | .enabledProtocols => !c.needsCustomContext
  | .oauthToken => c.hasBasicAuth
  | .username => c.password.isNone
  | .password => c.username.isNone
  | _ => false

/-- The configurations differ at most in fields that are idle in both. -/
def AlikeButIdle (a b : Config) : Prop :=
  ∀ f : Field, (a.idle f && b.idle f) = false → a.toDraft.get f = b.toDraft.get f

namespace AlikeButIdle

variable {a b : Config}

theorem symm (h : a.AlikeButIdle b) : b.AlikeButIdle a := fun f hf =>
  (h f (by rw [Bool.and_comm, hf])).symm

theorem get_eq (h : a.AlikeButIdle b) {f : Field} (hf : a.idle f = false) :
    a.toDraft.get f = b.toDraft.get f :=
  h f (by rw [hf, Bool.false_and])

/-! ## Material -/

theorem caMaterial_sameContent (h : a.AlikeButIdle b) : (caMaterial a).SameContent (caMaterial b) :=
  ⟨h.get_eq (f := .caCertFile) rfl, fun hf => h.get_eq (f := .caCertData) hf⟩

/-- The certificate and the key of an identity are those of the other configuration. -/
theorem clientMaterial_sameContent (h : a.AlikeButIdle b) (hi : a.hasClientIdentity = true) :
    (clientMaterial a).certificate.SameContent (clientMaterial b).certificate ∧
      (clientMaterial a).key.SameContent (clientMaterial b).key := by
  refine ⟨⟨h.get_eq (f := .clientCertFile) ?_, fun hf => h.get_eq (f := .clientCertData) ?_⟩,
    ⟨h.get_eq (f := .clientKeyFile) ?_, fun hf => h.get_eq (f := .clientKeyData) ?_⟩⟩
  · simp [idle, hi]
  · exact Bool.or_eq_false_iff.mpr ⟨hf, by rw [hi]; rfl⟩
  · simp [idle, hi]
  · exact Bool.or_eq_false_iff.mpr ⟨hf, by rw [hi]; rfl⟩

theorem hasCaMaterial_eq (h : a.AlikeButIdle b) : a.hasCaMaterial = b.hasCaMaterial :=
  h.caMaterial_sameContent.isGiven_eq

theorem hasClientIdentity_of (h : a.AlikeButIdle b) (hi : a.hasClientIdentity = true) :
    b.hasClientIdentity = true := by
  obtain ⟨certificate, key⟩ := h.clientMaterial_sameContent hi
  rw [← Tls.Context.isGiven_clientMaterial] at hi ⊢
  rwa [← certificate.isGiven_eq, ← key.isGiven_eq]

theorem hasClientIdentity_eq (h : a.AlikeButIdle b) : a.hasClientIdentity = b.hasClientIdentity :=
  Bool.eq_iff_iff.mpr ⟨h.hasClientIdentity_of, h.symm.hasClientIdentity_of⟩

theorem trustCerts_eq (h : a.AlikeButIdle b) : a.trustCerts = b.trustCerts :=
  h.get_eq (f := .trustCerts) rfl

theorem needsCustomContext_eq (h : a.AlikeButIdle b) : a.needsCustomContext = b.needsCustomContext := by
  rw [Options.needsCustomContext, Options.needsCustomContext, h.hasCaMaterial_eq, h.hasClientIdentity_eq,
    h.trustCerts_eq]

/-! ## TLS contexts -/

theorem trustStore_eq (h : a.AlikeButIdle b) (fs : Filesystem) :
    Tls.Context.trustStore a fs = Tls.Context.trustStore b fs := by
  rw [Tls.Context.trustStore, Tls.Context.trustStore, h.hasCaMaterial_eq, Pki.TrustStore.load,
    Pki.TrustStore.load, h.caMaterial_sameContent.load_eq]

theorem keyStore_eq (h : a.AlikeButIdle b) (fs : Filesystem) :
    Tls.Context.keyStore via a fs = Tls.Context.keyStore via b fs := by
  unfold Tls.Context.keyStore
  rw [← h.hasClientIdentity_eq]
  cases hi : a.hasClientIdentity with
  | false => rfl
  | true =>
    obtain ⟨certificate, key⟩ := h.clientMaterial_sameContent hi
    refine Pki.KeyStore.load_congr certificate key ?_ ?_ fs
    · exact h.get_eq (f := .clientKeyAlgo) (by simp [idle, hi])
    · exact h.get_eq (f := .clientKeyPassphrase) (by simp [idle, hi])

theorem boundsOf_eq (h : a.AlikeButIdle b) (hn : a.needsCustomContext = true) :
    Tls.Context.boundsOf a = Tls.Context.boundsOf b := by
  have protocols : a.enabledProtocols = b.enabledProtocols :=
    h.get_eq (f := .enabledProtocols) (by simp [idle, hn])
  rw [Tls.Context.boundsOf, Tls.Context.boundsOf, protocols]

theorem assemble_eq (h : a.AlikeButIdle b) : Tls.Context.assemble a = Tls.Context.assemble b := by
  funext trust keys bounds
  rw [Tls.Context.assemble, Tls.Context.assemble, h.trustCerts_eq]

/-- Making a context comes to the same. -/
theorem outcome_context_eq (h : a.AlikeButIdle b) (fs : Filesystem) :
    (Tls.Context.ofConfig via a fs).outcome = (Tls.Context.ofConfig via b fs).outcome := by
  unfold Tls.Context.ofConfig
  rw [← h.needsCustomContext_eq]
  cases hn : a.needsCustomContext with
  | false => rfl
  | true =>
    simp only [if_true, Logged.outcome_bind, Logged.outcome_ofExcept, Logged.outcome_tellIf,
      Logged.outcome_pure, h.trustStore_eq, h.keyStore_eq, h.boundsOf_eq hn, h.assemble_eq]

/-! ## Proofs of identity -/

theorem basicAuth_of (h : a.AlikeButIdle b) (hb : a.hasBasicAuth = true) :
    a.username = b.username ∧ a.password = b.password := by
  simp only [Options.hasBasicAuth, Bool.and_eq_true, ← Option.not_isNone, Bool.not_eq_true'] at hb
  exact ⟨h.get_eq (f := .username) hb.2, h.get_eq (f := .password) hb.1⟩

theorem hasBasicAuth_of (h : a.AlikeButIdle b) (hb : a.hasBasicAuth = true) : b.hasBasicAuth = true := by
  obtain ⟨username, password⟩ := h.basicAuth_of hb
  rwa [Options.hasBasicAuth, ← username, ← password]

theorem hasBasicAuth_eq (h : a.AlikeButIdle b) : a.hasBasicAuth = b.hasBasicAuth :=
  Bool.eq_iff_iff.mpr ⟨h.hasBasicAuth_of, h.symm.hasBasicAuth_of⟩

theorem auth?_eq (h : a.AlikeButIdle b) : a.auth? = b.auth? := by
  unfold auth? authScheme
  rw [← h.hasBasicAuth_eq]
  cases hb : a.hasBasicAuth with
  | true =>
    obtain ⟨username, password⟩ := h.basicAuth_of hb
    rw [if_pos rfl, if_pos rfl, username, password]
  | false =>
    have token : a.oauthToken = b.oauthToken := h.get_eq (f := .oauthToken) hb
    rw [token]
    cases b.oauthToken <;> rfl

theorem masterUrl_eq (h : a.AlikeButIdle b) : a.masterUrl = b.masterUrl :=
  Option.some.inj (h.get_eq (f := .masterUrl) rfl)

theorem extendedApiUrl_eq (h : a.AlikeButIdle b) : a.extendedApiUrl = b.extendedApiUrl :=
  Option.some.inj (h.get_eq (f := .extendedApiUrl) rfl)

end AlikeButIdle

end Config

namespace Client

/-! ## Clients that act alike -/

/-- The clients ask the same URL in the same way, and both or neither are closed. -/
structure ActsLike (x y : Client) : Prop where
  masterUrl : x.config.masterUrl = y.config.masterUrl
  session : x.session = y.session
  closed : x.closed = y.closed

/-- What a step shows: what is told, which requests are sent and what the caller gets. -/
def Step.shown (s : Step) : List Event × List Http.Request × Except Failure Reply :=
  (s.events, s.requests, s.outcome)

namespace ActsLike

variable {x y : Client}

theorem rootPaths_eq (h : x.ActsLike y) (server : Http.Server) (n : Nat) :
    x.rootPaths server n = y.rootPaths server n := by
  rw [rootPaths, rootPaths, h.masterUrl, h.session]

theorem close (h : x.ActsLike y) : x.close.1 = y.close.1 ∧ x.close.2.ActsLike y.close.2 := by
  unfold Client.close
  rw [h.closed, h.masterUrl]
  split
  · exact ⟨rfl, h⟩
  · exact ⟨rfl, h.masterUrl, congrArg Http.Session.close h.session, rfl⟩

/-- A step shows the same of both clients, and they act alike afterwards. -/
theorem perform (h : x.ActsLike y) (server : Http.Server) (n : Nat) (op : Operation) :
    (x.perform server n op).shown = (y.perform server n op).shown ∧
      (x.perform server n op).client.ActsLike (y.perform server n op).client := by
  have closing (outcome : Except Failure Reply) :
      (x.closing outcome).shown = (y.closing outcome).shown ∧
        (x.closing outcome).client.ActsLike (y.closing outcome).client := by
    refine ⟨?_, h.close.2⟩
    rw [Step.shown, Step.shown, Client.closing, Client.closing, h.close.1]
  cases op with
  | rootPaths =>
    refine ⟨?_, h⟩
    simp only [Step.shown, Client.perform, h.rootPaths_eq]
  | close => exact closing _
  | enter => exact ⟨rfl, h⟩
  | leave failure => cases failure <;> exact closing _

/-- A run shows the same of both clients. -/
theorem run (h : x.ActsLike y) (server : Http.Server) (n : Nat) (ops : List Operation) :
    (x.run server n ops).map Step.shown = (y.run server n ops).map Step.shown := by
  induction ops generalizing x y n with
  | nil => rfl
  | cons op ops ih =>
    obtain ⟨shown, after⟩ := h.perform server n op
    have requests : (x.perform server n op).requests = (y.perform server n op).requests :=
      congrArg (·.2.1) shown
    rw [run_cons, run_cons, List.map_cons, List.map_cons, shown, requests, ih after]

end ActsLike

/-- Configurations that differ in idle fields only are refused for the same reason, or lead to clients with
equal TLS contexts that send the same requests with the same proof of identity, in every run and to every
URL that is asked for through them. -/
theorem idle_unfelt {a b : Config} (h : a.AlikeButIdle b) (fs : Filesystem) :
    (∃ e, (ofConfig via a fs).outcome = .error e ∧ (ofConfig via b fs).outcome = .error e) ∨
      ∃ x y, (ofConfig via a fs).outcome = .ok x ∧ (ofConfig via b fs).outcome = .ok y ∧
        x.session.context = y.session.context ∧
        (∀ server n ops,
          (x.run server n ops).map Step.shown = (y.run server n ops).map Step.shown) ∧
        ∀ server n url headers,
          x.session.get server n url headers = y.session.get server n url headers := by
  have endpoints : checkEndpoints a = checkEndpoints b := by
    rw [checkEndpoints, checkEndpoints, h.masterUrl_eq, h.extendedApiUrl_eq]
  rw [outcome_ofConfig, outcome_ofConfig, endpoints, h.outcome_context_eq fs, h.auth?_eq]
  cases checkEndpoints b with
  | error e => exact .inl ⟨e, rfl, rfl⟩
  | ok _ =>
    cases (Tls.Context.ofConfig via b fs).outcome with
    | error e => exact .inl ⟨e, rfl, rfl⟩
    | ok context =>
      have alike : ActsLike ⟨a, { context, auth := b.auth? }, false⟩
          ⟨b, { context, auth := b.auth? }, false⟩ := ⟨h.masterUrl_eq, rfl, rfl⟩
      exact .inr ⟨_, _, rfl, rfl, rfl, alike.run, fun _ _ _ _ => rfl⟩

/-! ### Texts that nobody reads -/

/-- The holder with a user name and password. -/
def sampleNamedHolder : Config := { sampleHolder with username := some "u", password := some "p" }

/-- The same, with a token and with texts that are no base64 beside the names of its files. -/
def sampleLittered : Config :=
  { sampleNamedHolder with
    caCertData := some "?"
    clientCertData := some "?"
    clientKeyData := some "?"
    oauthToken := some "t" }

theorem alikeButIdle_sampleLittered : sampleLittered.AlikeButIdle sampleNamedHolder := by
  intro f hf
  cases f <;> first | rfl | exact absurd hf (by decide)

theorem idle_unfelt_sampleLittered :
    sampleLittered.AlikeButIdle sampleNamedHolder ∧
      ∃ x y, (ofConfig .standard sampleLittered sampleMaterial).outcome = .ok x ∧
        (ofConfig .standard sampleNamedHolder sampleMaterial).outcome = .ok y ∧
        x.session.context = y.session.context ∧
        ∀ server ops, (x.run server 0 ops).map Step.shown = (y.run server 0 ops).map Step.shown := by
  have opened : (ofConfig .standard sampleLittered sampleMaterial).outcome.isOk = true := by decide +kernel
  obtain ⟨e, he, -⟩ | ⟨x, y, hx, hy, hc, hr, -⟩ := idle_unfelt alikeButIdle_sampleLittered sampleMaterial
  · rw [he] at opened
    cases opened
  · exact ⟨alikeButIdle_sampleLittered, x, y, hx, hy, hc, fun server ops => hr server 0 ops⟩

end Client

end ClusterAccess
