import ClusterAccess.Client
import ClusterAccess.Proofs.Endpoint
import ClusterAccess.Proofs.Tls.Context

/-!
# What opening a client comes to

A client that was opened has its configuration, the TLS context that was made for it and the proof of
identity `auth?` (`ofConfig_eq_ok`). What opening tells, `told`, is known from the configuration.
-/

namespace ClusterAccess

variable {via : Pki.Provider}

namespace Config

/-! ## Proofs of identity -/

/-- The proof of identity that applies, without what is told about it. -/
def auth? (c : Config) : Option Auth :=
  match c.authScheme with
  | .basic => some (.basic (c.username.getD "") (c.password.getD ""))
  | .bearer => some (.bearer (c.oauthToken.getD ""))
  | .anonymous => none

/-- What choosing a proof of identity tells. -/
def toldOfAuth (c : Config) : List Event :=
  if c.authScheme = .basic ∧ c.oauthToken.isSome then [.bearerTokenIgnored] else []

theorem outcome_selectAuth (c : Config) : c.selectAuth.outcome = .ok c.auth? := by
  unfold selectAuth auth?
  cases c.authScheme <;> rfl

theorem events_selectAuth (c : Config) : c.selectAuth.events = c.toldOfAuth := by
  unfold selectAuth toldOfAuth
  cases c.authScheme with
  | basic =>
    rw [Logged.events_bind_ok (Logged.outcome_tellIf ..)]
    simp
  | bearer => rfl
  | anonymous => rfl

end Config

/-- The event that tells of a new client. -/
def Event.isCreation : Event → Bool
  | .clientCreated .. => true
  | _ => false

namespace Client

/-! ## Clients of configurations -/

/-- What opening the client of a configuration tells. -/
def told (c : Config) : List Event :=
  Tls.Context.told c ++ c.toldOfAuth ++
    [.clientCreated c.masterUrl c.authScheme c.needsCustomContext c.hasClientIdentity]

/-- Of a new client one event tells, and it says what the configuration says. -/
theorem creation_told (c : Config) :
    (told c).filter Event.isCreation =
      [.clientCreated c.masterUrl c.authScheme c.needsCustomContext c.hasClientIdentity] := by
  have tls : (Tls.Context.told c).filter Event.isCreation = [] := by
    unfold Tls.Context.told
    rw [List.filter_append]
    split <;> split <;> rfl
  have auth : c.toldOfAuth.filter Event.isCreation = [] := by
    unfold Config.toldOfAuth
    split <;> rfl
  rw [told, List.filter_append, List.filter_append, tls, auth]
  rfl

/-- The base URLs of a configuration that was built are in order. -/
theorem checkEndpoints_of_build {d : Config.Draft} {c : Config} (h : d.build = .ok c) :
    checkEndpoints c = .ok () := by
  obtain ⟨_, urls, -, -, hu, rfl⟩ := Config.Draft.build_eq_ok h
  obtain ⟨rfl, hm, he⟩ := Endpoint.BaseUrls.check_eq_ok hu
  unfold checkEndpoints
  rw [if_neg (Endpoint.ne_empty_of_check hm)]
  exact Except.bind_eq_ok.mpr ⟨_, hm, Except.bind_eq_ok.mpr ⟨_, he, rfl⟩⟩

/-- A client is opened after its base URLs are checked and its context is made; nothing else can fail. -/
theorem outcome_ofConfig (c : Config) (fs : Filesystem) :
    (ofConfig via c fs).outcome =
      (checkEndpoints c).bind fun _ => (Tls.Context.ofConfig via c fs).outcome.map fun context =>
        { config := c, session := { context, auth := c.auth? } } := by
  simp only [ofConfig, Logged.outcome_bind, Logged.outcome_ofExcept, Config.outcome_selectAuth]
  cases checkEndpoints c with
  | error e => rfl
  | ok _ => cases (Tls.Context.ofConfig via c fs).outcome <;> rfl

theorem isSome_context {c : Config} {fs : Filesystem} {context : Option Tls.Context}
    (h : (Tls.Context.ofConfig via c fs).outcome = .ok context) : context.isSome = c.needsCustomContext := by
  obtain ⟨-, ⟨hn, rfl⟩ | ⟨hn, _, _, _, -, -, -, -, -, rfl⟩⟩ := Tls.Context.ofConfig_eq_ok h
  · exact hn.symm
  · exact hn.symm

/-- A client is opened after its base URLs are checked and its context is made. -/
theorem ofConfig_eq_ok {c : Config} {fs : Filesystem} {client : Client}
    (h : (ofConfig via c fs).outcome = .ok client) :
    (ofConfig via c fs).events = told c ∧ checkEndpoints c = .ok () ∧
      ∃ context, (Tls.Context.ofConfig via c fs).outcome = .ok context ∧
        client = { config := c, session := { context, auth := c.auth? } } := by
  unfold ofConfig at h ⊢
  obtain ⟨_, he, h⟩ := Logged.outcome_bind_eq_ok.mp h
  obtain ⟨context, hc, h⟩ := Logged.outcome_bind_eq_ok.mp h
  obtain ⟨auth, ha, h⟩ := Logged.outcome_bind_eq_ok.mp h
  obtain ⟨_, ht, h⟩ := Logged.outcome_bind_eq_ok.mp h
  have hauth := ha.symm.trans (Config.outcome_selectAuth c)
  cases hauth
  cases h
  refine ⟨?_, he, context, hc, rfl⟩
  rw [Logged.events_bind_ok he, Logged.events_bind_ok hc, Logged.events_bind_ok ha,
    Logged.events_bind_ok ht, (Tls.Context.ofConfig_eq_ok hc).1, Config.events_selectAuth,
    isSome_context hc]
  simp [told]

end Client

end ClusterAccess
