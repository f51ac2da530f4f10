import ClusterAccess.Failure

/-!
# Events

What happens on the way to a configuration and a client is told in `Event`s. An event has a level, a
name and fields. `Logged` is a computation with the events that it told, in order, whether it ended in
a result or in a failure.
-/

namespace ClusterAccess

/-- How much an event matters. -/
inductive Level where
  | debug
  | info
  | warning
  | error
  deriving DecidableEq, Repr

namespace Level

def name : Level → String
  | debug => "debug"
  | info => "info"
  | warning => "warning"
  | error => "error"

def rank : Level → Nat
  | debug => 0
  | info => 1
  | warning => 2
  | error => 3

instance : LE Level := ⟨fun a b => a.rank ≤ b.rank⟩

instance (a b : Level) : Decidable (a ≤ b) := inferInstanceAs (Decidable (a.rank ≤ b.rank))

end Level

/-- How requests prove who sends them. -/
inductive AuthScheme where
  | basic
  | bearer
  | anonymous
  deriving DecidableEq, Repr

def AuthScheme.name : AuthScheme → String
  | basic => "basic"
  | bearer => "bearer"
  | anonymous => "none"

inductive Event where
  | serviceAccountTokenUnavailable (path : String) (fault : ReadFault)
  | kubeconfigParseFailed (path : String) (fault : Kubeconfig.Fault)
  | kubeconfigContextMissing (path : String) (context : Option Text.Content)
  | kubeconfigClusterMissing (path : String) (cluster : Option Text.Content)
  | kubeconfigUserMissing (path : String) (user : Option Text.Content)
  | bearerTokenIgnored
  | defaultKeyPassphraseInUse (entry : String)
  | insecureTrustEnabled (masterUrl : String)
  | clientCreated (masterUrl : String) (auth : AuthScheme) (customTls clientIdentity : Bool)
  | clientClosed (masterUrl : String)
  deriving DecidableEq, Repr

namespace Event

def level : Event → Level
  | serviceAccountTokenUnavailable .. => .debug
  | kubeconfigParseFailed .. => .error
  | kubeconfigContextMissing .. => .warning
  | kubeconfigClusterMissing .. => .warning
  | kubeconfigUserMissing .. => .warning
  | bearerTokenIgnored => .debug
  | defaultKeyPassphraseInUse .. => .warning
  | insecureTrustEnabled .. => .warning
  | clientCreated .. => .info
  | clientClosed .. => .debug

def name : Event → String
  | serviceAccountTokenUnavailable .. => "service_account_token_unavailable"
  | kubeconfigParseFailed .. => "kubeconfig_parse_failed"
  | kubeconfigContextMissing .. => "kubeconfig_context_missing"
  | kubeconfigClusterMissing .. => "kubeconfig_cluster_missing"
  | kubeconfigUserMissing .. => "kubeconfig_user_missing"
  | bearerTokenIgnored => "bearer_token_ignored"
  | defaultKeyPassphraseInUse .. => "default_key_passphrase_in_use"
  | insecureTrustEnabled .. => "insecure_trust_enabled"
  | clientCreated .. => "cluster_client_created"
  | clientClosed .. => "cluster_client_closed"

/-- The fields of an event. -/
def details : Event → List (String × Json)
  | serviceAccountTokenUnavailable path fault =>
    [("path", .text path), ("error", .text (AccessError.serviceAccount path fault).message)]
  | kubeconfigParseFailed path fault =>
    [("path", .text path), ("error", .text (AccessError.kubeconfig path fault).message)]
  | kubeconfigContextMissing path context =>
    [("path", .text path), ("context", .optionalText (context.map (·.shown)))]
  | kubeconfigClusterMissing path cluster =>
    [("path", .text path), ("cluster", .optionalText (cluster.map (·.shown)))]
  | kubeconfigUserMissing path user =>
    [("path", .text path), ("user", .optionalText (user.map (·.shown)))]
  | bearerTokenIgnored => [("reason", .text "basic auth takes precedence")]
  | defaultKeyPassphraseInUse entry => [("alias", .text entry)]
  | insecureTrustEnabled masterUrl => [("master_url", .text masterUrl)]
  | clientCreated masterUrl auth customTls clientIdentity =>
    [("master_url", .text masterUrl), ("auth", .text auth.name),
      ("tls", .text (if customTls then "custom" else "default")),
      ("client_identity", .bool clientIdentity)]
  | clientClosed masterUrl => [("master_url", .text masterUrl)]

/-- An event as a document, with its level under a name of its own. -/
def toJson (levelName : String) (e : Event) : Json :=
  .object (("event", .text e.name) :: (levelName, .text e.level.name) :: e.details)

end Event

/-- A computation that tells events. -/
structure Logged (α : Type) where
  events : List Event
  outcome : Except Failure α

namespace Logged

variable {α β : Type}

def bind (x : Logged α) (f : α → Logged β) : Logged β :=
  match x.outcome with
  | .error e => ⟨x.events, .error e⟩
  | .ok a =>
    let y := f a
    ⟨x.events ++ y.events, y.outcome⟩

instance : Monad Logged where
  pure a := ⟨[], .ok a⟩
  bind := bind

/-- Ends in a result or a failure and tells nothing. -/
def ofExcept (x : Except Failure α) : Logged α := ⟨[], x⟩

def fail (e : Failure) : Logged α := ofExcept (.error e)

def tellAll (es : List Event) : Logged Unit := ⟨es, .ok ()⟩

def tell (e : Event) : Logged Unit := tellAll [e]

/-- Tells an event under a condition. -/
def tellIf (p : Prop) [Decidable p] (e : Event) : Logged Unit := tellAll (if p then [e] else [])

/-! ### What a sequence of computations tells and ends in -/

@[simp] theorem outcome_pure (a : α) : (pure a : Logged α).outcome = .ok a := rfl

@[simp] theorem events_pure (a : α) : (pure a : Logged α).events = [] := rfl

@[simp] theorem outcome_ofExcept (x : Except Failure α) : (ofExcept x).outcome = x := rfl

@[simp] theorem events_ofExcept (x : Except Failure α) : (ofExcept x).events = [] := rfl

@[simp] theorem outcome_fail (e : Failure) : (fail e : Logged α).outcome = .error e := rfl

@[simp] theorem outcome_tell (e : Event) : (tell e).outcome = .ok () := rfl

@[simp] theorem events_tell (e : Event) : (tell e).events = [e] := rfl

@[simp] theorem outcome_tellIf (p : Prop) [Decidable p] (e : Event) :
    (tellIf p e).outcome = .ok () := rfl

@[simp] theorem events_tellIf (p : Prop) [Decidable p] (e : Event) :
    (tellIf p e).events = if p then [e] else [] := rfl

theorem outcome_bind (x : Logged α) (f : α → Logged β) :
    (x >>= f).outcome = x.outcome.bind fun a => (f a).outcome := by
  change (bind x f).outcome = _
  unfold bind
  cases x.outcome <;> rfl

theorem events_bind_ok {x : Logged α} {a : α} (h : x.outcome = .ok a) (f : α → Logged β) :
    (x >>= f).events = x.events ++ (f a).events := by
  change (bind x f).events = _
  simp [bind, h]

theorem events_bind_error {x : Logged α} {e : Failure} (h : x.outcome = .error e) (f : α → Logged β) :
    (x >>= f).events = x.events := by
  change (bind x f).events = _
  simp [bind, h]

/-- A sequence succeeds when both of its parts do. -/
theorem outcome_bind_eq_ok {x : Logged α} {f : α → Logged β} {b : β} :
    (x >>= f).outcome = .ok b ↔ ∃ a, x.outcome = .ok a ∧ (f a).outcome = .ok b := by
  rw [outcome_bind, Except.bind_eq_ok]

/-- A sequence fails as its first part does, or else as its second. -/
theorem outcome_bind_eq_error {x : Logged α} {f : α → Logged β} {e : Failure} :
    (x >>= f).outcome = .error e ↔
      x.outcome = .error e ∨ ∃ a, x.outcome = .ok a ∧ (f a).outcome = .error e := by
  rw [outcome_bind, Except.bind_eq_error]

end Logged

end ClusterAccess
