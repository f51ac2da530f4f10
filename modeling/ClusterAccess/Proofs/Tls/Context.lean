import ClusterAccess.Proofs.Pki.Store
import ClusterAccess.Tls.Context

/-!
# What making a TLS context comes to

A context that was made is `assemble`d of the trust store, the key store and the bounds of its
configuration, and a configuration that needs none gets none (`ofConfig_eq_ok`). What is told on the way
is `told`: it depends on the client identity, its passphrase and the trust alone.
-/

namespace ClusterAccess.Tls.Context

open Pki (KeyStore Material Provider TrustStore)

variable {via : Provider}

/-! ## Identities -/

/-- What taking a key store as an identity tells. -/
def toldOf (keys : Option KeyStore) : List Event :=
  if keys.any fun s => s.passphrase = Config.defaultPassphrase then
    [.defaultKeyPassphraseInUse KeyStore.entryName]
  else []

theorem events_loadIdentity (keys : Option KeyStore) : (loadIdentity via keys).events = toldOf keys := by
  cases keys with
  | none => rfl
  | some s =>
    rw [loadIdentity, Logged.events_bind_ok (Logged.outcome_tellIf ..)]
    simp [toldOf]

theorem loadIdentity_eq_ok {keys : Option KeyStore} (h : (loadIdentity via keys).outcome = .ok ())
    {s : KeyStore} (hs : keys = some s) :
    s.checkPassphrase = .ok () ∧ via.takesIdentity s.chain s.privateKey = true := by
  subst hs
  obtain ⟨_, -, h⟩ := Logged.outcome_bind_eq_ok.mp h
  obtain ⟨_, hp, h⟩ := Except.bind_eq_ok.mp h
  refine ⟨hp, ?_⟩
  by_cases ha : via.takesIdentity s.chain s.privateKey = true
  · exact ha
  · rw [if_neg ha] at h
    cases h

/-! ## Key stores of configurations -/

section

variable {c : Config} {fs : Filesystem}

theorem isGiven_clientMaterial :
    ((clientMaterial c).certificate.isGiven && (clientMaterial c).key.isGiven) =
      c.hasClientIdentity := rfl

/-- A key store that was made is there exactly for a client identity, and has its passphrase. -/
theorem keyStore_eq_ok {keys : Option KeyStore} (h : keyStore via c fs = .ok keys) :
    c.hasClientIdentity = true ∧ (∃ s, keys = some s ∧ s.passphrase = c.clientKeyPassphrase) ∨
      c.hasClientIdentity = false ∧ keys = none := by
  unfold keyStore at h
  cases hi : c.hasClientIdentity with
  | false =>
    rw [hi] at h
    cases h
    exact .inr ⟨rfl, rfl⟩
  | true =>
    rw [hi, if_pos rfl] at h
    obtain ⟨_, _, s, -, -, hs, rfl⟩ | ⟨hn, -⟩ := KeyStore.load_eq_ok h
    · exact .inl ⟨rfl, s, rfl, (KeyStore.ofBytes_eq_ok hs).2.2.2⟩
    · rw [isGiven_clientMaterial, hi] at hn
      cases hn

/-! ## Contexts of configurations -/

/-- What making the context of a configuration tells. -/
def told (c : Config) : List Event :=
  (if c.hasClientIdentity ∧ c.clientKeyPassphrase = Config.defaultPassphrase then
    [.defaultKeyPassphraseInUse KeyStore.entryName]
  else []) ++
    if c.trustCerts then [.insecureTrustEnabled c.masterUrl] else []

theorem toldOf_keyStore {keys : Option KeyStore} (h : keyStore via c fs = .ok keys) :
    toldOf keys ++ (if c.trustCerts then [.insecureTrustEnabled c.masterUrl] else []) = told c := by
  obtain ⟨hi, s, rfl, hp⟩ | ⟨hi, rfl⟩ := keyStore_eq_ok h
  · simp [toldOf, told, hi, hp]
  · simp [toldOf, told, hi]

theorem told_of_not_needsCustomContext (h : c.needsCustomContext = false) : told c = [] := by
  simp only [Config.Options.needsCustomContext, Bool.or_eq_false_iff] at h
  simp [told, h.1.2, h.2]

/-- A configuration that needs a context gets the one assembled of what it names; what is told is known
beforehand. -/
theorem ofConfig_eq_ok {context : Option Context} (h : (ofConfig via c fs).outcome = .ok context) :
    (ofConfig via c fs).events = told c ∧
      (c.needsCustomContext = false ∧ context = none ∨
        c.needsCustomContext = true ∧
          ∃ trust keys bounds, trustStore c fs = .ok trust ∧ keyStore via c fs = .ok keys ∧
            boundsOf c = .ok bounds ∧ checkAnchors via trust = .ok () ∧
            (loadIdentity via keys).outcome = .ok () ∧
            context = some (assemble c trust keys bounds)) := by
  unfold ofConfig at h ⊢
  cases hn : c.needsCustomContext with
  | false =>
    rw [hn] at h
    cases h
    exact ⟨(told_of_not_needsCustomContext hn).symm, .inl ⟨rfl, rfl⟩⟩
  | true =>
    rw [hn, if_pos rfl] at h
    obtain ⟨trust, ht, h⟩ := Logged.outcome_bind_eq_ok.mp h
    obtain ⟨keys, hk, h⟩ := Logged.outcome_bind_eq_ok.mp h
    obtain ⟨bounds, hb, h⟩ := Logged.outcome_bind_eq_ok.mp h
    obtain ⟨_, ha, h⟩ := Logged.outcome_bind_eq_ok.mp h
    obtain ⟨_, hl, h⟩ := Logged.outcome_bind_eq_ok.mp h
    obtain ⟨_, ho, h⟩ := Logged.outcome_bind_eq_ok.mp h
    cases h
    refine ⟨?_, .inr ⟨rfl, trust, keys, bounds, ht, hk, hb, ha, hl, rfl⟩⟩
    rw [if_pos rfl, Logged.events_bind_ok ht, Logged.events_bind_ok hk, Logged.events_bind_ok hb,
      Logged.events_bind_ok ha, Logged.events_bind_ok hl, Logged.events_bind_ok ho, events_loadIdentity]
    simpa using toldOf_keyStore hk

/-- A context that is needed is made when its parts are. -/
theorem outcome_ofConfig_of_parts (hn : c.needsCustomContext = true) {trust : Option TrustStore}
    (ht : trustStore c fs = .ok trust) {keys : Option KeyStore} (hk : keyStore via c fs = .ok keys)
    {bounds : Bounds} (hb : boundsOf c = .ok bounds) (ha : checkAnchors via trust = .ok ())
    (hl : (loadIdentity via keys).outcome = .ok ()) :
    (ofConfig via c fs).outcome = .ok (some (assemble c trust keys bounds)) := by
  rw [ofConfig, if_pos hn]
  refine Logged.outcome_bind_eq_ok.mpr ⟨_, ht, ?_⟩
  refine Logged.outcome_bind_eq_ok.mpr ⟨_, hk, ?_⟩
  refine Logged.outcome_bind_eq_ok.mpr ⟨_, hb, ?_⟩
  refine Logged.outcome_bind_eq_ok.mpr ⟨_, ha, ?_⟩
  exact Logged.outcome_bind_eq_ok.mpr ⟨_, hl, rfl⟩

/-- No context is made when the trust store cannot be. -/
theorem outcome_ofConfig_of_trustStore {e : Failure} (h : trustStore c fs = .error e) :
    (ofConfig via c fs).outcome = .error e := by
  have given : c.hasCaMaterial = true := by
    cases hm : c.hasCaMaterial with
    | true => rfl
    | false =>
      rw [trustStore, hm] at h
      cases h
  have needed : c.needsCustomContext = true := by
    rw [Config.Options.needsCustomContext, given]
    rfl
  rw [ofConfig, if_pos needed]
  exact Logged.outcome_bind_eq_error.mpr (.inl h)

end

end ClusterAccess.Tls.Context
