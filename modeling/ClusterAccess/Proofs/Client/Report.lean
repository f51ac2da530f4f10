import ClusterAccess.Config.Document
import ClusterAccess.Proofs.Client.Opening
import ClusterAccess.Proofs.Tls.Material

/-!
# What is told of TLS and what was made

The event that tells of a client and the summary of its configuration say whether there is a context of
the client's own and whether it has an identity. Both say so of the context that was made of the material,
and a warning tells of the default passphrase of that identity.
-/

namespace ClusterAccess

open Pki (Certificate KeyStore PrivateKey)
open Pki.Der (write writeBits writeIdentifier writeNatural writeSequence)
open Tls.Context (HoldsAnchors HoldsClient)

variable {via : Pki.Provider}

/-- The event warns of the default passphrase. -/
def Event.WarnsOfPassphrase (e : Event) : Prop := e.name = "default_key_passphrase_in_use"

namespace Config

/-- A summary calls the trust in the server the default one only if no context is needed. -/
theorem tlsMode_eq_platform {c : Config} : c.tlsMode = .platform ↔ c.needsCustomContext = false := by
  unfold tlsMode
  cases ht : c.trustCerts with
  | true => simp [Options.needsCustomContext, ht]
  | false => cases hn : c.needsCustomContext <;> simp

theorem default_mem_summary {c : Config} :
    ("tls", Json.text "default") ∈ c.summary.members ↔ c.needsCustomContext = false := by
  rw [← tlsMode_eq_platform]
  simp only [Summary.members, summary]
  cases c.tlsMode <;> simp [TlsMode.name]

end Config

namespace Client

/-- What the client shows of itself in the handshake. -/
def identity? (client : Client) : Option KeyStore := client.session.context.bind (·.identity)

/-- The certificates that the client trusts in place of those of the platform. -/
def anchors? (client : Client) : Option (List Certificate) := client.session.context.bind (·.trusted)

/-- What opening a client tells warns of a passphrase exactly for an identity with the default one. -/
theorem warnsOfPassphrase_told {c : Config} :
    (∃ e ∈ told c, e.WarnsOfPassphrase) ↔
      c.hasClientIdentity = true ∧ c.clientKeyPassphrase = Config.defaultPassphrase := by
  unfold told Tls.Context.told Config.toldOfAuth Event.WarnsOfPassphrase
  constructor
  · rintro ⟨e, he, hw⟩
    simp only [List.mem_append, List.mem_ite_nil_right, List.mem_singleton] at he
    obtain ((⟨hi, -⟩ | ⟨-, rfl⟩) | ⟨-, rfl⟩) | rfl := he
    · exact hi
    -- the other events have other names
    all_goals simp [Event.name] at hw
  · intro hi
    exact ⟨.defaultKeyPassphraseInUse KeyStore.entryName, by simp [hi], rfl⟩

section

variable {c : Config} {fs : Filesystem} {client : Client}

theorem context_eq_none (h : (ofConfig via c fs).outcome = .ok client) :
    client.session.context = none ↔ c.needsCustomContext = false := by
  obtain ⟨-, -, context, hc, rfl⟩ := ofConfig_eq_ok h
  rw [← isSome_context hc, Option.isSome_eq_false_iff, Option.isNone_iff_eq_none]

/-- An identity of a client is that of its material and has the passphrase of its configuration. -/
theorem identity?_of_ofConfig (h : (ofConfig via c fs).outcome = .ok client) :
    (client.identity?.isSome ↔ c.hasClientIdentity = true) ∧
      ∀ s, client.identity? = some s → HoldsClient via c fs s := by
  obtain ⟨-, -, context, hc, rfl⟩ := ofConfig_eq_ok h
  obtain ⟨hi, held, -, -⟩ := Tls.Context.holdsMaterial_of_ofConfig hc
  exact ⟨iff_of_eq (congrArg (· = true) hi), held⟩

theorem anchors?_of_ofConfig (h : (ofConfig via c fs).outcome = .ok client) :
    (c.hasCaMaterial = true → ∃ anchors, client.anchors? = some anchors ∧ HoldsAnchors c fs anchors) ∧
      (c.hasCaMaterial = false → client.anchors? = none) := by
  obtain ⟨-, -, context, hc, rfl⟩ := ofConfig_eq_ok h
  obtain ⟨-, -, hm, held⟩ := Tls.Context.holdsMaterial_of_ofConfig hc
  constructor
  · intro given
    obtain ⟨anchors, ha⟩ := Option.isSome_iff_exists.mp (hm.trans given)
    exact ⟨anchors, ha, held anchors ha⟩
  · intro missing
    exact Option.isNone_iff_eq_none.mp (Option.isSome_eq_false_iff.mp (hm.trans missing))

theorem warnsOfPassphrase_iff (h : (ofConfig via c fs).outcome = .ok client) :
    (∃ e ∈ (ofConfig via c fs).events, e.WarnsOfPassphrase) ↔
      ∃ s, client.identity? = some s ∧ s.passphrase = Config.defaultPassphrase := by
  obtain ⟨hi, held⟩ := identity?_of_ofConfig h
  rw [(ofConfig_eq_ok h).1, warnsOfPassphrase_told, ← hi]
  constructor
  · rintro ⟨present, hp⟩
    obtain ⟨s, hs⟩ := Option.isSome_iff_exists.mp present
    obtain ⟨-, -, _, _, -, -, -, -, he⟩ := held s hs
    exact ⟨s, hs, he.trans hp⟩
  · rintro ⟨s, hs, hp⟩
    obtain ⟨-, -, _, _, -, -, -, -, he⟩ := held s hs
    exact ⟨by rw [hs]; rfl, he.symm.trans hp⟩

end

/-- What is told of TLS is what was made: whether there is a context, whether it has an identity, and
whether the identity has the default passphrase. The identity and the trusted certificates are those of
the material, and without CA material the client trusts as the platform does. -/
theorem tls_told {c : Config} {fs : Filesystem} {client : Client}
    (h : (ofConfig via c fs).outcome = .ok client) :
    ∃ created, (ofConfig via c fs).events.filter Event.isCreation = [created] ∧
      (client.session.context = none ↔ ("tls", Json.text "default") ∈ created.details) ∧
      (client.session.context = none ↔ ("tls", Json.text "default") ∈ c.summary.members) ∧
      (client.identity?.isSome ↔ c.hasClientIdentity = true) ∧
      (client.identity?.isSome ↔ ("client_identity", Json.bool true) ∈ created.details) ∧
      (∀ s, client.identity? = some s → HoldsClient via c fs s) ∧
      (c.hasCaMaterial = true →
        ∃ anchors, client.anchors? = some anchors ∧ HoldsAnchors c fs anchors) ∧
      (c.hasCaMaterial = false → client.anchors? = none) ∧
      ((∃ e ∈ (ofConfig via c fs).events, e.WarnsOfPassphrase) ↔
        ∃ s, client.identity? = some s ∧ s.passphrase = Config.defaultPassphrase) := by
  obtain ⟨hi, held⟩ := identity?_of_ofConfig h
  obtain ⟨given, missing⟩ := anchors?_of_ofConfig h
  refine ⟨_, by rw [(ofConfig_eq_ok h).1, creation_told], ?_, ?_, hi, ?_, held, given, missing,
    warnsOfPassphrase_iff h⟩
  · rw [context_eq_none h]
    cases c.needsCustomContext <;> simp [Event.details]
  · rw [context_eq_none h, Config.default_mem_summary]
  · rw [hi]
    cases c.hasClientIdentity <;> simp [Event.details]

/-! ### A client with an identity and a trusted certificate -/

def sampleKey : Pki.CurveKey where
  curve := .prime256
  factor := 1
  point := (Crypto.Curve.prime256.baseX, Crypto.Curve.prime256.baseY)

/-- A certificate without names for `sampleKey`. -/
def sampleCertificate : Bytes :=
  let signature := writeSequence [writeIdentifier [1, 2, 840, 10045, 4, 3, 2]]
  let time := write .shortTime (Bytes.ofText "250101000000Z")
  let point := writeBits (sampleKey.curve.encodePoint sampleKey.point)
  let key := writeSequence [(PrivateKey.ec sampleKey).parts.1, point]
  let certified := writeSequence [writeNatural 1, signature, writeSequence [],
    writeSequence [time, time], writeSequence [], key]
  writeSequence [certified, signature, writeBits []]

def sampleMaterial : Filesystem :=
  .inMemory [("/c", sampleCertificate), ("/k", (PrivateKey.ec sampleKey).toCommon)] []

/-- The certificate is both trusted and shown. -/
def sampleHolder : Config where
  masterUrl := "https://a/"
  extendedApiUrl := "https://a/"
  caCertFile := some "/c"
  clientCertFile := some "/c"
  clientKeyFile := some "/k"
  clientKeyAlgo := "ec"

theorem tls_told_sampleHolder :
    ∃ client, (ofConfig .standard sampleHolder sampleMaterial).outcome = .ok client ∧
      client.identity?.isSome ∧
      (∃ anchors, client.anchors? = some anchors ∧ HoldsAnchors sampleHolder sampleMaterial anchors) ∧
      ∃ e ∈ (ofConfig .standard sampleHolder sampleMaterial).events, e.WarnsOfPassphrase := by
  have opened : (ofConfig .standard sampleHolder sampleMaterial).outcome.isOk = true := by decide +kernel
  cases h : (ofConfig .standard sampleHolder sampleMaterial).outcome with
  | error f =>
    rw [h] at opened
    cases opened
  | ok client =>
    obtain ⟨-, -, -, -, hi, -, held, given, -, hw⟩ := tls_told h
    have identified : client.identity?.isSome := hi.mpr (by decide)
    obtain ⟨s, hs⟩ := Option.isSome_iff_exists.mp identified
    obtain ⟨-, -, _, _, -, -, -, -, hp⟩ := held s hs
    exact ⟨client, rfl, identified, given (by decide), hw.mpr ⟨s, hs, hp⟩⟩

end Client

end ClusterAccess
