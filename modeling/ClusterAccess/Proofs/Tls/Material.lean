import ClusterAccess.Proofs.Pki.Certificate
import ClusterAccess.Proofs.Tls.Context

/-!
# What a TLS context is made of

The identity in a context is the chain and the key that the client material of its configuration is read
as, and its trusted certificates are those of the CA material (`holdsMaterial_of_ofConfig`).
-/

namespace ClusterAccess.Tls.Context

open Pki (Certificate KeyStore Provider TrustStore caLabel clientCertLabel clientKeyLabel isIdentity
  loadCertificates loadPrivateKey)

/-- Removing repetitions keeps every certificate. -/
theorem mem_distinct {cs : List Certificate} (h : ∀ c ∈ cs, c.IsReading) (x : Certificate) :
    x ∈ distinct cs ↔ x ∈ cs := by
  induction cs with
  | nil => rfl
  | cons c cs ih =>
    obtain ⟨hc, hcs⟩ := List.forall_mem_cons.mp h
    simp only [distinct, List.mem_cons, List.mem_filter, ih hcs, bne_iff_ne, ne_eq]
    constructor
    · rintro (rfl | ⟨hx, -⟩)
      · exact .inl rfl
      · exact .inr hx
    · rintro (rfl | hx)
      · exact .inl rfl
      -- `distinct` compares the bytes only, and those of `x` and `c` are read as one certificate
      · by_cases he : x.encoded = c.encoded
        · exact .inl ((hcs x hx).eq hc he)
        · exact .inr ⟨hx, he⟩

/-- The store has the chain, in order, and the key that the client material is read as. The chain begins
with the certificate of the key, and the provider takes both. -/
def HoldsClient (via : Provider) (c : Config) (fs : Filesystem) (s : KeyStore) : Prop :=
  isIdentity s.chain s.privateKey = true ∧ via.takesIdentity s.chain s.privateKey = true ∧
    ∃ certificate key, (clientMaterial c).certificate.load fs clientCertLabel = .ok (some certificate) ∧
      (clientMaterial c).key.load fs clientKeyLabel = .ok (some key) ∧
      loadCertificates clientCertLabel certificate = .ok s.chain ∧
      loadPrivateKey via key (some c.clientKeyPassphrase) = .ok s.privateKey ∧
      s.passphrase = c.clientKeyPassphrase

/-- The anchors are the certificates that the CA material is read as. -/
def HoldsAnchors (c : Config) (fs : Filesystem) (anchors : List Certificate) : Prop :=
  ∃ b cs, (caMaterial c).load fs caLabel = .ok (some b) ∧ loadCertificates caLabel b = .ok cs ∧
    ∀ x, x ∈ anchors ↔ x ∈ cs

section

variable {via : Provider} {c : Config} {fs : Filesystem}

theorem holdsClient_of_keyStore {s : KeyStore} (h : keyStore via c fs = .ok (some s))
    (hl : (loadIdentity via (some s)).outcome = .ok ()) : HoldsClient via c fs s := by
  have taken := (loadIdentity_eq_ok hl rfl).2
  refine ⟨via.isIdentity_of_takes taken, taken, ?_⟩
  unfold keyStore at h
  split at h
  · obtain ⟨certificate, key, s', hc, hk, hs, he⟩ | ⟨-, he⟩ := KeyStore.load_eq_ok h
    · cases he
      obtain ⟨-, hchain, hkey, hp⟩ := KeyStore.ofBytes_eq_ok hs
      exact ⟨certificate, key, hc, hk, hchain, hkey, hp⟩
    · cases he
  · cases h

/-- A trust store that was made is there exactly for CA material, and holds all of it. -/
theorem trustStore_eq_ok {trust : Option TrustStore} (h : trustStore c fs = .ok trust) :
    c.hasCaMaterial = true ∧ (∃ t, trust = some t ∧ HoldsAnchors c fs (distinct t.certificates)) ∨
      c.hasCaMaterial = false ∧ trust = none := by
  unfold trustStore at h
  cases hm : c.hasCaMaterial with
  | false =>
    rw [hm] at h
    cases h
    exact .inr ⟨rfl, rfl⟩
  | true =>
    rw [hm, if_pos rfl] at h
    obtain ⟨b, cs, hb, hc, rfl⟩ | ⟨hn, -⟩ := TrustStore.load_eq_ok h
    · refine .inl ⟨rfl, _, rfl, b, cs, hb, hc, fun x => ?_⟩
      rw [TrustStore.certificates_ofCertificates]
      exact mem_distinct (Pki.isReading_of_loadCertificates hc) x
    · have given : (caMaterial c).isGiven = c.hasCaMaterial := rfl
      rw [given, hm] at hn
      cases hn

theorem identity_assemble (trust : Option TrustStore) (keys : Option KeyStore) (bounds : Bounds) :
    (assemble c trust keys bounds).identity = keys := by
  unfold assemble
  split <;> rfl

theorem trusted_assemble (trust : Option TrustStore) (keys : Option KeyStore) (bounds : Bounds) :
    (assemble c trust keys bounds).trusted = trust.map fun t => distinct t.certificates := by
  unfold assemble
  split <;> rfl

/-- There is an identity exactly for client material, and there are trusted certificates of one's own
exactly for CA material; both are what the material is read as. -/
theorem holdsMaterial_of_ofConfig {context : Option Context}
    (h : (ofConfig via c fs).outcome = .ok context) :
    (context.bind (·.identity)).isSome = c.hasClientIdentity ∧
      (∀ s, context.bind (·.identity) = some s → HoldsClient via c fs s) ∧
      (context.bind (·.trusted)).isSome = c.hasCaMaterial ∧
      ∀ anchors, context.bind (·.trusted) = some anchors → HoldsAnchors c fs anchors := by
  obtain ⟨-, ⟨hn, rfl⟩ | ⟨-, trust, keys, bounds, ht, hk, -, -, hl, rfl⟩⟩ := ofConfig_eq_ok h
  · simp only [Config.Options.needsCustomContext, Bool.or_eq_false_iff] at hn
    obtain ⟨⟨hm, hi⟩, -⟩ := hn
    exact ⟨hi.symm, by simp, hm.symm, by simp⟩
  · rw [Option.bind_some, Option.bind_some, identity_assemble, trusted_assemble]
    refine ⟨?_, fun s hs => holdsClient_of_keyStore (hs ▸ hk) (hs ▸ hl), ?_⟩
    · obtain ⟨hi, s, rfl, -⟩ | ⟨hi, rfl⟩ := keyStore_eq_ok hk <;> rw [hi] <;> rfl
    · obtain ⟨hm, t, rfl, ha⟩ | ⟨hm, rfl⟩ := trustStore_eq_ok ht
      · exact ⟨hm.symm, fun anchors h => by cases h; exact ha⟩
      · exact ⟨hm.symm, fun anchors h => by cases h⟩

end

end ClusterAccess.Tls.Context
