import ClusterAccess.Proofs.Tls.Context
import ClusterAccess.Proofs.Tls.Failure

/-!
# Which failures a TLS context can meet

Material is `Sound` if it is given where it is asked for, and is read, decoded, parsed, decrypted and of the
kind that was asked for. `Documented` are the errors of material and of TLS that callers are promised. Two
failures escape the promise (`Escapes`): a certificate of a version that there is not, and a passphrase that
is too long to protect a key. How a store `Ends` depends on its own material alone, so all failures of a
context are known from its configuration, the files and the provider (`refused_exactly`). The provider may be
any: it says which keys it reads, and what it takes for trust and as an identity.
-/

namespace ClusterAccess

namespace Pki

/-! ## Readings of material -/

/-- The bytes that a piece of material stands for: those of its file or, if none is named, those that its
text encodes. -/
inductive Material.Gives (m : Material) (fs : Filesystem) (b : Bytes) : Prop
  | file {path : String} (named : m.file = some path) (nonempty : path ≠ "")
      (read : fs.readBytes path = .ok b)
  | text {text : String} (unnamed : Config.isGiven m.file = false) (given : m.data = some text)
      (nonempty : text ≠ "") (decoded : Base64.decode (Text.squeeze text.toList) = .ok b)

/-- The key that the provider finds in bytes, as it stands or under the passphrase. -/
inductive Provider.Opens (via : Provider) (b : Bytes) (passphrase : String) (k : PrivateKey) : Prop
  | plain (read : via.readKey b none = .ok k)
  | encrypted (locked : via.readKey b none = .error .passphraseNeeded) (nonempty : passphrase ≠ "")
      (read : via.readKey b (some (Bytes.ofText passphrase)) = .ok k)

theorem Material.gives_iff {m : Material} {fs : Filesystem} {b : Bytes} (label : String) :
    m.Gives fs b ↔ m.load fs label = .ok (some b) := by
  constructor
  · rintro (⟨named, nonempty, read⟩ | ⟨unnamed, given, nonempty, decoded⟩)
    · rw [load_of_file named nonempty, readFile_eq_ok.mpr read]
      rfl
    · rw [load_of_text unnamed given nonempty, decodeInline_eq_ok.mpr decoded]
      rfl
  · intro h
    have given : m.isGiven = true := (load_isSome h).symm
    cases hf : Config.isGiven m.file with
    | true =>
      obtain ⟨path, named, nonempty⟩ := Config.isGiven_eq_true.mp hf
      rw [load_of_file named nonempty] at h
      obtain ⟨_, read, hb⟩ := Except.map_eq_ok.mp h
      cases hb
      exact .file named nonempty (readFile_eq_ok.mp read)
    | false =>
      rw [isGiven, hf, Bool.false_or] at given
      obtain ⟨text, hd, nonempty⟩ := Config.isGiven_eq_true.mp given
      rw [load_of_text hf hd nonempty] at h
      obtain ⟨_, decoded, hb⟩ := Except.map_eq_ok.mp h
      cases hb
      exact .text hf hd nonempty (decodeInline_eq_ok.mp decoded)

theorem Material.Gives.eq {m : Material} {fs : Filesystem} {b b' : Bytes} (h : m.Gives fs b)
    (h' : m.Gives fs b') : b = b' := by
  rw [gives_iff ""] at h h'
  rw [h] at h'
  cases h'
  rfl

theorem Provider.opens_iff {via : Provider} {b : Bytes} {passphrase : String} {k : PrivateKey} :
    via.Opens b passphrase k ↔ loadPrivateKey via b (some passphrase) = .ok k := by
  constructor
  · rintro (read | ⟨locked, nonempty, read⟩)
    · simp only [loadPrivateKey, read]
    · simp only [loadPrivateKey, locked, Option.getD_some, read]
  · intro h
    unfold loadPrivateKey at h
    split at h
    · next read =>
      cases h
      exact .plain read
    · cases h
    · next locked =>
      rw [Option.getD_some] at h
      split at h
      · cases h
      · next nonempty =>
        split at h
        · next read =>
          cases h
          exact .encrypted locked nonempty read
        · cases h

theorem Provider.Opens.eq {via : Provider} {b : Bytes} {passphrase : String} {k k' : PrivateKey}
    (h : via.Opens b passphrase k) (h' : via.Opens b passphrase k') : k = k' := by
  rw [opens_iff] at h h'
  rw [h] at h'
  cases h'
  rfl

theorem loadCertificates_of_version {label : String} {b : Bytes} {n : Nat}
    (h : Certificate.bundle b = .error (.version n)) :
    loadCertificates label b = .error (.certificateVersion n) := by
  simp only [loadCertificates, h]

end Pki

namespace Tls.Context

open Pki (Certificate Identifier KeyStore Material PrivateKey Provider TrustStore caLabel clientCertLabel
  clientKeyLabel loadCertificates loadPrivateKey)
open Pki.Der (write writeBits writeIdentifier writeNatural writeSequence)

/-- The failures that callers are promised. -/
inductive Documented : Failure → Prop
  | material (fault : Pki.Fault) : Documented (.access (.material fault))
  | tls (fault : Tls.Fault) : Documented (.access (.tls fault))

/-! ## Sound material -/

/-- CA material, if there is any, is read as certificates. -/
def AnchorsSound (c : Config) (fs : Filesystem) : Prop :=
  c.hasCaMaterial = true →
    ∃ b certificates, (caMaterial c).Gives fs b ∧ Certificate.bundle b = .ok certificates

/-- A client identity, if there is a complete one, is read as certificates and a key of the kind that is
asked for. -/
def IdentitySound (via : Provider) (c : Config) (fs : Filesystem) : Prop :=
  c.hasClientIdentity = true →
    ∃ certificate key chain privateKey, (clientMaterial c).certificate.Gives fs certificate ∧
      (clientMaterial c).key.Gives fs key ∧ Certificate.bundle certificate = .ok chain ∧
      via.Opens key c.clientKeyPassphrase privateKey ∧
      KeyStore.algorithm? c.clientKeyAlgo = some privateKey.keyType

/-- All material that the configuration asks for can be used. -/
structure Sound (via : Provider) (c : Config) (fs : Filesystem) : Prop where
  anchors : AnchorsSound c fs
  identity : IdentitySound via c fs

/-- The provider takes the certificates of the CA material, if there are any. -/
def AnchorsTaken (via : Provider) (c : Config) (fs : Filesystem) : Prop :=
  c.hasCaMaterial = true → ∀ b certificates, (caMaterial c).Gives fs b →
    Certificate.bundle b = .ok certificates → via.takesAnchors certificates = true

/-- The CA material has a certificate of a version that there is not. -/
structure AnchorVersion (c : Config) (fs : Filesystem) (n : Nat) : Prop where
  given : c.hasCaMaterial = true
  found : ∃ b, (caMaterial c).Gives fs b ∧ Certificate.bundle b = .error (.version n)

/-- The chain of a client has a certificate of a version that there is not. Both halves of the identity have
been read then, and the kind of its key is known. -/
structure ChainVersion (c : Config) (fs : Filesystem) (n : Nat) : Prop where
  given : c.hasClientIdentity = true
  known : (KeyStore.algorithm? c.clientKeyAlgo).isSome
  found : ∃ certificate key, (clientMaterial c).certificate.Gives fs certificate ∧
    (clientMaterial c).key.Gives fs key ∧ Certificate.bundle certificate = .error (.version n)

/-- The failures that nobody is promised, each with what leads to it. -/
inductive Escapes (via : Provider) (c : Config) (fs : Filesystem) : Failure → Prop
  | anchorVersion {n : Nat} (version : AnchorVersion c fs n) : Escapes via c fs (.certificateVersion n)
  | chainVersion {n : Nat} (anchors : AnchorsSound c fs) (version : ChainVersion c fs n) :
      Escapes via c fs (.certificateVersion n)
  | passphrase (sound : Sound via c fs) (given : c.hasClientIdentity = true)
      (bounded : ∃ bounds, Bounds.ofNames c.enabledProtocols = .ok bounds) (taken : AnchorsTaken via c fs)
      (long : KeyStore.maxPassphrase < (Bytes.ofText c.clientKeyPassphrase).length) :
      Escapes via c fs .passphraseTooLong

theorem Escapes.not_documented {via : Provider} {c : Config} {fs : Filesystem} {e : Failure}
    (h : Escapes via c fs e) : ¬Documented e := by
  cases h <;> rintro ⟨⟩

/-- A configuration that needs no context asks for no material. -/
theorem Sound.of_unneeded {via : Provider} {c : Config} {fs : Filesystem}
    (h : c.needsCustomContext = false) : Sound via c fs := by
  simp only [Config.Options.needsCustomContext, Bool.or_eq_false_iff] at h
  obtain ⟨⟨missing, missing'⟩, -⟩ := h
  exact ⟨fun given => absurd given (Bool.eq_false_iff.mp missing),
    fun given => absurd given (Bool.eq_false_iff.mp missing')⟩

/-! ## How stores end -/

/-- How making a store ends: sound material is loaded, and all else is an error of the material, save for
certificates of a version that there is not. -/
inductive Ends (sound : Prop) (version : Nat → Prop) {α : Type} : Except Failure α → Prop
  | loaded (a : α) (h : sound) (others : ∀ n, ¬version n) : Ends sound version (.ok a)
  | material (fault : Pki.Fault) (unsound : ¬sound) (others : ∀ n, ¬version n) :
      Ends sound version (.error (.access (.material fault)))
  | version (n : Nat) (unsound : ¬sound) (h : ∀ m, version m ↔ m = n) :
      Ends sound version (.error (.certificateVersion n))

namespace Ends

variable {α β : Type} {sound sound' : Prop} {version version' : Nat → Prop} {x : Except Failure α}

theorem map (f : α → β) (h : Ends sound version x) : Ends sound version (f <$> x) := by
  cases h with
  | loaded a h others => exact .loaded (f a) h others
  | material fault unsound others => exact .material fault unsound others
  | version n unsound h => exact .version n unsound h

theorem congr (h : Ends sound version x) (hs : sound ↔ sound') (hv : ∀ n, version n ↔ version' n) :
    Ends sound' version' x := by
  obtain rfl : version = version' := funext fun n => propext (hv n)
  rwa [← propext hs]

theorem exists_of_sound (h : Ends sound version x) (hs : sound) : ∃ a, x = .ok a := by
  cases h with
  | loaded a _ _ => exact ⟨a, rfl⟩
  | material fault unsound _ => exact absurd hs unsound
  | version n unsound _ => exact absurd hs unsound

theorem eq_of_version (h : Ends sound version x) {n : Nat} (hn : version n) :
    x = .error (.certificateVersion n) := by
  cases h with
  | loaded a _ others => exact absurd hn (others n)
  | material fault _ others => exact absurd hn (others n)
  | version m _ hm => rw [(hm n).mp hn]

end Ends

/-- Certificates end as their bytes are read. -/
theorem ends_loadCertificates (b : Bytes) (label : String) :
    Ends (∃ certificates, Certificate.bundle b = .ok certificates)
      (fun n => Certificate.bundle b = .error (.version n)) (loadCertificates label b) := by
  cases h : Certificate.bundle b with
  | ok certificates =>
    rw [Pki.loadCertificates_eq_ok.mpr h]
    exact .loaded _ ⟨certificates, rfl⟩ nofun
  | error refusal =>
    cases refusal with
    | malformed =>
      rw [Pki.loadCertificates_of_malformed h]
      exact .material _ nofun nofun
    | version n =>
      rw [Pki.loadCertificates_of_version h]
      exact .version n nofun fun m => by simp [eq_comm]

section

variable {via : Provider} {c : Config} {fs : Filesystem}
  (plain : ∀ path, fs.readBytes path ≠ .error .nulInPath)

include plain

/-- Where no path is refused for what it holds, reading goes wrong for the material alone. -/
theorem IsReadingFailure.exists_fault {e : Failure} (h : IsReadingFailure fs e) :
    ∃ fault, e = .access (.material fault) := by
  cases h with
  | material fault => exact ⟨fault, rfl⟩
  | nulInPath h => exact absurd h (plain _)

/-- Material that is given is loaded, or goes wrong itself. -/
theorem load_cases (m : Material) (given : m.isGiven = true) (label : String) :
    (∃ b, m.Gives fs b ∧ m.load fs label = .ok (some b)) ∨
      ∃ fault, (∀ b, ¬m.Gives fs b) ∧ m.load fs label = .error (.access (.material fault)) := by
  cases h : m.load fs label with
  | error e =>
    obtain ⟨fault, rfl⟩ := IsReadingFailure.exists_fault plain (failsOnly_load label m e h)
    refine .inr ⟨fault, fun b hb => ?_, rfl⟩
    rw [Material.gives_iff label, h] at hb
    cases hb
  | ok bytes =>
    have present := (Material.load_isSome h).trans given
    obtain ⟨b, rfl⟩ := Option.isSome_iff_exists.mp present
    exact .inl ⟨b, (Material.gives_iff label).mpr h, rfl⟩

/-- A key is opened, or goes wrong itself. -/
theorem loadPrivateKey_cases (b : Bytes) (passphrase : String) :
    (∃ k, via.Opens b passphrase k ∧ loadPrivateKey via b (some passphrase) = .ok k) ∨
      ∃ fault, (∀ k, ¬via.Opens b passphrase k) ∧
        loadPrivateKey via b (some passphrase) = .error (.access (.material fault)) := by
  cases h : loadPrivateKey via b (some passphrase) with
  | ok k => exact .inl ⟨k, Provider.opens_iff.mpr h, rfl⟩
  | error e =>
    obtain ⟨fault, rfl⟩ := IsReadingFailure.exists_fault plain (failsOnly_loadPrivateKey b _ e h)
    refine .inr ⟨fault, fun k hk => ?_, rfl⟩
    rw [Provider.opens_iff, h] at hk
    cases hk

theorem ends_trustStore :
    Ends (AnchorsSound c fs) (AnchorVersion c fs) (trustStore c fs) := by
  unfold trustStore
  cases given : c.hasCaMaterial with
  | false =>
    refine .loaded none (fun h => absurd (given.symm.trans h) nofun) ?_
    rintro n ⟨h, -⟩
    exact absurd (given.symm.trans h) nofun
  | true =>
    rw [if_pos rfl, TrustStore.load]
    obtain ⟨b, gives, hb⟩ | ⟨fault, nothing, hb⟩ := load_cases plain (caMaterial c) given caLabel
    · rw [hb]
      refine ((ends_loadCertificates b caLabel).map _).congr ?_ fun n => ?_
      · constructor
        · rintro ⟨certificates, h⟩ -
          exact ⟨b, certificates, gives, h⟩
        · intro sound
          obtain ⟨b', certificates, gives', h⟩ := sound given
          exact ⟨certificates, gives.eq gives' ▸ h⟩
      · constructor
        · intro h
          exact ⟨given, b, gives, h⟩
        · rintro ⟨-, b', gives', h⟩
          exact gives.eq gives' ▸ h
    · rw [hb]
      refine .material fault ?_ ?_
      · intro sound
        obtain ⟨b, -, gives, -⟩ := sound given
        exact nothing b gives
      · rintro n ⟨-, b, gives, -⟩
        exact nothing b gives

theorem ends_ofBytes (src : KeyStore.Source) (certificate key : Bytes) :
    Ends (∃ chain k, Certificate.bundle certificate = .ok chain ∧
        via.Opens key src.passphrase k ∧ KeyStore.algorithm? src.algorithm = some k.keyType)
      (fun n => (KeyStore.algorithm? src.algorithm).isSome ∧
        Certificate.bundle certificate = .error (.version n))
      (KeyStore.ofBytes via src certificate key) := by
  unfold KeyStore.ofBytes
  cases ha : KeyStore.algorithm? src.algorithm with
  | none =>
    refine .material _ ?_ ?_
    · rintro ⟨_, _, -, -, h⟩
      cases h
    · rintro n ⟨h, -⟩
      cases h
  | some asked =>
    have chains := ends_loadCertificates certificate clientCertLabel
    dsimp only
    generalize loadCertificates clientCertLabel certificate = loaded at chains
    cases chains with
    | material fault unsound others =>
      refine .material fault ?_ ?_
      · rintro ⟨chain, _, h, -⟩
        exact unsound ⟨chain, h⟩
      · rintro n ⟨-, h⟩
        exact others n h
    | version n unsound h =>
      refine .version n ?_ fun m => (and_iff_right rfl).trans (h m)
      rintro ⟨chain, _, h, -⟩
      exact unsound ⟨chain, h⟩
    | loaded chain h others =>
      obtain ⟨chain', hc⟩ := h
      obtain ⟨k, opens, hk⟩ | ⟨fault, nothing, hk⟩ := loadPrivateKey_cases plain key src.passphrase
      · rw [hk]
        change Ends _ _ (if k.keyType = asked then _ else _)
        by_cases ht : k.keyType = asked
        · rw [if_pos ht]
          exact .loaded _ ⟨chain', k, hc, opens, by rw [ht]⟩ fun n h => others n h.2
        · rw [if_neg ht]
          refine .material _ ?_ fun n h => others n h.2
          rintro ⟨_, k', -, opens', hk'⟩
          rw [opens.eq opens'] at ht
          exact ht (Option.some.inj hk').symm
      · rw [hk]
        refine .material fault ?_ fun n h => others n h.2
        rintro ⟨_, k, -, opens, -⟩
        exact nothing k opens

variable (via c) in
theorem ends_keyStore : Ends (IdentitySound via c fs) (ChainVersion c fs) (keyStore via c fs) := by
  unfold keyStore
  cases given : c.hasClientIdentity with
  | false =>
    refine .loaded none (fun h => absurd (given.symm.trans h) nofun) ?_
    rintro n ⟨h, -, -⟩
    exact absurd (given.symm.trans h) nofun
  | true =>
    have halves := isGiven_clientMaterial.trans given
    rw [Bool.and_eq_true] at halves
    rw [if_pos rfl, KeyStore.load]
    obtain ⟨certificate, gives, hb⟩ | ⟨fault, nothing, hb⟩ :=
      load_cases plain (clientMaterial c).certificate halves.1 clientCertLabel
    · obtain ⟨key, givesKey, hk⟩ | ⟨fault, nothing, hk⟩ :=
        load_cases plain (clientMaterial c).key halves.2 clientKeyLabel
      · rw [hb, hk]
        refine ((ends_ofBytes plain (clientMaterial c) certificate key).map some).congr ?_ fun n => ?_
        · constructor
          · rintro ⟨chain, k, h⟩ -
            exact ⟨certificate, key, chain, k, gives, givesKey, h⟩
          · intro sound
            obtain ⟨_, _, chain, k, gives', givesKey', h⟩ := sound given
            rw [← gives.eq gives', ← givesKey.eq givesKey'] at h
            exact ⟨chain, k, h⟩
        · constructor
          · rintro ⟨known, h⟩
            exact ⟨given, known, certificate, key, gives, givesKey, h⟩
          · rintro ⟨-, known, certificate', -, gives', -, h⟩
            exact ⟨known, gives.eq gives' ▸ h⟩
      · rw [hb, hk]
        refine .material fault ?_ ?_
        · intro sound
          obtain ⟨_, key, _, _, -, givesKey, -⟩ := sound given
          exact nothing key givesKey
        · rintro n ⟨-, -, _, key, -, givesKey, -⟩
          exact nothing key givesKey
    · rw [hb]
      refine .material fault ?_ ?_
      · intro sound
        obtain ⟨certificate, _, _, _, gives, -⟩ := sound given
        exact nothing certificate gives
      · rintro n ⟨-, -, certificate, _, gives, -⟩
        exact nothing certificate gives

end

/-! ## How contexts end -/

/-- Why TLS refuses material that is sound: for the protocols, or because the provider does not take the
certificates that are to be trusted or the identity of the client. -/
inductive Refused (via : Provider) (c : Config) (fs : Filesystem) : Prop
  | protocols (fault : Tls.Fault) (h : Bounds.ofNames c.enabledProtocols = .error fault)
  | anchors (refused : ¬AnchorsTaken via c fs)
  | identity (s : KeyStore) (h : keyStore via c fs = .ok (some s))
      (refused : via.takesIdentity s.chain s.privateKey = false)

/-- How making a context ends. -/
inductive MadeOf (via : Provider) (c : Config) (fs : Filesystem) : Except Failure (Option Context) → Prop
  | unneeded (h : c.needsCustomContext = false) : MadeOf via c fs (.ok none)
  | made (context : Context) (sound : Sound via c fs) (accepted : ¬Refused via c fs) :
      MadeOf via c fs (.ok (some context))
  | material (fault : Pki.Fault) (unsound : ¬Sound via c fs)
      (others : ∀ n, ¬Escapes via c fs (.certificateVersion n)) :
      MadeOf via c fs (.error (.access (.material fault)))
  | tls (fault : Tls.Fault) (sound : Sound via c fs) (refused : Refused via c fs) :
      MadeOf via c fs (.error (.access (.tls fault)))
  | escaped (e : Failure) (h : Escapes via c fs e) : MadeOf via c fs (.error e)

section

variable {via : Provider} {c : Config} {fs : Filesystem}

theorem needsCustomContext_of_hasClientIdentity (h : c.hasClientIdentity = true) :
    c.needsCustomContext = true := by
  simp [Config.Options.needsCustomContext, h]

theorem ofConfig_eq_none : (ofConfig via c fs).outcome = .ok none ↔ c.needsCustomContext = false := by
  constructor
  · intro h
    obtain ⟨-, ⟨hn, -⟩ | ⟨-, _, _, _, -, -, -, -, -, h⟩⟩ := ofConfig_eq_ok h
    · exact hn
    · cases h
  · intro hn
    rw [ofConfig, hn]
    rfl

/-- What comes after the stores: bounds, trust and identity, in this order. -/
def finish (via : Provider) (c : Config) (trust : Option TrustStore) (keys : Option KeyStore) :
    Except Failure (Option Context) := do
  let bounds ← boundsOf c
  checkAnchors via trust
  (loadIdentity via keys).outcome
  pure (some (assemble c trust keys bounds))

/-- A context that is needed is made of the trust store and the key store, in this order. -/
theorem outcome_ofConfig_of_needed (needed : c.needsCustomContext = true) :
    (ofConfig via c fs).outcome = (trustStore c fs).bind fun trust =>
      (keyStore via c fs).bind fun keys => finish via c trust keys := by
  rw [ofConfig, if_pos needed]
  simp only [Logged.outcome_bind, Logged.outcome_ofExcept, Logged.outcome_tellIf, Logged.outcome_pure]
  rfl

/-- A key store is the identity of a client if its passphrase is short enough and the provider takes it. -/
theorem outcome_loadIdentity (s : KeyStore) :
    (loadIdentity via (some s)).outcome =
      if KeyStore.maxPassphrase < (Bytes.ofText s.passphrase).length then .error .passphraseTooLong
      else if via.takesIdentity s.chain s.privateKey then .ok () else .error (.access (.tls .rejected)) := by
  have identity : (loadIdentity via (some s)).outcome = checkIdentity via s := by
    rw [loadIdentity, Logged.outcome_bind]
    rfl
  rw [identity, checkIdentity, KeyStore.checkPassphrase]
  split <;> rfl

variable (via) in
/-- A trust store passes exactly when the provider takes the certificates of the CA material. -/
theorem checkAnchors_cases {trust : Option TrustStore} (ht : trustStore c fs = .ok trust) :
    checkAnchors via trust = .ok () ∧ AnchorsTaken via c fs ∨
      checkAnchors via trust = .error (.access (.tls .rejected)) ∧ ¬AnchorsTaken via c fs := by
  unfold trustStore at ht
  cases given : c.hasCaMaterial with
  | false =>
    rw [given] at ht
    cases ht
    exact .inl ⟨rfl, fun h => absurd (given.symm.trans h) nofun⟩
  | true =>
    rw [given, if_pos rfl] at ht
    obtain ⟨b, certificates, hb, hc, rfl⟩ | ⟨missing, -⟩ := TrustStore.load_eq_ok ht
    · have gives := (Material.gives_iff caLabel).mpr hb
      rw [Pki.loadCertificates_eq_ok] at hc
      have taken : AnchorsTaken via c fs ↔ via.takesAnchors certificates = true := by
        refine ⟨fun h => h given b certificates gives hc, fun h _ b' certificates' gives' hc' => ?_⟩
        rw [gives'.eq gives, hc] at hc'
        cases hc'
        exact h
      rw [taken, checkAnchors, TrustStore.certificates_ofCertificates]
      by_cases h : via.takesAnchors certificates = true
      · exact .inl ⟨if_pos h, h⟩
      · exact .inr ⟨if_neg h, h⟩
    · have present : (caMaterial c).isGiven = c.hasCaMaterial := rfl
      rw [present, given] at missing
      cases missing

/-- What comes after the stores goes wrong for TLS, or for the passphrase. -/
theorem madeOf_finish (sound : Sound via c fs) {trust : Option TrustStore} (ht : trustStore c fs = .ok trust)
    {keys : Option KeyStore} (hk : keyStore via c fs = .ok keys) :
    MadeOf via c fs (finish via c trust keys) := by
  rw [finish, boundsOf]
  cases hb : Bounds.ofNames c.enabledProtocols with
  | error fault => exact .tls fault sound (.protocols fault hb)
  | ok bounds =>
    change MadeOf via c fs ((checkAnchors via trust).bind _)
    obtain ⟨passed, taken⟩ | ⟨refused, untaken⟩ := checkAnchors_cases via ht
    · -- nothing refuses the material once the identity is taken
      have accepted (identity : ∀ s, keys = some s → via.takesIdentity s.chain s.privateKey = true) :
          ¬Refused via c fs := by
        rintro (⟨fault, h⟩ | ⟨untaken⟩ | ⟨s, h, refused⟩)
        · rw [hb] at h
          cases h
        · exact untaken taken
        · rw [hk] at h
          cases h
          rw [identity s rfl] at refused
          cases refused
      rw [passed]
      obtain ⟨given, s, rfl, hp⟩ | ⟨-, rfl⟩ := keyStore_eq_ok hk
      · change MadeOf via c fs ((loadIdentity via (some s)).outcome.bind _)
        rw [outcome_loadIdentity, hp]
        by_cases long : KeyStore.maxPassphrase < (Bytes.ofText c.clientKeyPassphrase).length
        · rw [if_pos long]
          exact .escaped _ (.passphrase sound given ⟨bounds, hb⟩ taken long)
        · rw [if_neg long]
          by_cases identity : via.takesIdentity s.chain s.privateKey = true
          · rw [if_pos identity]
            exact .made _ sound (accepted fun s' hs => by cases hs; exact identity)
          · rw [if_neg identity]
            exact .tls .rejected sound (.identity s hk (Bool.eq_false_iff.mpr identity))
      · exact .made _ sound (accepted nofun)
    · rw [refused]
      exact .tls .rejected sound (.anchors untaken)

variable (plain : ∀ path, fs.readBytes path ≠ .error .nulInPath)

include plain

theorem madeOf_ofConfig : MadeOf via c fs (ofConfig via c fs).outcome := by
  cases needed : c.needsCustomContext with
  | false =>
    rw [ofConfig, needed]
    exact .unneeded needed
  | true =>
    rw [outcome_ofConfig_of_needed needed]
    have anchors := ends_trustStore (c := c) plain
    generalize ht : trustStore c fs = trust at anchors
    cases anchors with
    | version n unsound h => exact .escaped _ (.anchorVersion ((h n).mpr rfl))
    | material fault unsound others =>
      refine .material fault (fun sound => unsound sound.anchors) fun n escapes => ?_
      cases escapes with
      | anchorVersion version => exact others n version
      | chainVersion sound _ => exact unsound sound
    | loaded trust sound others =>
      have identity := ends_keyStore via c plain
      change MadeOf via c fs ((keyStore via c fs).bind _)
      generalize hk : keyStore via c fs = keys at identity
      cases identity with
      | version n unsound h => exact .escaped _ (.chainVersion sound ((h n).mpr rfl))
      | material fault unsound others' =>
        refine .material fault (fun sound => unsound sound.identity) fun n escapes => ?_
        cases escapes with
        | anchorVersion version => exact others n version
        | chainVersion _ version => exact others' n version
      | loaded keys sound' _ => exact madeOf_finish ⟨sound, sound'⟩ ht hk

/-- What escapes is met. -/
theorem outcome_of_escapes {e : Failure} (h : Escapes via c fs e) :
    (ofConfig via c fs).outcome = .error e := by
  cases h with
  | anchorVersion version =>
    exact outcome_ofConfig_of_trustStore ((ends_trustStore plain).eq_of_version version)
  | chainVersion sound version =>
    obtain ⟨trust, ht⟩ := (ends_trustStore plain).exists_of_sound sound
    have hk := (ends_keyStore via c plain).eq_of_version version
    rw [outcome_ofConfig_of_needed (needsCustomContext_of_hasClientIdentity version.given), ht, hk]
    rfl
  | passphrase sound given bounded taken long =>
    obtain ⟨trust, ht⟩ := (ends_trustStore plain).exists_of_sound sound.anchors
    obtain ⟨keys, hk⟩ := (ends_keyStore via c plain).exists_of_sound sound.identity
    obtain ⟨bounds, hb⟩ := bounded
    obtain ⟨passed, -⟩ | ⟨-, untaken⟩ := checkAnchors_cases via ht
    · obtain ⟨-, s, rfl, hp⟩ | ⟨missing, -⟩ := keyStore_eq_ok hk
      · rw [outcome_ofConfig_of_needed (needsCustomContext_of_hasClientIdentity given), ht, hk]
        change finish via c trust (some s) = _
        rw [finish, boundsOf, hb, passed, outcome_loadIdentity, hp, if_pos long]
        rfl
      · exact absurd (given.symm.trans missing) nofun
    · exact absurd taken untaken

theorem documented_or_escapes {e : Failure} (he : (ofConfig via c fs).outcome = .error e) :
    Documented e ∨ Escapes via c fs e := by
  have ends : MadeOf via c fs (ofConfig via c fs).outcome := madeOf_ofConfig plain
  rw [he] at ends
  cases ends with
  | material fault => exact .inl (.material fault)
  | tls fault => exact .inl (.tls fault)
  | escaped e h => exact .inr h

/-- The material is to blame exactly when it is not sound and no version of a certificate escapes. -/
theorem exists_material_iff :
    (∃ fault, (ofConfig via c fs).outcome = .error (.access (.material fault))) ↔
      ¬Sound via c fs ∧ ∀ n, ¬Escapes via c fs (.certificateVersion n) := by
  have ends : MadeOf via c fs (ofConfig via c fs).outcome := madeOf_ofConfig plain
  constructor
  · rintro ⟨fault, he⟩
    rw [he] at ends
    cases ends with
    | material fault unsound others => exact ⟨unsound, others⟩
    | escaped e h => exact absurd (.material fault) h.not_documented
  · rintro ⟨unsound, others⟩
    generalize (ofConfig via c fs).outcome = made at ends
    cases ends with
    | unneeded h => exact absurd (.of_unneeded h) unsound
    | made context sound => exact absurd sound unsound
    | material fault => exact ⟨fault, rfl⟩
    | tls fault sound _ => exact absurd sound unsound
    | escaped e h =>
      cases h with
      | anchorVersion version => exact absurd (.anchorVersion version) (others _)
      | chainVersion sound version => exact absurd (.chainVersion sound version) (others _)
      | passphrase sound => exact absurd sound unsound

/-- TLS is to blame exactly when it refuses sound material for a context that is needed, and nothing escapes. -/
theorem exists_tls_iff :
    (∃ fault, (ofConfig via c fs).outcome = .error (.access (.tls fault))) ↔
      c.needsCustomContext = true ∧ Sound via c fs ∧ Refused via c fs ∧ ∀ e, ¬Escapes via c fs e := by
  have ends : MadeOf via c fs (ofConfig via c fs).outcome := madeOf_ofConfig plain
  constructor
  · rintro ⟨fault, he⟩
    have needed : c.needsCustomContext = true := by
      cases h : c.needsCustomContext with
      | true => rfl
      | false =>
        rw [ofConfig_eq_none.mpr h] at he
        cases he
    have none : ∀ e, ¬Escapes via c fs e := by
      intro e h
      rw [outcome_of_escapes plain h] at he
      cases he
      exact h.not_documented (.tls fault)
    rw [he] at ends
    cases ends with
    | tls fault sound refused => exact ⟨needed, sound, refused, none⟩
    | escaped e h => exact absurd h (none _)
  · rintro ⟨needed, sound, refused, none⟩
    generalize (ofConfig via c fs).outcome = made at ends
    cases ends with
    | unneeded h => exact absurd (needed.symm.trans h) nofun
    | made context _ accepted => exact absurd refused accepted
    | material fault unsound => exact absurd sound unsound
    | tls fault => exact ⟨fault, rfl⟩
    | escaped e h => exact absurd h (none e)

end

/-- A context is made or not needed, or goes wrong as callers are promised, save for the failures that
escape. An error of the material is met exactly for material that is not sound, whatever the protocols are,
unless the version of a certificate escapes; an error of TLS is met exactly for sound material that is refused,
unless a passphrase escapes. -/
theorem refused_exactly (via : Provider) (c : Config) (files : List (String × Bytes))
    (unreadable : List String) :
    let fs := Filesystem.inMemory files unreadable
    let made := (ofConfig via c fs).outcome
    (made = .ok none ↔ c.needsCustomContext = false) ∧
      (∀ e, made = .error e → Documented e ∨ Escapes via c fs e) ∧
      (∀ e, Escapes via c fs e → made = .error e ∧ ¬Documented e) ∧
      ((∃ fault, made = .error (.access (.material fault))) ↔
        ¬Sound via c fs ∧ ∀ n, ¬Escapes via c fs (.certificateVersion n)) ∧
      ((∃ fault, made = .error (.access (.tls fault))) ↔
        c.needsCustomContext = true ∧ Sound via c fs ∧ Refused via c fs ∧ ∀ e, ¬Escapes via c fs e) := by
  intro fs made
  have plain : ∀ path, fs.readBytes path ≠ .error .nulInPath :=
    Filesystem.contents_ne_nulInPath files unreadable
  exact ⟨ofConfig_eq_none, fun e => documented_or_escapes plain,
    fun e h => ⟨outcome_of_escapes plain h, h.not_documented⟩, exists_material_iff plain,
    exists_tls_iff plain⟩

/-! ### Material that is missing, and a certificate of the second version -/

/-- No file has the CA material, and no protocol has the name. -/
def sampleMissing : Config where
  masterUrl := "https://a/"
  extendedApiUrl := "https://a/"
  caCertFile := some "/ca"
  enabledProtocols := ["SSLv3"]

theorem refused_exactly_sampleMissing :
    ∃ fault, (ofConfig .standard sampleMissing (.inMemory [] [])).outcome =
      .error (.access (.material fault)) := by
  have nothing : ∀ b, ¬(caMaterial sampleMissing).Gives (.inMemory [] []) b := by
    rintro b (⟨named, -, read⟩ | ⟨unnamed, -, -, -⟩)
    · cases named
      cases read
    · cases unnamed
  obtain ⟨-, -, -, material, -⟩ := refused_exactly .standard sampleMissing [] []
  refine material.mpr ⟨fun sound => ?_, fun n escapes => ?_⟩
  · obtain ⟨b, _, gives, -⟩ := sound.anchors rfl
    exact nothing b gives
  · cases escapes with
    | anchorVersion version =>
      obtain ⟨-, b, gives, -⟩ := version
      exact nothing b gives
    | chainVersion _ version => exact absurd version.given (by decide)

/-- A certificate of the second version. -/
def sampleSecond : Bytes :=
  let signature := writeSequence [writeIdentifier Identifier.ed25519]
  let time := write .shortTime (Bytes.ofText "250101000000Z")
  let key := writeSequence [signature, writeBits []]
  let certified := writeSequence [write (.part 0 true) (writeNatural 1), writeNatural 1, signature,
    writeSequence [], writeSequence [time, time], writeSequence [], key]
  writeSequence [certified, signature, writeBits []]

def sampleElder : Config where
  masterUrl := "https://a/"
  extendedApiUrl := "https://a/"
  caCertFile := some "/ca"

theorem not_documented_sampleSecond :
    ¬FailsOnly Documented (ofConfig .standard sampleElder (.inMemory [("/ca", sampleSecond)] [])).outcome := by
  have second : trustStore sampleElder (.inMemory [("/ca", sampleSecond)] []) =
      .error (.certificateVersion 1) := by
    decide +kernel
  intro documented
  cases documented _ (outcome_ofConfig_of_trustStore second)

end Tls.Context

end ClusterAccess
