import ClusterAccess.Proofs.Client.Report
import ClusterAccess.Proofs.Config.Precedence

/-!
# Certificates given as a text

An explicit choice of CA certificates as a text decides which certificates a client trusts, as long as
neither the service account nor the kubeconfig nor an override names a file of them. The file that one of
them names counts before any text, explicit or not, and the text is then not looked at
(`explicit_anchors`).
-/

namespace ClusterAccess

open Pki (Certificate Material TrustStore caLabel loadCertificates)

variable {via : Pki.Provider}

/-! ## What material says -/

namespace Pki

/-- The text stands for bytes, blanks not counting, that hold the certificates. -/
def Encodes (text : String) (cs : List Certificate) : Prop :=
  ∃ b, Base64.decode (Text.squeeze text.toList) = .ok b ∧ Certificate.bundle b = .ok cs

/-- The text stands for no bytes, or for bytes that cannot be parsed as certificates. -/
def Unparseable (text : String) : Prop :=
  (∃ fault, Base64.decode (Text.squeeze text.toList) = .error fault) ∨
    ∃ b, Base64.decode (Text.squeeze text.toList) = .ok b ∧ Certificate.bundle b = .error .malformed

/-- The file holds the certificates. -/
def HeldIn (fs : Filesystem) (path : String) (cs : List Certificate) : Prop :=
  ∃ b, fs.readBytes path = .ok b ∧ Certificate.bundle b = .ok cs

/-- A text that says nothing of certificates makes no trust store. -/
theorem TrustStore.load_of_unparseable {fs : Filesystem} {m : Material} {text : String}
    (hl : m.load fs caLabel = some <$> Material.decodeInline caLabel text) (h : Unparseable text) :
    ∃ fault, TrustStore.load fs m = .error (.access (.material fault)) := by
  rcases h with ⟨fault, hb⟩ | ⟨b, hb, hc⟩
  · refine ⟨.notBase64 caLabel fault, Except.bind_eq_error.mpr (.inl ?_)⟩
    rw [hl, Material.decodeInline, hb]
    rfl
  · refine ⟨.unparseable caLabel, Except.bind_eq_error.mpr (.inr ⟨some b, ?_, ?_⟩)⟩
    · rw [hl, Material.decodeInline_eq_ok.mpr hb]
      rfl
    · dsimp only
      rw [loadCertificates_of_malformed hc]
      rfl

end Pki

open Pki (Encodes HeldIn Unparseable)

namespace Config

/-- The file that sources name for the trusted certificates, if its name says anything. -/
def caFileOf? (s : Sources) : Option String := ((Draft.found? s .caCertFile).getD none).filter (· ≠ "")

end Config

namespace Client

open Config (Call Draft caFileOf? isGiven)

/-- The client trusts the certificates and no others. -/
def TrustsJust (client : Client) (cs : List Certificate) : Prop :=
  ∃ anchors, client.anchors? = some anchors ∧ ∀ x, x ∈ anchors ↔ x ∈ cs

/-- A client that is opened trusts just the certificates in the text, and none is opened for a text that
holds none. -/
def TextDecides (via : Pki.Provider) (c : Config) (fs : Filesystem) (text : String) : Prop :=
  (∀ client, (ofConfig via c fs).outcome = .ok client → ∃ cs, Encodes text cs ∧ client.TrustsJust cs) ∧
    (Unparseable text → ∃ fault, (ofConfig via c fs).outcome = .error (.access (.material fault)))

section

variable {c : Config} {fs : Filesystem}

/-- An opened client trusts just what the bytes of its CA material hold. -/
theorem trustsJust_of_load {bytes : Except Failure Bytes} (given : c.hasCaMaterial = true)
    (hl : (Tls.Context.caMaterial c).load fs caLabel = some <$> bytes) {client : Client}
    (h : (ofConfig via c fs).outcome = .ok client) :
    ∃ b cs, bytes = .ok b ∧ Certificate.bundle b = .ok cs ∧ client.TrustsJust cs := by
  obtain ⟨anchors, ha, b, cs, hb, hc, same⟩ := (anchors?_of_ofConfig h).1 given
  rw [hl] at hb
  obtain ⟨b', hb', he⟩ := Except.map_eq_ok.mp hb
  cases he
  exact ⟨b, cs, hb', Pki.loadCertificates_eq_ok.mp hc, anchors, ha, same⟩

/-- Of a configuration without a file the text decides. -/
theorem textDecides_of_caCertData (checked : checkEndpoints c = .ok ())
    (unnamed : isGiven c.caCertFile = false) {text : String} (hd : c.caCertData = some text)
    (hne : text ≠ "") : TextDecides via c fs text := by
  have given : c.hasCaMaterial = true := by simp [Config.Options.hasCaMaterial, isGiven, hd, hne]
  have hl := Material.load_of_text (m := Tls.Context.caMaterial c) unnamed hd hne fs caLabel
  constructor
  · intro client h
    obtain ⟨b, cs, hb, hc, trusts⟩ := trustsJust_of_load given hl h
    exact ⟨cs, ⟨b, Material.decodeInline_eq_ok.mp hb, hc⟩, trusts⟩
  · intro unparseable
    obtain ⟨fault, hf⟩ := TrustStore.load_of_unparseable hl unparseable
    have refused : Tls.Context.trustStore c fs = .error (.access (.material fault)) := by
      rw [Tls.Context.trustStore, if_pos given, hf]
    refine ⟨fault, ?_⟩
    rw [outcome_ofConfig, checked, Tls.Context.outcome_ofConfig_of_trustStore refused]
    rfl

/-- Of a configuration with a file the file decides, whatever text stands beside it. -/
theorem trustsJust_of_caCertFile {path : String} (hf : c.caCertFile = some path) (hne : path ≠ "")
    {client : Client} (h : (ofConfig via c fs).outcome = .ok client) :
    ∃ cs, HeldIn fs path cs ∧ client.TrustsJust cs := by
  have given : c.hasCaMaterial = true := by simp [Config.Options.hasCaMaterial, isGiven, hf, hne]
  have hl := Material.load_of_file (m := Tls.Context.caMaterial c) hf hne fs caLabel
  obtain ⟨b, cs, hb, hc, trusts⟩ := trustsJust_of_load given hl h
  exact ⟨cs, ⟨b, Material.readFile_eq_ok.mp hb, hc⟩, trusts⟩

end

/-- The text that calls give last as the CA certificates, naming no file, decides which certificates a
client of the configuration trusts if the sources name no file either. If they do, the file decides. -/
theorem explicit_anchors {s : Sources} {d : Draft} (found : (Draft.ofSources s).outcome = .ok d)
    {calls : List Call} {text : String} (said : Call.lastSaid? calls .caCertData = some (some text))
    (hne : text ≠ "") (silent : Call.lastSaid? calls .caCertFile = none) {c : Config}
    (built : (d.after calls).build = .ok c) (via : Pki.Provider) (fs : Filesystem) :
    (caFileOf? s = none → TextDecides via c fs text) ∧
      ∀ path, caFileOf? s = some path → ∀ client, (ofConfig via c fs).outcome = .ok client →
        ∃ cs, HeldIn fs path cs ∧ client.TrustsJust cs := by
  have checked := checkEndpoints_of_build built
  obtain ⟨_, urls, -, -, -, rfl⟩ := Draft.build_eq_ok built
  have data : (d.after calls).caCertData = some text := by
    have h := Draft.get_after d calls .caCertData
    rw [said] at h
    exact h
  have file : (d.after calls).caCertFile = (Draft.found? s .caCertFile).getD none := by
    have h := Draft.get_after d calls .caCertFile
    rw [silent, Draft.get_of_ofSources found] at h
    exact h
  constructor
  · intro none
    refine textDecides_of_caCertData checked ?_ data hne
    rw [caFileOf?, ← file] at none
    cases hf : (d.after calls).caCertFile with
    | none => rfl
    | some path => simpa [isGiven, hf] using none
  · intro path named client h
    obtain ⟨hp, hne'⟩ := Option.filter_eq_some_iff.mp named
    exact trustsJust_of_caCertFile (file.trans hp) (by simpa using hne') h

/-! ### A program in a pod that brings a certificate of its own -/

/-- Where the certificate of a service account is mounted. -/
def sampleMounted : String := ({} : ServiceAccount.Mount).caCertPath

/-- Sources in a pod where a certificate is mounted. -/
def samplePod (properties : List (String × String)) : Sources where
  properties := properties
  environ := []
  filesystem := .inMemory [(sampleMounted, sampleCertificate)] []
  home := .ofText "/root"

/-- Sources in the same pod where an empty name stands for the file. -/
def sampleUnnamed : Sources := samplePod [("kubernetes.certs.ca.file", "")]

def sampleCalls (text : String) : List Call :=
  [.choose (.setting ⟨.masterUrl, some "https://a"⟩), .choose (.setting ⟨.caCertData, some text⟩)]

def samplePodDraft (file : String) : Draft := { caCertFile := some file }

def samplePodConfig (file text : String) : Config where
  masterUrl := "https://a/api/v1/"
  extendedApiUrl := "https://a/oapi/v1/"
  caCertFile := some file
  caCertData := some text

theorem ofSources_samplePod :
    (Draft.ofSources (samplePod [])).outcome = .ok (samplePodDraft sampleMounted) := by
  decide

theorem ofSources_sampleUnnamed :
    (Draft.ofSources sampleUnnamed).outcome = .ok (samplePodDraft "") := by
  decide

theorem build_samplePodDraft (file text : String) :
    ((samplePodDraft file).after (sampleCalls text)).build = .ok (samplePodConfig file text) := by
  have composed : Endpoint.compose "https://a" none "v1" "v1" =
      .ok ⟨"https://a/api/v1/", "https://a/oapi/v1/"⟩ := by decide
  have master : ((samplePodDraft file).after (sampleCalls text)).masterUrl = some "https://a" := rfl
  simp only [Draft.build, master]
  rw [if_neg (by decide)]
  exact Except.bind_eq_ok.mpr ⟨_, composed, rfl⟩

theorem lastSaid?_sampleCalls (text : String) :
    Call.lastSaid? (sampleCalls text) .caCertData = some (some text) ∧
      Call.lastSaid? (sampleCalls text) .caCertFile = none :=
  ⟨rfl, rfl⟩

/-- A text that stands for a certificate. -/
def sampleText : String := Base64.encodeText sampleCertificate

theorem decode_sampleText : Base64.decode (Text.squeeze sampleText.toList) = .ok sampleCertificate := by
  rw [sampleText, Base64.encodeText, String.toList_ofList]
  decide +kernel

theorem sampleText_ne_empty : sampleText ≠ "" := by
  intro h
  have decoded := decode_sampleText
  rw [h] at decoded
  cases decoded

/-- A text that stands for one byte, which is no certificate. -/
def sampleNoCertificate : String := "AA=="

theorem unparseable_sampleNoCertificate : Unparseable sampleNoCertificate :=
  .inr ⟨[0], by decide, by decide +kernel⟩

/-- A client is opened for the certificate, however it is given. -/
theorem exists_ofConfig_of_load {file text : String} {fs : Filesystem}
    (h : (Tls.Context.caMaterial (samplePodConfig file text)).load fs caLabel =
      .ok (some sampleCertificate)) :
    ∃ client, (ofConfig .standard (samplePodConfig file text) fs).outcome = .ok client := by
  obtain ⟨cs, read⟩ : ∃ cs, Certificate.bundle sampleCertificate = .ok cs :=
    Except.exists_of_isOk (by decide +kernel)
  have checked := checkEndpoints_of_build (build_samplePodDraft file text)
  have given : (samplePodConfig file text).hasCaMaterial = true := (Material.load_isSome h).symm
  have needed : (samplePodConfig file text).needsCustomContext = true := by
    rw [Config.Options.needsCustomContext, given]
    rfl
  have bounds : Tls.Context.boundsOf (samplePodConfig file text) = .ok ⟨.tls12, some .tls12⟩ :=
    rfl
  have trust : Tls.Context.trustStore (samplePodConfig file text) fs =
      .ok (some (TrustStore.ofCertificates cs)) := by
    rw [Tls.Context.trustStore, if_pos given, TrustStore.load_of_bundle h read]
  rw [outcome_ofConfig, checked, Tls.Context.outcome_ofConfig_of_parts needed trust rfl bounds rfl rfl]
  exact ⟨_, rfl⟩

theorem exists_ofConfig_sampleText (fs : Filesystem) :
    ∃ client, (ofConfig .standard (samplePodConfig "" sampleText) fs).outcome = .ok client := by
  refine exists_ofConfig_of_load ?_
  rw [Material.load_of_text rfl rfl sampleText_ne_empty,
    Material.decodeInline_eq_ok.mpr decode_sampleText]
  rfl

theorem exists_ofConfig_samplePod :
    ∃ client, (ofConfig .standard (samplePodConfig sampleMounted sampleNoCertificate)
      (samplePod []).filesystem).outcome = .ok client := by
  have held : (samplePod []).filesystem.readBytes sampleMounted = .ok sampleCertificate := rfl
  refine exists_ofConfig_of_load ?_
  rw [Material.load_of_file rfl (by decide), Material.readFile_eq_ok.mpr held]
  rfl

/-- Without a file the text decides: a certificate in it is trusted, and a text that holds none is
refused. With a file the same text is not looked at. -/
theorem explicit_anchors_samplePod :
    (∃ client cs, (ofConfig .standard (samplePodConfig "" sampleText) sampleUnnamed.filesystem).outcome =
        .ok client ∧ Encodes sampleText cs ∧ client.TrustsJust cs) ∧
      (∃ fault,
        (ofConfig .standard (samplePodConfig "" sampleNoCertificate) sampleUnnamed.filesystem).outcome =
          .error (.access (.material fault))) ∧
      ∃ client cs, (ofConfig .standard (samplePodConfig sampleMounted sampleNoCertificate)
          (samplePod []).filesystem).outcome = .ok client ∧
        HeldIn (samplePod []).filesystem sampleMounted cs ∧ client.TrustsJust cs := by
  have unnamed : caFileOf? sampleUnnamed = none := by decide
  have named : caFileOf? (samplePod []) = some sampleMounted := by decide
  obtain ⟨client, opened⟩ := exists_ofConfig_sampleText sampleUnnamed.filesystem
  have decided := (explicit_anchors ofSources_sampleUnnamed (lastSaid?_sampleCalls sampleText).1
    sampleText_ne_empty (lastSaid?_sampleCalls sampleText).2 (build_samplePodDraft "" sampleText)
    .standard sampleUnnamed.filesystem).1 unnamed
  have refused := (explicit_anchors ofSources_sampleUnnamed
    (lastSaid?_sampleCalls sampleNoCertificate).1 (by decide)
    (lastSaid?_sampleCalls sampleNoCertificate).2 (build_samplePodDraft "" sampleNoCertificate)
    .standard sampleUnnamed.filesystem).1 unnamed
  have shadowed := (explicit_anchors ofSources_samplePod (lastSaid?_sampleCalls sampleNoCertificate).1
    (by decide) (lastSaid?_sampleCalls sampleNoCertificate).2
    (build_samplePodDraft sampleMounted sampleNoCertificate) .standard (samplePod []).filesystem).2 _ named
  obtain ⟨cs, encoded, trusts⟩ := decided.1 client opened
  obtain ⟨other, opened'⟩ := exists_ofConfig_samplePod
  obtain ⟨held, hh, trusts'⟩ := shadowed other opened'
  exact ⟨⟨client, cs, opened, encoded, trusts⟩, refused.2 unparseable_sampleNoCertificate, other, held,
    opened', hh, trusts'⟩

/-- In a pod the text is no certificate, and still a client is opened. -/
theorem not_textDecides_samplePod :
    ∃ d c, (Draft.ofSources (samplePod [])).outcome = .ok d ∧
      Call.lastSaid? (sampleCalls sampleNoCertificate) .caCertData = some (some sampleNoCertificate) ∧
      Call.lastSaid? (sampleCalls sampleNoCertificate) .caCertFile = none ∧
      (d.after (sampleCalls sampleNoCertificate)).build = .ok c ∧
      ¬ TextDecides .standard c (samplePod []).filesystem sampleNoCertificate := by
  refine ⟨_, _, ofSources_samplePod, (lastSaid?_sampleCalls _).1, (lastSaid?_sampleCalls _).2,
    build_samplePodDraft _ _, ?_⟩
  rintro ⟨-, refused⟩
  obtain ⟨client, opened⟩ := exists_ofConfig_samplePod
  obtain ⟨fault, hf⟩ := refused unparseable_sampleNoCertificate
  rw [opened] at hf
  cases hf

end Client

end ClusterAccess
