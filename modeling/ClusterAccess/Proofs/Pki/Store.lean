import ClusterAccess.Config.Basic
import ClusterAccess.Pki.Store

/-!
# What loading material comes to

`Material.load` gives bytes exactly for material that is given (`load_isSome`), those of the file if one is
named (`load_of_file`) and else those that the text stands for (`load_of_text`). `TrustStore.load` makes a
store of all certificates in it (`TrustStore.load_eq_ok`). `KeyStore.load` makes a store of a certificate
and a key that are both given, and of nothing less (`KeyStore.load_eq_ok`); the store keeps the passphrase
of its source (`ofBytes_eq_ok`).
-/

namespace ClusterAccess.Pki

namespace Material

/-- A file or a text is named. -/
def isGiven (m : Material) : Bool := Config.isGiven m.file || Config.isGiven m.data

theorem inline_isSome {m : Material} {label : String} {b : Option Bytes}
    (h : load.inline label m = .ok b) : b.isSome = Config.isGiven m.data := by
  unfold load.inline at h
  cases hd : m.data with
  | none =>
    rw [hd] at h
    cases h
    rfl
  | some text =>
    simp only [hd] at h
    by_cases he : text = ""
    · rw [if_pos he] at h
      cases h
      simp [Config.isGiven, he]
    · rw [if_neg he] at h
      obtain ⟨c, -, rfl⟩ := Except.map_eq_ok.mp h
      simp [Config.isGiven, he]

/-- Material that is given has bytes, or cannot be loaded. -/
theorem load_isSome {fs : Filesystem} {label : String} {m : Material} {b : Option Bytes}
    (h : m.load fs label = .ok b) : b.isSome = m.isGiven := by
  unfold load at h
  unfold isGiven
  cases hf : m.file with
  | none =>
    rw [hf] at h
    rw [inline_isSome h]
    rfl
  | some path =>
    simp only [hf] at h
    by_cases he : path = ""
    · rw [if_pos he] at h
      rw [inline_isSome h]
      simp [Config.isGiven, he]
    · rw [if_neg he] at h
      obtain ⟨c, -, rfl⟩ := Except.map_eq_ok.mp h
      simp [Config.isGiven, he]

theorem decodeInline_eq_ok {label text : String} {b : Bytes} :
    decodeInline label text = .ok b ↔ Base64.decode (Text.squeeze text.toList) = .ok b := by
  unfold decodeInline
  split <;> simp_all

theorem readFile_eq_ok {fs : Filesystem} {label path : String} {b : Bytes} :
    readFile fs label path = .ok b ↔ fs.readBytes path = .ok b := by
  unfold readFile
  split <;> simp_all

/-- Without a file the text is decoded. -/
theorem load_of_text {m : Material} {text : String} (unnamed : Config.isGiven m.file = false)
    (hd : m.data = some text) (hne : text ≠ "") (fs : Filesystem) (label : String) :
    m.load fs label = some <$> decodeInline label text := by
  have inline : load.inline label m = some <$> decodeInline label text := by
    simp only [load.inline, hd, if_neg hne]
  unfold load
  split
  · next path hf =>
    have he : path = "" := by simpa [Config.isGiven, hf] using unnamed
    rw [if_pos he, inline]
  · exact inline

/-- A file is read, whatever text stands beside it. -/
theorem load_of_file {m : Material} {path : String} (hf : m.file = some path) (hne : path ≠ "")
    (fs : Filesystem) (label : String) : m.load fs label = some <$> readFile fs label path := by
  simp only [load, hf, if_neg hne]

/-- Both pieces name the same file, or no file and the same text. -/
structure SameContent (m n : Material) : Prop where
  file : m.file = n.file
  data : Config.isGiven m.file = false → m.data = n.data

namespace SameContent

variable {m n : Material}

theorem isGiven_eq (h : m.SameContent n) : m.isGiven = n.isGiven := by
  unfold isGiven
  rw [h.file]
  cases hf : Config.isGiven n.file with
  | true => rfl
  | false => rw [h.data (by rw [h.file, hf])]

/-- A text beside the name of a file is not looked at. -/
theorem load_eq (h : m.SameContent n) (fs : Filesystem) (label : String) :
    m.load fs label = n.load fs label := by
  have inline : Config.isGiven n.file = false → load.inline label m = load.inline label n := by
    intro hf
    rw [load.inline, load.inline, h.data (by rw [h.file, hf])]
  unfold load
  rw [h.file]
  cases hf : n.file with
  | none => exact inline (by rw [hf]; rfl)
  | some path =>
    dsimp only
    by_cases he : path = ""
    · rw [if_pos he, if_pos he]
      exact inline (by simp [Config.isGiven, hf, he])
    · rw [if_neg he, if_neg he]

end SameContent

end Material

theorem loadCertificates_eq_ok {label : String} {b : Bytes} {cs : List Certificate} :
    loadCertificates label b = .ok cs ↔ Certificate.bundle b = .ok cs := by
  unfold loadCertificates
  split <;> simp_all

theorem loadCertificates_of_malformed {label : String} {b : Bytes}
    (h : Certificate.bundle b = .error .malformed) :
    loadCertificates label b = .error (.access (.material (.unparseable label))) := by
  simp only [loadCertificates, h]

namespace TrustStore

@[simp] theorem certificates_ofCertificates (cs : List Certificate) :
    (ofCertificates cs).certificates = cs := by
  simp [ofCertificates, certificates, Function.comp_def]

/-- A store is made of the certificates in material that is given; without any there is none. -/
theorem load_eq_ok {fs : Filesystem} {m : Material} {store : Option TrustStore}
    (h : load fs m = .ok store) :
    (∃ b cs, m.load fs caLabel = .ok (some b) ∧ loadCertificates caLabel b = .ok cs ∧
        store = some (ofCertificates cs)) ∨
      m.isGiven = false ∧ store = none := by
  obtain ⟨bytes, hb, h⟩ := Except.bind_eq_ok.mp h
  cases bytes with
  | none =>
    cases h
    exact .inr ⟨(Material.load_isSome hb).symm, rfl⟩
  | some b =>
    obtain ⟨cs, hc, rfl⟩ := Except.map_eq_ok.mp h
    exact .inl ⟨b, cs, hb, hc, rfl⟩

theorem load_of_bundle {fs : Filesystem} {m : Material} {b : Bytes} {cs : List Certificate}
    (hb : m.load fs caLabel = .ok (some b)) (hc : Certificate.bundle b = .ok cs) :
    load fs m = .ok (some (ofCertificates cs)) := by
  refine Except.bind_eq_ok.mpr ⟨_, hb, ?_⟩
  dsimp only
  rw [loadCertificates_eq_ok.mpr hc]
  rfl

end TrustStore

namespace KeyStore

variable {via : Provider}

theorem ofBytes_eq_ok {src : Source} {certificate key : Bytes} {s : KeyStore}
    (h : ofBytes via src certificate key = .ok s) :
    algorithm? src.algorithm = some s.privateKey.keyType ∧
      loadCertificates clientCertLabel certificate = .ok s.chain ∧
      loadPrivateKey via key (some src.passphrase) = .ok s.privateKey ∧ s.passphrase = src.passphrase := by
  unfold ofBytes at h
  split at h
  · cases h
  · next asked ha =>
    obtain ⟨chain, hc, h⟩ := Except.bind_eq_ok.mp h
    obtain ⟨privateKey, hk, h⟩ := Except.bind_eq_ok.mp h
    split at h
    · next ht =>
      cases h
      exact ⟨ha.trans (by rw [ht]), hc, hk, rfl⟩
    · cases h

/-- Sources of the same content that ask for the same kind of key with one passphrase make the same store. -/
theorem load_congr {src src' : Source} (certificate : src.certificate.SameContent src'.certificate)
    (key : src.key.SameContent src'.key) (algorithm : src.algorithm = src'.algorithm)
    (passphrase : src.passphrase = src'.passphrase) (fs : Filesystem) :
    load via fs src = load via fs src' := by
  have made : ofBytes via src = ofBytes via src' := by
    funext certificate key
    rw [ofBytes, ofBytes, algorithm, passphrase]
  rw [load, load, certificate.load_eq, key.load_eq, made]

/-- A store is made of a certificate and a key; without one of them there is none. -/
theorem load_eq_ok {fs : Filesystem} {src : Source} {keys : Option KeyStore}
    (h : load via fs src = .ok keys) :
    (∃ certificate key s, src.certificate.load fs clientCertLabel = .ok (some certificate) ∧
        src.key.load fs clientKeyLabel = .ok (some key) ∧ ofBytes via src certificate key = .ok s ∧
        keys = some s) ∨
      (src.certificate.isGiven && src.key.isGiven) = false ∧ keys = none := by
  obtain ⟨certificate, hc, h⟩ := Except.bind_eq_ok.mp h
  obtain ⟨key, hk, h⟩ := Except.bind_eq_ok.mp h
  rw [← Material.load_isSome hc, ← Material.load_isSome hk]
  cases certificate with
  | none => cases h; exact .inr ⟨rfl, rfl⟩
  | some c =>
    cases key with
    | none => cases h; exact .inr ⟨rfl, rfl⟩
    | some k =>
      obtain ⟨s, hs, rfl⟩ := Except.map_eq_ok.mp h
      exact .inl ⟨c, k, s, hc, hk, hs, rfl⟩

end KeyStore

end ClusterAccess.Pki
