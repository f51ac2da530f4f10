import ClusterAccess.Proofs.Pki.Store

/-!
# Half of a client identity

Material is `Unreadable` if the file that it names is refused, or if the text that it gives stands for no bytes,
and loading it fails for no other reason (`unreadable_iff`). A certificate without a key, or a key without a
certificate, is loaded before it is found to be half of an identity. So it makes no key store if it can be read,
whatever its bytes are, and fails otherwise (`half_exactly`).
-/

namespace ClusterAccess.Pki

namespace Material

/-- What goes wrong when the material is read. -/
inductive Unreadable (m : Material) (fs : Filesystem) (label : String) : Failure → Prop
  | file {path : String} {fault : ReadFault} (named : m.file = some path) (nonempty : path ≠ "")
      (refused : fs.readBytes path = .error fault) (nameable : fault ≠ .nulInPath) :
      Unreadable m fs label (.access (.material (.unreadable label path fault)))
  | name {path : String} (named : m.file = some path) (nonempty : path ≠ "")
      (refused : fs.readBytes path = .error .nulInPath) : Unreadable m fs label (.unreadable .nulInPath)
  | text {text : String} {fault : Base64.Fault} (unnamed : Config.isGiven m.file = false)
      (given : m.data = some text) (nonempty : text ≠ "")
      (refused : Base64.decode (Text.squeeze text.toList) = .error fault) :
      Unreadable m fs label (.access (.material (.notBase64 label fault)))

theorem load_of_not_isGiven {m : Material} (h : m.isGiven = false) (fs : Filesystem) (label : String) :
    m.load fs label = .ok none := by
  obtain ⟨file, data⟩ := m
  rw [isGiven, Bool.or_eq_false_iff] at h
  have inline : load.inline label ⟨file, data⟩ = .ok none := by
    cases data with
    | none => rfl
    | some text =>
      have empty : text = "" := by simpa [Config.isGiven] using h.2
      simp only [load.inline, if_pos empty]
  cases file with
  | none => exact inline
  | some path =>
    have empty : path = "" := by simpa [Config.isGiven] using h.1
    simp only [load, if_pos empty]
    exact inline

theorem map_some_eq_error {x : Except Failure Bytes} {e : Failure} :
    some <$> x = .error e ↔ x = .error e := by
  cases x with
  | error d => simp [Functor.map, Except.map]
  | ok b => simp [Functor.map, Except.map]

/-- Loading fails for material that cannot be read, and for no other. -/
theorem unreadable_iff {m : Material} {fs : Filesystem} {label : String} {e : Failure} :
    m.Unreadable fs label e ↔ m.load fs label = .error e := by
  constructor
  · intro h
    cases h with
    | @file path fault named nonempty refused nameable =>
      rw [load_of_file named nonempty, map_some_eq_error, readFile, refused]
      cases fault with
      | nulInPath => exact absurd rfl nameable
      | io cause path => rfl
      | notText fault => rfl
    | name named nonempty refused =>
      rw [load_of_file named nonempty, map_some_eq_error, readFile, refused]
    | text unnamed given nonempty refused =>
      rw [load_of_text unnamed given nonempty, map_some_eq_error, decodeInline, refused]
  · intro h
    have given : m.isGiven = true := by
      cases hm : m.isGiven with
      | true => rfl
      | false =>
        rw [load_of_not_isGiven hm] at h
        cases h
    cases hf : Config.isGiven m.file with
    | true =>
      obtain ⟨path, named, nonempty⟩ := Config.isGiven_eq_true.mp hf
      rw [load_of_file named nonempty, map_some_eq_error, readFile] at h
      split at h
      · cases h
      · next refused =>
        cases h
        exact .name named nonempty refused
      · next fault nameable refused =>
        cases h
        exact .file named nonempty refused (fun hn => nameable hn)
    | false =>
      rw [isGiven, hf, Bool.false_or] at given
      obtain ⟨text, hd, nonempty⟩ := Config.isGiven_eq_true.mp given
      rw [load_of_text hf hd nonempty, map_some_eq_error, decodeInline] at h
      split at h
      · cases h
      · next refused =>
        cases h
        exact .text hf hd nonempty refused

end Material

namespace KeyStore

variable {via : Provider} {fs : Filesystem} {src : Source}

/-- Both halves are read before either is missed. -/
theorem load_of_half (half : src.certificate.isGiven = false ∨ src.key.isGiven = false) :
    load via fs src = (src.certificate.load fs clientCertLabel).bind fun _ =>
      (src.key.load fs clientKeyLabel).bind fun _ => .ok none := by
  unfold load
  cases hc : src.certificate.load fs clientCertLabel with
  | error e => rfl
  | ok certificate =>
    cases hk : src.key.load fs clientKeyLabel with
    | error e => rfl
    | ok key =>
      have certificateGiven := Material.load_isSome hc
      have keyGiven := Material.load_isSome hk
      cases certificate with
      | none => rfl
      | some c =>
        cases key with
        | none => rfl
        | some k => simp [← certificateGiven, ← keyGiven] at half

/-- Half of an identity makes no store, and what can be read of it is not looked at: loading it fails exactly
when it cannot be read, whatever the algorithm and the passphrase are. -/
theorem half_exactly (half : src.certificate.isGiven = false ∨ src.key.isGiven = false) :
    (load via fs src = .ok none ↔
      (∀ e, ¬src.certificate.Unreadable fs clientCertLabel e) ∧
        ∀ e, ¬src.key.Unreadable fs clientKeyLabel e) ∧
    ∀ e, load via fs src = .error e ↔
      src.certificate.Unreadable fs clientCertLabel e ∨ src.key.Unreadable fs clientKeyLabel e := by
  simp only [Material.unreadable_iff]
  rw [load_of_half half]
  rcases half with missing | missing
  · rw [Material.load_of_not_isGiven missing fs clientCertLabel]
    cases src.key.load fs clientKeyLabel <;> simp [Except.bind]
  · rw [Material.load_of_not_isGiven missing fs clientKeyLabel]
    cases src.certificate.load fs clientCertLabel <;> simp [Except.bind]

/-! ### Halves that can be read and halves that cannot -/

/-- Bytes that are no certificate, for an algorithm that there is not. -/
def sampleUnparseable : Source where
  certificate := ⟨none, some "AA=="⟩
  key := ⟨none, some ""⟩
  algorithm := "XYZ"
  passphrase := ""

theorem half_exactly_sampleUnparseable :
    sampleUnparseable.key.isGiven = false ∧
      sampleUnparseable.certificate.load (.inMemory [] []) clientCertLabel = .ok (some [0]) ∧
      load .standard (.inMemory [] []) sampleUnparseable = .ok none := by
  have missing : sampleUnparseable.key.isGiven = false := by decide
  have bytes : sampleUnparseable.certificate.load (.inMemory [] []) clientCertLabel = .ok (some [0]) := by
    decide
  have nothing : sampleUnparseable.key.load (.inMemory [] []) clientKeyLabel = .ok none := by decide
  have inert : load .standard (.inMemory [] []) sampleUnparseable = .ok none ↔ _ :=
    (half_exactly (.inr missing)).1
  refine ⟨missing, bytes, inert.mpr ⟨fun e unreadable => ?_, fun e unreadable => ?_⟩⟩
  · rw [Material.unreadable_iff, bytes] at unreadable
    cases unreadable
  · rw [Material.unreadable_iff, nothing] at unreadable
    cases unreadable

/-- A certificate in a file that there is not, and no key. -/
def sampleAbsent : Source where
  certificate := ⟨some "/c", none⟩
  key := ⟨none, none⟩
  algorithm := "RSA"
  passphrase := "changeit"

/-- Half of an identity that is not inert. -/
theorem not_inert_sampleAbsent :
    sampleAbsent.key.isGiven = false ∧
      load .standard (.inMemory [] []) sampleAbsent =
        .error (.access (.material (.unreadable clientCertLabel "/c" (.io .notFound "/c")))) ∧
      load .standard (.inMemory [] []) sampleAbsent ≠ .ok none := by
  decide

end KeyStore

end ClusterAccess.Pki
