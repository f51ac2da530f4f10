import ClusterAccess.Proofs.Pki.Certificate
import ClusterAccess.Proofs.Pki.Inline
import ClusterAccess.Proofs.Pki.Pem
import Mathlib.Data.List.Nodup

/-!
# Trust stores keep every certificate

A store has the certificates of its bundle, one for one and in order, also when the bundle repeats one. Their
aliases are numbered and all different. The text of a store carries its certificates again, and the same
store is made of it (`TrustStore.keeps_anchors`).
-/

namespace ClusterAccess.Pki

namespace Certificate

theorem bundle_nil (cs : List Certificate) : bundle [] ≠ .ok cs := by
  intro h
  obtain ⟨-, carried, all⟩ := bundle_eq_ok.mp h
  have plain : carried? [] = some [[]] := by
    rw [carried?, if_neg]
    rw [Pem.looksLike_iff]
    decide
  rw [plain, Option.some_inj] at carried
  obtain ⟨c, rfl, empty⟩ := List.map_eq_singleton_iff.mp carried.symm
  have read := all c List.mem_cons_self
  rw [empty] at read
  cases read

end Certificate

namespace TrustStore

/-! ## Aliases -/

/-- The alias of the certificate at a place. -/
def aliasOf (i : Nat) : String := "ca-" ++ toString i

theorem aliasOf_injective : Function.Injective aliasOf := by
  intro i j h
  have texts := congrArg String.toList h
  rw [aliasOf, aliasOf, String.toList_append, String.toList_append] at texts
  have digits : i.repr.toList = j.repr.toList := List.append_cancel_left texts
  rw [Nat.toList_repr, Nat.toList_repr] at digits
  rw [← @Nat.ofDigitChars_ten_toDigits i, digits, Nat.ofDigitChars_ten_toDigits]

/-- The store with a certificate under an alias, in the place of one that is there already. -/
def put (s : TrustStore) (a : String) (c : Certificate) : TrustStore :=
  if a ∈ s.aliases then ⟨s.entries.map fun e => if e.1 = a then (a, c) else e⟩
  else ⟨s.entries ++ [(a, c)]⟩

theorem ofCertificates_append (cs ds : List Certificate) :
    (ofCertificates (cs ++ ds)).entries =
      (ofCertificates cs).entries ++ (ds.zipIdx cs.length).map fun (c, i) => (aliasOf i, c) := by
  simp [ofCertificates, aliasOf, List.zipIdx_append]

theorem aliases_ofCertificates (cs : List Certificate) :
    (ofCertificates cs).aliases = (List.range cs.length).map aliasOf := by
  have places : cs.zipIdx.map Prod.snd = List.range cs.length := by
    rw [List.zipIdx_map_snd, List.range_eq_range']
  rw [← places, aliases, ofCertificates, List.map_map, List.map_map]
  rfl

theorem nodup_aliases (cs : List Certificate) : (ofCertificates cs).aliases.Nodup := by
  rw [aliases_ofCertificates]
  exact List.Nodup.map aliasOf_injective List.nodup_range

theorem lookup_numbered (cs : List Certificate) (first i : Nat) :
    ((cs.zipIdx first).map fun (c, i) => (aliasOf i, c)).lookup (aliasOf (first + i)) = cs[i]? := by
  induction cs generalizing first i with
  | nil => rfl
  | cons c cs ih =>
    rw [List.zipIdx_cons, List.map_cons]
    -- the number of the first certificate grows with the induction, so aliases count from it
    cases i with
    | zero => simp
    | succ i =>
      have other : (aliasOf (first + (i + 1)) == aliasOf first) = false := by
        rw [beq_eq_false_iff_ne, aliasOf_injective.ne_iff]
        omega
      rw [List.lookup_cons, other, List.getElem?_cons_succ, ← ih (first + 1) i, Nat.add_right_comm,
        Nat.add_assoc]

theorem lookup_ofCertificates (cs : List Certificate) (i : Nat) :
    (ofCertificates cs).entries.lookup (aliasOf i) = cs[i]? := by
  have h := lookup_numbered cs 0 i
  rwa [Nat.zero_add] at h

/-- No certificate takes the place of another when they are put under their aliases in turn. -/
theorem foldl_put (cs : List Certificate) :
    cs.zipIdx.foldl (fun s (c, i) => s.put (aliasOf i) c) ⟨[]⟩ = ofCertificates cs := by
  induction cs using List.reverseRecOn with
  | nil => rfl
  | append_singleton cs c ih =>
    have unused : aliasOf cs.length ∉ (ofCertificates cs).aliases := by
      rw [aliases_ofCertificates]
      simp [aliasOf_injective.eq_iff]
    rw [List.zipIdx_append, List.foldl_append, ih, Nat.zero_add, List.zipIdx_singleton, List.foldl_cons,
      List.foldl_nil]
    dsimp only
    rw [put, if_neg unused]
    exact congrArg TrustStore.mk (ofCertificates_append cs [c]).symm

/-! ## The text of a store -/

theorem isLabel_certificate : Pem.IsLabel "CERTIFICATE" :=
  ⟨by decide, List.all_iff_forall_prop.mp (by decide)⟩

theorem pem_ofCertificates (cs : List Certificate) :
    (ofCertificates cs).pem = Pem.renderAll "CERTIFICATE" (cs.map (·.encoded)) := by
  rw [pem, certificates_ofCertificates, Pem.renderAll, List.map_map]
  rfl

/-- The text of a store is a bundle of its certificates. -/
theorem bundle_pem {cs : List Certificate} (nonempty : cs ≠ [])
    (all : ∀ c ∈ cs, Certificate.read c.encoded = .ok c) :
    Certificate.bundle (Bytes.ofText (ofCertificates cs).pem) = .ok cs := by
  have written : cs.map (·.encoded) ≠ [] := by simpa using nonempty
  refine Certificate.bundle_eq_ok.mpr ⟨nonempty, ?_, all⟩
  rw [pem_ofCertificates, Certificate.carried?, if_pos (Pem.looksLike_renderAll isLabel_certificate written),
    Pem.blocks?_renderAll isLabel_certificate]
  simp [List.filter_map, Function.comp_def]

/-! ## Stores and the bytes they are made of -/

/-- The store that is made of bytes, read from any file that holds them or given as their base64 text with
blanks anywhere. -/
structure IsMadeOf (s : TrustStore) (b : Bytes) : Prop where
  file {fs : Filesystem} {path : String} (named : path ≠ "") (held : fs.readBytes path = .ok b)
    (text : Option String) : load fs ⟨some path, text⟩ = .ok (some s)
  text {file : Option String} (unnamed : Config.isGiven file = false) {text : String}
    (spaced : Text.Spaced (Base64.encode b) text.toList) (fs : Filesystem) :
    load fs ⟨file, some text⟩ = .ok (some s)

theorem isMadeOf_of_bundle {b : Bytes} {cs : List Certificate} (h : Certificate.bundle b = .ok cs) :
    (ofCertificates cs).IsMadeOf b := by
  constructor
  · intro fs path named held text
    refine load_of_bundle ?_ h
    rw [Material.load_of_file rfl named, Material.readFile_eq_ok.mpr held]
    rfl
  · intro file unnamed text spaced fs
    have decoded := Material.decodeInline_of_spaced spaced caLabel
    have nonempty : text ≠ "" := by
      rintro rfl
      cases decoded
      exact Certificate.bundle_nil cs h
    refine load_of_bundle ?_ h
    rw [Material.load_of_text unnamed rfl nonempty, decoded]
    rfl

/-- A store has the certificates of its bundle, one for one and in order, under aliases that number them. The
same store is made of the bytes however they are given, and again of the text of the store. -/
theorem keeps_anchors {fs : Filesystem} {m : Material} {s : TrustStore} (h : load fs m = .ok (some s)) :
    ∃ b cs, m.load fs caLabel = .ok (some b) ∧
      (cs ≠ [] ∧ Certificate.carried? b = some (cs.map (·.encoded)) ∧
        ∀ c ∈ cs, Certificate.read c.encoded = .ok c) ∧
      (s.certificates = cs ∧ s.aliases = (List.range cs.length).map aliasOf ∧ s.aliases.Nodup ∧
        (∀ i, s.entries.lookup (aliasOf i) = cs[i]?) ∧
        cs.zipIdx.foldl (fun t (c, i) => t.put (aliasOf i) c) ⟨[]⟩ = s) ∧
      s.IsMadeOf b ∧
      (∀ label, loadCertificates label (Bytes.ofText s.pem) = .ok cs) ∧
      s.IsMadeOf (Bytes.ofText s.pem) := by
  obtain ⟨b, cs, hb, hc, made⟩ | ⟨-, none⟩ := load_eq_ok h
  · cases made
    have bundled := loadCertificates_eq_ok.mp hc
    obtain ⟨nonempty, carried, all⟩ := Certificate.bundle_eq_ok.mp bundled
    have again := bundle_pem nonempty all
    exact ⟨b, cs, hb, ⟨nonempty, carried, all⟩,
      ⟨certificates_ofCertificates cs, aliases_ofCertificates cs, nodup_aliases cs, lookup_ofCertificates cs,
        foldl_put cs⟩,
      isMadeOf_of_bundle bundled, fun label => loadCertificates_eq_ok.mpr again, isMadeOf_of_bundle again⟩
  · cases none

/-- A certificate without names. -/
def sampleAnchor : Bytes :=
  let algorithm := Der.writeSequence [Der.writeIdentifier Identifier.ed25519]
  let time := Der.write .shortTime (Bytes.ofChars "250101000000Z".toList)
  let key := Der.writeSequence [algorithm, Der.writeBits []]
  let certified := Der.writeSequence [Der.writeNatural 1, algorithm, Der.writeSequence [],
    Der.writeSequence [time, time], Der.writeSequence [], key]
  Der.writeSequence [certified, algorithm, Der.writeBits []]

/-- A bundle that repeats a certificate. -/
def sampleBundle : Bytes := Bytes.ofText (Pem.renderAll "CERTIFICATE" [sampleAnchor, sampleAnchor])

def sampleFiles : Filesystem := .inMemory [("/ca", sampleBundle)] []

/-- A bundle with one certificate twice makes a store with both, under two aliases. -/
theorem keeps_anchors_sampleBundle :
    ∃ c s, Certificate.read sampleAnchor = .ok c ∧ load sampleFiles ⟨some "/ca", none⟩ = .ok (some s) ∧
      s.certificates = [c, c] ∧ s.aliases = ["ca-0", "ca-1"] ∧
      load sampleFiles ⟨none, some (Base64.encodeText sampleBundle)⟩ = .ok (some s) ∧
      loadCertificates caLabel (Bytes.ofText s.pem) = .ok [c, c] := by
  obtain ⟨c, hc⟩ : ∃ c, Certificate.read sampleAnchor = .ok c := Except.exists_of_isOk (by decide)
  obtain ⟨kept, read⟩ := Certificate.read_encoded hc
  have text : (ofCertificates [c, c]).pem = Pem.renderAll "CERTIFICATE" [sampleAnchor, sampleAnchor] := by
    rw [pem_ofCertificates, List.map_cons, List.map_singleton, kept]
  have bundled : Certificate.bundle sampleBundle = .ok [c, c] := by
    rw [sampleBundle, ← text]
    exact bundle_pem (by simp) (by simpa using read)
  have loaded : load sampleFiles ⟨some "/ca", none⟩ = .ok (some (ofCertificates [c, c])) :=
    (isMadeOf_of_bundle bundled).file (by decide) rfl none
  obtain ⟨b, cs, hb, -, ⟨certificates, aliases, -⟩, made, again, -⟩ := keeps_anchors loaded
  have held : Material.load sampleFiles caLabel ⟨some "/ca", none⟩ = .ok (some sampleBundle) := rfl
  cases held.symm.trans hb
  cases (certificates_ofCertificates _).symm.trans certificates
  have encoded : (Base64.encodeText sampleBundle).toList = Base64.encode sampleBundle := String.toList_ofList
  have numbered : (List.range 2).map aliasOf = ["ca-0", "ca-1"] := by decide
  refine ⟨c, _, hc, loaded, certificates, aliases.trans numbered, ?_, again caLabel⟩
  refine made.text rfl ?_ sampleFiles
  rw [encoded]
  exact .refl _

end TrustStore

end ClusterAccess.Pki
