import ClusterAccess.Failure
import ClusterAccess.Proofs.Text.Pieces
import ClusterAccess.Proofs.Url.Cutting

/-!
# Scheme and host of a URL

A URL has the scheme and the host of its text, the scheme in lower case and the host in normal form
(`parse_eq_ok`, `lower_scheme`). Something is left in normal form of every host that is written
(`normalHost_ne_nil`), and of every name that is read back from the wire (`Hostname.ne_nil_of_decode?`).
-/

namespace ClusterAccess

namespace Text

theorem lowerFrom_of_ascii {before cs : List Char} (ascii : ∀ c ∈ cs, c.toNat < 128) :
    lowerFrom before cs = cs.map Char.toLower := by
  induction cs generalizing before with
  | nil => rfl
  | cons c cs ih =>
    obtain ⟨first, others⟩ := List.forall_mem_cons.mp ascii
    have sigma : c ≠ '\u03A3' := by
      rintro rfl
      revert first
      decide
    have image : lowerAt before c cs = [c.toLower] := by
      rw [lowerAt, if_neg sigma, CaseMap.apply]
      exact if_pos first
    rw [lowerFrom, image, ih others]
    rfl

/-- The lower case of an ASCII text goes character by character. -/
theorem lower_of_ascii {cs : List Char} (ascii : ∀ c ∈ cs, c.toNat < 128) :
    lower cs = cs.map Char.toLower := lowerFrom_of_ascii ascii

end Text

namespace Hostname

/-! ## Names are not empty -/

theorem ne_nil_of_isLabel {label : List Char} (h : isLabel label = true) : label ≠ [] := by
  rintro rfl
  revert h
  decide

theorem ne_nil_of_nativeLabel? {label native : List Char} (h : nativeLabel? label = some native) :
    native ≠ [] := by
  unfold nativeLabel? at h
  simp only at h
  split at h
  · split at h
    · cases h
    · obtain ⟨-, valid⟩ := Option.filter_eq_some_iff.mp h
      exact ne_nil_of_isLabel valid
  · split at h
    · next valid =>
      cases h
      exact ne_nil_of_isLabel valid
    · cases h

theorem ne_nil_of_wireLabel? {label wire : List Char} (h : wireLabel? label = some wire) : wire ≠ [] := by
  unfold wireLabel? at h
  obtain ⟨h, -⟩ := Option.filter_eq_some_iff.mp h
  split at h
  · obtain ⟨native, valid, rfl⟩ := Option.map_eq_some_iff.mp h
    rintro rfl
    revert valid
    simp [nativeLabel?, wireMark, isLabel]
  · split at h
    · cases h
      simp [wireMark]
    · cases h

/-- A name has a label before the dot that may end it. -/
theorem labels_ne_nil {name : List Char} (hne : name ≠ []) : (labels name).1 ≠ [] := by
  unfold labels
  simp only
  split
  · next last =>
    intro short
    obtain ⟨front, cut⟩ := List.getLast?_eq_some_iff.mp last
    rw [cut, List.dropLast_concat] at short
    dsimp only at short
    rw [short] at cut
    have whole := Text.joinPieces_pieces '.' (name.map fun c => if isDot c then '.' else c)
    rw [cut] at whole
    exact hne (List.map_eq_nil_iff.mp whole.symm)
  · exact Text.pieces_ne_nil _ _

theorem ne_nil_of_mapLabels? {f : List Char → Option (List Char)}
    (nonempty : ∀ l m, f l = some m → m ≠ []) {name mapped : List Char} {dotted : Bool}
    (h : mapLabels? f name = some (mapped, dotted)) : mapped ≠ [] := by
  unfold mapLabels? at h
  split at h
  · cases h
  · next given =>
    have hne : name ≠ [] := by
      rintro rfl
      exact given rfl
    have some := labels_ne_nil hne
    cases hl : labels name with
    | mk ls ended =>
      rw [hl] at h some
      obtain ⟨ms, hm, h⟩ := Option.bind_eq_some_iff.mp h
      cases h
      cases ls with
      | nil => exact absurd rfl some
      | cons l ls =>
        rw [List.mapM_cons] at hm
        obtain ⟨m, first, hm⟩ := Option.bind_eq_some_iff.mp hm
        obtain ⟨others, -, hm⟩ := Option.bind_eq_some_iff.mp hm
        cases hm
        split
        · exact Text.joinPieces_ne_nil (nonempty l m first) _ _
        · exact Text.joinPieces_ne_nil (nonempty l m first) _ _

/-- A name that is read back from the wire is not empty. -/
theorem ne_nil_of_decode? {name native : List Char} (h : decode? name = some native) : native ≠ [] := by
  obtain ⟨⟨mapped, dotted⟩, hm, rfl⟩ := Option.map_eq_some_iff.mp h
  exact ne_nil_of_mapLabels? (fun _ _ => ne_nil_of_nativeLabel?) hm

theorem ne_nil_of_encode? {name wire : List Char} (h : encode? name = some wire) : wire ≠ [] := by
  obtain ⟨⟨mapped, dotted⟩, hm, h⟩ := Option.bind_eq_some_iff.mp h
  simp only at h
  split at h
  · cases h
    exact ne_nil_of_mapLabels? (fun _ _ => ne_nil_of_wireLabel?) hm
  · cases h

end Hostname

namespace Url

/-! ## Hosts in normal form -/

namespace Percent

theorem escape_ne_nil (c : Char) : escape c ≠ [] := by
  have size := String.length_utf8EncodeChar c
  have positive := c.utf8Size_pos
  unfold escape
  cases h : String.utf8EncodeChar c with
  | nil =>
    rw [h, List.length_nil] at size
    omega
  | cons b bs => simp [escapeByte]

theorem encode_ne_nil (safe : Char → Bool) {cs : List Char} (hne : cs ≠ []) : encode safe cs ≠ [] := by
  unfold encode
  split
  · split
    · simp
    · split
      · simp
      · simp [escape_ne_nil]
  · split
    · simp
    · simp [escape_ne_nil]
  · exact absurd rfl hne

end Percent

theorem isIpv6_nil : isIpv6 [] = false := by decide

/-- Of a host that is written something is left in normal form. -/
theorem normalHost_ne_nil {host normal : List Char} (h : normalHost host = .ok normal) (hne : host ≠ []) :
    normal ≠ [] := by
  unfold normalHost at h
  rw [if_neg (by simpa using hne)] at h
  split at h
  · split at h
    · cases h
      exact hne
    · cases h
  · split at h
    · dsimp only at h
      split at h
      · next address =>
        cases h
        intro empty
        rw [empty, isIpv6_nil] at address
        cases address
      · cases h
    · split at h
      · next ascii =>
        cases h
        refine Percent.encode_ne_nil _ ?_
        have plain : ∀ c ∈ host, c.toNat < 128 := by simpa [Hostname.isAscii] using ascii
        rw [Text.lower_of_ascii plain]
        simpa using hne
      · split at h
        · next encoded =>
          cases h
          exact Hostname.ne_nil_of_encode? encoded
        · cases h

/-! ## Schemes and hosts of texts -/

/-- The host of a text, as it is written. -/
def hostOf (text : String) : List Char := (Authority.split (Parts.split text.toList).authority).host

/-- The text can be read as a URL. -/
def Readable (text : String) : Prop := ∃ u, parse text = .ok u

/-- A URL has the scheme and the host of its text. -/
theorem parse_eq_ok {text : String} {u : Url} (h : parse text = .ok u) :
    u.scheme = String.ofList (Text.lower (Parts.split text.toList).scheme) ∧
      normalHost (hostOf text) = .ok u.host.toList := by
  unfold parse at h
  simp only at h
  split at h
  · cases h
  · split at h
    · cases h
    · unfold ofParts? at h
      obtain ⟨host, hh, h⟩ := Except.bind_eq_ok.mp h
      obtain ⟨port, -, h⟩ := Except.bind_eq_ok.mp h
      obtain ⟨_, -, h⟩ := Except.bind_eq_ok.mp h
      cases h
      refine ⟨rfl, ?_⟩
      rw [String.toList_ofList]
      exact hh

theorem toNat_lt_of_isAlphanum {c : Char} (h : c.isAlphanum = true) : c.toNat < 128 := by
  have ranges : ((c.isUpper || c.isLower) || c.isDigit) = true := h
  rcases Bool.or_eq_true_iff.mp ranges with letter | digit
  · rcases Bool.or_eq_true_iff.mp letter with upper | lower
    · have last : c.toNat ≤ 'Z'.toNat := UInt32.le_iff_toNat_le.mp (of_decide_eq_true upper).2
      exact Nat.lt_of_le_of_lt last (by decide)
    · have last : c.toNat ≤ 'z'.toNat :=
        UInt32.le_iff_toNat_le.mp (of_decide_eq_true (Bool.and_eq_true_iff.mp lower).2)
      exact Nat.lt_of_le_of_lt last (by decide)
  · have last : c.toNat ≤ '9'.toNat :=
      UInt32.le_iff_toNat_le.mp (of_decide_eq_true (Bool.and_eq_true_iff.mp digit).2)
    exact Nat.lt_of_le_of_lt last (by decide)

theorem toNat_lt_of_isSchemeChar {c : Char} (h : isSchemeChar c = true) : c.toNat < 128 := by
  simp only [isSchemeChar, Bool.or_eq_true, decide_eq_true_eq] at h
  rcases h with ((alphanumeric | rfl) | rfl) | rfl
  · exact toNat_lt_of_isAlphanum alphanumeric
  all_goals decide

theorem isSchemeChar_of_mem_scheme {text : String} :
    ∀ c ∈ (Parts.split text.toList).scheme, isSchemeChar c = true := by
  rw [Parts.scheme_split]
  obtain ⟨scheme, rest, h, cut⟩ | none := splitScheme_cases text.toList
  · rw [cut, splitScheme_append h]
    rcases h with rfl | ⟨-, inside⟩
    · simp
    · exact inside
  · rw [none]
    simp

/-- The scheme of a text in lower case, which goes character by character. -/
theorem lower_scheme (text : String) :
    Text.lower (Parts.split text.toList).scheme = (Parts.split text.toList).scheme.map Char.toLower :=
  Text.lower_of_ascii fun c hc => toNat_lt_of_isSchemeChar (isSchemeChar_of_mem_scheme c hc)

end Url

end ClusterAccess
