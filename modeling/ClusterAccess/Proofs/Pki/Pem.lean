import ClusterAccess.Pki.Pem
import ClusterAccess.Proofs.Text.Ascii
import ClusterAccess.Proofs.Text.Base64
import ClusterAccess.Proofs.Text.Pieces
import ClusterAccess.Proofs.Text.Trimming
import Mathlib.Data.List.Chain
import Mathlib.Data.List.Infix

/-!
# Blocks that are written and read

The text that `renderAll` writes carries one block behind the other, and reading it gives the blocks back in
their order, the bytes of each as they were (`blocks?_renderAll`). A block is cut at its marks, which all
begin with a dash; neither a label nor base64 text has a dash in it. The base64 text has no empty line, so
that none of it is taken for headers.
-/

namespace ClusterAccess.Pki.Pem

/-! ## Marks -/

/-- The byte of a dash. -/
def dash : UInt8 := 45

/-- What stands before a mark ends where the mark begins, if there is no dash in it. -/
theorem cut?_append {mark before : Bytes} (starts : mark.head? = some dash) (h : dash ∉ before)
    (after : Bytes) : cut? mark (before ++ mark ++ after) = some (before, after) := by
  obtain ⟨mark, rfl⟩ : ∃ m, mark = dash :: m := by
    cases mark with
    | nil => cases starts
    | cons b m => cases starts; exact ⟨m, rfl⟩
  induction before with
  | nil =>
    have leads : (dash :: mark).isPrefixOf (dash :: (mark ++ after)) = true :=
      List.isPrefixOf_iff_prefix.mpr ⟨after, rfl⟩
    rw [List.nil_append, List.cons_append, cut?, if_pos leads, ← List.cons_append, List.drop_left]
  | cons b before ih =>
    obtain ⟨hb, h⟩ : dash ≠ b ∧ dash ∉ before := by simpa using h
    have other : (dash :: mark).isPrefixOf (b :: (before ++ (dash :: mark) ++ after)) = false := by
      simp [List.isPrefixOf, hb]
    rw [List.cons_append, List.cons_append, cut?, other, if_neg (by simp), ih h]
    rfl

theorem cut?_eq_none {part b : Bytes} (nonempty : part ≠ []) : cut? part b = none ↔ ¬ part <:+: b := by
  induction b with
  | nil => simp [cut?, nonempty]
  | cons x b ih =>
    rw [List.infix_cons_iff, not_or, ← ih, ← List.isPrefixOf_iff_prefix, cut?]
    split <;> simp_all

/-! ## Base64 text in lines -/

/-- A character that stands in base64 text. -/
def IsCode (c : Char) : Prop := c ∈ '=' :: Base64.alphabet

theorem isCode_of_mem_encode {b : Bytes} : ∀ c ∈ Base64.encode b, IsCode c := by
  obtain ⟨ds, k, hb, strict, -⟩ := Base64.exists_strict_encode b
  intro c hc
  rcases List.mem_append.mp (hb ▸ hc) with hc | hc
  · exact List.mem_cons_of_mem _ (strict.digits c hc)
  · rw [List.eq_of_mem_replicate hc]
    exact List.mem_cons_self

theorem isBlank_of_isCode : ∀ c, IsCode c → Text.isBlank c = false := by
  unfold IsCode
  exact List.all_iff_forall_prop.mp (by decide)

theorem isAscii_of_isCode : ∀ c, IsCode c → c.toNat < 128 ∧ c ≠ '-' := by
  unfold IsCode
  exact List.all_iff_forall_prop.mp (by decide)

theorem ne_newline_of_isCode {c : Char} (h : IsCode c) : c ≠ '\n' := by
  rintro rfl
  exact absurd (isBlank_of_isCode _ h) (by decide)

/-- Lines that are stripped and put together are the text that was cut into them. -/
theorem flatten_lines_wrap {n : Nat} {cs : List Char} (hn : cs.length < n) (h : ∀ c ∈ cs, IsCode c) :
    ((lines (wrap n cs)).map Text.strip).flatten = cs := by
  induction n generalizing cs with
  | zero => omega
  | succ n ih =>
    rw [wrap]
    cases he : cs.isEmpty with
    | true =>
      rw [List.isEmpty_iff.mp he]
      rfl
    | false =>
      have first : ∀ c ∈ cs.take 64, IsCode c := fun c hc => h c (List.mem_of_mem_take hc)
      have more : ∀ c ∈ cs.drop 64, IsCode c := fun c hc => h c (List.mem_of_mem_drop hc)
      have newline : '\n' ∉ cs.take 64 := fun hc => ne_newline_of_isCode (first _ hc) rfl
      have shorter : (cs.drop 64).length < n := by
        have positive := List.length_pos_iff.mpr (by simpa using he : cs ≠ [])
        rw [List.length_drop]
        omega
      have line : lines (cs.take 64) = [cs.take 64] :=
        Text.pieces_joinPieces (show ∀ p ∈ [cs.take 64], '\n' ∉ p by simpa using newline) (by simp)
      rw [if_neg (by simp), lines, Text.pieces_append_cons, ← lines, ← lines, line, List.map_append,
        List.flatten_append, ih shorter more, List.map_singleton,
        Text.strip_eq_self_iff.mpr (Text.isTrimmed_of_solid fun c hc => isBlank_of_isCode c (first c hc))]
      simp

theorem mem_wrap {n : Nat} {cs : List Char} {c : Char} (h : c ∈ wrap n cs) : c ∈ cs ∨ c = '\n' := by
  induction n generalizing cs with
  | zero => cases h
  | succ n ih =>
    rw [wrap] at h
    split at h
    · cases h
    · rcases List.mem_append.mp h with h | h
      · exact .inl (List.mem_of_mem_take h)
      · rcases List.mem_cons.mp h with h | h
        · exact .inr h
        · exact (ih h).imp_left List.mem_of_mem_drop

theorem head?_wrap {n : Nat} {cs : List Char} (h : ∀ c ∈ cs, IsCode c) :
    ∀ c ∈ (wrap n cs).head?, IsCode c := by
  cases n with
  | zero => simp [wrap]
  | succ n =>
    cases cs with
    | nil => simp [wrap]
    | cons c cs => simpa [wrap] using h c List.mem_cons_self

/-- No line is empty. -/
theorem isChain_wrap {n : Nat} {cs : List Char} (h : ∀ c ∈ cs, IsCode c) :
    (wrap n cs).IsChain (fun a b => a ≠ '\n' ∨ b ≠ '\n') := by
  induction n generalizing cs with
  | zero => exact .nil
  | succ n ih =>
    rw [wrap]
    split
    · exact .nil
    · have first : ∀ c ∈ cs.take 64, c ≠ '\n' :=
        fun c hc => ne_newline_of_isCode (h c (List.mem_of_mem_take hc))
      have more : ∀ c ∈ cs.drop 64, IsCode c := fun c hc => h c (List.mem_of_mem_drop hc)
      refine List.isChain_append.mpr ⟨?_, List.isChain_cons.mpr ⟨?_, ih more⟩, ?_⟩
      · exact (List.pairwise_of_forall_mem_list fun a ha b _ => .inl (first a ha)).isChain
      · exact fun c hc => .inr (ne_newline_of_isCode (head?_wrap more c hc))
      · exact fun a ha b _ => .inl (first a (List.mem_of_mem_getLast? ha))

/-! ## One block -/

/-- The base64 text of a block in lines, as `render` writes it. -/
def bodyChars (body : Bytes) : List Char :=
  wrap ((Base64.encode body).length + 1) (Base64.encode body)

theorem toList_render (label : String) (body : Bytes) :
    (render label body).toList =
      "-----BEGIN ".toList ++ label.toList ++ "-----".toList ++ '\n' :: bodyChars body ++
      "-----END ".toList ++ label.toList ++ "-----".toList ++ ['\n'] := by
  have line : "-----\n".toList = "-----".toList ++ ['\n'] := by decide
  -- Rewriting with `toList_ofList` in place compares base64 text with the marks, which takes long.
  have carried {text : String} {cs : List Char} (h : text.toList = cs) :
      ("-----BEGIN " ++ label ++ "-----\n" ++ text ++ "-----END " ++ label ++ "-----\n").toList =
        "-----BEGIN ".toList ++ label.toList ++ "-----".toList ++ '\n' :: cs ++
        "-----END ".toList ++ label.toList ++ "-----".toList ++ ['\n'] := by
    subst h
    simp only [String.toList_append, line, List.append_assoc, List.singleton_append]
  exact carried String.toList_ofList

/-- A label that a block can carry. -/
structure IsLabel (label : String) : Prop where
  nonempty : label ≠ ""
  plain : ∀ c ∈ label.toList, c.toNat < 128 ∧ c ≠ '-'

/-- The bytes of a block as `render` writes it. -/
def written (label : String) (body : Bytes) : Bytes :=
  beginMark ++ Bytes.ofChars label.toList ++ dashes ++ 10 :: Bytes.ofChars (bodyChars body) ++
    endMark ++ Bytes.ofChars label.toList ++ dashes ++ [10]

theorem isCode_of_mem_bodyChars {body : Bytes} {c : Char} (h : c ∈ bodyChars body) : IsCode c ∨ c = '\n' :=
  (mem_wrap h).imp_left (isCode_of_mem_encode c)

theorem plain_bodyChars (body : Bytes) : ∀ c ∈ bodyChars body, c.toNat < 128 ∧ c ≠ '-' := by
  intro c hc
  rcases isCode_of_mem_bodyChars hc with code | rfl
  · exact isAscii_of_isCode c code
  · decide

theorem isAscii_bodyChars (body : Bytes) : IsAscii (bodyChars body) :=
  fun c hc => (plain_bodyChars body c hc).1

theorem beginMark_eq : beginMark = Bytes.ofChars "-----BEGIN ".toList := Bytes.ofText_of_ascii (by decide)

theorem endMark_eq : endMark = Bytes.ofChars "-----END ".toList := Bytes.ofText_of_ascii (by decide)

theorem dashes_eq : dashes = Bytes.ofChars "-----".toList := Bytes.ofText_of_ascii (by decide)

theorem ofChars_render (label : String) (body : Bytes) :
    Bytes.ofChars (render label body).toList = written label body := by
  rw [toList_render, written, beginMark_eq, endMark_eq, dashes_eq]
  simp only [Bytes.ofChars_append]
  rfl

theorem isAscii_render {label : String} (h : IsLabel label) (body : Bytes) :
    IsAscii (render label body).toList := by
  have marks : IsAscii "-----BEGIN ".toList ∧ IsAscii "-----END ".toList ∧ IsAscii "-----".toList ∧
      IsAscii ['\n'] := by decide
  obtain ⟨begins, ends, dashes, newline⟩ := marks
  have named : IsAscii label.toList := fun c hc => (h.plain c hc).1
  have carried : IsAscii ('\n' :: bodyChars body) :=
    isAscii_append.mpr ⟨newline, isAscii_bodyChars body⟩
  rw [toList_render]
  simp only [isAscii_append]
  exact ⟨⟨⟨⟨⟨⟨⟨begins, named⟩, dashes⟩, carried⟩, ends⟩, named⟩, dashes⟩, newline⟩

theorem dash_not_mem_ofChars {cs : List Char} (h : ∀ c ∈ cs, c.toNat < 128 ∧ c ≠ '-') :
    dash ∉ Bytes.ofChars cs := by
  have absent : '-' ∉ cs := fun hc => (h _ hc).2 rfl
  exact fun hd => absent ((Bytes.mem_ofChars (fun c hc => (h c hc).1) (c := '-') (by decide)).mp hd)

theorem skipGap_of_head {b : Bytes} (h : ∀ x ∈ b.head?, x ∉ [32, 9, 10, 13]) : skipGap b = b := by
  cases b with
  | nil => rfl
  | cons x b =>
    have hx := h x rfl
    simp only [List.mem_cons, List.not_mem_nil, or_false, not_or] at hx
    simp [skipGap, hx]

theorem skipGap_newline (b : Bytes) : skipGap (10 :: b) = skipGap b := by simp [skipGap]

theorem not_gap_of_isCode : ∀ c, IsCode c → UInt8.ofNat c.toNat ∉ ([32, 9, 10, 13] : Bytes) := by
  unfold IsCode
  exact List.all_iff_forall_prop.mp (by decide)

/-- A block as it stands in the text that carries it. -/
def raw (label : String) (body : Bytes) : Raw :=
  ⟨Bytes.ofChars label.toList, Bytes.ofChars (bodyChars body), Bytes.ofChars label.toList⟩

/-- Only the line break behind the first line is skipped: what follows it is base64 text or the end mark. -/
theorem skipGap_content (body tail : Bytes) :
    skipGap (10 :: (Bytes.ofChars (bodyChars body) ++ endMark ++ tail)) =
      Bytes.ofChars (bodyChars body) ++ endMark ++ tail := by
  rw [skipGap_newline]
  refine skipGap_of_head fun x hx => ?_
  cases hb : bodyChars body with
  | nil =>
    rw [hb, endMark_eq] at hx
    cases hx
    decide
  | cons c cs =>
    rw [hb] at hx
    cases hx
    exact not_gap_of_isCode c (head?_wrap isCode_of_mem_encode c (by rw [← bodyChars, hb]; rfl))

theorem head?_marks : beginMark.head? = some dash ∧ endMark.head? = some dash ∧ dashes.head? = some dash := by
  rw [beginMark_eq, endMark_eq, dashes_eq]
  decide

theorem nextRaw?_written {label : String} (h : IsLabel label) (body : Bytes) {more : Bytes}
    (hm : ∀ x ∈ more.head?, x = dash) :
    nextRaw? (written label body ++ more) = some (raw label body, more) := by
  have named := dash_not_mem_ofChars h.plain
  have content := dash_not_mem_ofChars (plain_bodyChars body)
  have afterEnd : skipGap (10 :: more) = more := by
    rw [skipGap_newline]
    exact skipGap_of_head fun x hx => hm x hx ▸ by decide
  obtain ⟨begins, ends, closes⟩ := head?_marks
  -- the four cuts, at the marks and behind the two labels, each before the first dash there is
  have cutBegin := cut?_append begins List.not_mem_nil
  have cutLabel := cut?_append closes named
  have cutEnd := cut?_append ends content
  have shape : written label body ++ more =
      [] ++ beginMark ++ (Bytes.ofChars label.toList ++ dashes ++
        10 :: (Bytes.ofChars (bodyChars body) ++ endMark ++
          (Bytes.ofChars label.toList ++ dashes ++ 10 :: more))) := by
    simp [written, List.append_assoc]
  rw [shape, nextRaw?, cutBegin]
  simp only [raw, Option.bind_eq_bind, Option.bind_some, cutLabel, skipGap_content, cutEnd, afterEnd,
    Option.pure_def]

/-! ## All blocks of a text -/

theorem head?_written (label : String) (body tail : Bytes) :
    (written label body ++ tail).head? = some dash := by
  rw [written, beginMark_eq]
  rfl

theorem head?_flatMap_written (label : String) (bodies : List Bytes) :
    ∀ x ∈ (bodies.flatMap (written label)).head?, x = dash := by
  intro x hx
  cases bodies with
  | nil => cases hx
  | cons body bodies =>
    rw [List.flatMap_cons, head?_written] at hx
    exact (Option.some.inj hx).symm

theorem rawBlocks_written {label : String} (h : IsLabel label) {n : Nat} {bodies : List Bytes}
    (hn : bodies.length ≤ n) : rawBlocks n (bodies.flatMap (written label)) = bodies.map (raw label) := by
  induction bodies generalizing n with
  | nil =>
    cases n with
    | zero => rfl
    | succ n =>
      have absent : nextRaw? [] = none := by rw [nextRaw?, beginMark_eq]; rfl
      rw [List.flatMap_nil, rawBlocks, absent]
      rfl
  | cons body bodies ih =>
    cases n with
    | zero => cases hn
    | succ n =>
      rw [List.flatMap_cons, rawBlocks, nextRaw?_written h body (head?_flatMap_written label bodies)]
      dsimp only
      rw [ih (Nat.le_of_succ_le_succ hn), List.map_cons]

theorem not_emptyLine (body : Bytes) : ¬ [10, 10] <:+: Bytes.ofChars (bodyChars body) := by
  intro part
  obtain ⟨cs, hcs, codes⟩ := List.infix_map_iff.mp part
  obtain ⟨c, d, rfl⟩ : ∃ c d, cs = [c, d] :=
    List.length_eq_two.mp (by simpa using congrArg List.length codes.symm)
  obtain ⟨hc, hd⟩ : UInt8.ofNat '\n'.toNat = UInt8.ofNat c.toNat ∧
      UInt8.ofNat '\n'.toNat = UInt8.ofNat d.toNat := by simpa using codes
  have newline {e : Char} (he : e ∈ [c, d]) (code : UInt8.ofNat '\n'.toNat = UInt8.ofNat e.toNat) :
      e = '\n' :=
    ((Bytes.code_inj (by decide) (isAscii_bodyChars body e (hcs.subset he))).mp code).symm
  have chain := List.IsChain.infix (isChain_wrap isCode_of_mem_encode) hcs
  simp [newline _ hc, newline _ hd] at chain

theorem not_return (body : Bytes) : ¬ [13, 10, 13, 10] <:+: Bytes.ofChars (bodyChars body) := by
  intro part
  have carriage : UInt8.ofNat '\r'.toNat ∈ Bytes.ofChars (bodyChars body) := part.subset (by simp)
  have held := (Bytes.mem_ofChars (isAscii_bodyChars body) (by decide)).mp carriage
  rcases isCode_of_mem_bodyChars held with code | code
  · exact absurd (isBlank_of_isCode _ code) (by decide)
  · exact absurd code (by decide)

/-- Without an empty line all of the content is base64 text. -/
theorem splitHeaders_bodyChars (body : Bytes) :
    splitHeaders (Bytes.ofChars (bodyChars body)) = ([], Bytes.ofChars (bodyChars body)) := by
  rw [splitHeaders, (cut?_eq_none (by simp)).mpr (not_emptyLine body),
    (cut?_eq_none (by simp)).mpr (not_return body)]

theorem bodyOf?_bodyChars (body : Bytes) : bodyOf? (String.ofList (bodyChars body)) = some body := by
  have whole : ((lines (bodyChars body)).map Text.strip).flatten = Base64.encode body :=
    flatten_lines_wrap (Nat.lt_succ_self _) isCode_of_mem_encode
  simp only [bodyOf?, String.toList_ofList, whole, Base64.decode_encode, if_true]

theorem block?_raw {label : String} (h : IsLabel label) (body : Bytes) :
    (raw label body).block? = some ⟨label, [], body⟩ := by
  have named : text? (Bytes.ofChars label.toList) = some label := by
    rw [text?, Utf8.decode_ofChars fun c hc => (h.plain c hc).1, String.ofList_toList]
    rfl
  have carried : text? (Bytes.ofChars (bodyChars body)) = some (String.ofList (bodyChars body)) := by
    rw [text?, Utf8.decode_ofChars (isAscii_bodyChars body)]
    rfl
  have none : (text? []).bind headers? = some [] := rfl
  simp [Raw.block?, raw, named, h.nonempty, splitHeaders_bodyChars, carried, bodyOf?_bodyChars, none]

/-- Text that carries blocks of one label, one behind the other. -/
def renderAll (label : String) (bodies : List Bytes) : String := String.join (bodies.map (render label))

theorem ofText_renderAll {label : String} (h : IsLabel label) (bodies : List Bytes) :
    Bytes.ofText (renderAll label bodies) = bodies.flatMap (written label) := by
  have characters : (renderAll label bodies).toList =
      bodies.flatMap fun body => (render label body).toList := by
    rw [renderAll, String.toList_join, List.flatMap_map]
  have ascii : IsAscii (renderAll label bodies).toList := by
    intro c hc
    rw [characters] at hc
    obtain ⟨body, -, hc⟩ := List.mem_flatMap.mp hc
    exact isAscii_render h body c hc
  rw [Bytes.ofText_of_ascii ascii, characters, Bytes.ofChars, List.map_flatMap]
  exact List.flatMap_congr fun body _ => ofChars_render label body

theorem length_le_flatMap {bodies : List Bytes} (label : String) :
    bodies.length ≤ (bodies.flatMap (written label)).length := by
  induction bodies with
  | nil => exact Nat.zero_le 0
  | cons body bodies ih =>
    have positive : 0 < (written label body).length := List.length_pos_of_mem (List.mem_of_mem_head? (by
      simpa using head?_written label body []))
    rw [List.flatMap_cons, List.length_append, List.length_cons]
    omega

/-- Blocks that were written are read as they were. -/
theorem blocks?_renderAll {label : String} (h : IsLabel label) (bodies : List Bytes) :
    blocks? (Bytes.ofText (renderAll label bodies)) = some (bodies.map fun body => ⟨label, [], body⟩) := by
  rw [blocks?, ofText_renderAll h, rawBlocks_written h (Nat.le_succ_of_le (length_le_flatMap label))]
  induction bodies with
  | nil => rfl
  | cons body bodies ih =>
    rw [List.map_cons, List.mapM_cons, block?_raw h, ih]
    rfl

theorem hasInfix_iff {part b : Bytes} (nonempty : part ≠ []) :
    Bytes.hasInfix part b = true ↔ part <:+: b := by
  induction b with
  | nil => simp [Bytes.hasInfix, nonempty]
  | cons x b ih =>
    rw [Bytes.hasInfix, Bool.or_eq_true, List.isPrefixOf_iff_prefix, ih, List.infix_cons_iff]

theorem looksLike_iff {b : Bytes} : looksLike b = true ↔ Bytes.ofChars "-----BEGIN".toList <:+: b := by
  rw [looksLike, Bytes.ofText_of_ascii (by decide), hasInfix_iff (by decide)]

theorem looksLike_renderAll {label : String} (h : IsLabel label) {bodies : List Bytes}
    (nonempty : bodies ≠ []) : looksLike (Bytes.ofText (renderAll label bodies)) = true := by
  obtain ⟨body, bodies, rfl⟩ := List.exists_cons_of_ne_nil nonempty
  have leads : Bytes.ofChars "-----BEGIN".toList <+: beginMark := by
    rw [beginMark_eq]
    exact ⟨[32], rfl⟩
  rw [looksLike_iff, ofText_renderAll h, List.flatMap_cons]
  refine (leads.trans ?_).isInfix
  simp only [written, List.append_assoc]
  exact List.prefix_append _ _

end ClusterAccess.Pki.Pem
