import ClusterAccess.Proofs.Pki.Store
import ClusterAccess.Proofs.Text.Base64

/-!
# Inline material

Material that is given as base64 text is decoded without the blanks in it. The encoding of a byte string, with
blanks put in anywhere (`Text.Spaced`), stands for the byte string. A text is accepted exactly if what is left
without its blanks is in strict form, and then stands for the bytes that its digits spell
(`Material.StandsFor`); every other text is refused (`inline_exact`).
-/

namespace ClusterAccess

namespace Text

/-- The second text is the first with blanks put in. -/
inductive Spaced : List Char → List Char → Prop where
  | nil : Spaced [] []
  | keep (c : Char) {cs ts : List Char} (rest : Spaced cs ts) : Spaced (c :: cs) (c :: ts)
  | blank {c : Char} (blank : isBlank c = true) {cs ts : List Char} (rest : Spaced cs ts) :
      Spaced cs (c :: ts)

theorem Spaced.refl (cs : List Char) : Spaced cs cs := by
  induction cs with
  | nil => exact .nil
  | cons c cs ih => exact .keep c ih

theorem Spaced.squeeze_eq {cs ts : List Char} (h : Spaced cs ts) (solid : ∀ c ∈ cs, isBlank c = false) :
    squeeze ts = cs := by
  induction h with
  | nil => rfl
  | keep c rest ih =>
    obtain ⟨hc, solid⟩ := List.forall_mem_cons.mp solid
    rw [squeeze, List.filter_cons, if_pos (by simp [hc]), ← squeeze, ih solid]
  | blank hc rest ih => rw [squeeze, List.filter_cons, if_neg (by simp [hc]), ← squeeze, ih solid]

theorem mem_squeeze {c : Char} {cs : List Char} : c ∈ squeeze cs ↔ c ∈ cs ∧ isBlank c = false := by
  simp [squeeze]

end Text

namespace Base64

theorem isBlank_of_mem_alphabet : ∀ c ∈ alphabet, Text.isBlank c = false :=
  List.all_iff_forall_prop.mp (by decide)

/-- The digits among the characters of a text. -/
def digitsIn (cs : List Char) : List Char := cs.filter (· ∈ alphabet)

theorem digitsIn_squeeze (cs : List Char) : digitsIn (Text.squeeze cs) = digitsIn cs := by
  unfold digitsIn Text.squeeze
  rw [List.filter_filter]
  apply List.filter_congr
  intro c _
  by_cases hc : c ∈ alphabet
  · simp [hc, isBlank_of_mem_alphabet c hc]
  · simp [hc]

theorem digitsIn_of_strict {ds : List Char} {k : Nat} (h : Strict ds k) :
    digitsIn (ds ++ List.replicate k '=') = ds := by
  have digits : digitsIn ds = ds := List.filter_eq_self.mpr fun c hc => decide_eq_true (h.digits c hc)
  have padding : digitsIn (List.replicate k '=') = [] :=
    List.filter_eq_nil_iff.mpr fun c hc => by
      rw [List.eq_of_mem_replicate hc]
      simpa using pad_not_mem_alphabet
  rw [digitsIn, List.filter_append, ← digitsIn, ← digitsIn, digits, padding, List.append_nil]

theorem isBlank_of_mem_strict {ds : List Char} {k : Nat} (h : Strict ds k) :
    ∀ c ∈ ds ++ List.replicate k '=', Text.isBlank c = false := by
  intro c hc
  rcases List.mem_append.mp hc with hc | hc
  · exact isBlank_of_mem_alphabet c (h.digits c hc)
  · rw [List.eq_of_mem_replicate hc]
    decide

end Base64

namespace Pki.Material

open Base64 (Strict Spells alphabet digitBits digitsIn)

/-- Without its blanks the text is in strict form. -/
def IsStrict (cs : List Char) : Prop :=
  ∃ ds k, Text.squeeze cs = ds ++ List.replicate k '=' ∧ Strict ds k

/-- Nothing is in the text but digits, padding and blanks, the digits are not one more than whole groups, and
the bytes are all whole bytes among the first of the bits of the digits in a row. -/
structure StandsFor (cs : List Char) (b : Bytes) : Prop where
  clean : ∀ c ∈ cs, Text.isBlank c = true ∨ c ∈ alphabet ∨ c = '='
  count : (digitsIn cs).length % 4 ≠ 1
  length : b.length = 3 * (digitsIn cs).length / 4
  bits : b.bits <+: digitBits (digitsIn cs)

theorem standsFor_of_strict {cs ds : List Char} {k : Nat} {b : Bytes}
    (hcs : Text.squeeze cs = ds ++ List.replicate k '=') (strict : Strict ds k) (spells : Spells ds b) :
    StandsFor cs b := by
  have digits : digitsIn cs = ds := by
    rw [← Base64.digitsIn_squeeze, hcs, Base64.digitsIn_of_strict strict]
  refine ⟨?_, ?_, ?_, ?_⟩
  · intro c hc
    cases hb : Text.isBlank c with
    | true => exact .inl rfl
    | false =>
      have kept : c ∈ ds ++ List.replicate k '=' := hcs ▸ Text.mem_squeeze.mpr ⟨hc, hb⟩
      rcases List.mem_append.mp kept with hc | hc
      · exact .inr (.inl (strict.digits c hc))
      · exact .inr (.inr (List.eq_of_mem_replicate hc))
  · rw [digits]
    rcases strict.complete with complete | complete <;> omega
  · rw [digits, spells.length]
  · rw [digits]
    exact spells.bits

/-- Blanks that are put into the encoding of bytes do not count. -/
theorem decodeInline_of_spaced {b : Bytes} {text : String}
    (spaced : Text.Spaced (Base64.encode b) text.toList) (label : String) : decodeInline label text = .ok b := by
  obtain ⟨ds, k, hb, strict, -⟩ := Base64.exists_strict_encode b
  have squeezed : Text.squeeze text.toList = Base64.encode b :=
    spaced.squeeze_eq (hb ▸ Base64.isBlank_of_mem_strict strict)
  exact decodeInline_eq_ok.mpr (squeezed ▸ Base64.decode_encode b)

theorem load_inline (fs : Filesystem) (label : String) {text : String} (nonempty : text ≠ "") :
    load fs label ⟨none, some text⟩ = some <$> decodeInline label text :=
  load_of_text rfl rfl nonempty fs label

/-- Base64 text stands for the bytes that were encoded, whatever blanks are put in. An accepted text stands for
the bytes that its digits spell, and a text is refused if it is not in strict form, and only then. -/
theorem inline_exact (fs : Filesystem) (label : String) :
    (∀ b text, text ≠ "" → Text.Spaced (Base64.encode b) text.toList →
        load fs label ⟨none, some text⟩ = .ok (some b)) ∧
      ∀ text, text ≠ "" →
        (IsStrict text.toList ∧
            ∃ b, load fs label ⟨none, some text⟩ = .ok (some b) ∧ StandsFor text.toList b) ∨
          ¬ IsStrict text.toList ∧
            ∃ fault, load fs label ⟨none, some text⟩ =
              .error (.access (.material (.notBase64 label fault))) := by
  constructor
  · intro b text nonempty spaced
    rw [load_inline fs label nonempty, decodeInline_of_spaced spaced]
    rfl
  · intro text nonempty
    rw [load_inline fs label nonempty]
    by_cases form : IsStrict text.toList
    · obtain ⟨ds, k, hcs, strict⟩ := form
      obtain ⟨b, spells⟩ := strict.exists_spells
      have decoded : decodeInline label text = .ok b :=
        decodeInline_eq_ok.mpr (Base64.decode_eq_ok.mpr ⟨ds, k, hcs, strict, spells⟩)
      exact .inl ⟨⟨ds, k, hcs, strict⟩, b, by rw [decoded]; rfl, standsFor_of_strict hcs strict spells⟩
    · refine .inr ⟨form, ?_⟩
      unfold decodeInline
      split
      · next b decoded =>
        obtain ⟨ds, k, hcs, strict, -⟩ := Base64.decode_eq_ok.mp decoded
        exact absurd ⟨ds, k, hcs, strict⟩ form
      · next fault _ => exact ⟨fault, rfl⟩

/-- Two bytes with blanks before, between and behind the digits. -/
def sampleSpaced : String := "\tAA\u3000E=\n"

theorem inline_exact_sampleSpaced :
    sampleSpaced ≠ "" ∧ Text.Spaced (Base64.encode [0, 1]) sampleSpaced.toList ∧
      load (.inMemory [] []) caLabel ⟨none, some sampleSpaced⟩ = .ok (some [0, 1]) ∧
      StandsFor sampleSpaced.toList [0, 1] ∧
      ∃ fault, load (.inMemory [] []) caLabel ⟨none, some "AAE=A"⟩ =
        .error (.access (.material (.notBase64 caLabel fault))) := by
  have nonempty : sampleSpaced ≠ "" := by decide
  have spaced : Text.Spaced (Base64.encode [0, 1]) sampleSpaced.toList := by
    have encoded : Base64.encode [0, 1] = ['A', 'A', 'E', '='] := by decide
    have characters : sampleSpaced.toList = ['\t', 'A', 'A', '\u3000', 'E', '=', '\n'] := by decide
    rw [encoded, characters]
    exact .blank rfl (.keep _ (.keep _ (.blank rfl (.keep _ (.keep _ (.blank rfl .nil))))))
  obtain ⟨encoded, every⟩ := inline_exact (.inMemory [] []) caLabel
  have loaded := encoded [0, 1] sampleSpaced nonempty spaced
  refine ⟨nonempty, spaced, loaded, ?_, ?_⟩
  · rcases every sampleSpaced nonempty with ⟨-, b, hb, stands⟩ | ⟨-, fault, hf⟩
    · rw [loaded] at hb
      cases hb
      exact stands
    · rw [loaded] at hf
      cases hf
  · rcases every "AAE=A" (by decide) with ⟨-, b, hb, -⟩ | ⟨-, refused⟩
    · have excess : load (.inMemory [] []) caLabel ⟨none, some "AAE=A"⟩ =
          .error (.access (.material (.notBase64 caLabel .excessData))) := by decide
      rw [excess] at hb
      cases hb
    · exact refused

end Pki.Material

end ClusterAccess
