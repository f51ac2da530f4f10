import ClusterAccess.Proofs.Text.Runs
import ClusterAccess.Text.Blank
import Mathlib.Data.List.DropRight

/-!
# Trimming

A text is trimmed if no blank stands at either end. Blanks put around a trimmed text are found again, so
stripping a text comes to the one trimmed text that it is with blanks around it (`strip_eq_iff`). Blanks inside
it stay.
-/

namespace ClusterAccess.Text

/-- All of it is blanks. -/
def AllBlank (cs : List Char) : Prop := ∀ c ∈ cs, isBlank c = true

instance (cs : List Char) : Decidable (AllBlank cs) := List.decidableBAll _ cs

/-- The second text is the first with blanks around it. -/
def Padded (cs ts : List Char) : Prop :=
  ∃ before after, AllBlank before ∧ AllBlank after ∧ ts = before ++ (cs ++ after)

/-- No blank stands at either end. -/
structure IsTrimmed (cs : List Char) : Prop where
  first : ∀ c ∈ cs.head?, isBlank c = false
  last : ∀ c ∈ cs.getLast?, isBlank c = false

instance (cs : List Char) : Decidable (IsTrimmed cs) :=
  decidable_of_iff (cs.head?.all (!isBlank ·) = true ∧ cs.getLast?.all (!isBlank ·) = true) <| by
    rw [Option.all_eq_true, Option.all_eq_true]
    simp only [Bool.not_eq_true']
    exact ⟨fun h => ⟨h.1, h.2⟩, fun h => ⟨h.first, h.last⟩⟩

variable {cs ts : List Char}

theorem allBlank_nil : AllBlank [] := by decide

theorem isTrimmed_nil : IsTrimmed [] := by decide

theorem isTrimmed_of_solid (h : ∀ c ∈ cs, isBlank c = false) : IsTrimmed cs :=
  ⟨fun c hc => h c (List.mem_of_head? hc), fun c hc => h c (List.mem_of_getLast? hc)⟩

theorem Padded.refl (cs : List Char) : Padded cs cs := ⟨[], [], allBlank_nil, allBlank_nil, by simp⟩

theorem padded_nil_iff : Padded [] ts ↔ AllBlank ts := by
  constructor
  · rintro ⟨before, after, hb, ha, rfl⟩
    exact List.forall_mem_append.mpr ⟨hb, ha⟩
  · intro h
    exact ⟨ts, [], h, allBlank_nil, by simp⟩

/-- Blanks around a text bring nothing else in. -/
theorem Padded.mem_iff {c : Char} (solid : isBlank c = false) (h : Padded cs ts) : c ∈ ts ↔ c ∈ cs := by
  have outside : ∀ {bs : List Char}, AllBlank bs → c ∉ bs := by
    intro bs hbs hc
    rw [hbs c hc] at solid
    cases solid
  obtain ⟨before, after, hb, ha, rfl⟩ := h
  simp [outside hb, outside ha]

theorem stripRight_append (trimmed : IsTrimmed cs) {after : List Char} (blank : AllBlank after) :
    stripRight (cs ++ after) = cs := by
  have run : (after.reverse ++ cs.reverse).dropWhile isBlank = cs.reverse :=
    dropWhile_append_of_stop (by simpa [AllBlank] using blank) (by simpa using trimmed.last)
  rw [stripRight, List.reverse_append, run, List.reverse_reverse]

/-- A trimmed text is found again behind and before any blanks. -/
theorem strip_of_padded (trimmed : IsTrimmed cs) (h : Padded cs ts) : strip ts = cs := by
  cases cs with
  | nil =>
    -- the blanks before and behind nothing are one run
    rw [strip, stripLeft, List.dropWhile_eq_nil_iff.mpr (padded_nil_iff.mp h)]
    rfl
  | cons c cs =>
    obtain ⟨before, after, hb, ha, rfl⟩ := h
    have left : stripLeft (before ++ (c :: cs ++ after)) = c :: cs ++ after :=
      dropWhile_append_of_stop hb trimmed.first
    rw [strip, left, stripRight_append trimmed ha]

theorem exists_stripRight (cs : List Char) : ∃ after, AllBlank after ∧ cs = stripRight cs ++ after :=
  ⟨cs.rtakeWhile isBlank, fun _ hc => List.mem_rtakeWhile_imp hc,
    (List.rdropWhile_append_rtakeWhile).symm⟩

theorem padded_strip (ts : List Char) : Padded (strip ts) ts := by
  obtain ⟨after, ha, right⟩ := exists_stripRight (stripLeft ts)
  refine ⟨ts.takeWhile isBlank, after, fun _ hc => List.mem_takeWhile_imp hc, ha, ?_⟩
  rw [strip, ← right, stripLeft, List.takeWhile_append_dropWhile]

theorem isTrimmed_strip (ts : List Char) : IsTrimmed (strip ts) where
  first := by
    intro c hc
    obtain ⟨after, -, right⟩ := exists_stripRight (stripLeft ts)
    have front : c ∈ (stripLeft ts).head? := by
      rw [right, List.head?_append, ← strip, Option.mem_def.mp hc]
      rfl
    exact head?_dropWhile_stop isBlank ts c front
  last := by
    intro c hc
    rw [strip, stripRight, List.getLast?_reverse] at hc
    exact head?_dropWhile_stop isBlank _ c hc

/-- Stripping takes the blanks around a text away and no more. -/
theorem strip_eq_iff : strip ts = cs ↔ IsTrimmed cs ∧ Padded cs ts := by
  constructor
  · rintro rfl
    exact ⟨isTrimmed_strip ts, padded_strip ts⟩
  · exact fun ⟨trimmed, padded⟩ => strip_of_padded trimmed padded

theorem strip_eq_self_iff : strip cs = cs ↔ IsTrimmed cs := by
  rw [strip_eq_iff, and_iff_left (Padded.refl cs)]

theorem strip_eq_nil_iff : strip ts = [] ↔ AllBlank ts := by
  rw [strip_eq_iff, padded_nil_iff, and_iff_right isTrimmed_nil]

end ClusterAccess.Text
