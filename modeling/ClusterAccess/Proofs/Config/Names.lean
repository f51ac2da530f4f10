import ClusterAccess.Config.Field
import ClusterAccess.Proofs.Text.Pieces
import ClusterAccess.Proofs.Text.Trimming

/-!
# Lists of names

A text lists names if it is put together with commas from segments that hold the names in their order, each with
any blanks around it, and from any further segments of blanks alone (`Lists`). Reading finds the names that a
text lists, if they are names that a list can hold, and what it finds are such names (`readNames_eq_iff`). So
names that are put together with commas come back, and reading the names that were read finds no others
(`readNames_exact`).
-/

namespace ClusterAccess

namespace Text

/-- The segments hold the items in their order, each with blanks around it. The other segments are blanks. -/
inductive Carries : List (List Char) → List (List Char) → Prop where
  | nil : Carries [] []
  | item {segment cs : List Char} (padded : Padded cs segment) {segments items : List (List Char)}
      (rest : Carries segments items) : Carries (segment :: segments) (cs :: items)
  | gap {segment : List Char} (blank : AllBlank segment) {segments items : List (List Char)}
      (rest : Carries segments items) : Carries (segment :: segments) items

/-- What an item of a list is: it is there, it is whole, and it is trimmed. -/
structure IsItem (sep : Char) (cs : List Char) : Prop where
  nonempty : cs ≠ []
  whole : sep ∉ cs
  trimmed : IsTrimmed cs

instance (sep : Char) (cs : List Char) : Decidable (IsItem sep cs) :=
  decidable_of_iff (cs ≠ [] ∧ sep ∉ cs ∧ IsTrimmed cs)
    ⟨fun h => ⟨h.1, h.2.1, h.2.2⟩, fun h => ⟨h.nonempty, h.whole, h.trimmed⟩⟩

/-- What is in each of the segments without the blanks around it, if anything is. -/
def held (segments : List (List Char)) : List (List Char) :=
  (segments.map strip).filter (!List.isEmpty ·)

variable {segments items : List (List Char)}

theorem held_cons_of_blank {segment : List Char} (blank : AllBlank segment) (segments : List (List Char)) :
    held (segment :: segments) = held segments := by
  rw [held, List.map_cons, strip_eq_nil_iff.mpr blank]
  rfl

theorem held_cons_of_padded {segment cs : List Char} (trimmed : IsTrimmed cs) (nonempty : cs ≠ [])
    (padded : Padded cs segment) (segments : List (List Char)) :
    held (segment :: segments) = cs :: held segments := by
  rw [held, List.map_cons, strip_of_padded trimmed padded, List.filter_cons_of_pos (by simpa using nonempty),
    ← held]

theorem Carries.refl (items : List (List Char)) : Carries items items := by
  induction items with
  | nil => exact .nil
  | cons cs items ih => exact .item (.refl cs) ih

theorem carries_held (segments : List (List Char)) : Carries segments (held segments) := by
  induction segments with
  | nil => exact .nil
  | cons segment segments ih =>
    by_cases blank : strip segment = []
    · rw [held_cons_of_blank (strip_eq_nil_iff.mp blank)]
      exact .gap (strip_eq_nil_iff.mp blank) ih
    · rw [held_cons_of_padded (isTrimmed_strip segment) blank (padded_strip segment)]
      exact .item (padded_strip segment) ih

/-- Segments hold just the items that they carry. -/
theorem Carries.held_eq (h : Carries segments items) (sound : ∀ cs ∈ items, IsTrimmed cs ∧ cs ≠ []) :
    held segments = items := by
  induction h with
  | nil => rfl
  | item padded rest ih =>
    obtain ⟨⟨trimmed, nonempty⟩, sound⟩ := List.forall_mem_cons.mp sound
    rw [held_cons_of_padded trimmed nonempty padded, ih sound]
  | gap blank rest ih => rw [held_cons_of_blank blank, ih sound]

theorem sound_of_mem_held : ∀ cs ∈ held segments, IsTrimmed cs ∧ cs ≠ [] := by
  intro cs hcs
  obtain ⟨stripped, nonempty⟩ := List.mem_filter.mp hcs
  obtain ⟨segment, -, rfl⟩ := List.mem_map.mp stripped
  exact ⟨isTrimmed_strip segment, by simpa using nonempty⟩

/-- A character that is no blank is in none of the segments if it is in none of the items, and only then. -/
theorem Carries.forall_not_mem_iff {sep : Char} (solid : isBlank sep = false) (h : Carries segments items) :
    (∀ segment ∈ segments, sep ∉ segment) ↔ ∀ cs ∈ items, sep ∉ cs := by
  induction h with
  | nil => simp
  | item padded rest ih => rw [List.forall_mem_cons, List.forall_mem_cons, padded.mem_iff solid, ih]
  | gap blank rest ih =>
    have outside := (padded_nil_iff.mpr blank).mem_iff solid
    rw [List.forall_mem_cons, ih, outside, and_iff_right List.not_mem_nil]

/-- Segments that are put together and cut again carry the same items. -/
theorem Carries.pieces_joinPieces {sep : Char} (solid : isBlank sep = false) (h : Carries segments items)
    (whole : ∀ cs ∈ items, sep ∉ cs) : Carries (pieces sep (joinPieces sep segments)) items := by
  cases segments with
  | nil =>
    -- no segments make the empty text, and that is cut into one empty piece
    exact .gap allBlank_nil h
  | cons segment segments =>
    rw [Text.pieces_joinPieces ((h.forall_not_mem_iff solid).mpr whole) (List.cons_ne_nil _ _)]
    exact h

/-- The pieces of a text hold just the items that the text is put together from. -/
theorem held_pieces_eq_iff {sep : Char} (solid : isBlank sep = false) {cs : List Char} :
    held (pieces sep cs) = items ↔
      (∀ item ∈ items, IsItem sep item) ∧
        ∃ segments, Carries segments items ∧ cs = joinPieces sep segments := by
  constructor
  · rintro rfl
    -- the pieces are segments themselves, and put together they are the text
    have carries := carries_held (pieces sep cs)
    have whole := (carries.forall_not_mem_iff solid).mp not_mem_of_mem_pieces
    refine ⟨fun item hi => ?_, _, carries, (joinPieces_pieces sep cs).symm⟩
    obtain ⟨trimmed, nonempty⟩ := sound_of_mem_held item hi
    exact ⟨nonempty, whole item hi, trimmed⟩
  · rintro ⟨good, segments, carries, rfl⟩
    refine (carries.pieces_joinPieces solid fun item hi => (good item hi).whole).held_eq fun item hi => ?_
    exact ⟨(good item hi).trimmed, (good item hi).nonempty⟩

end Text

namespace Config

/-- A name that a list can hold: it is not empty, no comma is in it, and no blank stands at either end. -/
def IsItem (name : String) : Prop := Text.IsItem ',' name.toList

instance (name : String) : Decidable (IsItem name) := inferInstanceAs (Decidable (Text.IsItem _ _))

/-- The text lists the names, with any blanks around them and any further segments of blanks. -/
def Lists (raw : String) (names : List String) : Prop :=
  ∃ segments, Text.Carries segments (names.map String.toList) ∧ raw.toList = Text.joinPieces ',' segments

theorem toList_readNames (raw : String) :
    (readNames raw).map String.toList = Text.held (Text.pieces ',' raw.toList) := by
  rw [readNames, ← Text.held, List.map_map]
  exact (List.map_congr_left fun cs _ => String.toList_ofList).trans (List.map_id _)

/-- Names put together with commas are listed. -/
theorem lists_intercalate (names : List String) : Lists (",".intercalate names) names := by
  refine ⟨names.map String.toList, .refl _, ?_⟩
  rw [String.toList_intercalate, Text.joinPieces_eq_intercalate]
  rfl

/-- Reading finds the names that a text lists, and every text lists what is found in it. -/
theorem readNames_eq_iff {raw : String} {names : List String} :
    readNames raw = names ↔ (∀ name ∈ names, IsItem name) ∧ Lists raw names := by
  have injective : Function.Injective (List.map String.toList) :=
    List.map_injective_iff.mpr fun _ _ => String.toList_injective
  rw [← injective.eq_iff, toList_readNames, Text.held_pieces_eq_iff (by decide), List.forall_mem_map]
  rfl

/-- Names that a text lists are read in their order, with their repetitions, whatever blanks are around them. All
that is read are names that a list can hold, so they come back when they are put together with commas. -/
theorem readNames_exact :
    (∀ names raw, (∀ name ∈ names, IsItem name) → Lists raw names → readNames raw = names) ∧
      (∀ names, Lists (",".intercalate names) names) ∧
      ∀ raw, (∀ name ∈ readNames raw, IsItem name) ∧ Lists raw (readNames raw) ∧
        readNames (",".intercalate (readNames raw)) = readNames raw := by
  refine ⟨fun names raw items lists => readNames_eq_iff.mpr ⟨items, lists⟩, lists_intercalate,
    fun raw => ?_⟩
  obtain ⟨items, lists⟩ := readNames_eq_iff.mp (Eq.refl (readNames raw))
  exact ⟨items, lists, readNames_eq_iff.mpr ⟨items, lists_intercalate _⟩⟩

/-- A name with a blank inside, and one that is there twice. -/
def sampleNames : List String := ["TLSv1.2", "a b", "TLSv1.2"]

/-- Blanks before, behind and between the names. -/
def sampleLoose : String := " TLSv1.2,, a b\t,\u3000,TLSv1.2\x1c"

theorem readNames_exact_sampleLoose :
    (∀ name ∈ sampleNames, IsItem name) ∧ Lists sampleLoose sampleNames ∧
      readNames sampleLoose = sampleNames ∧
      readNames (",".intercalate sampleNames) = sampleNames := by
  have items : ∀ name ∈ sampleNames, IsItem name := by decide
  have lists : Lists sampleLoose sampleNames := by
    refine ⟨[" TLSv1.2", "", " a b\t", "\u3000", "TLSv1.2\x1c"].map String.toList, ?_, by decide⟩
    refine .item ⟨[' '], [], by decide, by decide, by decide⟩ (.gap (by decide) ?_)
    refine .item ⟨[' '], ['\t'], by decide, by decide, by decide⟩ (.gap (by decide) ?_)
    exact .item ⟨[], ['\x1c'], by decide, by decide, by decide⟩ .nil
  obtain ⟨found, joined, -⟩ := readNames_exact
  exact ⟨items, lists, found _ _ items lists, found _ _ items (joined sampleNames)⟩

end Config

end ClusterAccess
