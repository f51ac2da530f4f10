import ClusterAccess.Path
import ClusterAccess.Proofs.Text.Pieces

/-!
# Paths in normal form

The names of a path that is read from a text are not empty, are not `.` and hold no slash, and every path
with such names is read from a text, namely its own (`normal_iff`, `ofText_render`). What an absolute path is
written as is `Settled`: it has no component `.`, no slashes in a row but at its start, and no slash at its
end unless it is a root (`settled_render`).
-/

namespace ClusterAccess

namespace Path

/-- A name between slashes that leads somewhere. -/
def IsPlain (name : String) : Prop := name ≠ "" ∧ name ≠ "." ∧ '/' ∉ name.toList

instance (name : String) : Decidable (IsPlain name) := inferInstanceAs (Decidable (_ ∧ _ ∧ _))

/-- All names of the path lead somewhere. -/
def Normal (p : Path) : Prop := ∀ name ∈ p.names, IsPlain name

instance (p : Path) : Decidable p.Normal := List.decidableBAll _ p.names

/-- The components of a text between slashes, without those that are empty or `.`. -/
def segments (cs : List Char) : List String :=
  ((cs.splitOn '/').filter fun s => s ≠ [] ∧ s ≠ ['.']).map String.ofList

/-! ## Reading -/

theorem isName_iff {cs : List Char} : isName cs = true ↔ cs ≠ [] ∧ cs ≠ ['.'] := by
  simp [isName]

theorem namesOf_eq_segments (cs : List Char) : namesOf cs = segments cs := by
  have alike : isName = fun s => decide (s ≠ [] ∧ s ≠ ['.']) := by
    funext s
    rw [Bool.eq_iff_iff, isName_iff, decide_eq_true_iff]
  rw [namesOf, segments, Text.pieces_eq_splitOn, alike]

/-- A slash at the start leads nowhere. -/
theorem namesOf_slash (cs : List Char) : namesOf ('/' :: cs) = namesOf cs := by
  simp [namesOf, Text.pieces_cons_self, isName]

theorem isPlain_of_mem_namesOf {cs : List Char} : ∀ name ∈ namesOf cs, IsPlain name := by
  intro name hn
  obtain ⟨piece, hp, rfl⟩ := List.mem_map.mp hn
  obtain ⟨cut, named⟩ := List.mem_filter.mp hp
  obtain ⟨nonempty, notDot⟩ := isName_iff.mp named
  have slashless := Text.not_mem_of_mem_pieces piece cut
  refine ⟨?_, ?_, by simpa using slashless⟩
  · intro h
    exact nonempty (String.ofList_injective h)
  · intro h
    exact notDot (String.ofList_injective h)

theorem normal_ofText (text : String) : (ofText text).Normal := isPlain_of_mem_namesOf

theorem Normal.join {p q : Path} (hp : p.Normal) (hq : q.Normal) : (p.join q).Normal := by
  unfold Path.join
  split
  · exact hq
  · intro name hn
    rcases List.mem_append.mp hn with h | h
    · exact hp name h
    · exact hq name h

/-! ## Names put together -/

/-- The names with slashes between them. -/
def joined (names : List String) : List Char := Text.joinPieces '/' (names.map String.toList)

section

variable {names : List String} (plain : ∀ name ∈ names, IsPlain name)

include plain

theorem pieces_joined (hne : names ≠ []) : Text.pieces '/' (joined names) = names.map String.toList := by
  refine Text.pieces_joinPieces ?_ (by simpa using hne)
  intro piece hp
  obtain ⟨name, hn, rfl⟩ := List.mem_map.mp hp
  exact (plain name hn).2.2

theorem nil_not_mem_map : [] ∉ names.map String.toList := by
  intro h
  obtain ⟨name, hn, empty⟩ := List.mem_map.mp h
  exact (plain name hn).1 (String.toList_injective empty)

theorem namesOf_joined : namesOf (joined names) = names := by
  by_cases hne : names = []
  · rw [hne]
    rfl
  · have kept : (names.map String.toList).filter isName = names.map String.toList := by
      rw [List.filter_eq_self]
      intro piece hp
      obtain ⟨name, hn, rfl⟩ := List.mem_map.mp hp
      refine isName_iff.mpr ⟨?_, ?_⟩
      · intro h
        exact (plain name hn).1 (String.toList_injective h)
      · intro h
        exact (plain name hn).2.1 (String.toList_injective h)
    rw [namesOf, pieces_joined plain hne, kept, List.map_map]
    simp [Function.comp_def]

theorem head?_joined : (joined names).head? ≠ some '/' := by
  intro h
  by_cases hne : names = []
  · rw [hne] at h
    cases h
  · obtain ⟨rest, hr⟩ := List.head?_eq_some_iff.mp h
    have cut := pieces_joined plain hne
    rw [hr, Text.pieces_cons_self] at cut
    refine nil_not_mem_map plain ?_
    rw [← cut]
    exact List.mem_cons_self

/-- No two slashes stand in a row, whatever stands between the names. -/
theorem not_doubled_joined : ¬['/', '/'] <:+: '/' :: joined names := by
  rintro ⟨before, after, h⟩
  by_cases hne : names = []
  · have short := congrArg List.length h
    simp [hne, joined, Text.joinPieces] at short
    omega
  · have cut := congrArg (Text.pieces '/') h
    rw [Text.pieces_cons_self, pieces_joined plain hne, List.append_assoc, List.cons_append,
      List.singleton_append, Text.pieces_append_cons, Text.pieces_cons_self] at cut
    -- the empty piece between the two slashes is not the first one
    cases hb : Text.pieces '/' before with
    | nil => exact Text.pieces_ne_nil '/' before hb
    | cons first others =>
      rw [hb, List.cons_append] at cut
      have names := (List.cons.inj cut).2
      refine nil_not_mem_map plain ?_
      rw [← names]
      simp

theorem getLast?_joined : (joined names).getLast? ≠ some '/' := by
  intro h
  by_cases hne : names = []
  · rw [hne] at h
    cases h
  · obtain ⟨front, hf⟩ := List.getLast?_eq_some_iff.mp h
    have cut := pieces_joined plain hne
    rw [hf, Text.pieces_append_cons] at cut
    refine nil_not_mem_map plain ?_
    rw [← cut]
    simp [Text.pieces]

/-- Only without names does a text end in a slash. -/
theorem joined_eq_nil_of_getLast? {front : List Char} (ends : (front ++ joined names).getLast? = some '/') :
    joined names = [] := by
  cases hl : (joined names).getLast? with
  | none => exact List.getLast?_eq_none_iff.mp hl
  | some c =>
    rw [List.getLast?_append, hl, Option.some_or] at ends
    exact absurd (hl.trans ends) (getLast?_joined plain)

theorem dot_not_mem_pieces_joined : ['.'] ∉ Text.pieces '/' (joined names) := by
  by_cases hne : names = []
  · rw [hne]
    decide
  · rw [pieces_joined plain hne]
    intro h
    obtain ⟨name, hn, dot⟩ := List.mem_map.mp h
    exact (plain name hn).2.1 (String.toList_injective dot)

end

/-! ## Writing and reading again -/

theorem render_of_ne {p : Path} (h : p ≠ ⟨.here, []⟩) :
    p.render = String.ofList (rootChars p.root ++ joined p.names) := by
  obtain ⟨root, names⟩ := p
  unfold render
  split
  · next hr hn =>
    cases hr
    cases hn
    exact absurd rfl h
  · rfl

theorem rootOf_append (root : Root) {cs : List Char} (h : cs.head? ≠ some '/') :
    rootOf (rootChars root ++ cs) = root := by
  cases cs with
  | nil => cases root <;> rfl
  | cons c cs =>
    have hc : c ≠ '/' := by simpa using h
    cases root <;> simp [rootChars, rootOf, hc]

theorem namesOf_append (root : Root) (cs : List Char) : namesOf (rootChars root ++ cs) = namesOf cs := by
  cases root with
  | here => rfl
  | slash => exact namesOf_slash cs
  | doubleSlash => exact (namesOf_slash _).trans (namesOf_slash cs)

/-- A path in normal form is read back from its text. -/
theorem ofText_render {p : Path} (normal : p.Normal) : ofText p.render = p := by
  by_cases h : p = ⟨.here, []⟩
  · rw [h]
    decide
  · rw [render_of_ne h, ofText, String.toList_ofList, rootOf_append p.root (head?_joined normal),
      namesOf_append, namesOf_joined normal]

/-- The paths in normal form are those that are read from a text. -/
theorem normal_iff {p : Path} : p.Normal ↔ ∃ text, ofText text = p := by
  constructor
  · intro normal
    exact ⟨p.render, ofText_render normal⟩
  · rintro ⟨text, rfl⟩
    exact normal_ofText text

/-! ## Texts that are settled -/

/-- An absolute path is written without a detour: no component is `.`, no two slashes stand in a row behind the
first character, and only a root ends in a slash. -/
structure Settled (text : String) : Prop where
  absolute : text.toList.head? = some '/'
  dotless : ['.'] ∉ text.toList.splitOn '/'
  single : ¬['/', '/'] <:+: text.toList.tail
  bare : text.toList.getLast? = some '/' → text = "/" ∨ text = "//"

/-- An absolute path is written behind one slash or behind two. -/
theorem toList_render {p : Path} (absolute : p.isAbsolute = true) :
    p.render.toList = '/' :: joined p.names ∨ p.render.toList = '/' :: '/' :: joined p.names := by
  have rooted : p.root ≠ .here := by simpa [isAbsolute] using absolute
  have written : p.render = String.ofList (rootChars p.root ++ joined p.names) := by
    refine render_of_ne ?_
    rintro rfl
    exact rooted rfl
  rw [written, String.toList_ofList]
  cases hr : p.root with
  | here => exact absurd hr rooted
  | slash => exact .inl rfl
  | doubleSlash => exact .inr rfl

/-- An absolute path in normal form has a settled text. -/
theorem settled_render {p : Path} (normal : p.Normal) (absolute : p.isAbsolute = true) :
    Settled p.render := by
  have dotless := dot_not_mem_pieces_joined normal
  have doubled := not_doubled_joined normal
  rcases toList_render absolute with written | written
  · constructor
    · rw [written]
      rfl
    · rw [written, ← Text.pieces_eq_splitOn, Text.pieces_cons_self]
      simpa using dotless
    · rw [written]
      exact fun h => doubled (List.infix_cons h)
    · rw [written]
      intro (ends : (['/'] ++ joined p.names).getLast? = some '/')
      rw [joined_eq_nil_of_getLast? normal ends] at written
      exact .inl (String.toList_injective written)
  · constructor
    · rw [written]
      rfl
    · rw [written, ← Text.pieces_eq_splitOn, Text.pieces_cons_self, Text.pieces_cons_self]
      simpa using dotless
    · rw [written]
      exact doubled
    · rw [written]
      intro (ends : (['/', '/'] ++ joined p.names).getLast? = some '/')
      rw [joined_eq_nil_of_getLast? normal ends] at written
      exact .inr (String.toList_injective written)

end Path

end ClusterAccess
