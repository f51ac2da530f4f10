import ClusterAccess.Text.Blank

/-!
# Cutting and joining

Cutting a text at a separator is `List.splitOn` and putting pieces together is `List.intercalate`
(`pieces_eq_splitOn`, `joinPieces_eq_intercalate`). So the pieces before a separator and those behind it are
the pieces of a text (`pieces_append_cons`), and pieces that hold no separator come back from the text that
they are put together to (`pieces_joinPieces`).
-/

namespace ClusterAccess.Text

theorem pieces_eq_splitOn (sep : Char) (cs : List Char) : pieces sep cs = cs.splitOn sep := by
  induction cs with
  | nil => rfl
  | cons c cs ih =>
    have there : cs.splitOn sep ≠ [] := ih ▸ pieces_ne_nil sep cs
    rw [pieces, ih, List.splitOn, List.splitOn, List.splitOnP_cons_eq_if_modifyHead]
    cases h : cs.splitOn sep with
    | nil => exact absurd h there
    | cons p ps =>
      rw [List.splitOn] at h
      by_cases hc : c = sep
      · simp [hc, h]
      · simp [hc, h]

theorem joinPieces_eq_intercalate (sep : Char) (ps : List (List Char)) :
    joinPieces sep ps = [sep].intercalate ps := by
  induction ps with
  | nil => rfl
  | cons p ps ih =>
    cases ps with
    | nil => simp [joinPieces]
    | cons q qs =>
      rw [List.intercalate_cons_cons, ← ih]
      simp [joinPieces]

theorem pieces_append_cons (sep : Char) (cs ds : List Char) :
    pieces sep (cs ++ sep :: ds) = pieces sep cs ++ pieces sep ds := by
  simp only [pieces_eq_splitOn, List.splitOn]
  exact List.splitOnP_append_cons cs ds (beq_self_eq_true sep)

theorem pieces_cons_self (sep : Char) (cs : List Char) : pieces sep (sep :: cs) = [] :: pieces sep cs :=
  pieces_append_cons sep [] cs

theorem pieces_joinPieces {sep : Char} {ps : List (List Char)} (h : ∀ p ∈ ps, sep ∉ p) (hne : ps ≠ []) :
    pieces sep (joinPieces sep ps) = ps := by
  rw [pieces_eq_splitOn, joinPieces_eq_intercalate]
  exact List.splitOn_intercalate sep h hne

theorem joinPieces_ne_nil {p : List Char} (hne : p ≠ []) (sep : Char) (ps : List (List Char)) :
    joinPieces sep (p :: ps) ≠ [] := by
  cases ps with
  | nil => exact hne
  | cons q qs => simp [joinPieces]

/-- A piece holds no separator. -/
theorem not_mem_of_mem_pieces {sep : Char} {cs : List Char} : ∀ p ∈ pieces sep cs, sep ∉ p := by
  induction cs with
  | nil => simp [pieces]
  | cons c cs ih =>
    rw [pieces]
    split
    · next h => exact absurd h (pieces_ne_nil sep cs)
    · next q qs h =>
      rw [h] at ih
      obtain ⟨first, others⟩ := List.forall_mem_cons.mp ih
      by_cases hc : c = sep
      · rw [if_pos hc]
        exact List.forall_mem_cons.mpr ⟨List.not_mem_nil, ih⟩
      · rw [if_neg hc]
        refine List.forall_mem_cons.mpr ⟨?_, others⟩
        simp [Ne.symm hc, first]

end ClusterAccess.Text
