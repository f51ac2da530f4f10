import ClusterAccess.Proofs.Text.Runs
import ClusterAccess.Url.Basic

/-!
# How the text of a URL is cut

A scheme ends at a colon, an authority at a slash or a mark, and the user information at the last `@` of
the authority. A text that is put together of such pieces is cut into them again (`splitScheme_append`,
`splitAuthority_append`, `splitAtLast_append`), and every text is of this form or lacks the piece
(`splitScheme_cases`, `splitAuthority_cases`, `splitAtLast_cases`).
-/

namespace ClusterAccess.Url

/-! ## Schemes -/

/-- A text that can stand before the colon of a scheme. Nothing can, too. -/
def IsScheme (cs : List Char) : Prop :=
  cs = [] ∨ cs.head?.any Char.isAlpha = true ∧ ∀ c ∈ cs, isSchemeChar c = true

theorem splitScheme_append {scheme : List Char} (h : IsScheme scheme) (rest : List Char) :
    splitScheme (scheme ++ ':' :: rest) = (scheme, rest) := by
  rcases h with rfl | ⟨first, inside⟩
  · rfl
  · have head : (scheme ++ ':' :: rest).head?.any Char.isAlpha = true := by
      cases scheme with
      | nil => cases first
      | cons c cs => exact first
    have run : (scheme ++ ':' :: rest).takeWhile isSchemeChar = scheme :=
      takeWhile_append_of_stop inside (by simp [isSchemeChar])
    simp only [splitScheme, head, if_true, run, List.drop_left]

/-- A text has a scheme before its first colon, or none. -/
theorem splitScheme_cases (cs : List Char) :
    (∃ scheme rest, IsScheme scheme ∧ cs = scheme ++ ':' :: rest) ∨ splitScheme cs = ([], cs) := by
  by_cases first : cs.head?.any Char.isAlpha = true
  · simp only [splitScheme, first, if_true]
    split
    · next rest hr =>
      have run : cs = cs.takeWhile isSchemeChar ++ ':' :: rest := by
        rw [← hr]
        exact (List.prefix_iff_eq_append.mp (List.takeWhile_prefix _)).symm
      refine .inl ⟨_, rest, .inr ⟨?_, fun c hc => List.mem_takeWhile_imp hc⟩, run⟩
      cases cs with
      | nil => cases first
      | cons c cs =>
        have hc : isSchemeChar c = true := by
          have alpha : c.isAlpha = true := first
          simp [isSchemeChar, Char.isAlphanum, alpha]
        rw [List.takeWhile_cons_of_pos hc]
        exact first
    · exact .inr rfl
  · simp only [splitScheme, first]
    split
    · next rest hr => exact .inl ⟨[], rest, .inl rfl, hr⟩
    · exact .inr rfl

/-- What follows a scheme, or all of a text without one, can be exchanged for anything behind a slash. -/
theorem exists_front (cs : List Char) :
    ∃ front, cs = front ++ (splitScheme cs).2 ∧
      ∀ rest, splitScheme (front ++ '/' :: rest) = ((splitScheme cs).1, '/' :: rest) := by
  obtain ⟨scheme, rest, h, rfl⟩ | none := splitScheme_cases cs
  · refine ⟨scheme ++ [':'], ?_, fun rest' => ?_⟩
    · rw [splitScheme_append h]
      simp
    · rw [splitScheme_append h, List.append_assoc, List.singleton_append, splitScheme_append h]
  · refine ⟨[], ?_, fun rest => ?_⟩
    · rw [none, List.nil_append]
    · rw [none]
      rfl

/-! ## Authorities -/

/-- The characters of an authority. -/
def isAuthorityChar (c : Char) : Bool := c != '/' && c != '?' && c != '#'

theorem splitAuthority_append {authority tail : List Char}
    (inside : ∀ c ∈ authority, isAuthorityChar c = true)
    (stop : ∀ c ∈ tail.head?, isAuthorityChar c = false) :
    splitAuthority ('/' :: '/' :: (authority ++ tail)) = (authority, tail) :=
  Prod.ext (takeWhile_append_of_stop inside stop) (dropWhile_append_of_stop inside stop)

/-- A text that does not begin with two slashes has no authority. -/
theorem splitAuthority_of_not_slashes {c d : Char} (h : ¬ (c = '/' ∧ d = '/')) (tail : List Char) :
    splitAuthority (c :: d :: tail) = ([], c :: d :: tail) := by
  unfold splitAuthority
  split
  · next he =>
    simp only [List.cons.injEq] at he
    exact absurd ⟨he.1, he.2.1⟩ h
  · rfl

/-- A text has an authority behind two slashes, or none. -/
theorem splitAuthority_cases (cs : List Char) :
    (∃ authority tail, (∀ c ∈ authority, isAuthorityChar c = true) ∧
        (∀ c ∈ tail.head?, isAuthorityChar c = false) ∧ cs = '/' :: '/' :: (authority ++ tail)) ∨
      splitAuthority cs = ([], cs) := by
  unfold splitAuthority
  split
  · next cs =>
    refine .inl ⟨cs.takeWhile isAuthorityChar, cs.dropWhile isAuthorityChar,
      fun c hc => List.mem_takeWhile_imp hc, head?_dropWhile_stop _ _, ?_⟩
    rw [List.takeWhile_append_dropWhile]
  · exact .inr rfl

/-! ## The last occurrence of a character -/

theorem splitAtLast_append {c : Char} {before after : List Char} (last : c ∉ after) :
    splitAtLast c (before ++ c :: after) = some (before, after) := by
  have tail : ((before ++ c :: after).reverse.takeWhile (· != c)).reverse = after := by
    rw [List.reverse_append, List.reverse_cons, List.append_assoc, List.singleton_append]
    have inside : ∀ a ∈ after.reverse, (a != c) = true := by
      intro a ha
      have : a ≠ c := fun h => last (h ▸ List.mem_reverse.mp ha)
      simpa using this
    rw [takeWhile_append_of_stop inside (by simp), List.reverse_reverse]
  have front : (before ++ c :: after).length - after.length - 1 = before.length := by
    simp only [List.length_append, List.length_cons]
    omega
  unfold splitAtLast
  rw [if_pos (by simp), tail]
  dsimp only
  rw [front, List.take_left]

/-- The last occurrence of a character cuts a text, or there is none. -/
theorem splitAtLast_cases (c : Char) (cs : List Char) :
    (∃ before after, c ∉ after ∧ cs = before ++ c :: after) ∨ splitAtLast c cs = none := by
  by_cases h : c ∈ cs
  · obtain ⟨after, before, hr, last⟩ := List.eq_append_cons_of_mem (List.mem_reverse.mpr h)
    refine .inl ⟨before.reverse, after.reverse, by simpa using last, ?_⟩
    rw [← List.reverse_reverse cs, hr]
    simp
  · refine .inr ?_
    unfold splitAtLast
    rw [if_neg (by simpa using h)]

/-! ## Parts -/

/-- Texts with one scheme and the same behind their authorities are cut the same, but for these. -/
theorem Parts.split_congr {cs ds : List Char} (scheme : (splitScheme cs).1 = (splitScheme ds).1)
    (tail : (splitAuthority (splitScheme cs).2).2 = (splitAuthority (splitScheme ds).2).2) :
    Parts.split cs = { Parts.split ds with authority := (splitAuthority (splitScheme cs).2).1 } := by
  simp only [Parts.split, scheme, tail]

theorem Parts.scheme_split (cs : List Char) : (Parts.split cs).scheme = (splitScheme cs).1 := rfl

theorem Parts.authority_split (cs : List Char) :
    (Parts.split cs).authority = (splitAuthority (splitScheme cs).2).1 := rfl

end ClusterAccess.Url
