/-!
# Blanks, trimming and splitting

`isBlank` is the class of white-space characters that separate words in every text this library
reads: the Unicode property, and the four information separators U+001C to U+001F. `strip` removes
blanks at both ends of a text, `squeeze` removes them everywhere, and `pieces` cuts a text at each
occurrence of a separator, keeping empty pieces.
-/

namespace ClusterAccess.Text

/-- White space, as a class of code points. -/
def isBlank (c : Char) : Bool :=
  let n := c.toNat
  (0x09 ≤ n && n ≤ 0x0D) || (0x1C ≤ n && n ≤ 0x20) || n == 0x85 || n == 0xA0 || n == 0x1680 ||
    (0x2000 ≤ n && n ≤ 0x200A) || n == 0x2028 || n == 0x2029 || n == 0x202F || n == 0x205F ||
    n == 0x3000

/-- The text without its leading blanks. -/
def stripLeft (cs : List Char) : List Char :=
  cs.dropWhile isBlank

/-- The text without its trailing blanks. -/
def stripRight (cs : List Char) : List Char :=
  (cs.reverse.dropWhile isBlank).reverse

/-- The text without the blanks at its ends. -/
def strip (cs : List Char) : List Char :=
  stripRight (stripLeft cs)

/-- The text without any blank. -/
def squeeze (cs : List Char) : List Char :=
  cs.filter (!isBlank ·)

section

variable {α : Type} [DecidableEq α]

/-- The pieces between occurrences of `sep`; there is always at least one. -/
def pieces (sep : α) : List α → List (List α)
  | [] => [[]]
  | c :: cs =>
    match pieces sep cs with
    | [] => [[c]]
    | p :: ps => if c = sep then [] :: p :: ps else (c :: p) :: ps

/-- The pieces put together again, with `sep` between neighbours. -/
def joinPieces (sep : α) : List (List α) → List α
  | [] => []
  | [p] => p
  | p :: ps => p ++ sep :: joinPieces sep ps

theorem pieces_ne_nil (sep : α) (cs : List α) : pieces sep cs ≠ [] := by
  cases cs with
  | nil => simp [pieces]
  | cons c cs =>
    unfold pieces
    split
    · simp
    · split <;> simp

/-- Cutting at a separator and putting the pieces together again changes nothing. -/
theorem joinPieces_pieces (sep : α) (cs : List α) : joinPieces sep (pieces sep cs) = cs := by
  induction cs with
  | nil => rfl
  | cons c cs ih =>
    unfold pieces
    split
    · rename_i h; exact absurd h (pieces_ne_nil sep cs)
    · rename_i p ps h
      rw [h] at ih
      split
      · rename_i hc; subst hc; simp [joinPieces, ih]
      · cases ps with
        | nil => simpa [joinPieces] using ih
        | cons q qs => simpa [joinPieces] using ih

end

/-- The text with every occurrence of `old` replaced by `new`. -/
def replaceChar (old new : Char) (cs : List Char) : List Char :=
  cs.map fun c => if c = old then new else c

end ClusterAccess.Text
