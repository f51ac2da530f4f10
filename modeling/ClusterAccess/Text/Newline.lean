/-!
# Line ends

Lines end with a line feed, a carriage return, or both. `unifyNewlines` writes every end of a line as a
line feed.
-/

namespace ClusterAccess.Text

/-- The text with a line feed at the end of each line. -/
def unifyNewlines : List Char → List Char
  | [] => []
  | '\r' :: '\n' :: cs => '\n' :: unifyNewlines cs
  | c :: cs => (if c = '\r' then '\n' else c) :: unifyNewlines cs

/-- No carriage return is left. -/
theorem not_mem_unifyNewlines (cs : List Char) : '\r' ∉ unifyNewlines cs := by
  fun_induction unifyNewlines cs with
  | case1 => simp
  | case2 cs ih => simpa using ih
  | case3 c cs _ ih =>
    by_cases h : c = '\r' <;> simp [h, ih]
    exact fun hc => h hc.symm

/-- A text without carriage returns stays as it is. -/
theorem unifyNewlines_eq_self {cs : List Char} (h : '\r' ∉ cs) : unifyNewlines cs = cs := by
  fun_induction unifyNewlines cs with
  | case1 => rfl
  | case2 cs ih => simp at h
  | case3 c cs _ ih =>
    have hc : c ≠ '\r' := fun hc => h (by simp [hc])
    simp [hc, ih fun hcs => h (List.mem_cons_of_mem c hcs)]

end ClusterAccess.Text
