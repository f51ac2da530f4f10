import Mathlib.Data.List.TakeWhile

/-!
# Runs

A run of elements of one class ends before the first element that is in it no more. So a run that is put
before such an element is found again (`takeWhile_append_of_stop`), and so is what stands behind it
(`dropWhile_append_of_stop`).
-/

namespace ClusterAccess

variable {α : Type}

theorem takeWhile_append_of_stop {p : α → Bool} {before after : List α}
    (inside : ∀ a ∈ before, p a = true) (stop : ∀ a ∈ after.head?, p a = false) :
    (before ++ after).takeWhile p = before := by
  rw [List.takeWhile_append_of_pos inside]
  cases after with
  | nil => simp
  | cons a after => simp [stop a rfl]

theorem dropWhile_append_of_stop {p : α → Bool} {before after : List α}
    (inside : ∀ a ∈ before, p a = true) (stop : ∀ a ∈ after.head?, p a = false) :
    (before ++ after).dropWhile p = after := by
  rw [List.dropWhile_append_of_pos inside]
  cases after with
  | nil => rfl
  | cons a after => simp [stop a rfl]

/-- A run ends before a character that stops it. -/
theorem takeWhile_append_cons_of_neg {p : α → Bool} {a : α} (stop : p a = false)
    (before after : List α) : (before ++ a :: after).takeWhile p = before.takeWhile p := by
  induction before with
  | nil => simp [stop]
  | cons b before ih => simp [List.takeWhile_cons, ih]

theorem take_front {as front rest : List α} (h : as = front ++ rest) :
    as.take (as.length - rest.length) = front := by
  rw [h, List.length_append, Nat.add_sub_cancel, List.take_left]

theorem head?_dropWhile_stop (p : α → Bool) (as : List α) :
    ∀ a ∈ (as.dropWhile p).head?, p a = false := by
  intro a ha
  have h := List.head?_dropWhile_not p as
  rw [Option.mem_def.mp ha] at h
  exact h

end ClusterAccess
