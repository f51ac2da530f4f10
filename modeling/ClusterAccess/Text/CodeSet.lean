/-!
# Sets of code points, and maps on them

Character properties come as ascending intervals of code points. A table is kept as a text of
entries: blanks separate the entries, hyphens separate the hexadecimal numbers of an entry.
`Entries.ofText` reads such a text, `CodeSet` is a table of intervals `first-last` (or a single
code point), and `CodeSet.contains` finds the only interval that can hold a code point by halving.
-/

namespace ClusterAccess.Text

/-- The value of a hexadecimal digit. -/
def hexValue? (c : Char) : Option Nat :=
  let n := c.toNat
  if 48 ≤ n && n ≤ 57 then some (n - 48)
  else if 97 ≤ n && n ≤ 102 then some (n - 87)
  else if 65 ≤ n && n ≤ 70 then some (n - 55)
  else none

/-- Entries being read from a table text: the finished ones, the finished numbers of the open
entry, and the value of the open number. -/
structure Entries where
  finished : Array (Array Nat)
  numbers : Array Nat
  number : Option Nat

namespace Entries

def empty : Entries := ⟨#[], #[], none⟩

/-- The open number joins the open entry. -/
def closeNumber (e : Entries) : Entries :=
  match e.number with
  | some n => { e with numbers := e.numbers.push n, number := none }
  | none => e

/-- The open entry joins the finished ones. -/
def closeEntry (e : Entries) : Entries :=
  let e := e.closeNumber
  if e.numbers.isEmpty then e else { e with finished := e.finished.push e.numbers, numbers := #[] }

def step (e : Entries) (c : Char) : Entries :=
  match hexValue? c with
  | some d => { e with number := some (e.number.getD 0 * 16 + d) }
  | none => if c = '-' then e.closeNumber else e.closeEntry

/-- The entries of a table text. -/
def ofText (s : String) : Array (Array Nat) :=
  (s.foldl step empty).closeEntry.finished

end Entries

/-- How many of the entries `a[lo]`, …, `a[hi - 1]`, together with the `lo` before them, start at or
below `n`, for entries that ascend by their first number. -/
def countStarts (a : Array (Array Nat)) (n lo hi : Nat) : Nat :=
  if lo < hi then
    let mid := (lo + hi) / 2
    if (a.getD mid #[]).getD 0 0 ≤ n then countStarts a n (mid + 1) hi else countStarts a n lo mid
  else lo
termination_by hi - lo

/-- The last entry that starts at or below `n`. -/
def entryAt? (a : Array (Array Nat)) (n : Nat) : Option (Array Nat) :=
  match countStarts a n 0 a.size with
  | 0 => none
  | k + 1 => a[k]?

/-- A set of code points, as ascending closed intervals. -/
structure CodeSet where
  spans : Array (Array Nat)

namespace CodeSet

def ofText (s : String) : CodeSet := ⟨Entries.ofText s⟩

/-- Membership: the last interval that starts at or below the code point reaches it. -/
def containsCode (s : CodeSet) (n : Nat) : Bool :=
  match entryAt? s.spans n with
  | some span => n ≤ span.getD 1 (span.getD 0 0)
  | none => false

def contains (s : CodeSet) (c : Char) : Bool := s.containsCode c.toNat

end CodeSet

end ClusterAccess.Text
