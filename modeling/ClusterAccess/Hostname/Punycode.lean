/-!
# Punycode

A text is written in letters, digits and hyphens: first its ASCII characters and a hyphen, then the
others as differences. A difference says how many steps separate an insertion from the one before
it, where a step moves to the next place and, behind the last place, to the next code point.
Differences are numerals in base 36 whose digits have thresholds that adapt to the size of the
differences so far.
-/

namespace ClusterAccess.Hostname.Punycode

/-- The threshold of the digit at place `j`, from 1 to 26. -/
def threshold (j bias : Nat) : Nat :=
  let t : Int := 36 * (j + 1) - (bias : Int)
  if t < 1 then 1 else if 26 < t then 26 else t.toNat

theorem threshold_pos (j bias : Nat) : 1 ≤ threshold j bias := by
  unfold threshold
  simp only
  split
  · omega
  · split <;> omega

theorem threshold_le (j bias : Nat) : threshold j bias ≤ 26 := by
  unfold threshold
  simp only
  split
  · omega
  · split <;> omega

/-- A difference scaled down below the limit, and the bias gained by scaling. -/
def scale (delta bias : Nat) : Nat × Nat :=
  if 455 < delta then scale (delta / 35) (bias + 36) else (delta, bias)
termination_by delta
decreasing_by exact Nat.div_lt_self (by omega) (by omega)

/-- The bias behind a difference; `count` is the length of the text then. -/
def adapt (delta : Nat) (first : Bool) (count : Nat) : Nat :=
  let delta := if first then delta / 700 else delta / 2
  let (delta, bias) := scale (delta + delta / count) 0
  bias + 36 * delta / (delta + 38)

/-- The bias before the first difference. -/
def initialBias : Nat := 72

def digitChar (d : Nat) : Char :=
  if d < 26 then Char.ofNat (97 + d) else Char.ofNat (22 + d)

def digitValue? (c : Char) : Option Nat :=
  let n := c.toNat
  if 97 ≤ n && n ≤ 122 then some (n - 97)
  else if 65 ≤ n && n ≤ 90 then some (n - 65)
  else if 48 ≤ n && n ≤ 57 then some (n - 22)
  else none

/-! ## Writing -/

/-- The digits of a difference, from place `j` on. -/
def digits (bias j n : Nat) : List Char :=
  let t := threshold j bias
  if n < t then [digitChar n]
  else digitChar (t + (n - t) % (36 - t)) :: digits bias (j + 1) ((n - t) / (36 - t))
termination_by n
decreasing_by
  have := threshold_pos j bias
  calc (n - threshold j bias) / (36 - threshold j bias)
      ≤ n - threshold j bias := Nat.div_le_self _ _
    _ < n := by omega

/-- Where writing stands: the digits so far, the open difference, the bias, and how many characters have
been placed. -/
structure Writer where
  out : List Char
  delta : Nat
  bias : Nat
  placed : Nat

/-- A place of the text is passed, or the character `code` at it is inserted. -/
def pass (basic code : Nat) (w : Writer) (c : Char) : Writer :=
  if c.toNat < code then { w with delta := w.delta + 1 }
  else if c.toNat = code then
    ⟨w.out ++ digits w.bias 0 w.delta, 0, adapt w.delta (w.placed = basic) (w.placed + 1), w.placed + 1⟩
  else w

/-- All characters of the given code points are inserted, in ascending order. -/
def insertAll (text : List Char) (basic : Nat) : List Nat → Nat → Writer → Writer
  | [], _, w => w
  | code :: codes, next, w =>
    let w := { w with delta := w.delta + (code - next) * (w.placed + 1) }
    let w := text.foldl (pass basic code) w
    insertAll text basic codes (code + 1) { w with delta := w.delta + 1 }

/-- A text in letters, digits and hyphens. -/
def encode (text : List Char) : List Char :=
  let basic := text.filter (·.toNat < 128)
  let codes := ((text.map Char.toNat).filter (128 ≤ ·)).mergeSort.eraseDups
  let w := insertAll text basic.length codes 128 ⟨[], 0, initialBias, basic.length⟩
  (if basic.isEmpty then [] else basic ++ ['-']) ++ w.out

/-! ## Reading -/

/-- A difference from place `j` on, where a digit counts `weight`, and what follows it. -/
def readDigits (bias j weight : Nat) : List Char → Option (Nat × List Char)
  | [] => none
  | c :: cs => do
    let d ← digitValue? c
    let t := threshold j bias
    if d < t then pure (d * weight, cs)
    else
      let (n, rest) ← readDigits bias (j + 1) (weight * (36 - t)) cs
      pure (d * weight + n, rest)

theorem readDigits_length {bias j weight : Nat} {cs rest : List Char} {n : Nat}
    (h : readDigits bias j weight cs = some (n, rest)) : rest.length < cs.length := by
  induction cs generalizing j weight n rest with
  | nil => simp [readDigits] at h
  | cons c cs ih =>
    simp only [readDigits, Option.bind_eq_bind, Option.bind_eq_some_iff] at h
    obtain ⟨d, _, h⟩ := h
    split at h
    · simp only [Option.pure_def, Option.some.injEq, Prod.mk.injEq] at h
      simp [← h.2]
    · obtain ⟨⟨m, r⟩, hr, h⟩ := Option.bind_eq_some_iff.1 h
      simp only [Option.pure_def, Option.some.injEq, Prod.mk.injEq] at h
      have := ih hr
      simp only [← h.2, List.length_cons]
      omega

/-- Code points that are characters. -/
def char? (n : Nat) : Option Char :=
  if n < 0xD800 || (0xDFFF < n && n < 0x110000) then some (Char.ofNat n) else none

/-- The text with the insertions that the digits describe. `steps` counts the steps since the first place
of code point 128. -/
def insertFrom (text : List Char) (code place bias : Nat) (first : Bool) (cs : List Char) :
    Option (List Char) :=
  if cs.isEmpty then some text
  else
    match h : readDigits bias 0 1 cs with
    | none => none
    | some (delta, rest) =>
      let steps := place + delta
      let code := code + steps / (text.length + 1)
      let place := steps % (text.length + 1)
      match char? code with
      | none => none
      | some c =>
        let text := text.take place ++ c :: text.drop place
        have := readDigits_length h
        insertFrom text code (place + 1) (adapt delta first text.length) false rest
termination_by cs.length

/-- The characters before the last hyphen, and those behind it. -/
def splitLastHyphen (cs : List Char) : List Char × List Char :=
  if cs.contains '-' then
    let tail := cs.reverse.takeWhile (· != '-')
    (cs.take (cs.length - tail.length - 1), tail.reverse)
  else ([], cs)

/-- The text that letters, digits and hyphens stand for. -/
def decode (cs : List Char) : Option (List Char) :=
  let (basic, rest) := splitLastHyphen cs
  insertFrom basic 128 0 initialBias true rest

end ClusterAccess.Hostname.Punycode
