import ClusterAccess.Failure
import ClusterAccess.Text.Base64
import Mathlib.Data.Bool.AllAny
import Mathlib.Data.Nat.Bitwise
import Mathlib.Data.Nat.ModEq

/-!
# What base64 texts stand for

A digit stands for six bits, its place in the `alphabet`, and the bytes of a text are cut off from the bits of
its digits in a row (`Spells`). No digit that is pushed into the open group loses a bit (`Group.pending_push`),
so decoding accepts digits and padding in strict form, and gives the bytes that they spell (`decode_eq_ok`).
What is encoded is in strict form, so every byte string comes back from its encoding (`decode_encode`).
-/

namespace ClusterAccess

namespace Bytes

/-! ## Bits -/

/-- The lowest `width` bits of a number, the highest of them first. -/
def bitsOf (width v : Nat) : List Bool := (List.range width).map fun i => v.testBit (width - 1 - i)

/-- The bits of a byte string in a row. -/
def bits (b : Bytes) : List Bool := b.flatMap fun x => bitsOf 8 x.toNat

@[simp] theorem length_bitsOf (width v : Nat) : (bitsOf width v).length = width := by simp [bitsOf]

@[simp] theorem length_bits (b : Bytes) : b.bits.length = 8 * b.length := by
  simp [bits, List.length_flatMap, List.map_const', Nat.mul_comm]

@[simp] theorem bits_nil : bits [] = [] := rfl

@[simp] theorem bits_cons (x : UInt8) (b : Bytes) : bits (x :: b) = bitsOf 8 x.toNat ++ bits b := rfl

theorem bits_append (b c : Bytes) : bits (b ++ c) = bits b ++ bits c := List.flatMap_append

theorem bitsOf_add (m n v : Nat) : bitsOf (m + n) v = bitsOf m (v / 2 ^ n) ++ bitsOf n v := by
  unfold bitsOf
  rw [List.range_add, List.map_append, List.map_map]
  congr 1
  · apply List.map_congr_left
    intro i hi
    have hi : i < m := List.mem_range.mp hi
    rw [Nat.testBit_div_two_pow]
    congr 1
    omega
  · apply List.map_congr_left
    intro i _
    simp only [Function.comp]
    congr 1
    omega

theorem bitsOf_mod (n v : Nat) : bitsOf n (v % 2 ^ n) = bitsOf n v := by
  unfold bitsOf
  apply List.map_congr_left
  intro i hi
  have hi : i < n := List.mem_range.mp hi
  rw [Nat.testBit_mod_two_pow, decide_eq_true (by omega), Bool.true_and]

/-- The bits of two numbers in a row are those of one. -/
theorem bitsOf_append {n w : Nat} (m v : Nat) (h : w < 2 ^ n) :
    bitsOf m v ++ bitsOf n w = bitsOf (m + n) (v * 2 ^ n + w) := by
  have low : (v * 2 ^ n + w) % 2 ^ n = w := by rw [Nat.mul_comm, Nat.mul_add_mod, Nat.mod_eq_of_lt h]
  have high : (v * 2 ^ n + w) / 2 ^ n = v := by
    rw [Nat.mul_comm, Nat.mul_add_div (Nat.two_pow_pos n), Nat.div_eq_of_lt h, Nat.add_zero]
  rw [bitsOf_add, high, ← bitsOf_mod n (v * 2 ^ n + w), low]

theorem bitsOf_inj {n v w : Nat} (hv : v < 2 ^ n) (hw : w < 2 ^ n) (h : bitsOf n v = bitsOf n w) :
    v = w := by
  apply Nat.eq_of_testBit_eq
  intro i
  by_cases hi : i < n
  · have := List.map_inj_left.mp h (n - 1 - i) (List.mem_range.mpr (by omega))
    rwa [show n - 1 - (n - 1 - i) = i by omega] at this
  · have bound : 2 ^ n ≤ 2 ^ i := Nat.pow_le_pow_right (by decide) (by omega)
    rw [Nat.testBit_lt_two_pow (by omega), Nat.testBit_lt_two_pow (by omega)]

/-- Bytes can be read off from their bits, up to less than a byte at the end. -/
theorem exists_eq_append_of_bits {b c : Bytes} {x rest : List Bool} (h : bits c ++ x = bits b ++ rest)
    (short : rest.length < 8) : ∃ d, b = c ++ d ∧ x = bits d ++ rest := by
  induction c generalizing b with
  | nil => exact ⟨b, rfl, h⟩
  | cons y c ih =>
    cases b with
    | nil =>
      have lengths := congrArg List.length h
      simp only [bits_cons, List.length_append, length_bitsOf, length_bits, bits_nil, List.nil_append] at lengths
      omega
    | cons z b =>
      simp only [bits_cons, List.append_assoc] at h
      obtain ⟨same, more⟩ := List.append_inj h (by simp)
      obtain rfl := UInt8.toNat_inj.mp (bitsOf_inj y.toNat_lt z.toNat_lt same)
      obtain ⟨d, rfl, hx⟩ := ih more
      exact ⟨d, rfl, hx⟩

theorem bits_ofNat {n : Nat} (h : n < 256) : bits [UInt8.ofNat n] = bitsOf 8 n := by
  rw [bits_cons, UInt8.toNat_ofNat_of_lt' h, bits_nil, List.append_nil]

end Bytes

namespace Base64

open Bytes (bitsOf bitsOf_append)

/-! ## Digits -/

/-- The digits, each at the place that is its value. -/
def alphabet : List Char := "ABCDEFGHIJKLMNOPQRSTUVWXYZabcdefghijklmnopqrstuvwxyz0123456789+/".toList

theorem alphabet_eq : alphabet = (List.range 64).map digit := by decide

theorem sextet?_digit : ∀ v < 64, sextet? (digit v) = some v := by decide

theorem length_alphabet : alphabet.length = 64 := by simp [alphabet_eq]

theorem getElem?_alphabet {v : Nat} {c : Char} : alphabet[v]? = some c ↔ v < 64 ∧ c = digit v := by
  rw [alphabet_eq, List.getElem?_map, Option.map_eq_some_iff]
  simp only [List.getElem?_eq_some_iff, List.getElem_range, List.length_range]
  constructor
  · rintro ⟨a, ⟨h, rfl⟩, rfl⟩
    exact ⟨h, rfl⟩
  · rintro ⟨h, rfl⟩
    exact ⟨v, ⟨h, rfl⟩, rfl⟩

theorem eq_digit_of_sextet? {c : Char} {v : Nat} (h : sextet? c = some v) : v < 64 ∧ c = digit v := by
  unfold sextet? at h
  simp only [Bool.and_eq_true, decide_eq_true_eq] at h
  split at h
  · next hc =>
    cases h
    refine ⟨by omega, ?_⟩
    rw [digit, if_pos (by omega), show 65 + (c.toNat - 65) = c.toNat by omega, Char.ofNat_toNat]
  · split at h
    · next hc =>
      cases h
      refine ⟨by omega, ?_⟩
      rw [digit, if_neg (by omega), if_pos (by omega), show 71 + (c.toNat - 71) = c.toNat by omega,
        Char.ofNat_toNat]
    · split at h
      · next hc =>
        cases h
        refine ⟨by omega, ?_⟩
        rw [digit, if_neg (by omega), if_neg (by omega), if_pos (by omega),
          show c.toNat + 4 - 4 = c.toNat by omega, Char.ofNat_toNat]
      · split at h
        · next hc =>
          cases h
          exact ⟨by decide, hc⟩
        · split at h
          · next hc =>
            cases h
            exact ⟨by decide, hc⟩
          · cases h

/-- The value of a digit is its place in the alphabet. -/
theorem sextet?_eq_some {c : Char} {v : Nat} : sextet? c = some v ↔ alphabet[v]? = some c := by
  rw [getElem?_alphabet]
  constructor
  · exact eq_digit_of_sextet?
  · rintro ⟨h, rfl⟩
    exact sextet?_digit v h

theorem sextet?_eq_none {c : Char} : sextet? c = none ↔ c ∉ alphabet := by
  rw [Option.eq_none_iff_forall_ne_some, List.mem_iff_getElem?, not_exists]
  exact forall_congr' fun v => not_congr sextet?_eq_some

theorem sextet?_of_mem {c : Char} (h : c ∈ alphabet) :
    alphabet.idxOf c < 64 ∧ sextet? c = some (alphabet.idxOf c) := by
  have place : alphabet.idxOf c < alphabet.length := List.idxOf_lt_length_iff.mpr h
  refine ⟨length_alphabet ▸ place, sextet?_eq_some.mpr ?_⟩
  rw [List.getElem?_eq_getElem place, List.getElem_idxOf place]

theorem pad_not_mem_alphabet : '=' ∉ alphabet := sextet?_eq_none.mp (by decide)

/-- The bits of digits in a row; a digit stands for its place in the alphabet. -/
def digitBits (ds : List Char) : List Bool := ds.flatMap fun c => bitsOf 6 (alphabet.idxOf c)

@[simp] theorem length_digitBits (ds : List Char) : (digitBits ds).length = 6 * ds.length := by
  simp [digitBits, List.length_flatMap, List.map_const', Nat.mul_comm]

theorem digitBits_cons (c : Char) (ds : List Char) :
    digitBits (c :: ds) = bitsOf 6 (alphabet.idxOf c) ++ digitBits ds := rfl

/-! ## The open group -/

namespace Group

/-- The bits of the digits of the group that no byte has yet. -/
def pending (g : Group) : List Bool := bitsOf (6 * g.digits % 8) g.rest

/-- A group as decoding meets it: it is not complete, and padding is counted only behind its second digit. -/
structure Sound (g : Group) : Prop where
  digits : g.digits < 4
  rest : g.rest < 2 ^ (6 * g.digits % 8)
  pads : g.pads = 0 ∨ 2 ≤ g.digits ∧ g.digits + g.pads < 4
  padded : g.padded = false → g.pads = 0

theorem sound_start : start.Sound := ⟨by decide, by decide, .inl rfl, fun _ => rfl⟩

variable {g : Group}

theorem Sound.push (h : g.Sound) {v : Nat} (hv : v < 64) : (g.push v).Sound := by
  obtain ⟨digits, rest, pads, padded, groups⟩ := g
  match digits, h.digits with
  | 0, _ => constructor <;> simp [Group.push, hv]
  | 1, _ => constructor <;> simp [Group.push, Nat.mod_lt]
  | 2, _ => constructor <;> simp [Group.push, Nat.mod_lt]
  | 3, _ => constructor <;> simp [Group.push]

theorem digits_push (h : g.Sound) (v : Nat) : (g.push v).digits = (g.digits + 1) % 4 := by
  obtain ⟨digits, rest, pads, padded, groups⟩ := g
  match digits, h.digits with
  | 0, _ | 1, _ | 2, _ | 3, _ => simp [push]

@[simp] theorem pads_push (g : Group) (v : Nat) : (g.push v).pads = 0 := by
  unfold push
  split <;> rfl

@[simp] theorem padded_push (g : Group) (v : Nat) : (g.push v).padded = g.padded := by
  unfold push
  split <;> rfl

/-- No bit of a further digit is lost, and none is added. -/
theorem pending_push (h : g.Sound) {v : Nat} (hv : v < 64) :
    g.pending ++ bitsOf 6 v = Bytes.bits (g.emit v) ++ (g.push v).pending := by
  obtain ⟨digits, rest, pads, padded, groups⟩ := g
  have hr := h.rest
  -- the open bits and the new ones are one number, which the byte and what is left over share
  match digits, h.digits with
  | 0, _ => rfl
  | 1, _ =>
    simp only [pending, push, emit, Nat.reduceMul, Nat.reduceMod] at hr ⊢
    rw [Bytes.bits_ofNat (by omega), bitsOf_append _ _ hv, bitsOf_append (n := 4) _ _ (by omega)]
    congr 1
    omega
  | 2, _ =>
    simp only [pending, push, emit, Nat.reduceMul, Nat.reduceMod] at hr ⊢
    rw [Bytes.bits_ofNat (by omega), bitsOf_append _ _ hv, bitsOf_append (n := 2) _ _ (by omega)]
    congr 1
    omega
  | 3, _ =>
    simp only [pending, push, emit, Nat.reduceMul, Nat.reduceMod] at hr ⊢
    rw [Bytes.bits_ofNat (by omega), bitsOf_append _ _ hv]
    rfl

end Group

/-! ## Decoding -/

/-- Padding of `k` characters completes the last group of `n` digits. Behind complete groups there may be any. -/
def Completes (n k : Nat) : Prop := n % 4 = 0 ∨ 2 ≤ n % 4 ∧ n % 4 + k = 4

theorem fault?_eq_none {g : Group} : g.fault? = none ↔ g.digits = 0 := by
  unfold Group.fault?
  split <;> simp_all

theorem Completes.congr {m n : Nat} (h : m % 4 = n % 4) (k : Nat) : Completes m k ↔ Completes n k := by
  simp only [Completes, h]

namespace Group

variable {g : Group}

theorem Sound.pad (h : g.Sound) (incomplete : g.completes = false) : g.pad.Sound := by
  have pads := h.pads
  simp only [completes, Bool.and_eq_false_iff, decide_eq_false_iff_not] at incomplete
  refine ⟨h.digits, h.rest, ?_, fun unpadded => by cases unpadded⟩
  simp only [Group.pad]
  split <;> omega

end Group

section

variable {g : Group} {cs : List Char} {b : Bytes}

theorem decodeFrom_padding (h : g.Sound) {k : Nat} :
    decodeFrom g (List.replicate k '=') = .ok b ↔ Completes g.digits (g.pads + k) ∧ b = [] := by
  induction k generalizing g with
  | zero =>
    have bound := h.digits
    have pads := h.pads
    rw [List.replicate_zero, decodeFrom]
    cases hf : g.fault? with
    | none =>
      rw [fault?_eq_none] at hf
      simp [Completes, hf, eq_comm]
    | some fault =>
      have open_ : g.digits ≠ 0 := fun hd => by rw [fault?_eq_none.mpr hd] at hf; cases hf
      simp only [reduceCtorEq, Completes, false_iff, not_and]
      omega
  | succ k ih =>
    have bound := h.digits
    have pads := h.pads
    rw [List.replicate_succ, decodeFrom, if_pos rfl]
    cases hc : g.completes with
    | true =>
      rw [if_pos rfl]
      simp only [Group.completes, Bool.and_eq_true, decide_eq_true_eq] at hc
      cases k with
      | zero =>
        simp only [List.replicate_zero, List.isEmpty_nil, if_true, Except.ok.injEq, Completes]
        constructor
        · rintro rfl
          exact ⟨by omega, rfl⟩
        · exact fun hb => hb.2.symm
      | succ k =>
        simp only [List.replicate_succ, List.isEmpty_cons, Bool.false_eq_true, if_false, Completes,
          reduceCtorEq, false_iff, not_and]
        omega
    | false =>
      rw [if_neg (by simp), ih (h.pad hc)]
      simp only [Group.completes, Bool.and_eq_false_iff, decide_eq_false_iff_not] at hc
      simp only [Group.pad, Completes]
      refine and_congr_left fun _ => ?_
      split <;> omega

/-- Behind padding there is nothing but padding. -/
theorem eq_replicate_of_decodeFrom (hp : g.padded = true ∨ cs.head? = some '=')
    (h : decodeFrom g cs = .ok b) : ∃ k, cs = List.replicate k '=' := by
  induction cs generalizing g with
  | nil => exact ⟨0, rfl⟩
  | cons c cs ih =>
    rw [decodeFrom] at h
    split at h
    · next hc =>
      subst hc
      split at h
      · split at h
        · next none => exact ⟨1, by rw [List.isEmpty_iff.mp none]; rfl⟩
        · cases h
      · obtain ⟨k, rfl⟩ := ih (.inl rfl) h
        exact ⟨k + 1, rfl⟩
    · next hc =>
      have padded : g.padded = true := hp.resolve_right (by simp [hc])
      rw [padded] at h
      split at h <;> cases h

theorem decodeFrom_digit {c : Char} (hc : c ∈ alphabet) :
    decodeFrom g (c :: cs) = .ok b ↔
      g.padded = false ∧ ∃ bs, decodeFrom (g.push (alphabet.idxOf c)) cs = .ok bs ∧
        b = g.emit (alphabet.idxOf c) ++ bs := by
  have ne : c ≠ '=' := fun h => pad_not_mem_alphabet (h ▸ hc)
  rw [decodeFrom, if_neg ne, (sextet?_of_mem hc).2]
  cases hp : g.padded with
  | true => simp
  | false =>
    simp only [Bool.false_eq_true, if_false, true_and]
    constructor
    · intro h
      obtain ⟨bs, hbs, h⟩ := Except.bind_eq_ok.mp h
      cases h
      exact ⟨bs, hbs, rfl⟩
    · rintro ⟨bs, hbs, rfl⟩
      rw [hbs]
      rfl

theorem mem_alphabet_of_decodeFrom {c : Char} (ne : c ≠ '=') (h : decodeFrom g (c :: cs) = .ok b) :
    c ∈ alphabet := by
  by_contra foreign
  rw [decodeFrom, if_neg ne, sextet?_eq_none.mpr foreign] at h
  cases h

/-- Digits and `k` padding characters complete the group, and every byte takes the next eight bits. -/
structure Group.Reads (g : Group) (ds : List Char) (k : Nat) (b : Bytes) : Prop where
  digits : ∀ c ∈ ds, c ∈ alphabet ∧ g.padded = false
  complete : Completes (g.digits + ds.length) (g.pads + k)
  bits : ∃ rest, g.pending ++ digitBits ds = Bytes.bits b ++ rest ∧ rest.length < 8

namespace Group

variable {ds : List Char} {k : Nat}

theorem reads_nil : g.Reads [] k b ↔ Completes g.digits (g.pads + k) ∧ b = [] := by
  constructor
  · rintro ⟨-, complete, rest, hb, -⟩
    have lengths := congrArg List.length hb
    simp only [pending, digitBits, List.flatMap_nil, List.append_nil, Bytes.length_bitsOf,
      List.length_append, Bytes.length_bits] at lengths
    exact ⟨complete, List.length_eq_zero_iff.mp (by omega)⟩
  · rintro ⟨complete, rfl⟩
    refine ⟨by simp, complete, g.pending, List.append_nil _, ?_⟩
    rw [pending, Bytes.length_bitsOf]
    exact Nat.mod_lt _ (by decide)

theorem reads_cons (h : g.Sound) {c : Char} (hc : c ∈ alphabet) (unpadded : g.padded = false) :
    g.Reads (c :: ds) k b ↔
      ∃ bs, (g.push (alphabet.idxOf c)).Reads ds k bs ∧ b = g.emit (alphabet.idxOf c) ++ bs := by
  have place := (sextet?_of_mem hc).1
  have count : (g.digits + 1) % 4 + ds.length ≡ g.digits + (c :: ds).length [MOD 4] := by
    simp only [Nat.ModEq, List.length_cons]
    omega
  have shift : g.pending ++ digitBits (c :: ds) = Bytes.bits (g.emit (alphabet.idxOf c)) ++
      ((g.push (alphabet.idxOf c)).pending ++ digitBits ds) := by
    rw [digitBits_cons, ← List.append_assoc, pending_push h place, List.append_assoc]
  constructor
  · rintro ⟨digits, complete, rest, hb, short⟩
    rw [shift] at hb
    obtain ⟨bs, rfl, tail⟩ := Bytes.exists_eq_append_of_bits hb short
    refine ⟨bs, ⟨?_, ?_, rest, tail, short⟩, rfl⟩
    · simpa using fun x hx => digits x (List.mem_cons_of_mem c hx)
    · rw [digits_push h, pads_push]
      rw [h.padded unpadded] at complete
      exact (Completes.congr count _).mpr complete
  · rintro ⟨bs, ⟨digits, complete, rest, hb, short⟩, rfl⟩
    refine ⟨?_, ?_, rest, ?_, short⟩
    · simpa [hc, unpadded] using digits
    · rw [h.padded unpadded]
      rw [digits_push h, pads_push] at complete
      exact (Completes.congr count _).mp complete
    · rw [shift, hb, Bytes.bits_append, List.append_assoc]

/-- Whatever digits a group can take stand for bytes. -/
theorem exists_reads (h : g.Sound) (digits : ∀ c ∈ ds, c ∈ alphabet ∧ g.padded = false)
    (complete : Completes (g.digits + ds.length) (g.pads + k)) : ∃ b, g.Reads ds k b := by
  induction ds generalizing g with
  | nil => exact ⟨[], reads_nil.mpr ⟨complete, rfl⟩⟩
  | cons c ds ih =>
    obtain ⟨hc, unpadded⟩ := digits c List.mem_cons_self
    have count : (g.digits + 1) % 4 + ds.length ≡ g.digits + (c :: ds).length [MOD 4] := by
      simp only [Nat.ModEq, List.length_cons]
      omega
    obtain ⟨bs, hbs⟩ := ih (h.push (sextet?_of_mem hc).1)
      (by simpa using fun x hx => digits x (List.mem_cons_of_mem c hx)) (by
        rw [digits_push h, pads_push]
        rw [h.padded unpadded] at complete
        exact (Completes.congr count _).mpr complete)
    exact ⟨_, (reads_cons h hc unpadded).mpr ⟨bs, hbs, rfl⟩⟩

end Group

/-- Decoding accepts digits and the padding that completes them, and nothing else. -/
theorem decodeFrom_eq_ok (h : g.Sound) :
    decodeFrom g cs = .ok b ↔ ∃ ds k, cs = ds ++ List.replicate k '=' ∧ g.Reads ds k b := by
  induction cs generalizing g b with
  | nil =>
    constructor
    · intro hb
      exact ⟨[], 0, rfl, Group.reads_nil.mpr ((decodeFrom_padding h (k := 0)).mp hb)⟩
    · rintro ⟨ds, k, hcs, reads⟩
      obtain ⟨rfl, hk⟩ := List.append_eq_nil_iff.mp hcs.symm
      rw [← hk, decodeFrom_padding h, ← Group.reads_nil]
      exact reads
  | cons c cs ih =>
    by_cases hc : c = '='
    · subst hc
      constructor
      · intro hb
        obtain ⟨k, hk⟩ := eq_replicate_of_decodeFrom (.inr rfl) hb
        rw [hk, decodeFrom_padding h, ← Group.reads_nil] at hb
        exact ⟨[], k, hk, hb⟩
      · rintro ⟨ds, k, hcs, reads⟩
        cases ds with
        | nil => rwa [hcs, List.nil_append, decodeFrom_padding h, ← Group.reads_nil]
        | cons d ds =>
          obtain ⟨rfl, -⟩ := List.cons_eq_cons.mp hcs
          exact absurd (reads.digits _ List.mem_cons_self).1 pad_not_mem_alphabet
    · constructor
      · intro hb
        have digit := mem_alphabet_of_decodeFrom hc hb
        obtain ⟨unpadded, bs, hbs, rfl⟩ := (decodeFrom_digit digit).mp hb
        obtain ⟨ds, k, rfl, reads⟩ := (ih (h.push (sextet?_of_mem digit).1)).mp hbs
        exact ⟨c :: ds, k, rfl, (Group.reads_cons h digit unpadded).mpr ⟨bs, reads, rfl⟩⟩
      · rintro ⟨ds, k, hcs, reads⟩
        cases ds with
        | nil =>
          cases k with
          | zero => cases hcs
          | succ k =>
            cases hcs
            exact absurd rfl hc
        | cons d ds =>
          obtain ⟨rfl, rfl⟩ := List.cons_eq_cons.mp hcs
          obtain ⟨digit, unpadded⟩ := reads.digits c List.mem_cons_self
          obtain ⟨bs, behind, rfl⟩ := (Group.reads_cons h digit unpadded).mp reads
          exact (decodeFrom_digit digit).mpr
            ⟨unpadded, bs, (ih (h.push (sextet?_of_mem digit).1)).mpr ⟨ds, k, rfl, behind⟩, rfl⟩

end

/-- Digits and padding in strict form: the padding completes the last group, and there is none without digits. -/
structure Strict (ds : List Char) (k : Nat) : Prop where
  digits : ∀ c ∈ ds, c ∈ alphabet
  complete : Completes ds.length k
  led : ds = [] → k = 0

/-- The bytes are the first of those that the bits of the digits make. -/
structure Spells (ds : List Char) (b : Bytes) : Prop where
  length : b.length = 3 * ds.length / 4
  bits : Bytes.bits b <+: digitBits ds

theorem reads_start {ds : List Char} {k : Nat} {b : Bytes} :
    Group.start.Reads ds k b ↔ (∀ c ∈ ds, c ∈ alphabet) ∧ Completes ds.length k ∧ Spells ds b := by
  constructor
  · rintro ⟨digits, complete, rest, hb, short⟩
    have hb : digitBits ds = Bytes.bits b ++ rest := hb
    have lengths := congrArg List.length hb
    simp only [length_digitBits, List.length_append, Bytes.length_bits] at lengths
    exact ⟨fun c hc => (digits c hc).1, by simpa [Group.start] using complete, by omega, rest, hb.symm⟩
  · rintro ⟨digits, complete, length, rest, hb⟩
    have lengths := congrArg List.length hb
    simp only [length_digitBits, List.length_append, Bytes.length_bits] at lengths
    exact ⟨fun c hc => ⟨digits c hc, rfl⟩, by simpa [Group.start] using complete, rest, hb.symm, by omega⟩

theorem toNat_le_of_mem_alphabet : ∀ c ∈ alphabet, c.toNat ≤ 127 := List.all_iff_forall_prop.mp (by decide)

/-- Strict decoding accepts digits and padding in strict form, and gives the bytes that the digits spell. -/
theorem decode_eq_ok {cs : List Char} {b : Bytes} :
    decode cs = .ok b ↔ ∃ ds k, cs = ds ++ List.replicate k '=' ∧ Strict ds k ∧ Spells ds b := by
  constructor
  · intro h
    unfold decode at h
    split at h
    · cases h
    · split at h
      · cases h
      · next led =>
        obtain ⟨ds, k, rfl, reads⟩ := (decodeFrom_eq_ok Group.sound_start).mp h
        obtain ⟨digits, complete, spells⟩ := reads_start.mp reads
        refine ⟨ds, k, rfl, ⟨digits, complete, ?_⟩, spells⟩
        rintro rfl
        cases k with
        | zero => rfl
        | succ k => exact absurd rfl led
  · rintro ⟨ds, k, rfl, strict, spells⟩
    have ascii : (ds ++ List.replicate k '=').any (127 < ·.toNat) = false := by
      simp only [List.any_eq_false, List.mem_append, decide_eq_true_eq, not_lt]
      rintro c (hc | hc)
      · exact toNat_le_of_mem_alphabet c (strict.digits c hc)
      · rw [List.eq_of_mem_replicate hc]
        decide
    have led : (ds ++ List.replicate k '=').head? ≠ some '=' := by
      cases ds with
      | nil => simp [strict.led rfl]
      | cons c ds =>
        intro hc
        obtain rfl : c = '=' := by simpa using hc
        exact pad_not_mem_alphabet (strict.digits _ List.mem_cons_self)
    rw [decode, ascii, if_neg (by simp), if_neg led, decodeFrom_eq_ok Group.sound_start]
    exact ⟨ds, k, rfl, reads_start.mpr ⟨strict.digits, strict.complete, spells⟩⟩

/-- Whatever is in strict form spells bytes. -/
theorem Strict.exists_spells {ds : List Char} {k : Nat} (h : Strict ds k) : ∃ b, Spells ds b := by
  have complete : Completes (Group.start.digits + ds.length) (Group.start.pads + k) := by
    simpa [Group.start] using h.complete
  obtain ⟨b, reads⟩ := Group.exists_reads Group.sound_start (fun c hc => ⟨h.digits c hc, rfl⟩) complete
  exact ⟨b, (reads_start.mp reads).2.2⟩

/-! ## Encoding -/

theorem digit_mem_alphabet {v : Nat} (h : v < 64) : digit v ∈ alphabet :=
  List.mem_of_getElem? (getElem?_alphabet.mpr ⟨h, rfl⟩)

theorem digitBits_digit {v : Nat} (h : v < 64) (ds : List Char) :
    digitBits (digit v :: ds) = bitsOf 6 v ++ digitBits ds := by
  have place := (sextet?_of_mem (digit_mem_alphabet h)).2
  rw [sextet?_digit v h, Option.some.injEq] at place
  rw [digitBits_cons, ← place]

theorem Strict.cons_group {v w x y : Nat} (hv : v < 64) (hw : w < 64) (hx : x < 64) (hy : y < 64)
    {ds : List Char} {k : Nat} (h : Strict ds k) :
    Strict (digit v :: digit w :: digit x :: digit y :: ds) k where
  digits := by
    simp only [List.mem_cons, forall_eq_or_imp]
    exact ⟨digit_mem_alphabet hv, digit_mem_alphabet hw, digit_mem_alphabet hx, digit_mem_alphabet hy,
      h.digits⟩
  complete := (Completes.congr (by simp only [List.length_cons]; omega) k).mp h.complete
  led := nofun

/-- What is encoded is in strict form, and spells the bytes. -/
theorem exists_strict_encode (b : Bytes) :
    ∃ ds k, encode b = ds ++ List.replicate k '=' ∧ Strict ds k ∧ Spells ds b := by
  fun_induction encode b with
  | case1 => exact ⟨[], 0, rfl, ⟨by simp, .inl rfl, fun _ => rfl⟩, ⟨rfl, List.prefix_rfl⟩⟩
  | case2 a n =>
    have ha : a.toNat < 2 ^ 8 := a.toNat_lt
    have hv : n / 64 < 64 := by omega
    have hw : n % 64 < 64 := by omega
    refine ⟨[digit (n / 64), digit (n % 64)], 2, rfl, ⟨?_, .inr (by simp), nofun⟩, by simp, bitsOf 4 0, ?_⟩
    · simp only [List.mem_cons, List.not_mem_nil, or_false, forall_eq_or_imp, forall_eq]
      exact ⟨digit_mem_alphabet hv, digit_mem_alphabet hw⟩
    · rw [digitBits_digit hv, digitBits_digit hw]
      simp only [digitBits, Bytes.bits_cons, Bytes.bits_nil, List.flatMap_nil, List.append_nil]
      rw [bitsOf_append _ _ (by decide), bitsOf_append _ _ hw]
      congr 1
      omega
  | case3 a b n =>
    have ha : a.toNat < 2 ^ 8 := a.toNat_lt
    have hb : b.toNat < 2 ^ 8 := b.toNat_lt
    have hv : n / 4096 < 64 := by omega
    have hw : n / 64 % 64 < 64 := by omega
    have hx : n % 64 < 64 := by omega
    refine ⟨[digit (n / 4096), digit (n / 64 % 64), digit (n % 64)], 1, rfl, ⟨?_, .inr (by simp), nofun⟩,
      by simp, bitsOf 2 0, ?_⟩
    · simp only [List.mem_cons, List.not_mem_nil, or_false, forall_eq_or_imp, forall_eq]
      exact ⟨digit_mem_alphabet hv, digit_mem_alphabet hw, digit_mem_alphabet hx⟩
    · rw [digitBits_digit hv, digitBits_digit hw, digitBits_digit hx]
      simp only [digitBits, Bytes.bits_cons, Bytes.bits_nil, List.flatMap_nil, List.append_nil,
        ← List.append_assoc]
      rw [bitsOf_append _ _ hb, bitsOf_append _ _ (by decide), bitsOf_append _ _ hw, bitsOf_append _ _ hx]
      congr 1
      omega
  | case4 a b c rest n ih =>
    obtain ⟨ds, k, hr, strict, spells⟩ := ih
    have ha : a.toNat < 2 ^ 8 := a.toNat_lt
    have hb : b.toNat < 2 ^ 8 := b.toNat_lt
    have hc : c.toNat < 2 ^ 8 := c.toNat_lt
    have hv : n / 262144 < 64 := by omega
    have hw : n / 4096 % 64 < 64 := by omega
    have hx : n / 64 % 64 < 64 := by omega
    have hy : n % 64 < 64 := by omega
    refine ⟨_, k, by rw [hr]; rfl, strict.cons_group hv hw hx hy, ?_, ?_⟩
    · simp only [List.length_cons, spells.length]
      omega
    · have same : bitsOf 8 a.toNat ++ bitsOf 8 b.toNat ++ bitsOf 8 c.toNat =
          bitsOf 6 (n / 262144) ++ bitsOf 6 (n / 4096 % 64) ++ bitsOf 6 (n / 64 % 64) ++ bitsOf 6 (n % 64) := by
        rw [bitsOf_append _ _ hb, bitsOf_append _ _ hc, bitsOf_append _ _ hw, bitsOf_append _ _ hx,
          bitsOf_append _ _ hy]
        congr 1
        omega
      rw [digitBits_digit hv, digitBits_digit hw, digitBits_digit hx, digitBits_digit hy]
      simp only [Bytes.bits_cons, ← List.append_assoc]
      rw [same]
      exact (List.prefix_append_right_inj _).mpr spells.bits

/-- Every byte string comes back from its encoding. -/
theorem decode_encode (b : Bytes) : decode (encode b) = .ok b := decode_eq_ok.mpr (exists_strict_encode b)

end Base64

end ClusterAccess
