/-!
# Arithmetic modulo a number

Powers by repeated squaring, and inverses modulo a prime.
-/

namespace ClusterAccess.Crypto

/-- `total * base ^ e` modulo `m`, for an exponent of at most `bits` bits. -/
def powModFrom (m : Nat) : Nat → Nat → Nat → Nat → Nat
  | 0, _, _, total => total % m
  | bits + 1, base, e, total =>
    powModFrom m bits (base * base % m) (e / 2) (if e % 2 = 1 then total * base % m else total)

/-- `base ^ e` modulo `m`. -/
def powMod (base e m : Nat) : Nat := powModFrom m (Nat.log2 e + 1) (base % m) e 1

/-- The difference of two remainders modulo `m`. -/
def subMod (a b m : Nat) : Nat := (a + (m - b % m)) % m

/-- The inverse modulo a prime. -/
def inverseMod (a p : Nat) : Nat := powMod a (p - 2) p

theorem powModFrom_eq (m bits base e total : Nat) (h : e < Nat.pow 2 bits) :
    powModFrom m bits base e total = total * Nat.pow base e % m := by
  simp only [Nat.pow_eq] at h ⊢
  induction bits generalizing base e total with
  | zero =>
    have : e = 0 := by omega
    subst this
    simp [powModFrom]
  | succ bits ih =>
    rw [Nat.pow_succ] at h
    rw [powModFrom, ih _ _ _ (by omega)]
    have key : Nat.pow base e = Nat.pow (base * base) (e / 2) * Nat.pow base (e % 2) := by
      simp only [Nat.pow_eq]
      rw [← Nat.pow_two, ← Nat.pow_mul, ← Nat.pow_add, Nat.div_add_mod]
    simp only [Nat.pow_eq] at key
    rcases Nat.mod_two_eq_zero_or_one e with h0 | h1
    · rw [if_neg (by omega), key, h0, Nat.pow_zero, Nat.mul_one, Nat.mul_mod, ← Nat.pow_mod,
        ← Nat.mul_mod]
    · rw [if_pos h1, key, h1, Nat.pow_one, Nat.mul_mod, Nat.mod_mod, ← Nat.pow_mod, ← Nat.mul_mod]
      congr 1
      ac_rfl

/-- Repeated squaring computes powers. -/
theorem powMod_eq (base e m : Nat) : powMod base e m = Nat.pow base e % m := by
  unfold powMod
  rw [powModFrom_eq _ _ _ _ _ (Nat.lt_log2_self), Nat.one_mul]
  simp only [Nat.pow_eq]
  rw [← Nat.pow_mod]

end ClusterAccess.Crypto
