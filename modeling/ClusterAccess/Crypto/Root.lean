/-!
# Fractional bits of roots

The constants of the SHA-2 family are the first bits behind the point of the square and cube roots
of the first primes. `rootBits k bits n` takes such bits from the `k`-th root of `n`.
-/

namespace ClusterAccess.Crypto

/-- The greatest number below `bound` bits whose `k`-th power is at most `n`, found bit by bit. -/
def rootBelow (k n : Nat) : Nat → Nat → Nat
  | 0, found => found
  | bit + 1, found =>
    let next := found + Nat.pow 2 bit
    rootBelow k n bit (if Nat.pow next k ≤ n then next else found)

/-- The first `bits` bits behind the point of the `k`-th root of a number below 2^32. -/
def rootBits (k bits n : Nat) : Nat :=
  rootBelow k (n * Nat.pow 2 (k * bits)) (bits + 32) 0 % Nat.pow 2 bits

def isPrime (n : Nat) : Bool :=
  2 ≤ n && (List.range n).all fun d => d < 2 || n % d != 0

/-- The first primes, as many as asked for, among the numbers below 500. -/
def primes (count : Nat) : List Nat := ((List.range 500).filter isPrime).take count

theorem rootBelow_pow_le (k n bit found : Nat) (h : Nat.pow found k ≤ n) :
    Nat.pow (rootBelow k n bit found) k ≤ n := by
  induction bit generalizing found with
  | zero => exact h
  | succ bit ih =>
    unfold rootBelow
    apply ih
    split
    · assumption
    · exact h

end ClusterAccess.Crypto
