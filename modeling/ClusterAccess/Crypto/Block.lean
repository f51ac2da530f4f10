import ClusterAccess.Text.Bytes

/-!
# Messages in blocks

Iterated hash functions work on messages padded to full blocks: a one bit, zeros, and the length in
bits at the end. `Crypto.groups` cuts a list into groups of equal length, and the word functions read
and write the bytes of words in both orders.
-/

namespace ClusterAccess.Crypto

/-- The groups of `n` consecutive items; the last may be shorter. -/
def groups {α : Type} (n : Nat) (xs : List α) : List (List α) :=
  if _h : xs = [] ∨ n = 0 then []
  else xs.take n :: groups n (xs.drop n)
termination_by xs.length
decreasing_by
  have : 0 < xs.length := List.length_pos_iff.mpr fun h' => _h (.inl h')
  have : n ≠ 0 := fun h' => _h (.inr h')
  simp only [List.length_drop]
  omega

/-- How many zero bytes stand between the one bit and the length. -/
def zeroBytes (block lengthBytes messageBytes : Nat) : Nat :=
  (block - (messageBytes + 1 + lengthBytes) % block) % block

/-- A message in full blocks, with its length in bits encoded as asked. -/
def padded (block lengthBytes : Nat) (encodeLength : Nat → Bytes) (message : Bytes) : Bytes :=
  message ++ 0x80 :: List.replicate (zeroBytes block lengthBytes message.length) 0 ++
    encodeLength (8 * message.length)

theorem length_padded (block lengthBytes : Nat) (encodeLength : Nat → Bytes) (message : Bytes)
    (h : 0 < block) (hl : (encodeLength (8 * message.length)).length = lengthBytes) :
    block ∣ (padded block lengthBytes encodeLength message).length := by
  simp only [padded, zeroBytes, List.length_append, List.length_cons, List.length_replicate, hl]
  have := Nat.mod_lt (message.length + 1 + lengthBytes) h
  apply Nat.dvd_of_mod_eq_zero
  rcases Nat.eq_zero_or_pos ((message.length + 1 + lengthBytes) % block) with h0 | h0
  · rw [h0, Nat.sub_zero, Nat.mod_self]
    rw [← h0]
    congr 1
    omega
  · rw [Nat.mod_eq_of_lt (by omega : block - (message.length + 1 + lengthBytes) % block < block)]
    have := Nat.div_add_mod (message.length + 1 + lengthBytes) block
    have e : message.length + (block - (message.length + 1 + lengthBytes) % block + 1) + lengthBytes =
        block * ((message.length + 1 + lengthBytes) / block + 1) := by
      rw [Nat.mul_add, Nat.mul_one]
      omega
    rw [e, Nat.mul_mod_right]

/-- The words of 32 bits in bytes of which the first is the most significant. -/
def words32 (b : Bytes) : Array UInt32 :=
  ((groups 4 b).map fun g => UInt32.ofNat (Bytes.toNat g)).toArray

/-- The words of 64 bits in bytes of which the first is the most significant. -/
def words64 (b : Bytes) : Array UInt64 :=
  ((groups 8 b).map fun g => UInt64.ofNat (Bytes.toNat g)).toArray

/-- The words of 32 bits in bytes of which the first is the least significant. -/
def words32Little (b : Bytes) : Array UInt32 :=
  ((groups 4 b).map fun g => UInt32.ofNat (Bytes.toNatLittle g)).toArray

/-- Bytes combined bit by bit, as far as both go. -/
def xorBytes (a b : Bytes) : Bytes := List.zipWith (· ^^^ ·) a b

end ClusterAccess.Crypto
