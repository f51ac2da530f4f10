/-!
# Byte strings

File contents, certificate material and response bodies are lists of bytes. A byte string is also a
natural number in base 256, with the most significant digit first (`toNat`, `ofNat`) or last
(`toNatLittle`, `ofNatLittle`).
-/

namespace ClusterAccess

/-- A byte string. -/
abbrev Bytes := List UInt8

namespace Bytes

/-- The natural number whose big-endian digits in base 256 are the bytes. -/
def toNat (b : Bytes) : Nat :=
  b.foldl (fun n x => n * 256 + x.toNat) 0

/-- The natural number whose little-endian digits in base 256 are the bytes. -/
def toNatLittle (b : Bytes) : Nat :=
  b.foldr (fun x n => n * 256 + x.toNat) 0

/-- The last `width` big-endian digits of `n` in base 256. -/
def ofNat (width n : Nat) : Bytes :=
  (List.range width).map fun i => UInt8.ofNat (n >>> (8 * (width - 1 - i)))

/-- The first `width` little-endian digits of `n` in base 256. -/
def ofNatLittle (width n : Nat) : Bytes :=
  (List.range width).map fun i => UInt8.ofNat (n >>> (8 * i))

/-- The UTF-8 bytes of a text. -/
def ofText (s : String) : Bytes :=
  s.toUTF8.toList

/-- The bytes of `part` occur in a row somewhere in `whole`. -/
def hasInfix (part : Bytes) : Bytes → Bool
  | [] => part.isEmpty
  | b :: bs => part.isPrefixOf (b :: bs) || hasInfix part bs

end Bytes

end ClusterAccess
