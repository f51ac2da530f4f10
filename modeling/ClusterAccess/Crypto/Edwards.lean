import ClusterAccess.Crypto.Modular
import ClusterAccess.Crypto.Sha512
import ClusterAccess.Crypto.Shake

/-!
# Twisted Edwards curves

Curves `a x^2 + y^2 = 1 + d x^2 y^2` over a prime field. A private key is a seed; the public key is the
multiple of the base point that the hash of the seed names, encoded by its second coordinate and the
parity of the first.
-/

namespace ClusterAccess.Crypto

/-- A curve with its base point. -/
structure Edwards where
  prime : Nat
  a : Nat
  d : Nat
  baseX : Nat
  baseY : Nat
  deriving DecidableEq, Repr

namespace Edwards

/-- A point `(x / z, y / z)`. -/
structure Point where
  x : Nat
  y : Nat
  z : Nat

/-- The sum of two points, equal or not. -/
def add (c : Edwards) (p q : Point) : Point :=
  let m := c.prime
  let zz := p.z * q.z % m
  let b := zz * zz % m
  let xx := p.x * q.x % m
  let yy := p.y * q.y % m
  let e := c.d * (xx * yy % m) % m
  let f := subMod b e m
  let g := (b + e) % m
  ⟨zz * f % m * subMod ((p.x + p.y) * (q.x + q.y)) (xx + yy) m % m,
    zz * g % m * subMod yy (c.a * xx) m % m, f * g % m⟩

/-- `total` and a multiple of a point, for a factor of at most `bits` bits. -/
def multiplyFrom (c : Edwards) : Nat → Nat → Point → Point → Point
  | 0, _, _, total => total
  | bits + 1, n, p, total =>
    multiplyFrom c bits (n / 2) (c.add p p) (if n % 2 = 1 then c.add total p else total)

/-- A multiple of the base point as a pair of coordinates. -/
def multiple (c : Edwards) (n : Nat) : Nat × Nat :=
  let p := c.multiplyFrom (Nat.log2 n + 1) n ⟨c.baseX, c.baseY, 1⟩ ⟨0, 1, 1⟩
  let i := inverseMod p.z c.prime
  (p.x * i % c.prime, p.y * i % c.prime)

/-- A point in the given number of bytes, of which the last bit is free for the parity. -/
def encodePoint (bytes : Nat) (p : Nat × Nat) : Bytes :=
  Bytes.ofNatLittle bytes (p.2 + p.1 % 2 * Nat.pow 2 (8 * bytes - 1))

def curve25519 : Edwards where
  prime := Nat.pow 2 255 - 19
  a := Nat.pow 2 255 - 20
  d := 37095705934669439343138083508754565189542113879843219016388785533085940283555
  baseX := 15112221349535400772501151409588531511454012693041857206046113283949847762202
  baseY := 46316835694926478169428394003475163141307993866256225615783033603165251855960

def curve448 : Edwards where
  prime := Nat.pow 2 448 - Nat.pow 2 224 - 1
  a := 1
  d := Nat.pow 2 448 - Nat.pow 2 224 - 1 - 39081
  baseX :=
    0x4f1970c66bed0ded221d15a622bf36da9e146570470f1767ea6de324a3d3a46412ae1af72ab66511433b80e18b00938e2626a82bc70cc05e
  baseY :=
    0x693f46716eb6bc248876203756c9c7624bea73736ca3984087789c1e05a0c2d73ad3ff1ce67c39c4fdbd132c4ed7c8ad9808795bf230fa14

/-- The factor that 32 bytes of hash name: a multiple of eight with its highest bit at 254. -/
def factor25519 (b : Bytes) : Nat :=
  Bytes.toNatLittle (b.take 32) % Nat.pow 2 254 / 8 * 8 + Nat.pow 2 254

/-- The factor that 57 bytes of hash name: a multiple of four with its highest bit at 447. -/
def factor448 (b : Bytes) : Nat :=
  Bytes.toNatLittle (b.take 57) % Nat.pow 2 447 / 4 * 4 + Nat.pow 2 447

/-- The public key of a seed of 32 bytes. -/
def publicKey25519 (seed : Bytes) : Bytes :=
  encodePoint 32 (curve25519.multiple (factor25519 (Sha512.hash seed)))

/-- The public key of a seed of 57 bytes. -/
def publicKey448 (seed : Bytes) : Bytes :=
  encodePoint 57 (curve448.multiple (factor448 (Shake.hash seed 114)))

end Edwards

end ClusterAccess.Crypto
