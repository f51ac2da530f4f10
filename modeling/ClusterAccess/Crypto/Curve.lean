import ClusterAccess.Crypto.Modular
import ClusterAccess.Text.Bytes

/-!
# Elliptic curves

Curves `y^2 = x^3 + a x + b` over a prime field with a base point, and the multiples of that point.
Points are kept in coordinates `(x : y : z)` that stand for `(x / z^2, y / z^3)`; the point at infinity
has `z = 0`. The named curves are those that certificates use.
-/

namespace ClusterAccess.Crypto

/-- A curve with its base point, whose multiples repeat after `order`. -/
structure Curve where
  identifier : List Nat
  prime : Nat
  a : Nat
  b : Nat
  baseX : Nat
  baseY : Nat
  order : Nat
  deriving DecidableEq, Repr

namespace Curve

structure Point where
  x : Nat
  y : Nat
  z : Nat

def infinity : Point := ⟨1, 1, 0⟩

def base (c : Curve) : Point := ⟨c.baseX, c.baseY, 1⟩

/-- A point twice. -/
def double (c : Curve) (p : Point) : Point :=
  let m := c.prime
  let yy := p.y * p.y % m
  let s := 4 * p.x * yy % m
  let zz := p.z * p.z % m
  let t := (3 * p.x * p.x + c.a * (zz * zz % m)) % m
  let x := subMod (t * t) (2 * s) m
  ⟨x, subMod (t * subMod s x m) (8 * yy * yy) m, 2 * p.y * p.z % m⟩

/-- The sum of two points. -/
def add (c : Curve) (p q : Point) : Point :=
  if p.z = 0 then q
  else if q.z = 0 then p
  else
    let m := c.prime
    let pz := p.z * p.z % m
    let qz := q.z * q.z % m
    let u := p.x * qz % m
    let v := q.x * pz % m
    let s := p.y * (q.z * qz % m) % m
    let t := q.y * (p.z * pz % m) % m
    if u = v then if s = t then c.double p else infinity
    else
      let h := subMod v u m
      let r := subMod t s m
      let hh := h * h % m
      let hhh := h * hh % m
      let uhh := u * hh % m
      let x := subMod (r * r) (hhh + 2 * uhh) m
      ⟨x, subMod (r * subMod uhh x m) (s * hhh) m, h * (p.z * q.z % m) % m⟩

/-- `total` and a multiple of a point, for a factor of at most `bits` bits. -/
def multiplyFrom (c : Curve) : Nat → Nat → Point → Point → Point
  | 0, _, _, total => total
  | bits + 1, n, p, total =>
    multiplyFrom c bits (n / 2) (c.double p) (if n % 2 = 1 then c.add total p else total)

/-- A multiple of the base point as a pair of coordinates; none for the point at infinity. -/
def multiple? (c : Curve) (n : Nat) : Option (Nat × Nat) :=
  let p := c.multiplyFrom (Nat.log2 n + 1) n c.base infinity
  if p.z = 0 then none
  else
    let i := inverseMod p.z c.prime
    let ii := i * i % c.prime
    some (p.x * ii % c.prime, p.y * (ii * i % c.prime) % c.prime)

/-- How many bytes a coordinate takes. -/
def coordinateBytes (c : Curve) : Nat := (Nat.log2 c.prime + 8) / 8

/-- How many bytes a private key takes. -/
def orderBytes (c : Curve) : Nat := (Nat.log2 c.order + 8) / 8

/-- A point as bytes, with both coordinates. -/
def encodePoint (c : Curve) (p : Nat × Nat) : Bytes :=
  4 :: Bytes.ofNat c.coordinateBytes p.1 ++ Bytes.ofNat c.coordinateBytes p.2

/-- Whether bytes encode a point, with both coordinates, with one and a sign, or with both and a
sign. -/
def encodes (c : Curve) (b : Bytes) (p : Nat × Nat) : Bool :=
  let x := Bytes.ofNat c.coordinateBytes p.1
  let y := Bytes.ofNat c.coordinateBytes p.2
  let sign := UInt8.ofNat (p.2 % 2)
  b = 4 :: x ++ y || b = (2 + sign) :: x || b = (6 + sign) :: x ++ y

/-! ## Named curves -/

/-- The curve of 192 bits. -/
def prime192 : Curve where
  identifier := [1, 2, 840, 10045, 3, 1, 1]
  prime := 0xfffffffffffffffffffffffffffffffeffffffffffffffff
  a := 0xfffffffffffffffffffffffffffffffefffffffffffffffc
  b := 0x64210519e59c80e70fa7e9ab72243049feb8deecc146b9b1
  baseX := 0x188da80eb03090f67cbf20eb43a18800f4ff0afd82ff1012
  baseY := 0x7192b95ffc8da78631011ed6b24cdd573f977a11e794811
  order := 0xffffffffffffffffffffffff99def836146bc9b1b4d22831

/-- The curve of 224 bits. -/
def prime224 : Curve where
  identifier := [1, 3, 132, 0, 33]
  prime := 0xffffffffffffffffffffffffffffffff000000000000000000000001
  a := 0xfffffffffffffffffffffffffffffffefffffffffffffffffffffffe
  b := 0xb4050a850c04b3abf54132565044b0b7d7bfd8ba270b39432355ffb4
  baseX := 0xb70e0cbd6bb4bf7f321390b94a03c1d356c21122343280d6115c1d21
  baseY := 0xbd376388b5f723fb4c22dfe6cd4375a05a07476444d5819985007e34
  order := 0xffffffffffffffffffffffffffff16a2e0b8f03e13dd29455c5c2a3d

/-- The curve of 256 bits. -/
def prime256 : Curve where
  identifier := [1, 2, 840, 10045, 3, 1, 7]
  prime := 0xffffffff00000001000000000000000000000000ffffffffffffffffffffffff
  a := 0xffffffff00000001000000000000000000000000fffffffffffffffffffffffc
  b := 0x5ac635d8aa3a93e7b3ebbd55769886bc651d06b0cc53b0f63bce3c3e27d2604b
  baseX := 0x6b17d1f2e12c4247f8bce6e563a440f277037d812deb33a0f4a13945d898c296
  baseY := 0x4fe342e2fe1a7f9b8ee7eb4a7c0f9e162bce33576b315ececbb6406837bf51f5
  order := 0xffffffff00000000ffffffffffffffffbce6faada7179e84f3b9cac2fc632551

/-- The curve of 384 bits. -/
def prime384 : Curve where
  identifier := [1, 3, 132, 0, 34]
  prime :=
    0xfffffffffffffffffffffffffffffffffffffffffffffffffffffffffffffffeffffffff0000000000000000ffffffff
  a :=
    0xfffffffffffffffffffffffffffffffffffffffffffffffffffffffffffffffeffffffff0000000000000000fffffffc
  b :=
    0xb3312fa7e23ee7e4988e056be3f82d19181d9c6efe8141120314088f5013875ac656398d8a2ed19d2a85c8edd3ec2aef
  baseX :=
    0xaa87ca22be8b05378eb1c71ef320ad746e1d3b628ba79b9859f741e082542a385502f25dbf55296c3a545e3872760ab7
  baseY :=
    0x3617de4a96262c6f5d9e98bf9292dc29f8f41dbd289a147ce9da3113b5f0b8c00a60b1ce1d7e819d7a431d7c90ea0e5f
  order :=
    0xffffffffffffffffffffffffffffffffffffffffffffffffc7634d81f4372ddf581a0db248b0a77aecec196accc52973

/-- The curve of 521 bits. -/
def prime521 : Curve where
  identifier := [1, 3, 132, 0, 35]
  prime :=
    0x1ffffffffffffffffffffffffffffffffffffffffffffffffffffffffffffffffffffffffffffffffffffffffffffffffffffffffffffffffffffffffffffffffff
  a :=
    0x1fffffffffffffffffffffffffffffffffffffffffffffffffffffffffffffffffffffffffffffffffffffffffffffffffffffffffffffffffffffffffffffffffc
  b :=
    0x51953eb9618e1c9a1f929a21a0b68540eea2da725b99b315f3b8b489918ef109e156193951ec7e937b1652c0bd3bb1bf073573df883d2c34f1ef451fd46b503f00
  baseX :=
    0xc6858e06b70404e9cd9e3ecb662395b4429c648139053fb521f828af606b4d3dbaa14b5e77efe75928fe1dc127a2ffa8de3348b3c1856a429bf97e7e31c2e5bd66
  baseY :=
    0x11839296a789a3bc0045c8a5fb42c7d1bd998f54449579b446817afbd17273e662c97ee72995ef42640c550b9013fad0761353c7086a272c24088be94769fd16650
  order :=
    0x1fffffffffffffffffffffffffffffffffffffffffffffffffffffffffffffffffa51868783bf2f966b7fcc0148f709a5d03bb5c9b8899c47aebb6fb71e91386409

/-- The curve of 256 bits with coefficients 0 and 7. -/
def koblitz256 : Curve where
  identifier := [1, 3, 132, 0, 10]
  prime := 0xfffffffffffffffffffffffffffffffffffffffffffffffffffffffefffffc2f
  a := 0x0
  b := 0x7
  baseX := 0x79be667ef9dcbbac55a06295ce870b07029bfcdb2dce28d959f2815b16f81798
  baseY := 0x483ada7726a3c4655da4fbfc0e1108a8fd17b448a68554199c47d08ffb10d4b8
  order := 0xfffffffffffffffffffffffffffffffebaaedce6af48a03bbfd25e8cd0364141

/-- The curve of 256 bits, generated at random. -/
def random256 : Curve where
  identifier := [1, 3, 36, 3, 3, 2, 8, 1, 1, 7]
  prime := 0xa9fb57dba1eea9bc3e660a909d838d726e3bf623d52620282013481d1f6e5377
  a := 0x7d5a0975fc2c3057eef67530417affe7fb8055c126dc5c6ce94a4b44f330b5d9
  b := 0x26dc5c6ce94a4b44f330b5d9bbd77cbf958416295cf7e1ce6bccdc18ff8c07b6
  baseX := 0x8bd2aeb9cb7e57cb2c4b482ffc81b7afb9de27e1e3bd23c23a4453bd9ace3262
  baseY := 0x547ef835c3dac4fd97f8461a14611dc9c27745132ded8e545c1d54c72f046997
  order := 0xa9fb57dba1eea9bc3e660a909d838d718c397aa3b561a6f7901e0e82974856a7

/-- The curve of 384 bits, generated at random. -/
def random384 : Curve where
  identifier := [1, 3, 36, 3, 3, 2, 8, 1, 1, 11]
  prime :=
    0x8cb91e82a3386d280f5d6f7e50e641df152f7109ed5456b412b1da197fb71123acd3a729901d1a71874700133107ec53
  a :=
    0x7bc382c63d8c150c3c72080ace05afa0c2bea28e4fb22787139165efba91f90f8aa5814a503ad4eb04a8c7dd22ce2826
  b :=
    0x4a8c7dd22ce28268b39b55416f0447c2fb77de107dcd2a62e880ea53eeb62d57cb4390295dbc9943ab78696fa504c11
  baseX :=
    0x1d1c64f068cf45ffa2a63a81b7c13f6b8847a3e77ef14fe3db7fcafe0cbd10e8e826e03436d646aaef87b2e247d4af1e
  baseY :=
    0x8abe1d7520f9c2a45cb1eb8e95cfd55262b70b29feec5864e19c054ff99129280e4646217791811142820341263c5315
  order :=
    0x8cb91e82a3386d280f5d6f7e50e641df152f7109ed5456b31f166e6cac0425a7cf3ab6af6b7fc3103b883202e9046565

/-- The curve of 512 bits, generated at random. -/
def random512 : Curve where
  identifier := [1, 3, 36, 3, 3, 2, 8, 1, 1, 13]
  prime :=
    0xaadd9db8dbe9c48b3fd4e6ae33c9fc07cb308db3b3c9d20ed6639cca703308717d4d9b009bc66842aecda12ae6a380e62881ff2f2d82c68528aa6056583a48f3
  a :=
    0x7830a3318b603b89e2327145ac234cc594cbdd8d3df91610a83441caea9863bc2ded5d5aa8253aa10a2ef1c98b9ac8b57f1117a72bf2c7b9e7c1ac4d77fc94ca
  b :=
    0x3df91610a83441caea9863bc2ded5d5aa8253aa10a2ef1c98b9ac8b57f1117a72bf2c7b9e7c1ac4d77fc94cadc083e67984050b75ebae5dd2809bd638016f723
  baseX :=
    0x81aee4bdd82ed9645a21322e9c4c6a9385ed9f70b5d916c1b43b62eef4d0098eff3b1f78e2d0d48d50d1687b93b97d5f7c6d5047406a5e688b352209bcb9f822
  baseY :=
    0x7dde385d566332ecc0eabfa9cf7822fdf209f70024a57b1aa000c55b881f8111b2dcde494a5f485e5bca4bd88a2763aed1ca2b2fa8f0540678cd1e0f3ad80892
  order :=
    0xaadd9db8dbe9c48b3fd4e6ae33c9fc07cb308db3b3c9d20ed6639cca70330870553e5c414ca92619418661197fac10471db1d381085ddaddb58796829ca90069

def named : List Curve :=
  [prime192, prime224, prime256, prime384, prime521, koblitz256, random256, random384, random512]

/-- The curve with an identifier. -/
def named? (identifier : List Nat) : Option Curve := named.find? (·.identifier = identifier)

end Curve

end ClusterAccess.Crypto
