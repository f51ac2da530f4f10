import ClusterAccess.Crypto.Curve
import ClusterAccess.Crypto.Edwards
import ClusterAccess.Pki.Algorithm
import ClusterAccess.Pki.Fault

/-!
# Private keys

A private key is written in a common form, which names the algorithm, or in the traditional form of its
algorithm. `PrivateKey.ofCommon?` and `PrivateKey.ofTraditional?` read them, `PrivateKey.toCommon` writes
the first, and `PrivateKey.fits` compares a key with a public key.
-/

namespace ClusterAccess.Pki

open Crypto (Curve Edwards)
open Der

/-- The numbers of an RSA key. -/
structure RsaKey where
  modulus : Nat
  publicExponent : Nat
  privateExponent : Nat
  prime1 : Nat
  prime2 : Nat
  exponent1 : Nat
  exponent2 : Nat
  coefficient : Nat
  deriving DecidableEq, Repr

/-- The numbers of a DSA key; `y` is public and `x` is private. -/
structure DsaKey where
  p : Nat
  q : Nat
  g : Nat
  y : Nat
  x : Nat
  deriving DecidableEq, Repr

/-- The private factor of an elliptic curve key and the public point. -/
structure CurveKey where
  curve : Curve
  factor : Nat
  point : Nat × Nat
  deriving DecidableEq, Repr

inductive PrivateKey where
  | rsa (k : RsaKey)
  | ec (k : CurveKey)
  | dsa (k : DsaKey)
  | ed25519 (seed : Bytes)
  | ed448 (seed : Bytes)
  | x25519 (seed : Bytes)
  | x448 (seed : Bytes)
  deriving DecidableEq, Repr

namespace RsaKey

/-- A number that passes the test of Fermat for base two, and is odd. -/
def seemsPrime (p : Nat) : Bool := 2 < p && p % 2 = 1 && Crypto.powMod 2 (p - 1) p = 1

/-- Whether the numbers belong together. -/
def isConsistent (k : RsaKey) : Bool :=
  seemsPrime k.prime1 && seemsPrime k.prime2 && k.modulus = k.prime1 * k.prime2 &&
    k.publicExponent % 2 = 1 && 1 < k.publicExponent &&
    k.publicExponent * k.privateExponent % (k.prime1 - 1) = 1 &&
    k.publicExponent * k.privateExponent % (k.prime2 - 1) = 1 &&
    k.exponent1 = k.privateExponent % (k.prime1 - 1) &&
    k.exponent2 = k.privateExponent % (k.prime2 - 1) && k.coefficient * k.prime2 % k.prime1 = 1

/-- The traditional form. -/
def ofTraditional? (b : Bytes) : Option RsaKey :=
  let whole : Reader RsaKey :=
    Reader.sequence do
      let version ← Reader.small
      let _ ← Reader.require (· = 0) version
      let modulus ← Reader.natural
      let publicExponent ← Reader.natural
      let privateExponent ← Reader.natural
      let prime1 ← Reader.natural
      let prime2 ← Reader.natural
      let exponent1 ← Reader.natural
      let exponent2 ← Reader.natural
      let coefficient ← Reader.natural
      Reader.require isConsistent
        ⟨modulus, publicExponent, privateExponent, prime1, prime2, exponent1, exponent2, coefficient⟩
  whole.parse b

def toTraditional (k : RsaKey) : Bytes :=
  writeSequence (([0, k.modulus, k.publicExponent, k.privateExponent, k.prime1, k.prime2, k.exponent1,
    k.exponent2, k.coefficient]).map writeNatural)

end RsaKey

namespace DsaKey

def ofTraditional? (b : Bytes) : Option DsaKey :=
  let whole : Reader DsaKey :=
    Reader.sequence do
      let version ← Reader.small
      let _ ← Reader.require (· = 0) version
      let p ← Reader.natural
      let q ← Reader.natural
      let g ← Reader.natural
      let y ← Reader.natural
      let x ← Reader.natural
      pure ⟨p, q, g, y, x⟩
  whole.parse b

/-- The key of a private number. -/
def ofNumbers (p q g x : Nat) : DsaKey := ⟨p, q, g, Crypto.powMod g x p, x⟩

end DsaKey

namespace CurveKey

/-- The key of a private factor, which lies between zero and the order of the curve. -/
def ofFactor? (c : Curve) (factor : Nat) : Option CurveKey :=
  if 0 < factor ∧ factor < c.order then (c.multiple? factor).map fun p => ⟨c, factor, p⟩ else none

/-- A traditional form: the factor, the curve and the public point, the last two not always. -/
structure Fields where
  factor : Nat
  curve : Option Element
  point : Option Bytes

def fields : Reader Fields :=
  Reader.sequence do
    let version ← Reader.small
    let _ ← Reader.require (· = 1) version
    let factor ← Reader.octets
    let curve ← Reader.optional (.part 0 true) (Reader.inside (.part 0 true) Reader.element)
    let point ← Reader.optional (.part 1 true) (Reader.inside (.part 1 true) Reader.bits)
    pure ⟨Bytes.toNat factor, curve, point.map (·.2)⟩

/-- The curve that parameters name. -/
def curveOf? (e : Element) : Option Curve :=
  (Reader.identifier.parse e.whole).bind Curve.named?

/-- The traditional form, for a curve that is known already or that the form names itself. A public
point has to be that of the private factor. -/
def ofTraditional? (known : Option Element) (b : Bytes) : Option CurveKey := do
  let f ← fields.parse b
  let curve ← (known <|> f.curve).bind curveOf?
  let agree : Bool :=
    match known, f.curve with
    | some k, some e => k = e
    | _, _ => true
  let key ← ofFactor? curve f.factor
  if agree && f.point.all fun b => curve.encodes b key.point then pure key else none

/-- The traditional form without the curve. -/
def toTraditional (k : CurveKey) : Bytes :=
  writeSequence [writeNatural 1, writeOctets (Bytes.ofNat k.curve.orderBytes k.factor),
    write (.part 1 true) (writeBits (k.curve.encodePoint k.point))]

end CurveKey

namespace PrivateKey

def keyType : PrivateKey → KeyType
  | rsa _ => .rsa
  | ec _ => .ec
  | dsa _ => .dsa
  | ed25519 _ => .ed25519
  | ed448 _ => .ed448
  | x25519 _ => .x25519
  | x448 _ => .x448

/-! ## Reading -/

/-- A seed of a given length. -/
def seed? (length : Nat) (b : Bytes) : Option Bytes :=
  (Reader.octets.parse b).filter fun s => s.length = length

/-- The key that is written in the way of an algorithm. -/
def ofAlgorithm? (a : Algorithm) (b : Bytes) : Option PrivateKey :=
  let i := a.identifier
  if i = Identifier.rsa || i = Identifier.rsaPss then rsa <$> RsaKey.ofTraditional? b
  else if i = Identifier.ec then ec <$> CurveKey.ofTraditional? a.parameters b
  else if i = Identifier.dsa then do
    let (p, q, g) ← a.parameter? Algorithm.dsaNumbers
    let x ← Reader.natural.parse b
    pure (dsa (.ofNumbers p q g x))
  else if i = Identifier.ed25519 then ed25519 <$> seed? 32 b
  else if i = Identifier.ed448 then ed448 <$> seed? 57 b
  else if i = Identifier.x25519 then x25519 <$> seed? 32 b
  else if i = Identifier.x448 then x448 <$> seed? 56 b
  else none

/-- The common form: version, algorithm, the key in the way of the algorithm, and attributes. -/
def commonFields : Reader (Algorithm × Bytes) :=
  Reader.sequence do
    let version ← Reader.small
    let _ ← Reader.require (· = 0) version
    let algorithm ← Algorithm.read
    let key ← Reader.octets
    let _ ← Reader.optional (.part 0 true) Reader.element
    pure (algorithm, key)

def ofCommon? (b : Bytes) : Option PrivateKey :=
  (commonFields.parse b).bind fun (a, key) => ofAlgorithm? a key

/-- A traditional form of any algorithm that has one. -/
def ofTraditional? (b : Bytes) : Option PrivateKey :=
  (ec <$> CurveKey.ofTraditional? none b) <|> (rsa <$> RsaKey.ofTraditional? b) <|>
    (dsa <$> DsaKey.ofTraditional? b)

/-- A key in any form that is not encrypted. -/
def ofPlain? (b : Bytes) : Option PrivateKey := ofCommon? b <|> ofTraditional? b

/-! ## Writing -/

def writeAlgorithm (i : Identifier) (parameters : List Bytes) : Bytes :=
  writeSequence (writeIdentifier i :: parameters)

/-- The algorithm of a key, and the key in its way. -/
def parts : PrivateKey → Bytes × Bytes
  | rsa k => (writeAlgorithm .rsa [writeNull], k.toTraditional)
  | ec k => (writeAlgorithm .ec [writeIdentifier k.curve.identifier], k.toTraditional)
  | dsa k =>
    (writeAlgorithm .dsa [writeSequence ([k.p, k.q, k.g].map writeNatural)], writeNatural k.x)
  | ed25519 seed => (writeAlgorithm .ed25519 [], writeOctets seed)
  | ed448 seed => (writeAlgorithm .ed448 [], writeOctets seed)
  | x25519 seed => (writeAlgorithm .x25519 [], writeOctets seed)
  | x448 seed => (writeAlgorithm .x448 [], writeOctets seed)

/-- The common form of a key. -/
def toCommon (k : PrivateKey) : Bytes :=
  writeSequence [writeNatural 0, k.parts.1, writeOctets k.parts.2]

/-! ## Comparing -/

/-- The modulus and the exponent of a public RSA key. -/
def rsaNumbers : Reader (Nat × Nat) :=
  Reader.sequence do
    let modulus ← Reader.natural
    let exponent ← Reader.natural
    pure (modulus, exponent)

/-- Whether a public key is that of a private key. -/
def fits (k : PrivateKey) (p : PublicKey) : Bool :=
  let i := p.algorithm.identifier
  match k with
  | rsa k =>
    i = Identifier.rsa && rsaNumbers.parse p.key = some (k.modulus, k.publicExponent)
  | ec k =>
    i = Identifier.ec && p.algorithm.parameters.bind CurveKey.curveOf? = some k.curve &&
      k.curve.encodes p.key k.point
  | dsa k =>
    i = Identifier.dsa && p.algorithm.parameter? Algorithm.dsaNumbers = some (k.p, k.q, k.g) &&
      Reader.natural.parse p.key = some k.y
  | ed25519 seed => i = Identifier.ed25519 && p.key = Edwards.publicKey25519 seed
  | ed448 seed => i = Identifier.ed448 && p.key = Edwards.publicKey448 seed
  | x25519 _ => false
  | x448 _ => false

end PrivateKey

end ClusterAccess.Pki
