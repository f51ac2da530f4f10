import ClusterAccess.Pki.Certificate
import ClusterAccess.Pki.Encryption

/-!
# Providers

A `Provider` is the cryptography that a client is built on. It reads private keys, of which it may know more
forms and more encryptions than are written here, and it judges what a connection is to rest on: which
certificates can be trusted, and which chain with which key can be an identity. Beyond what `isIdentity` asks
for it may refuse what it finds too weak or badly formed. `Provider.standard` reads the forms that are written
here and asks for nothing more.
-/

namespace ClusterAccess.Pki

/-- The least sizes, in bits, of keys that are strong enough. -/
def leastRsaBits : Nat := 2048

def leastCurveBits : Nat := 224

def hasBits (least n : Nat) : Bool := Nat.pow 2 (least - 1) ≤ n

/-- Whether a key is large enough. -/
def PrivateKey.isStrong : PrivateKey → Bool
  | rsa k => hasBits leastRsaBits k.modulus
  | dsa k => hasBits leastRsaBits k.p
  | ec k => hasBits leastCurveBits k.curve.order
  | _ => true

/-- Whether the chain begins with the certificate of the key, and the key is strong enough. -/
def isIdentity (chain : List Certificate) (k : PrivateKey) : Bool :=
  match chain with
  | [] => false
  | c :: _ => k.fits c.publicKey && k.isStrong

structure Provider where
  /-- The key that bytes hold, with a passphrase if one is given. -/
  readKey : Bytes → Option Bytes → Except PrivateKey.Refusal PrivateKey
  /-- Whether certificates can be trusted. -/
  takesAnchors : List Certificate → Bool
  /-- Whether a chain and a key can be an identity. -/
  takesIdentity : List Certificate → PrivateKey → Bool
  /-- A key that does not fit the first certificate is refused, and so is a key that is too small. -/
  isIdentity_of_takes {chain : List Certificate} {k : PrivateKey} :
    takesIdentity chain k = true → isIdentity chain k = true

/-- The provider that asks for no more than it has to. -/
def Provider.standard : Provider where
  readKey := PrivateKey.read
  takesAnchors _ := true
  takesIdentity := isIdentity
  isIdentity_of_takes := id

end ClusterAccess.Pki
