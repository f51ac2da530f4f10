import ClusterAccess.Pki.Der

/-!
# Algorithms

An algorithm is named by an object identifier, and the identifier says which parameters go with it. A
public key is a string of bits under its algorithm.
-/

namespace ClusterAccess.Pki

open Der

abbrev Identifier := List Nat

namespace Identifier

def rsa : Identifier := [1, 2, 840, 113549, 1, 1, 1]

def rsaPss : Identifier := [1, 2, 840, 113549, 1, 1, 10]

def dsa : Identifier := [1, 2, 840, 10040, 4, 1]

def ec : Identifier := [1, 2, 840, 10045, 2, 1]

def x25519 : Identifier := [1, 3, 101, 110]

def x448 : Identifier := [1, 3, 101, 111]

def ed25519 : Identifier := [1, 3, 101, 112]

def ed448 : Identifier := [1, 3, 101, 113]

/-- Encryption with a key derived from a passphrase. -/
def passphraseEncryption : Identifier := [1, 2, 840, 113549, 1, 5, 13]

def passphraseDerivation : Identifier := [1, 2, 840, 113549, 1, 5, 12]

def hmacSha256 : Identifier := [1, 2, 840, 113549, 2, 9]

def aes128Cbc : Identifier := [2, 16, 840, 1, 101, 3, 4, 1, 2]

def aes192Cbc : Identifier := [2, 16, 840, 1, 101, 3, 4, 1, 22]

def aes256Cbc : Identifier := [2, 16, 840, 1, 101, 3, 4, 1, 42]

/-- Signatures with RSA whose parameters, if any, are null: with MD5, SHA-1 and the SHA-2 family. -/
def rsaSignatures : List Identifier :=
  [4, 5, 11, 12, 13, 14].map fun n => [1, 2, 840, 113549, 1, 1, n]

/-- Signatures with elliptic curves and with DSA, whose parameters, if any, are null. -/
def curveSignatures : List Identifier :=
  [[1, 2, 840, 10045, 4, 1], [1, 2, 840, 10040, 4, 3]] ++
    ([1, 2, 3, 4].map fun n => [1, 2, 840, 10045, 4, 3, n]) ++
    ([1, 2, 3, 4].map fun n => [2, 16, 840, 1, 101, 3, 4, 3, n])

end Identifier

/-- An algorithm with its parameters, if any. -/
structure Algorithm where
  identifier : Identifier
  parameters : Option Element
  deriving DecidableEq, Repr

namespace Algorithm

/-- The numbers p, q and g of DSA. -/
def dsaNumbers : Reader (Nat × Nat × Nat) :=
  Reader.sequence do
    let p ← Reader.natural
    let q ← Reader.natural
    let g ← Reader.natural
    pure (p, q, g)

/-- The value that the parameters encode. -/
def parameter? {α : Type} (a : Algorithm) (r : Reader α) : Option α :=
  a.parameters.bind fun e => r.parse e.whole

/-- The parameters of a curve name it, inherit it, or spell it out. -/
def isCurveParameter (e : Element) : Bool :=
  (Reader.identifier.parse e.whole).isSome || (Reader.null.parse e.whole).isSome ||
    e.tag = .sequence

/-- Whether the parameters are of the form that the identifier asks for. -/
def fits (a : Algorithm) : Bool :=
  let i := a.identifier
  if [Identifier.x25519, .x448, .ed25519, .ed448].contains i then a.parameters.isNone
  else if i = Identifier.rsa || Identifier.rsaSignatures.contains i ||
      Identifier.curveSignatures.contains i then
    match a.parameters with
    | none => true
    | some e => (Reader.null.parse e.whole).isSome
  else if i = Identifier.ec then a.parameters.any isCurveParameter
  else if i = Identifier.dsa then (a.parameter? dsaNumbers).isSome
  else true

def read : Reader Algorithm :=
  Reader.sequence do
    let identifier ← Reader.identifier
    let parameters ← if ← Reader.atEnd then pure none else some <$> Reader.element
    Reader.require fits ⟨identifier, parameters⟩

end Algorithm

/-- A public key under its algorithm. -/
structure PublicKey where
  algorithm : Algorithm
  key : Bytes
  deriving DecidableEq, Repr

def PublicKey.read : Reader PublicKey :=
  Reader.sequence do
    let algorithm ← Algorithm.read
    let (_, key) ← Reader.bits
    pure ⟨algorithm, key⟩

end ClusterAccess.Pki
