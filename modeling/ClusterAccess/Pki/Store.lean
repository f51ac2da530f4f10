import ClusterAccess.Pki.Material
import ClusterAccess.Pki.Provider

/-!
# Trust stores and key stores

A `TrustStore` holds the certificates that a client trusts, a `KeyStore` the private key of the client
with its chain of certificates. Both are made from material, and the key is read by a provider. A key store
needs both a certificate and a key, and half of it is none.
-/

namespace ClusterAccess.Pki

/-- What messages call the three pieces of material. -/
def caLabel : String := "CA certificate"

def clientCertLabel : String := "client certificate"

def clientKeyLabel : String := "client key"

/-- The certificates that bytes hold; messages call them `label`. -/
def loadCertificates (label : String) (b : Bytes) : Except Failure (List Certificate) :=
  match Certificate.bundle b with
  | .ok cs => .ok cs
  | .error .malformed => .error (.access (.material (.unparseable label)))
  | .error (.version n) => .error (.certificateVersion n)

/-- The private key that bytes hold. The passphrase is used if the key is encrypted. -/
def loadPrivateKey (via : Provider) (b : Bytes) (passphrase : Option String) : Except Failure PrivateKey :=
  match via.readKey b none with
  | .ok k => .ok k
  | .error .malformed => .error (.access (.material (.unparseable clientKeyLabel)))
  | .error .passphraseNeeded =>
    match passphrase.getD "" with
    | "" => .error (.access (.material .passphraseMissing))
    | p =>
      match via.readKey b (some (Bytes.ofText p)) with
      | .ok k => .ok k
      | .error _ => .error (.access (.material .passphraseWrong))

/-- Certificates under aliases. -/
structure TrustStore where
  entries : List (String × Certificate)
  deriving DecidableEq, Repr

namespace TrustStore

/-- Certificates under aliases that number them. -/
def ofCertificates (cs : List Certificate) : TrustStore :=
  ⟨cs.zipIdx.map fun (c, i) => ("ca-" ++ toString i, c)⟩

def aliases (s : TrustStore) : List String := s.entries.map (·.1)

def certificates (s : TrustStore) : List Certificate := s.entries.map (·.2)

/-- The text of all certificates. -/
def pem (s : TrustStore) : String := String.join (s.certificates.map Certificate.pem)

/-- The trust store of CA material, if it is given. -/
def load (fs : Filesystem) (m : Material) : Except Failure (Option TrustStore) := do
  match ← m.load fs caLabel with
  | none => pure none
  | some b => (fun cs => some (ofCertificates cs)) <$> loadCertificates caLabel b

end TrustStore

/-- A private key with its certificates, protected by a passphrase. -/
structure KeyStore where
  privateKey : PrivateKey
  chain : List Certificate
  passphrase : String
  deriving DecidableEq, Repr

namespace KeyStore

/-- The name of the only key in a store. -/
def entryName : String := "client"

/-- The text of the chain of certificates. -/
def chainPem (s : KeyStore) : String := String.join (s.chain.map Certificate.pem)

/-- The longest passphrase, in bytes, that a key can be protected with. -/
def maxPassphrase : Nat := 1023

/-- Whether the passphrase is short enough to protect the key. -/
def checkPassphrase (s : KeyStore) : Except Failure Unit :=
  if maxPassphrase < (Bytes.ofText s.passphrase).length then .error .passphraseTooLong else .ok ()

/-- What a client key is made from. -/
structure Source where
  certificate : Material
  key : Material
  algorithm : String
  passphrase : String
  deriving DecidableEq, Repr

/-- The kind of key that a name asks for, in any case. -/
def algorithm? (name : String) : Option KeyType :=
  algorithms.lookup (String.ofList (Text.upper name.toList))

/-- The key store of a certificate and a key that are both given. -/
def ofBytes (via : Provider) (s : Source) (certificate key : Bytes) : Except Failure KeyStore := do
  match algorithm? s.algorithm with
  | none => .error (.access (.material (.unknownAlgorithm s.algorithm)))
  | some asked =>
    let chain ← loadCertificates clientCertLabel certificate
    let privateKey ← loadPrivateKey via key (some s.passphrase)
    if privateKey.keyType = asked then pure ⟨privateKey, chain, s.passphrase⟩
    else .error (.access (.material (.otherKeyType privateKey.keyType s.algorithm)))

/-- The key store of client material, if both halves of it are given. -/
def load (via : Provider) (fs : Filesystem) (s : Source) : Except Failure (Option KeyStore) := do
  let certificate ← s.certificate.load fs clientCertLabel
  let key ← s.key.load fs clientKeyLabel
  match certificate, key with
  | some c, some k => some <$> ofBytes via s c k
  | _, _ => pure none

end KeyStore

end ClusterAccess.Pki
