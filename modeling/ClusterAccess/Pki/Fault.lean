import ClusterAccess.Filesystem
import ClusterAccess.Text.Base64

/-!
# What can be wrong with certificates and keys

A piece of material has a label, the words by which messages call it. `Pki.Fault` says why a piece
cannot be used: it cannot be read, it is no certificate or key, its passphrase is wrong, or the key is
not of the kind that was asked for.
-/

namespace ClusterAccess.Pki

/-- What a private key is for. -/
inductive KeyType where
  | rsa
  | ec
  | dsa
  | ed25519
  | ed448
  | x25519
  | x448
  deriving DecidableEq, Repr

/-- The name of a kind of key in messages. -/
def KeyType.name : KeyType → String
  | rsa => "RSAPrivateKey"
  | ec => "ECPrivateKey"
  | dsa => "DSAPrivateKey"
  | ed25519 => "Ed25519PrivateKey"
  | ed448 => "Ed448PrivateKey"
  | x25519 => "X25519PrivateKey"
  | x448 => "X448PrivateKey"

/-- The names by which a client key may be asked for, in alphabetical order. -/
def algorithms : List (String × KeyType) :=
  [("DSA", .dsa), ("EC", .ec), ("ECDSA", .ec), ("ED25519", .ed25519), ("ED448", .ed448), ("RSA", .rsa)]

inductive Fault where
  | unreadable (label path : String) (fault : ReadFault)
  | notBase64 (label : String) (fault : Base64.Fault)
  | unparseable (label : String)
  | passphraseMissing
  | passphraseWrong
  | unknownAlgorithm (name : String)
  | otherKeyType (found : KeyType) (asked : String)
  deriving DecidableEq, Repr

def Fault.message : Fault → String
  | unreadable label path fault =>
    "Could not read " ++ label ++ " file " ++ Text.quoted path ++ ": " ++ fault.message
  | notBase64 label fault => "Inline " ++ label ++ " data is not valid base64: " ++ fault.message
  | unparseable label => "Could not parse " ++ label
  | passphraseMissing => "Client key is encrypted and no passphrase was configured."
  | passphraseWrong => "Could not decrypt client key with the configured passphrase"
  | unknownAlgorithm name =>
    "Unsupported client key algorithm " ++ Text.quoted name ++ ". Must be one of: " ++
      ", ".intercalate (algorithms.map (·.1))
  | otherKeyType found asked => "Client key is a " ++ found.name ++ ", not a " ++ asked ++ " key."

end ClusterAccess.Pki
