import ClusterAccess.Crypto.Aes
import ClusterAccess.Crypto.Hmac
import ClusterAccess.Crypto.Md5
import ClusterAccess.Pki.Pem
import ClusterAccess.Pki.PrivateKey

/-!
# Encrypted private keys

A key is encrypted as an encoded value, with an algorithm that derives a key from the passphrase, or,
in the traditional way, as a block whose headers name the cipher. `PrivateKey.read` reads a key in any
form. That a passphrase is needed is known before the passphrase is looked at.
-/

namespace ClusterAccess.Pki

open Crypto (Aes.decrypt? Hmac.derive Md5.hash)
open Der

/-- How a key was encrypted. -/
inductive Encryption where
  | derived (salt : Bytes) (iterations keyLength : Nat) (start : Bytes)
  | unsupported
  deriving DecidableEq, Repr

namespace Encryption

/-- A value that is there unless the sequence ends. -/
def whenMore {α : Type} (r : Reader α) : Reader (Option α) := do
  if ← Reader.atEnd then pure none else some <$> r

/-- How a key is derived: salt, iterations, the length if it is said, and the function if it is. -/
def derivation : Reader (Bytes × Nat × Option Nat × Option Algorithm) :=
  Reader.sequence do
    let salt ← Reader.octets
    let iterations ← Reader.natural
    let length ← Reader.optional .integer Reader.natural
    let function ← whenMore Algorithm.read
    pure (salt, iterations, length, function)

/-- The length of the keys of a cipher. -/
def cipherKeyLength? (i : Identifier) : Option Nat :=
  if i = Identifier.aes128Cbc then some 16
  else if i = Identifier.aes192Cbc then some 24
  else if i = Identifier.aes256Cbc then some 32
  else none

/-- The derivation and the cipher of a passphrase encryption. -/
def algorithms : Reader (Algorithm × Algorithm) :=
  Reader.sequence do
    let derivation ← Algorithm.read
    let cipher ← Algorithm.read
    pure (derivation, cipher)

/-- The encryption that a derivation and a cipher make. -/
def ofParts? (d c : Algorithm) : Option Encryption :=
  if d.identifier = Identifier.passphraseDerivation then do
    let (salt, iterations, length, function) ← d.parameter? derivation
    match cipherKeyLength? c.identifier with
    | none => pure unsupported
    | some keyLength =>
      let start ← c.parameter? Reader.octets
      if start.length != 16 then none
      else
        let known := function.any fun f => f.identifier = Identifier.hmacSha256
        let agrees := length.all (· = keyLength)
        pure (if known && agrees then derived salt iterations keyLength start else unsupported)
  else some unsupported

/-- The encryption that an algorithm names. -/
def ofAlgorithm? (a : Algorithm) : Option Encryption :=
  if a.identifier = Identifier.passphraseEncryption then do
    let (d, c) ← a.parameter? algorithms
    ofParts? d c
  else some unsupported

/-- An encrypted key: its algorithm and the encrypted message. -/
def envelope : Reader (Algorithm × Bytes) :=
  Reader.sequence do
    let algorithm ← Algorithm.read
    let message ← Reader.octets
    pure (algorithm, message)

/-- The encryption and the encrypted message that bytes encode. -/
def ofDer? (b : Bytes) : Option (Encryption × Bytes) := do
  let (a, message) ← envelope.parse b
  let e ← ofAlgorithm? a
  pure (e, message)

/-- The message that was encrypted. -/
def decrypt? (e : Encryption) (passphrase message : Bytes) : Option Bytes :=
  match e with
  | derived salt iterations keyLength start =>
    Aes.decrypt? (Hmac.derive passphrase salt iterations keyLength) start message
  | unsupported => none

/-! ## The traditional way -/

/-- The key of a cipher from a passphrase and a salt: hashes of the hash before, passphrase and salt,
one after the other. -/
def chainedKey (passphrase salt : Bytes) : Nat → Bytes → Bytes
  | 0, _ => []
  | n + 1, last =>
    let next := Md5.hash (last ++ passphrase ++ salt)
    next ++ chainedKey passphrase salt n next

/-- The length of the keys of a cipher that a header names. -/
def namedKeyLength? (name : String) : Option Nat :=
  [("AES-128-CBC", 16), ("AES-192-CBC", 24), ("AES-256-CBC", 32)].lookup name

/-- Bytes in hexadecimal digits. -/
def hexBytes? : List Char → Option Bytes
  | [] => some []
  | a :: b :: cs => do
    let a ← Text.hexValue? a
    let b ← Text.hexValue? b
    let bs ← hexBytes? cs
    pure (UInt8.ofNat (a * 16 + b) :: bs)
  | _ => none

/-- The message of a block whose header names a cipher and its start. -/
def decryptNamed? (cipher : String) (passphrase message : Bytes) : Option Bytes := do
  let cs := cipher.toList
  let keyLength ← namedKeyLength? (String.ofList (cs.takeWhile (· != ',')))
  let start ← hexBytes? ((cs.dropWhile (· != ',')).drop 1)
  if start.length != 16 then none
  else Aes.decrypt? ((chainedKey passphrase (start.take 8) 2 []).take keyLength) start message

end Encryption

namespace PrivateKey

/-- Why bytes give no key. -/
inductive Refusal where
  | malformed
  | passphraseNeeded
  deriving DecidableEq, Repr

def orMalformed {α : Type} : Option α → Except Refusal α
  | some a => .ok a
  | none => .error .malformed

/-- The key in an encrypted value. An empty passphrase is none. -/
def readEncrypted (b : Bytes) (passphrase : Option Bytes) : Except Refusal PrivateKey := do
  let (e, message) ← orMalformed (Encryption.ofDer? b)
  match passphrase with
  | none => .error .passphraseNeeded
  | some p =>
    if p.isEmpty then .error .passphraseNeeded
    else orMalformed ((e.decrypt? p message).bind ofCommon?)

/-- The key in one encoded value. -/
def readDer (b : Bytes) (passphrase : Option Bytes) : Except Refusal PrivateKey :=
  match ofPlain? b with
  | some k => .ok k
  | none => readEncrypted b passphrase

/-- The labels of blocks that hold a key. -/
def labels : List String :=
  ["PRIVATE KEY", "ENCRYPTED PRIVATE KEY", "RSA PRIVATE KEY", "EC PRIVATE KEY", "DSA PRIVATE KEY"]

/-- The body of a block, decrypted if its headers say that it is encrypted. -/
def blockBody (k : Pem.Block) (passphrase : Option Bytes) : Except Refusal Bytes :=
  match k.headers.lookup "Proc-Type" with
  | none => .ok k.body
  | some "4,ENCRYPTED" =>
    match passphrase with
    | none => .error .passphraseNeeded
    | some p => orMalformed do
      let cipher ← k.headers.lookup "DEK-Info"
      Encryption.decryptNamed? cipher p k.body
  | some _ => .error .malformed

/-- The key in a block. -/
def readBlock (k : Pem.Block) (passphrase : Option Bytes) : Except Refusal PrivateKey := do
  let body ← blockBody k passphrase
  match k.label with
  | "RSA PRIVATE KEY" => orMalformed (rsa <$> RsaKey.ofTraditional? body)
  | "EC PRIVATE KEY" => orMalformed (ec <$> CurveKey.ofTraditional? none body)
  | "DSA PRIVATE KEY" => orMalformed (dsa <$> DsaKey.ofTraditional? body)
  | "PRIVATE KEY" => orMalformed (ofCommon? body)
  | _ => readEncrypted body passphrase

/-- The key that bytes hold: in the first block that is labelled as one, or as one encoded value. -/
def read (b : Bytes) (passphrase : Option Bytes) : Except Refusal PrivateKey :=
  if Pem.looksLike b then
    match (Pem.blocks? b).bind fun blocks => blocks.find? fun k => labels.contains k.label with
    | some k => readBlock k passphrase
    | none => .error .malformed
  else readDer b passphrase

/-- The block that carries a key. -/
def pem (k : PrivateKey) : String := Pem.render "PRIVATE KEY" k.toCommon

end PrivateKey

end ClusterAccess.Pki
