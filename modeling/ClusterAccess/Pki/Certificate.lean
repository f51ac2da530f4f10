import ClusterAccess.Calendar
import ClusterAccess.Pki.Algorithm
import ClusterAccess.Pki.Pem

/-!
# Certificates

A certificate is one encoded value with nothing behind it: what is certified, the algorithm of the
signature, and the signature. `Certificate.read` accepts certificates of the first and third version and
keeps of each what is needed to compare it with others and with a private key. `Certificate.bundle`
reads a certificate, or all the certificates in the blocks of a text.
-/

namespace ClusterAccess.Pki

open Der

structure Certificate where
  encoded : Bytes
  version : Nat
  publicKey : PublicKey
  deriving DecidableEq, Repr

namespace Certificate

/-- Two digits. -/
def twoDigits? : Bytes → Option (Nat × Bytes)
  | a :: b :: rest =>
    if 48 ≤ a.toNat ∧ a.toNat ≤ 57 ∧ 48 ≤ b.toNat ∧ b.toNat ≤ 57 then
      some ((a.toNat - 48) * 10 + (b.toNat - 48), rest)
    else none
  | _ => none

/-- Whether the fields behind the year are those of a moment in it. -/
def isMoment (year : Nat) (b : Bytes) : Bool :=
  ((do
    let (month, b) ← twoDigits? b
    let (day, b) ← twoDigits? b
    let (hour, b) ← twoDigits? b
    let (minute, b) ← twoDigits? b
    let (second, b) ← twoDigits? b
    pure (Calendar.isDate year month day && hour < 24 && minute < 60 && second < 60 &&
      b = [0x5A])) : Option Bool).getD false

/-- A time with a year of two digits, from 1950 to 2049. -/
def isShortTime (b : Bytes) : Bool :=
  match twoDigits? b with
  | some (y, rest) => isMoment (if 50 ≤ y then 1900 + y else 2000 + y) rest
  | none => false

/-- A time with a year of four digits. -/
def isLongTime (b : Bytes) : Bool :=
  match twoDigits? b with
  | some (c, rest) =>
    match twoDigits? rest with
    | some (y, rest) => isMoment (100 * c + y) rest
    | none => false
  | none => false

/-- A time in either form. -/
def time : Reader Unit := do
  let e ← Reader.element
  let _ ← Reader.require
    (fun e => (e.tag = .shortTime && isShortTime e.body) || (e.tag = .longTime && isLongTime e.body)) e

/-- Bytes in ascending order. -/
def isBefore (a b : Bytes) : Bool := a = b || a < b

def isAscending : List Bytes → Bool
  | a :: b :: rest => isBefore a b && isAscending (b :: rest)
  | _ => true

/-- An attribute of a name. -/
def attributeValue : Reader Bytes := do
  let e ← Reader.element
  let inner : Reader Unit := do
    let _ ← Reader.identifier
    let _ ← Reader.element
  if e.tag = .sequence && (inner.parse e.body).isSome then pure e.whole else Reader.fail

/-- A name: a sequence of sets of attributes. -/
def name : Reader Unit := do
  let e ← Reader.element
  let attributes : Reader Unit := do
    let _ ← Reader.inside .set do
      let members ← Reader.many attributeValue
      Reader.require isAscending members
  if e.tag = .sequence && ((Reader.many attributes).parse e.body).isSome then pure ()
  else Reader.fail

/-- An extension. Whether it is critical is only said if it is. -/
def extension : Reader Unit :=
  Reader.sequence do
    let _ ← Reader.identifier
    let critical ← Reader.optional .boolean Reader.boolean
    let _ ← Reader.require (· != some false) critical
    let _ ← Reader.octets

/-- The version, which counts from zero and is only said if it is not that. -/
def versionNumber : Reader Nat := do
  let version ← Reader.optional (.part 0 true) (Reader.inside (.part 0 true) Reader.small)
  let _ ← Reader.require (· != some 0) version
  pure (version.getD 0)

/-- A string of bits that a tag of the sequence stands for. -/
def uniqueIdentifier (n : Nat) : Reader Unit := do
  let _ ← Reader.optional (.part n false) do
    let b ← Reader.body (.part n false)
    let written := write .bitString b
    Reader.require (fun b => (Reader.bits.parse b).isSome) written

/-- What is certified: version, signature algorithm, issuer, subject and public key. -/
def certified : Reader (Nat × PublicKey) :=
  Reader.sequence do
    let version ← versionNumber
    let _ ← Reader.integerDigits
    let _ ← Algorithm.read
    name
    let _ ← Reader.sequence (do time; time)
    name
    let publicKey ← PublicKey.read
    uniqueIdentifier 1
    uniqueIdentifier 2
    let _ ← Reader.optional (.part 3 true)
      (Reader.inside (.part 3 true) (Reader.sequence (Reader.many extension)))
    pure (version, publicKey)

/-- The certificate that bytes encode, of any version. -/
def ofDer? (b : Bytes) : Option Certificate :=
  let whole : Reader Certificate :=
    Reader.sequence do
      let (version, publicKey) ← certified
      let _ ← Algorithm.read
      let _ ← Reader.bits
      pure ⟨b, version, publicKey⟩
  whole.parse b

/-- Why bytes are no certificate. -/
inductive Refusal where
  | malformed
  | version (number : Nat)
  deriving DecidableEq, Repr

/-- The certificate that bytes encode. -/
def read (b : Bytes) : Except Refusal Certificate :=
  match ofDer? b with
  | none => .error .malformed
  | some c => if c.version = 0 || c.version = 2 then .ok c else .error (.version c.version)

/-- The certificates in the blocks of a text; there is at least one. -/
def readBlocks (b : Bytes) : Except Refusal (List Certificate) :=
  match Pem.blocks? b with
  | none => .error .malformed
  | some blocks => do
    let certificates ←
      (blocks.filter fun k => k.label = "CERTIFICATE" || k.label = "X509 CERTIFICATE").mapM
        fun k => read k.body
    if certificates.isEmpty then .error .malformed else pure certificates

/-- The certificates that bytes hold, in blocks or as one encoded value. -/
def bundle (b : Bytes) : Except Refusal (List Certificate) :=
  if Pem.looksLike b then readBlocks b else (fun c => [c]) <$> read b

/-- The block that carries a certificate. -/
def pem (c : Certificate) : String := Pem.render "CERTIFICATE" c.encoded

end Certificate

end ClusterAccess.Pki
