import ClusterAccess.Crypto.Sha256

/-!
# Keyed hashes, and keys from passphrases

`Hmac.Keyed` is SHA-256 prepared with a key; it authenticates messages. `Hmac.derive` repeats it to make
a key from a passphrase and a salt, as slowly as the number of iterations says.
-/

namespace ClusterAccess.Crypto.Hmac

open Sha256 (State)

/-- The states behind the two blocks that a key fills. -/
structure Keyed where
  inner : State
  outer : State
  deriving DecidableEq, Repr

namespace Keyed

/-- A key in a full block: long keys are hashed first. -/
def keyBlock (key : Bytes) : Bytes :=
  let key := if 64 < key.length then Sha256.hash key else key
  key ++ List.replicate (64 - key.length) 0

def ofKey (key : Bytes) : Keyed where
  inner := Sha256.absorbBytes Sha256.start ((keyBlock key).map (· ^^^ 0x36))
  outer := Sha256.absorbBytes Sha256.start ((keyBlock key).map (· ^^^ 0x5C))

/-- The block that a message of eight words fills when it follows a block of key. -/
def digestBlock (s : State) : Array UInt32 :=
  (s.words ++ [0x80000000, 0, 0, 0, 0, 0, 0, 768]).toArray

/-- The authentication of a message that is itself a hash. -/
def signDigest (k : Keyed) (s : State) : State :=
  k.outer.absorb (digestBlock (k.inner.absorb (digestBlock s)))

/-- The authentication of a message. -/
def sign (k : Keyed) (message : Bytes) : State :=
  let blocks := padded 64 8 (fun bits => Bytes.ofNat 8 (bits + 512)) message
  k.outer.absorb (digestBlock (Sha256.absorbBytes k.inner blocks))

end Keyed

/-- Two states combined bit by bit. -/
def xorState (s t : State) : State :=
  ⟨s.a ^^^ t.a, s.b ^^^ t.b, s.c ^^^ t.c, s.d ^^^ t.d, s.e ^^^ t.e, s.f ^^^ t.f, s.g ^^^ t.g,
    s.h ^^^ t.h⟩

/-- All authentications in a chain that goes on for `n` more links, combined. -/
def chain (k : Keyed) : Nat → State → State → State
  | 0, _, total => total
  | n + 1, last, total =>
    let next := k.signDigest last
    chain k n next (xorState total next)

/-- The first bytes, as many as asked for, of the key that a passphrase and a salt give. -/
def derive (passphrase salt : Bytes) (iterations length : Nat) : Bytes :=
  let k := Keyed.ofKey passphrase
  let block (i : Nat) : Bytes :=
    let first := k.sign (salt ++ Bytes.ofNat 4 (i + 1))
    (chain k (iterations - 1) first first).bytes
  ((List.range ((length + 31) / 32)).flatMap block).take length

end ClusterAccess.Crypto.Hmac
