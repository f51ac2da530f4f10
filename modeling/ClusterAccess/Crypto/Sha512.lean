import ClusterAccess.Crypto.Block
import ClusterAccess.Crypto.Root

/-!
# SHA-512

The hash of a message of bytes, by eighty rounds on words of 64 bits.
-/

namespace ClusterAccess.Crypto.Sha512

/-- The chaining value: eight words. -/
structure State where
  a : UInt64
  b : UInt64
  c : UInt64
  d : UInt64
  e : UInt64
  f : UInt64
  g : UInt64
  h : UInt64
  deriving DecidableEq, Repr

def rotate (x n : UInt64) : UInt64 := (x >>> n) ||| (x <<< (64 - n))

def roundConstants : Array UInt64 :=
  ((primes 80).map fun p => UInt64.ofNat (rootBits 3 64 p)).toArray

def smallSigma0 (x : UInt64) : UInt64 := rotate x 1 ^^^ rotate x 8 ^^^ (x >>> 7)

def smallSigma1 (x : UInt64) : UInt64 := rotate x 19 ^^^ rotate x 61 ^^^ (x >>> 6)

def bigSigma0 (x : UInt64) : UInt64 := rotate x 28 ^^^ rotate x 34 ^^^ rotate x 39

def bigSigma1 (x : UInt64) : UInt64 := rotate x 14 ^^^ rotate x 18 ^^^ rotate x 41

/-- The schedule with the next word. -/
def extend (w : Array UInt64) : Array UInt64 :=
  let n := w.size
  w.push (smallSigma1 (w.getD (n - 2) 0) + w.getD (n - 7) 0 + smallSigma0 (w.getD (n - 15) 0) +
    w.getD (n - 16) 0)

/-- The eighty words that a block gives to the rounds. -/
def schedule (block : Array UInt64) : Array UInt64 := Nat.fold 64 (fun _ _ w => extend w) block

namespace State

def round (s : State) (k w : UInt64) : State :=
  let choice := (s.e &&& s.f) ^^^ (~~~s.e &&& s.g)
  let majority := (s.a &&& s.b) ^^^ (s.a &&& s.c) ^^^ (s.b &&& s.c)
  let t := s.h + bigSigma1 s.e + choice + k + w
  ⟨t + bigSigma0 s.a + majority, s.a, s.b, s.c, s.d + t, s.e, s.f, s.g⟩

def add (s t : State) : State :=
  ⟨s.a + t.a, s.b + t.b, s.c + t.c, s.d + t.d, s.e + t.e, s.f + t.f, s.g + t.g, s.h + t.h⟩

/-- The state after a block. -/
def absorb (s : State) (block : Array UInt64) : State :=
  let w := schedule block
  s.add (Nat.fold 80 (fun i _ t => t.round (roundConstants.getD i 0) (w.getD i 0)) s)

def ofWords (w : Array UInt64) : State :=
  ⟨w.getD 0 0, w.getD 1 0, w.getD 2 0, w.getD 3 0, w.getD 4 0, w.getD 5 0, w.getD 6 0, w.getD 7 0⟩

def words (s : State) : List UInt64 := [s.a, s.b, s.c, s.d, s.e, s.f, s.g, s.h]

end State

/-- The state before any block. -/
def start : State := .ofWords ((primes 8).map fun p => UInt64.ofNat (rootBits 2 64 p)).toArray

/-- The hash of a message. -/
def hash (message : Bytes) : Bytes :=
  ((groups 128 (padded 128 16 (Bytes.ofNat 16) message)).foldl
    (fun s g => s.absorb (words64 g)) start).words.flatMap fun w => Bytes.ofNat 8 w.toNat

end ClusterAccess.Crypto.Sha512
