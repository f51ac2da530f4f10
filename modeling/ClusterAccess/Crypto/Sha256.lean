import ClusterAccess.Crypto.Block
import ClusterAccess.Crypto.Root

/-!
# SHA-256

The hash of a message of bytes. `State` is the chaining value, and `State.absorb` the compression of
one block of sixteen words into it.
-/

namespace ClusterAccess.Crypto.Sha256

/-- The chaining value: eight words. -/
structure State where
  a : UInt32
  b : UInt32
  c : UInt32
  d : UInt32
  e : UInt32
  f : UInt32
  g : UInt32
  h : UInt32
  deriving DecidableEq, Repr

def rotate (x n : UInt32) : UInt32 := (x >>> n) ||| (x <<< (32 - n))

def roundConstants : Array UInt32 :=
  ((primes 64).map fun p => UInt32.ofNat (rootBits 3 32 p)).toArray

def smallSigma0 (x : UInt32) : UInt32 := rotate x 7 ^^^ rotate x 18 ^^^ (x >>> 3)

def smallSigma1 (x : UInt32) : UInt32 := rotate x 17 ^^^ rotate x 19 ^^^ (x >>> 10)

def bigSigma0 (x : UInt32) : UInt32 := rotate x 2 ^^^ rotate x 13 ^^^ rotate x 22

def bigSigma1 (x : UInt32) : UInt32 := rotate x 6 ^^^ rotate x 11 ^^^ rotate x 25

/-- The schedule with the next word. -/
def extend (w : Array UInt32) : Array UInt32 :=
  let n := w.size
  w.push (smallSigma1 (w.getD (n - 2) 0) + w.getD (n - 7) 0 + smallSigma0 (w.getD (n - 15) 0) +
    w.getD (n - 16) 0)

/-- The sixty-four words that a block gives to the rounds. -/
def schedule (block : Array UInt32) : Array UInt32 := Nat.fold 48 (fun _ _ w => extend w) block

namespace State

def round (s : State) (k w : UInt32) : State :=
  let choice := (s.e &&& s.f) ^^^ (~~~s.e &&& s.g)
  let majority := (s.a &&& s.b) ^^^ (s.a &&& s.c) ^^^ (s.b &&& s.c)
  let t := s.h + bigSigma1 s.e + choice + k + w
  ⟨t + bigSigma0 s.a + majority, s.a, s.b, s.c, s.d + t, s.e, s.f, s.g⟩

def add (s t : State) : State :=
  ⟨s.a + t.a, s.b + t.b, s.c + t.c, s.d + t.d, s.e + t.e, s.f + t.f, s.g + t.g, s.h + t.h⟩

/-- The state after a block. -/
def absorb (s : State) (block : Array UInt32) : State :=
  let w := schedule block
  s.add (Nat.fold 64 (fun i _ t => t.round (roundConstants.getD i 0) (w.getD i 0)) s)

def ofWords (w : Array UInt32) : State :=
  ⟨w.getD 0 0, w.getD 1 0, w.getD 2 0, w.getD 3 0, w.getD 4 0, w.getD 5 0, w.getD 6 0, w.getD 7 0⟩

def words (s : State) : List UInt32 := [s.a, s.b, s.c, s.d, s.e, s.f, s.g, s.h]

def bytes (s : State) : Bytes := s.words.flatMap fun w => Bytes.ofNat 4 w.toNat

end State

/-- The state before any block. -/
def start : State := .ofWords ((primes 8).map fun p => UInt32.ofNat (rootBits 2 32 p)).toArray

/-- The state after whole blocks of bytes. -/
def absorbBytes (s : State) (b : Bytes) : State :=
  (groups 64 b).foldl (fun s g => s.absorb (words32 g)) s

/-- The hash of a message. -/
def hash (message : Bytes) : Bytes :=
  (absorbBytes start (padded 64 8 (Bytes.ofNat 8) message)).bytes

end ClusterAccess.Crypto.Sha256
