import ClusterAccess.Crypto.Block

/-!
# SHAKE256

A hash with as many bytes of output as are asked for. The state is a square of 25 lanes of 64 bits,
lane `(x, y)` at place `x + 5 * y`, and 136 bytes of a message are absorbed between permutations.
-/

namespace ClusterAccess.Crypto.Shake

abbrev State := Array UInt64

def lane (s : State) (x y : Nat) : UInt64 := s.getD (x % 5 + 5 * (y % 5)) 0

/-- The state whose lanes a function gives. -/
def ofLanes (f : Nat → Nat → UInt64) : State :=
  ((List.range 25).map fun i => f (i % 5) (i / 5)).toArray

def rotate (x : UInt64) (n : Nat) : UInt64 :=
  if n % 64 = 0 then x
  else (x <<< UInt64.ofNat (n % 64)) ||| (x >>> UInt64.ofNat (64 - n % 64))

/-- Each bit combined with the parities of two columns. -/
def theta (s : State) : State :=
  let parity (x : Nat) : UInt64 :=
    lane s x 0 ^^^ lane s x 1 ^^^ lane s x 2 ^^^ lane s x 3 ^^^ lane s x 4
  let parities := ((List.range 5).map parity).toArray
  let mixed := ((List.range 5).map fun x =>
    parities.getD ((x + 4) % 5) 0 ^^^ rotate (parities.getD ((x + 1) % 5) 0) 1).toArray
  ofLanes fun x y => lane s x y ^^^ mixed.getD x 0

/-- The places of the lanes behind the first in the order in which their rotations grow. -/
def walk : Nat → Nat × Nat → List (Nat × Nat)
  | 0, _ => []
  | n + 1, (x, y) => (x, y) :: walk n (y, (2 * x + 3 * y) % 5)

/-- How far each lane is rotated. -/
def rotations : Array Nat :=
  ((walk 24 (1, 0)).zipIdx).foldl
    (fun t p => t.setIfInBounds (p.1.1 + 5 * p.1.2) ((p.2 + 1) * (p.2 + 2) / 2)) (Array.replicate 25 0)

/-- Each lane rotated and moved. -/
def rhoPi (s : State) : State :=
  ofLanes fun x y =>
    let fromX := (x + 3 * y) % 5
    rotate (lane s fromX x) (rotations.getD (fromX + 5 * x) 0)

/-- Each row combined without linearity. -/
def chi (s : State) : State :=
  ofLanes fun x y => lane s x y ^^^ (~~~(lane s (x + 1) y) &&& lane s (x + 2) y)

/-- The shift register behind the round constants, one step on. -/
def shift (r : Nat) : Nat := if r < 128 then 2 * r else (2 * r) ^^^ 0x171

/-- The bits of a round constant, from a register; they stand at the places 2^j - 1. -/
def constantBits : Nat → Nat → Nat → Nat × Nat
  | 0, r, c => (r, c)
  | n + 1, r, c =>
    let place := Nat.pow 2 (6 - n) - 1
    constantBits n (shift r) (if r % 2 = 1 then c + Nat.pow 2 place else c)

/-- The constants of `n` rounds. -/
def constantsFrom : Nat → Nat → List UInt64
  | 0, _ => []
  | n + 1, r =>
    let (r, c) := constantBits 7 r 0
    UInt64.ofNat c :: constantsFrom n r

def roundConstants : List UInt64 := constantsFrom 24 1

def round (s : State) (c : UInt64) : State :=
  let s := chi (rhoPi (theta s))
  s.setIfInBounds 0 (s.getD 0 0 ^^^ c)

def permute (s : State) : State := roundConstants.foldl round s

/-- How many bytes a permutation separates. -/
def rate : Nat := 136

/-- The lanes of bytes of which the first is the least significant. -/
def lanes (b : Bytes) : Array UInt64 :=
  ((groups 8 b).map fun g => UInt64.ofNat (Bytes.toNatLittle g)).toArray

def absorb (s : State) (block : Bytes) : State :=
  let l := lanes block
  permute (ofLanes fun x y => lane s x y ^^^ l.getD (x + 5 * y) 0)

/-- A message with its end marked, in full blocks. -/
def padded (message : Bytes) : Bytes :=
  let room := rate - message.length % rate
  message ++ (if room = 1 then [0x9F] else 0x1F :: List.replicate (room - 2) 0 ++ [0x80])

/-- The bytes of output that a state shows. -/
def shown (s : State) : Bytes :=
  (s.toList.flatMap fun w => Bytes.ofNatLittle 8 w.toNat).take rate

/-- The output of `n` blocks. -/
def squeeze : Nat → State → Bytes
  | 0, _ => []
  | n + 1, s => shown s ++ squeeze n (permute s)

/-- The first bytes of the hash of a message. -/
def hash (message : Bytes) (length : Nat) : Bytes :=
  let s := (groups rate (padded message)).foldl absorb (Array.replicate 25 0)
  (squeeze ((length + rate - 1) / rate) s).take length

end ClusterAccess.Crypto.Shake
