import ClusterAccess.Crypto.Block
import ClusterAccess.Text.CodeSet

/-!
# MD5

The hash by which a passphrase becomes the key of a private key in the traditional encrypted form.
-/

namespace ClusterAccess.Crypto.Md5

/-- The chaining value: four words. -/
structure State where
  a : UInt32
  b : UInt32
  c : UInt32
  d : UInt32
  deriving DecidableEq, Repr

/-- The first 32 bits behind the point of the sines of 1 to 64. -/
def roundConstants : Array UInt32 := (Text.Entries.ofText
  "d76aa478 e8c7b756 242070db c1bdceee f57c0faf 4787c62a a8304613 fd469501
  698098d8 8b44f7af ffff5bb1 895cd7be 6b901122 fd987193 a679438e 49b40821
  f61e2562 c040b340 265e5a51 e9b6c7aa d62f105d 2441453 d8a1e681 e7d3fbc8
  21e1cde6 c33707d6 f4d50d87 455a14ed a9e3e905 fcefa3f8 676f02d9 8d2a4c8a
  fffa3942 8771f681 6d9d6122 fde5380c a4beea44 4bdecfa9 f6bb4b60 bebfbc70
  289b7ec6 eaa127fa d4ef3085 4881d05 d9d4d039 e6db99e5 1fa27cf8 c4ac5665
  f4292244 432aff97 ab9423a7 fc93a039 655b59c3 8f0ccc92 ffeff47d 85845dd1
  6fa87e4f fe2ce6e0 a3014314 4e0811a1 f7537e82 bd3af235 2ad7d2bb eb86d391").map
  fun e => UInt32.ofNat (e.getD 0 0)

/-- How far each of the four steps of a pass rotates. -/
def rotations : Array (Array UInt32) :=
  #[#[7, 12, 17, 22], #[5, 9, 14, 20], #[4, 11, 16, 23], #[6, 10, 15, 21]]

def rotate (x n : UInt32) : UInt32 := (x <<< n) ||| (x >>> (32 - n))

namespace State

/-- What a pass mixes, and the word of the block that it takes. -/
def mix (s : State) (i : Nat) : UInt32 × Nat :=
  match i / 16 with
  | 0 => ((s.b &&& s.c) ||| (~~~s.b &&& s.d), i)
  | 1 => ((s.d &&& s.b) ||| (~~~s.d &&& s.c), (5 * i + 1) % 16)
  | 2 => (s.b ^^^ s.c ^^^ s.d, (3 * i + 5) % 16)
  | _ => (s.c ^^^ (s.b ||| ~~~s.d), (7 * i) % 16)

def step (s : State) (block : Array UInt32) (i : Nat) : State :=
  let (f, place) := s.mix i
  let sum := f + s.a + roundConstants.getD i 0 + block.getD place 0
  ⟨s.d, s.b + rotate sum ((rotations.getD (i / 16) #[]).getD (i % 4) 0), s.b, s.c⟩

/-- The state after a block. -/
def absorb (s : State) (block : Array UInt32) : State :=
  let t := Nat.fold 64 (fun i _ t => t.step block i) s
  ⟨s.a + t.a, s.b + t.b, s.c + t.c, s.d + t.d⟩

end State

/-- The state before any block. -/
def start : State := ⟨0x67452301, 0xefcdab89, 0x98badcfe, 0x10325476⟩

/-- The hash of a message. -/
def hash (message : Bytes) : Bytes :=
  let s := (groups 64 (padded 64 8 (Bytes.ofNatLittle 8) message)).foldl
    (fun s g => s.absorb (words32Little g)) start
  [s.a, s.b, s.c, s.d].flatMap fun w => Bytes.ofNatLittle 4 w.toNat

end ClusterAccess.Crypto.Md5
