import ClusterAccess.Crypto.Block

/-!
# AES

Decryption of messages in cipher block chaining, with keys of 128, 192 and 256 bits. Bytes are elements
of the field of 256 elements; the substitution inverts them there. A decrypted message ends in padding
that says its own length.
-/

namespace ClusterAccess.Crypto.Aes

/-! ## The field -/

/-- The product with the polynomial x. -/
def double (a : UInt8) : UInt8 := if a &&& 0x80 = 0 then a <<< 1 else (a <<< 1) ^^^ 0x1B

/-- The product of two elements, by doubling as often as `n` says. -/
def timesFrom : Nat → UInt8 → UInt8 → UInt8
  | 0, _, _ => 0
  | n + 1, a, b => (if b &&& 1 = 0 then 0 else a) ^^^ timesFrom n (double a) (b >>> 1)

def times (a b : UInt8) : UInt8 := timesFrom 8 a b

/-- All bytes in order. -/
def allBytes : List UInt8 := (List.range 256).map UInt8.ofNat

/-- The inverse of an element; zero is its own. -/
def inverse (a : UInt8) : UInt8 := (allBytes.find? fun b => times a b = 1).getD 0

def rotateByte (a n : UInt8) : UInt8 := (a <<< n) ||| (a >>> (8 - n))

/-- The substitution of a byte. -/
def substitute (a : UInt8) : UInt8 :=
  let b := inverse a
  b ^^^ rotateByte b 1 ^^^ rotateByte b 2 ^^^ rotateByte b 3 ^^^ rotateByte b 4 ^^^ 0x63

def substitution : Array UInt8 := (allBytes.map substitute).toArray

/-- The table that undoes the substitution. -/
def substitutionBack : Array UInt8 :=
  (List.range 256).foldl (fun t i => t.setIfInBounds (substitution.getD i 0).toNat (UInt8.ofNat i))
    (Array.replicate 256 0)

/-- The table of the products with an element. -/
def multiples (a : UInt8) : Array UInt8 := (allBytes.map (times a)).toArray

def times9 : Array UInt8 := multiples 9

def times11 : Array UInt8 := multiples 11

def times13 : Array UInt8 := multiples 13

def times14 : Array UInt8 := multiples 14

def entry (t : Array UInt8) (b : UInt8) : UInt8 := t.getD b.toNat 0

/-! ## Round keys -/

/-- The word that follows in a key schedule, given the one before it and the one a key length back. -/
def nextWord (keyWords i : Nat) (factor : UInt8) (before back : Bytes) : Bytes :=
  if i % keyWords = 0 then
    let turned := (before.drop 1 ++ before.take 1).map (entry substitution)
    xorBytes back (xorBytes turned [factor, 0, 0, 0])
  else if 6 < keyWords ∧ i % keyWords = 4 then xorBytes back (before.map (entry substitution))
  else xorBytes back before

/-- The words of a key schedule, up to `n` more of them. -/
def expandFrom (keyWords : Nat) : Nat → UInt8 → Array Bytes → Array Bytes
  | 0, _, ws => ws
  | n + 1, factor, ws =>
    let i := ws.size
    let w := nextWord keyWords i factor (ws.getD (i - 1) []) (ws.getD (i - keyWords) [])
    expandFrom keyWords n (if i % keyWords = 0 then double factor else factor) (ws.push w)

/-- The round keys of a key, first to last. -/
def roundKeys (key : Bytes) : List Bytes :=
  let words := groups 4 key
  let count := 4 * (words.length + 7)
  groups 16 ((expandFrom words.length (count - words.length) 1 words.toArray).toList.flatten)

/-! ## Blocks -/

/-- The rows turned back: byte `r` of column `c` comes from column `c - r`. -/
def turnRowsBack (b : Bytes) : Bytes :=
  let a := b.toArray
  (List.range 16).map fun i => a.getD ((i + 16 - 4 * (i % 4)) % 16 / 4 * 4 + i % 4) 0

/-- A column without the mixing of an encryption round. -/
def unmixColumn : Bytes → Bytes
  | [a, b, c, d] =>
    [entry times14 a ^^^ entry times11 b ^^^ entry times13 c ^^^ entry times9 d,
      entry times9 a ^^^ entry times14 b ^^^ entry times11 c ^^^ entry times13 d,
      entry times13 a ^^^ entry times9 b ^^^ entry times14 c ^^^ entry times11 d,
      entry times11 a ^^^ entry times13 b ^^^ entry times9 c ^^^ entry times14 d]
  | column => column

def unmix (b : Bytes) : Bytes := (groups 4 b).flatMap unmixColumn

/-- A block decrypted with round keys from the last to the first. -/
def decryptBlock (keys : List Bytes) (b : Bytes) : Bytes :=
  match keys with
  | [] => b
  | first :: rest => rounds rest (xorBytes b first)
where
  rounds : List Bytes → Bytes → Bytes
    | [], b => b
    | [k], b => xorBytes ((turnRowsBack b).map (entry substitutionBack)) k
    | k :: ks, b => rounds ks (unmix (xorBytes ((turnRowsBack b).map (entry substitutionBack)) k))

/-- Blocks decrypted, each combined with the one before it. -/
def decryptChain (keys : List Bytes) : Bytes → List Bytes → Bytes
  | _, [] => []
  | before, b :: bs => xorBytes (decryptBlock keys b) before ++ decryptChain keys b bs

/-- The message without its padding, if that is well-formed. -/
def unpad? (b : Bytes) : Option Bytes :=
  match b.getLast? with
  | none => none
  | some n =>
    let body := b.length - n.toNat
    if 1 ≤ n.toNat && n.toNat ≤ 16 && (b.drop body).all (· = n) then some (b.take body) else none

/-- The message that was encrypted in whole blocks. -/
def decrypt? (key start message : Bytes) : Option Bytes :=
  if message.length % 16 = 0 then
    unpad? (decryptChain (roundKeys key).reverse start (groups 16 message))
  else none

end ClusterAccess.Crypto.Aes
