import ClusterAccess.Text.Numeral
import ClusterAccess.Text.Utf8

/-!
# Percent encoding

`encode` writes every character outside a class by the percent signs of its UTF-8 bytes, and leaves
percent signs alone that already introduce a byte. `decode` reads bytes so written back into a text.
-/

namespace ClusterAccess.Url.Percent

/-- Letters, digits and four marks, which no part of a URL has to escape. -/
def isUnreserved (c : Char) : Bool :=
  c.isAlphanum || c = '-' || c = '.' || c = '_' || c = '~'

def isHex (c : Char) : Bool := (Text.baseDigit? 16 c).isSome

/-- A hexadecimal digit in upper case. -/
def upperHex (d : Nat) : Char :=
  if d < 10 then Char.ofNat (48 + d) else Char.ofNat (55 + d)

/-- A byte by its number. -/
def escapeByte (b : UInt8) : List Char :=
  ['%', upperHex (b.toNat / 16), upperHex (b.toNat % 16)]

def escape (c : Char) : List Char :=
  (String.utf8EncodeChar c).flatMap escapeByte

/-- The text in which only unreserved and `safe` characters, and bytes that are written by number,
remain. -/
def encode (safe : Char → Bool) : List Char → List Char
  | '%' :: a :: b :: cs =>
    if isHex a && isHex b then '%' :: a :: b :: encode safe cs
    else (if safe '%' then ['%'] else escape '%') ++ encode safe (a :: b :: cs)
  | c :: cs => (if isUnreserved c || safe c then [c] else escape c) ++ encode safe cs
  | [] => []

/-- The bytes of a text in which some are written by number. -/
def decodeBytes : List Char → Bytes
  | '%' :: a :: b :: cs =>
    match Text.baseDigit? 16 a, Text.baseDigit? 16 b with
    | some x, some y => UInt8.ofNat (x * 16 + y) :: decodeBytes cs
    | _, _ => String.utf8EncodeChar '%' ++ decodeBytes (a :: b :: cs)
  | c :: cs => String.utf8EncodeChar c ++ decodeBytes cs
  | [] => []

/-- The text that is meant by one in which some bytes are written by number. -/
def decode (s : String) : String := Utf8.decodeLossy (decodeBytes s.toList)

end ClusterAccess.Url.Percent
