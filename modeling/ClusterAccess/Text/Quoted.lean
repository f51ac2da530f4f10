import ClusterAccess.Text.Printable
import ClusterAccess.Text.Utf8

/-!
# Quoted text

`quoted` writes a text between quotes so that it fits on one line of a message. The quote is `'`,
unless the text holds `'` and no `"`. The backslash and the enclosing quote are escaped, newline,
carriage return and tab have a letter, and any other character that is not printable is written by
its number in two, four or eight hexadecimal digits.
-/

namespace ClusterAccess.Text

/-- The last `width` hexadecimal digits of `n`. -/
def hexDigits (width n : Nat) : List Char :=
  (List.range width).map fun i => Utf8.hexDigit (n >>> (4 * (width - 1 - i)) % 16)

/-- The shortest of the three escapes by number that can hold the code point. -/
def numberEscape (n : Nat) : List Char :=
  if n < 0x100 then '\\' :: 'x' :: hexDigits 2 n
  else if n < 0x10000 then '\\' :: 'u' :: hexDigits 4 n
  else '\\' :: 'U' :: hexDigits 8 n

/-- How a character stands inside a text enclosed by `quote`. -/
def quotedChar (quote c : Char) : List Char :=
  if c = quote || c = '\\' then ['\\', c]
  else if c = '\n' then ['\\', 'n']
  else if c = '\r' then ['\\', 'r']
  else if c = '\t' then ['\\', 't']
  else if isPrintable c then [c]
  else numberEscape c.toNat

/-- The quote that encloses a text. -/
def quoteFor (cs : List Char) : Char :=
  if cs.contains '\'' && !cs.contains '"' then '"' else '\''

/-- The text between quotes. -/
def quoted (s : String) : String :=
  let cs := s.toList
  let q := quoteFor cs
  String.ofList (q :: cs.flatMap (quotedChar q) ++ [q])

end ClusterAccess.Text
