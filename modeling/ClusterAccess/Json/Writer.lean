import ClusterAccess.Json.Basic
import ClusterAccess.Text.Utf8

/-!
# Writing JSON

`Json.compact` writes a document on one line and `Json.pretty` on one line per member and item, with
members in the order of their names. Both write ASCII alone: other characters are escaped, those
beyond the basic plane as two units.
-/

namespace ClusterAccess.Json

/-- A unit of 16 bits as an escape. -/
def unitEscape (n : Nat) : List Char :=
  '\\' :: 'u' :: [n / 4096 % 16, n / 256 % 16, n / 16 % 16, n % 16].map Utf8.hexDigit

/-- How a character stands in a string. -/
def escapedChar (c : Char) : List Char :=
  let n := c.toNat
  if c = '"' then ['\\', '"']
  else if c = '\\' then ['\\', '\\']
  else if c = '\n' then ['\\', 'n']
  else if c = '\r' then ['\\', 'r']
  else if c = '\t' then ['\\', 't']
  else if n = 8 then ['\\', 'b']
  else if n = 12 then ['\\', 'f']
  else if 32 ≤ n && n < 127 then [c]
  else if n < 0x10000 then unitEscape n
  else unitEscape (0xD800 + (n - 0x10000) / 1024) ++ unitEscape (0xDC00 + (n - 0x10000) % 1024)

/-- A string between quotes. -/
def quotedText (s : String) : List Char := '"' :: s.toList.flatMap escapedChar ++ ['"']

/-- The pieces of a collection with a separator between neighbours. -/
def separated (sep : List Char) (pieces : List (List Char)) : List Char := sep.intercalate pieces

/-- The text of a value that holds no others. -/
def atom : Json → List Char
  | null => "null".toList
  | bool true => "true".toList
  | bool false => "false".toList
  | int n => (toString n).toList
  | real literal => literal.toList
  | text s => quotedText s
  | array _ => "[]".toList
  | object _ => ['\x7b', '\x7d']

mutual

/-- A value on one line. -/
def compactChars : Json → List Char
  | array items => '[' :: separated [','] (compactItems items) ++ [']']
  | object members => '\x7b' :: separated [','] (compactMembers members) ++ ['\x7d']
  | v => atom v

/-- The texts of items. -/
def compactItems : List Json → List (List Char)
  | [] => []
  | v :: vs => compactChars v :: compactItems vs

/-- The texts of members. -/
def compactMembers : List (String × Json) → List (List Char)
  | [] => []
  | (n, v) :: ms => (quotedText n ++ ':' :: compactChars v) :: compactMembers ms

end

def compact (v : Json) : String := String.ofList (compactChars v)

/-- A line break and the blanks in front of what stands at a depth. -/
def lineAt (depth : Nat) : List Char := '\n' :: List.replicate (2 * depth) ' '

/-- Pieces on lines of their own between two brackets. -/
def lines (depth : Nat) (opening closing : Char) (pieces : List (List Char)) : List Char :=
  opening :: lineAt (depth + 1) ++ separated (',' :: lineAt (depth + 1)) pieces ++
    lineAt depth ++ [closing]

/-- The texts of members, in the order of their names. -/
def inOrder (written : List (String × List Char)) : List (List Char) :=
  (written.mergeSort fun a b => a.1 ≤ b.1).map fun m => quotedText m.1 ++ ':' :: ' ' :: m.2

mutual

/-- A value that begins at a depth, on as many lines as it has parts. -/
def prettyChars (depth : Nat) : Json → List Char
  | array (v :: vs) => lines depth '[' ']' (prettyItems (depth + 1) (v :: vs))
  | object (m :: ms) => lines depth '\x7b' '\x7d' (inOrder (prettyMembers (depth + 1) (m :: ms)))
  | v => atom v

/-- The texts of items at a depth. -/
def prettyItems (depth : Nat) : List Json → List (List Char)
  | [] => []
  | v :: vs => prettyChars depth v :: prettyItems depth vs

/-- The names of members at a depth with the texts of their values. -/
def prettyMembers (depth : Nat) : List (String × Json) → List (String × List Char)
  | [] => []
  | (n, v) :: ms => (n, prettyChars depth v) :: prettyMembers depth ms

end

def pretty (v : Json) : String := String.ofList (prettyChars 0 v)

end ClusterAccess.Json
