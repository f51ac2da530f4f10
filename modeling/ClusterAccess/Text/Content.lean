import ClusterAccess.Text.Quoted

/-!
# Texts that may be broken

A document can name half of a surrogate pair by its number. What holds such a half is no text, since a
character is not among them, and is kept as a sequence of code points. `Content` is either.
-/

namespace ClusterAccess.Text

def isScalarValue (n : Nat) : Bool := n < 0xD800 || (0xDFFF < n && n < 0x110000)

/-- Code points that make no text. -/
structure Broken where
  codes : List Nat
  isBroken : codes.all isScalarValue = false
  deriving DecidableEq, Repr

inductive Content where
  | text (s : String)
  | broken (b : Broken)
  deriving DecidableEq, Repr

namespace Content

/-- The content with the given code points. -/
def ofCodes (codes : List Nat) : Content :=
  match h : codes.all isScalarValue with
  | true => text (String.ofList (codes.map Char.ofNat))
  | false => broken ⟨codes, h⟩

def codes : Content → List Nat
  | text s => s.toList.map Char.toNat
  | broken b => b.codes

/-- The text, if it is one. -/
def text? : Content → Option String
  | text s => some s
  | broken _ => none

/-- The text, with the replacement character for what is none. -/
def shown : Content → String
  | text s => s
  | broken b =>
    String.ofList (b.codes.map fun n => if isScalarValue n then Char.ofNat n else Utf8.replacement)

end Content

/-- Code points in quotes, as a message shows them. -/
def quotedCodes (codes : List Nat) : String :=
  let q := if codes.contains '\''.toNat && !codes.contains '"'.toNat then '"' else '\''
  let one (n : Nat) : List Char := if isScalarValue n then quotedChar q (Char.ofNat n) else numberEscape n
  String.ofList (q :: codes.flatMap one ++ [q])

end ClusterAccess.Text
