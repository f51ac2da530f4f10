import ClusterAccess.Text.Blank
import ClusterAccess.Text.Content

/-!
# Paths

A `Path` is a root and the names below it. Reading a path drops empty names and the name `.`, so
repeated slashes and a slash at the end say nothing; `..` is a name like any other. Two slashes at the
start, no more and no fewer, are a root of their own. `Path.join` hangs a relative path below another
and lets an absolute one stand. Where the text of a path may be broken, so may its names.
-/

namespace ClusterAccess

/-- Where a path starts. -/
inductive Root where
  | here
  | slash
  | doubleSlash
  deriving DecidableEq, Repr

structure Path where
  root : Root
  names : List String
  deriving DecidableEq, Repr

namespace Path

def rootOf : List Char → Root
  | '/' :: '/' :: '/' :: _ => .slash
  | '/' :: '/' :: _ => .doubleSlash
  | '/' :: _ => .slash
  | _ => .here

/-- Names that say where one already is. -/
def isName (cs : List Char) : Bool := !cs.isEmpty && cs != ['.']

/-- The names between the slashes of a text. -/
def namesOf (cs : List Char) : List String :=
  ((Text.pieces '/' cs).filter isName).map String.ofList

def ofText (s : String) : Path := ⟨rootOf s.toList, namesOf s.toList⟩

def rootChars : Root → List Char
  | .here => []
  | .slash => ['/']
  | .doubleSlash => ['/', '/']

/-- The shortest text of a path. -/
def render (p : Path) : String :=
  match p.root, p.names with
  | .here, [] => "."
  | root, names => String.ofList (rootChars root ++ Text.joinPieces '/' (names.map String.toList))

def isAbsolute (p : Path) : Bool := p.root != .here

/-- The second path as seen from the first. -/
def join (p q : Path) : Path :=
  if q.isAbsolute then q else ⟨p.root, p.names ++ q.names⟩

/-- The path without its last name. -/
def parent (p : Path) : Path := ⟨p.root, p.names.dropLast⟩

theorem join_of_isAbsolute {p q : Path} (h : q.isAbsolute = true) : p.join q = q := by
  simp [join, h]

theorem join_of_relative {p q : Path} (h : q.isAbsolute = false) :
    p.join q = ⟨p.root, p.names ++ q.names⟩ := by
  simp [join, h]

/-! ## Names that may be broken -/

open Text (Content)

/-- The names between the slashes of code points. -/
def namesOfCodes (codes : List Nat) : List Content :=
  ((Text.pieces '/'.toNat codes).filter fun name => !name.isEmpty && name != ['.'.toNat]).map .ofCodes

/-- The content of a path with further names below it, of which there are some. -/
def contentBelow (p : Path) (names : List Content) : Content :=
  let pieces := p.names.map (fun name => name.toList.map Char.toNat) ++ names.map Content.codes
  .ofCodes ((rootChars p.root).map Char.toNat ++ Text.joinPieces '/'.toNat pieces)

end Path

end ClusterAccess
