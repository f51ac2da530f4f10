import ClusterAccess.Failure
import ClusterAccess.Text.Blank

/-!
# Material

A piece of certificate or key material is given as the path of a file, as base64 text, or both; the
file counts then. Empty texts count as not given, and blanks in base64 text do not count.
-/

namespace ClusterAccess.Pki

/-- Where a piece of material is. -/
structure Material where
  file : Option String
  data : Option String
  deriving DecidableEq, Repr

namespace Material

/-- The bytes of a file. -/
def readFile (fs : Filesystem) (label path : String) : Except Failure Bytes :=
  match fs.readBytes path with
  | .ok b => .ok b
  | .error .nulInPath => .error (.unreadable .nulInPath)
  | .error fault => .error (.access (.material (.unreadable label path fault)))

/-- The bytes that a base64 text stands for. -/
def decodeInline (label text : String) : Except Failure Bytes :=
  match Base64.decode (Text.squeeze text.toList) with
  | .ok b => .ok b
  | .error fault => .error (.access (.material (.notBase64 label fault)))

/-- The bytes of a piece of material, if it is given. -/
def load (fs : Filesystem) (label : String) (m : Material) : Except Failure (Option Bytes) :=
  match m.file with
  | some path => if path = "" then inline else some <$> readFile fs label path
  | none => inline
where
  inline : Except Failure (Option Bytes) :=
    match m.data with
    | some text => if text = "" then .ok none else some <$> decodeInline label text
    | none => .ok none

end Material

end ClusterAccess.Pki
