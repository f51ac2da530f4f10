import ClusterAccess.Filesystem.Entry

/-!
# Directories

A `Directory` holds files and directories at any depth; the directories above a file are there with it.
Seen as a `Filesystem` it is where the paths start, and what lies beside it cannot be seen: above the
directory there are only directories. `Directory.walk` goes along the names of a path and says which
name stops it.
-/

namespace ClusterAccess

/-- Files and directories, each under the names that lead to it. -/
structure Directory where
  files : List (List String × Bytes)
  directories : List (List String)
  deriving DecidableEq, Repr

namespace Directory

/-- How long a name may be, in bytes. -/
def maxName : Nat := 255

/-- How long a path may be, in bytes. -/
def maxPath : Nat := 4095

/-- The name of the directory above. -/
def up : String := ".."

def nameTooLong (name : String) : Bool := maxName < name.utf8ByteSize

/-- A directory of files and directories under the texts of their paths. -/
def ofPaths (files : List (String × Bytes)) (directories : List String) : Directory where
  files := files.map fun f => ((Path.ofText f.1).names, f.2)
  directories := directories.map fun d => (Path.ofText d).names

/-- Whether something lies below the names. -/
def isAbove (d : Directory) (names : List String) : Bool :=
  names.isEmpty || d.files.any (names.isPrefixOf ·.1) || d.directories.any (names.isPrefixOf ·)

/-- What lies at the end of names. -/
def entry? (d : Directory) (names : List String) : Option Entry :=
  match d.files.lookup names with
  | some b => some (.file b)
  | none => if d.isAbove names then some .directory else none

/-- What a path leads to outside the directory, where nothing has a name. -/
def walkOutside : List String → Except IoCause Entry
  | [] => .ok .directory
  | name :: names =>
    if name = up then walkOutside names
    else .error (if nameTooLong name then .nameTooLong else .notFound)

/-- What a path leads to that has come as far as `place`. -/
def walk (d : Directory) (place : List String) : List String → Except IoCause Entry
  | [] => match d.entry? place with
    | some e => .ok e
    | none => .error .notFound
  | name :: names =>
    match d.entry? place with
    | none => .error .notFound
    | some .directory =>
      if name = up then
        if place.isEmpty then walkOutside names else walk d place.dropLast names
      else if nameTooLong name then .error .nameTooLong
      else walk d (place ++ [name]) names
    | some _ => .error .notDirectory

/-- What a path leads to. -/
def find (d : Directory) : Filesystem.Lookup := fun p =>
  if maxPath < p.render.utf8ByteSize then .error .nameTooLong
  else if p.isAbsolute then walkOutside p.names
  else d.walk [] p.names

/-- The file system that starts at a directory. -/
def filesystem (d : Directory) : Filesystem := .ofEntries d.find

end Directory

end ClusterAccess
