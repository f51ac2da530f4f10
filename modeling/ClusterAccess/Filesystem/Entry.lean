import ClusterAccess.Filesystem
import ClusterAccess.Path
import ClusterAccess.Text.Newline

/-!
# Entries of a file system

An `Entry` is what a path can lead to. `Filesystem.ofEntries` is the file system in which paths lead
where a function says: texts are read as paths first, so that two texts of one path are one, and a text
is read with line feeds at the ends of its lines.
-/

namespace ClusterAccess

inductive Entry where
  | file (contents : Bytes)
  /-- A file that may not be read. -/
  | lockedFile
  | directory
  deriving DecidableEq, Repr

namespace Filesystem

/-- Where a path leads, or what stops it. -/
abbrev Lookup := Path → Except IoCause Entry

/-- Whether a text leads to a file. A path that is too long is refused. -/
def entryIsFile (find : Lookup) (text : String) : Except ReadFault Bool :=
  let p := Path.ofText text
  if text.toList.contains '\x00' then .ok false
  else
    match find p with
    | .ok .directory => .ok false
    | .ok _ => .ok true
    | .error .nameTooLong => .error (.io .nameTooLong p.render)
    | .error _ => .ok false

/-- The bytes of the file that a text leads to. -/
def entryBytes (find : Lookup) (text : String) : Except ReadFault Bytes :=
  let p := Path.ofText text
  if text.toList.contains '\x00' then .error .nulInPath
  else
    match find p with
    | .ok (.file b) => .ok b
    | .ok .lockedFile => .error (.io .permissionDenied p.render)
    | .ok .directory => .error (.io .isDirectory p.render)
    | .error cause => .error (.io cause p.render)

/-- The text of the file that a text leads to. -/
def entryText (find : Lookup) (text : String) : Except ReadFault String := do
  let s ← entryBytes find text >>= textOf
  pure (String.ofList (Text.unifyNewlines s.toList))

/-- The file system in which paths lead where `find` says. -/
def ofEntries (find : Lookup) : Filesystem := ⟨entryIsFile find, entryBytes find, entryText find⟩

end Filesystem

end ClusterAccess
