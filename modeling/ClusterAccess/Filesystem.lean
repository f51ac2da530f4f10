import ClusterAccess.Text.Quoted
import ClusterAccess.Text.Utf8

/-!
# File systems

A `Filesystem` answers three questions about a path: whether a file is there, which bytes it holds and
which text. `Filesystem.inMemory` is a table of files, some of which may not be read; there, a path is
looked up exactly as it is written.
-/

namespace ClusterAccess

/-- Why the system refuses a path. -/
inductive IoCause where
  | permissionDenied
  | notFound
  | notDirectory
  | isDirectory
  | nameTooLong
  deriving DecidableEq, Repr

/-- The number that the system gives to a cause. -/
def IoCause.code : IoCause → Nat
  | notFound => 2
  | permissionDenied => 13
  | notDirectory => 20
  | isDirectory => 21
  | nameTooLong => 36

def IoCause.all : List IoCause := [permissionDenied, notFound, notDirectory, isDirectory, nameTooLong]

/-- The cause that has a number. -/
def IoCause.ofCode? (n : Nat) : Option IoCause := all.find? (·.code = n)

theorem IoCause.ofCode?_code (c : IoCause) : ofCode? c.code = some c := by cases c <;> rfl

def IoCause.message : IoCause → String
  | notFound => "No such file or directory"
  | permissionDenied => "Permission denied"
  | notDirectory => "Not a directory"
  | isDirectory => "Is a directory"
  | nameTooLong => "File name too long"

/-- Why a file cannot be read: the system refuses, its bytes are no text, or what names it can name
no file. -/
inductive ReadFault where
  | io (cause : IoCause) (path : String)
  | notText (fault : Utf8.Fault)
  | nulInPath
  deriving DecidableEq, Repr

def ReadFault.message : ReadFault → String
  | io cause path => "[Errno " ++ toString cause.code ++ "] " ++ cause.message ++ ": " ++ Text.quoted path
  | notText fault => fault.message
  | nulInPath => "embedded null byte"

structure Filesystem where
  isFile : String → Except ReadFault Bool
  readBytes : String → Except ReadFault Bytes
  readText : String → Except ReadFault String

namespace Filesystem

/-- Bytes as text. -/
def textOf (b : Bytes) : Except ReadFault String := (Utf8.decode b).mapError .notText

/-- The bytes under a path of a table of files, unless it is one of the `unreadable`. -/
def contents (files : List (String × Bytes)) (unreadable : List String) (path : String) :
    Except ReadFault Bytes :=
  if unreadable.contains path then .error (.io .permissionDenied path)
  else
    match files.lookup path with
    | some b => .ok b
    | none => .error (.io .notFound path)

/-- A table of files. Files that may not be read are seen all the same. -/
def inMemory (files : List (String × Bytes)) (unreadable : List String) : Filesystem where
  isFile path := .ok (files.lookup path).isSome
  readBytes path := contents files unreadable path
  readText path := contents files unreadable path >>= textOf

theorem contents_eq_ok {files : List (String × Bytes)} {unreadable : List String} {path : String}
    {b : Bytes} :
    contents files unreadable path = .ok b ↔ path ∉ unreadable ∧ files.lookup path = some b := by
  unfold contents
  by_cases h : path ∈ unreadable
  · simp [h]
  · cases files.lookup path <;> simp [h]

theorem textOf_eq_ok {b : Bytes} {text : String} : textOf b = .ok text ↔ Utf8.decode b = .ok text := by
  unfold textOf
  cases Utf8.decode b with
  | error fault => exact ⟨fun h => (by cases h), fun h => (by cases h)⟩
  | ok t => exact ⟨fun h => (by cases h; rfl), fun h => (by cases h; rfl)⟩

theorem readText_inMemory {files : List (String × Bytes)} {unreadable : List String}
    {path text : String} :
    (inMemory files unreadable).readText path = .ok text ↔
      path ∉ unreadable ∧ ∃ b, files.lookup path = some b ∧ Utf8.decode b = .ok text := by
  change contents files unreadable path >>= textOf = _ ↔ _
  cases h : contents files unreadable path with
  | error fault =>
    refine ⟨fun h => (by cases h), fun ⟨hu, b, hb, _⟩ => ?_⟩
    rw [contents_eq_ok.mpr ⟨hu, hb⟩] at h
    cases h
  | ok b =>
    obtain ⟨hu, hb⟩ := contents_eq_ok.mp h
    change textOf b = _ ↔ _
    rw [textOf_eq_ok]
    simp [hu, hb]

theorem contents_ne_nulInPath (files : List (String × Bytes)) (unreadable : List String)
    (path : String) : contents files unreadable path ≠ .error .nulInPath := by
  intro h
  unfold contents at h
  split at h
  · cases h
  · split at h <;> cases h

/-- No path is refused for what it holds. -/
theorem readText_inMemory_ne_nulInPath (files : List (String × Bytes)) (unreadable : List String)
    (path : String) : (inMemory files unreadable).readText path ≠ .error .nulInPath := by
  change contents files unreadable path >>= textOf ≠ _
  intro h
  cases hc : contents files unreadable path with
  | error fault =>
    rw [hc] at h
    cases h
    exact contents_ne_nulInPath files unreadable path hc
  | ok b =>
    rw [hc] at h
    change textOf b = _ at h
    unfold textOf at h
    cases hd : Utf8.decode b <;> rw [hd] at h <;> cases h

end Filesystem

end ClusterAccess
