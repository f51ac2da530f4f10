import ClusterAccess.Kubeconfig.Basic
import ClusterAccess.Kubeconfig.Problem
import ClusterAccess.Text.Utf8
import ClusterAccess.Yaml.Value

/-!
# Which documents are kubeconfigs

`Kubeconfig.validate` reads a kubeconfig from the entries of a mapping. Keys of two words may be
written with hyphens or with underscores; the form with hyphens counts when both are there, and the
other is then not looked at. Unknown keys count for nothing. A null stands for an absent text, an absent
truth value and an empty list, but not for a record or a name. Texts may be given as bytes, and truth
values as words and numbers. A text may be broken; a word for a truth value may not.
-/

namespace ClusterAccess.Kubeconfig

open Text (Content)
open Yaml (Value)

/-- The entries of a mapping. -/
abbrev Fields := List (Value × Value)

/-- A key with its two spellings. -/
structure Key where
  hyphenated : String
  plain : String

/-- A key of one word. -/
def Key.word (s : String) : Key := ⟨s, s⟩

/-- A value under a key, with the spelling that it was found under. -/
def Key.find? (k : Key) (fs : Fields) : Option (String × Value) :=
  match Value.get? fs k.hyphenated with
  | some v => some (k.hyphenated, v)
  | none => (Value.get? fs k.plain).map (k.plain, ·)

/-- A text, broken or not, or bytes that encode one. -/
def readText (path : List Step) : Value → Validated Content
  | .text s => .accepted (.text s)
  | .brokenText b => .accepted (.broken b)
  | .bytes b =>
    match Utf8.decode b with
    | .ok s => .accepted (.text s)
    | .error _ => .problem path .notUnicode
  | _ => .problem path .notText

/-- The words for truth values, in lower case. -/
def truthWord? (s : String) : Option Bool :=
  let word := String.ofList (s.toList.map Char.toLower)
  if ["0", "off", "f", "false", "n", "no"].contains word then some false
  else if ["1", "on", "t", "true", "y", "yes"].contains word then some true
  else none

def readTruthWord (path : List Step) (s : String) : Validated Bool :=
  match truthWord? s with
  | some b => .accepted b
  | none => .problem path .notTruthWord

/-- Whole numbers of 64 bits, the only numbers that are taken for an attempt at a truth value. -/
def isWord64 (n : Int) : Bool := -0x8000000000000000 ≤ n && n < 0x8000000000000000

/-- Zero or one. -/
def readTruthNumber (path : List Step) (n : Int) : Validated Bool :=
  if n = 0 then .accepted false
  else if n = 1 then .accepted true
  else if isWord64 n then .problem path .notTruthWord
  else .problem path .notTruthValue

/-- A truth value, the number zero or one, or a word for one. -/
def readTruth (path : List Step) : Value → Validated Bool
  | .bool b => .accepted b
  | .int n => readTruthNumber path n
  | .float r =>
    match r.toInt? with
    | some n => readTruthNumber path n
    | none => .problem path .notTruthValue
  | .text s => readTruthWord path s
  | .brokenText _ => .problem path .notUnicode
  | .bytes b =>
    match Utf8.decode b with
    | .ok s => readTruthWord path s
    | .error _ => .problem path .notTruthWord
  | _ => .problem path .notTruthValue

/-- An optional field: absent or null is none. -/
def optional {α : Type} (read : List Step → Value → Validated α) (path : List Step) (fs : Fields)
    (k : Key) : Validated (Option α) :=
  match k.find? fs with
  | none => .accepted none
  | some (_, .null) => .accepted none
  | some (spelling, v) => some <$> read (path ++ [.key spelling]) v

def optionalText (path : List Step) (fs : Fields) (k : Key) : Validated (Option Content) :=
  optional readText path fs k

/-- The field that every entry must have. -/
def requiredName (path : List Step) (fs : Fields) : Validated Content :=
  match Value.get? fs "name" with
  | none => .problem (path ++ [.key "name"]) .missing
  | some v => readText (path ++ [.key "name"]) v

/-- A record is a mapping. -/
def readRecord {α : Type} (read : List Step → Fields → Validated α) (path : List Step) :
    Value → Validated α
  | .map fs => read path fs
  | _ => .problem path .notRecord

def Cluster.read (path : List Step) (fs : Fields) : Validated Cluster :=
  Cluster.mk
    <$> optionalText path fs (.word "server")
    <*> optional readTruth path fs ⟨"insecure-skip-tls-verify", "insecure_skip_tls_verify"⟩
    <*> optionalText path fs ⟨"certificate-authority", "certificate_authority"⟩
    <*> optionalText path fs ⟨"certificate-authority-data", "certificate_authority_data"⟩

def Context.read (path : List Step) (fs : Fields) : Validated Context :=
  Context.mk
    <$> optionalText path fs (.word "cluster")
    <*> optionalText path fs (.word "user")
    <*> optionalText path fs (.word "namespace")

def User.read (path : List Step) (fs : Fields) : Validated User :=
  User.mk
    <$> optionalText path fs ⟨"client-certificate", "client_certificate"⟩
    <*> optionalText path fs ⟨"client-certificate-data", "client_certificate_data"⟩
    <*> optionalText path fs ⟨"client-key", "client_key"⟩
    <*> optionalText path fs ⟨"client-key-data", "client_key_data"⟩
    <*> optionalText path fs (.word "token")
    <*> optionalText path fs (.word "username")
    <*> optionalText path fs (.word "password")

/-- A named record under `key`; without that key every field of the record is absent. -/
def Entry.read {α : Type} (key : String) (empty : α) (read : List Step → Fields → Validated α)
    (path : List Step) (fs : Fields) : Validated (Entry α) :=
  let record :=
    match Value.get? fs key with
    | none => .accepted empty
    | some v => readRecord read (path ++ [.key key]) v
  Entry.mk <$> requiredName path fs <*> record

/-- The items that a value lists. The pairs of an ordered mapping are items that are no records. -/
def listed? : Value → Option (List Value)
  | .seq vs => some vs
  | .set vs => some vs
  | .pairs ps => some (ps.map fun p => .seq [p.1, p.2])
  | _ => none

/-- A list of entries at the top of the document. -/
def readEntries {α : Type} (key entryKey : String) (empty : α)
    (read : List Step → Fields → Validated α) (fs : Fields) : Validated (List (Entry α)) :=
  let path : List Step := [.key key]
  match Value.get? fs key with
  | none => .accepted []
  | some .null => .accepted []
  | some v =>
    match listed? v with
    | some vs =>
      Validated.items
        (fun i v => readRecord (Entry.read entryKey empty read) (path ++ [.item i]) v) 0 vs
    | none => .problem path .notList

/-- The kubeconfig that the entries of a mapping describe. -/
def validate (fs : Fields) : Validated Kubeconfig :=
  Kubeconfig.mk
    <$> readEntries "clusters" "cluster" {} Cluster.read fs
    <*> readEntries "contexts" "context" {} Context.read fs
    <*> readEntries "users" "user" {} User.read fs
    <*> optionalText [] fs ⟨"current-context", "current_context"⟩

end ClusterAccess.Kubeconfig
