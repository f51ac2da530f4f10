import ClusterAccess.Failure
import ClusterAccess.Kubeconfig.Schema
import ClusterAccess.Yaml.Document

/-!
# Kubeconfig documents

`Kubeconfig.ofText` reads a kubeconfig from the text of a document. An empty document is a kubeconfig
without entries. What cannot be built is no fault of the kubeconfig: it ends the reading with a failure of
its own.
-/

namespace ClusterAccess.Kubeconfig

open Yaml (Value)

/-- What a message calls a value that is no mapping. -/
def kindName : Value → String
  | .null => "NoneType"
  | .bool _ => "bool"
  | .int _ => "int"
  | .float _ => "float"
  | .text _ => "str"
  | .brokenText _ => "str"
  | .bytes _ => "bytes"
  | .moment (.date ..) => "date"
  | .moment _ => "datetime"
  | .seq _ => "list"
  | .pairs _ => "list"
  | .set _ => "set"
  | .map _ => "dict"

/-- The kubeconfig that a document describes. -/
def ofValue : Value → Except Fault Kubeconfig
  | .null => .ok {}
  | .map entries =>
    match validate entries with
    | .accepted k => .ok k
    | .refused problems => .error (.invalid problems)
  | v => .error (.notMapping (kindName v))

/-- What reading a text as a kubeconfig comes to. -/
inductive Reading where
  | kubeconfig (k : Kubeconfig)
  | faulty (fault : Fault)
  | unbuildable (what : Yaml.Unbuildable)

/-- The kubeconfig that a text describes. -/
def Reading.ofText (limits : Yaml.Limits) (text : String) : Reading :=
  match Value.ofText limits text with
  | .error (.malformed _) => .faulty .notDocument
  | .error (.unbuildable what) => .unbuildable what
  | .ok v =>
    match ofValue v with
    | .ok k => .kubeconfig k
    | .error fault => .faulty fault

/-- The kubeconfig that a text describes; messages call the text `source`. -/
def ofText (limits : Yaml.Limits) (source text : String) : Except Failure Kubeconfig :=
  match Reading.ofText limits text with
  | .kubeconfig k => .ok k
  | .faulty fault => .error (.access (.kubeconfig source fault))
  | .unbuildable what => .error (.unbuildable what)

end ClusterAccess.Kubeconfig
