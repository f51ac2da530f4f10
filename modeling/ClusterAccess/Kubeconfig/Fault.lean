import ClusterAccess.Filesystem
import ClusterAccess.Kubeconfig.Problem

/-!
# What can be wrong with a kubeconfig

Its file cannot be read, its text is no document, the document is no mapping, or the mapping does not
describe a kubeconfig.
-/

namespace ClusterAccess.Kubeconfig

inductive Fault where
  | unreadable (fault : ReadFault)
  | notDocument
  | notMapping (kind : String)
  | invalid (problems : List Problem)
  deriving DecidableEq, Repr

/-- What is wrong with the kubeconfig that is called `source`. -/
def Fault.message (source : String) : Fault → String
  | unreadable fault => "Could not read kubeconfig " ++ source ++ ": " ++ fault.message
  | notDocument => "Kubeconfig " ++ source ++ " is not valid YAML"
  | notMapping kind => "Kubeconfig " ++ source ++ " must be a mapping, got " ++ kind ++ "."
  | invalid _ => "Kubeconfig " ++ source ++ " has an invalid structure"

end ClusterAccess.Kubeconfig
