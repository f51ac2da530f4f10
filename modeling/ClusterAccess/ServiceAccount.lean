import ClusterAccess.Config.Basic
import ClusterAccess.Event
import ClusterAccess.Sources

/-!
# Service accounts

A program inside a cluster finds the credentials of its service account in two mounted files.
`ServiceAccount.probe` reads the token and points at the certificate; what is not there is left out.
-/

namespace ClusterAccess.ServiceAccount

/-- Where the two files are mounted. -/
structure Mount where
  tokenPath : String := "/var/run/secrets/kubernetes.io/serviceaccount/token"
  caCertPath : String := "/var/run/secrets/kubernetes.io/serviceaccount/ca.crt"
  deriving DecidableEq, Repr

open Config (Setting)

/-- The certificate of the cluster, if it is mounted. -/
def certificate (s : Sources) (m : Mount) : Except Failure (List Setting) :=
  match s.filesystem.isFile m.caCertPath with
  | .ok true => .ok [⟨.caCertFile, some m.caCertPath⟩]
  | .ok false => .ok []
  | .error fault => .error (.unreadable fault)

/-- The token, if it can be read. -/
def token (s : Sources) (m : Mount) : Logged (List Setting) :=
  match s.filesystem.readText m.tokenPath with
  | .ok text => pure [⟨.oauthToken, some text⟩]
  | .error .nulInPath => Logged.fail (.unreadable .nulInPath)
  | .error fault => do
    Logged.tell (.serviceAccountTokenUnavailable m.tokenPath fault)
    pure []

/-- What the service account says about a configuration. -/
def probe (s : Sources) (m : Mount) : Logged (List Setting) := do
  let certificate ← Logged.ofExcept (certificate s m)
  let token ← token s m
  pure (certificate ++ token)

end ClusterAccess.ServiceAccount
