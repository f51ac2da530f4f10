import ClusterAccess.Config.Basic
import ClusterAccess.Event
import ClusterAccess.Kubeconfig.Document
import ClusterAccess.Sources

/-!
# Finding a configuration in a kubeconfig

`Kubeconfig.probe` turns the cluster and the user of the current context into settings. What the
kubeconfig leaves open is set to nothing, so that earlier settings of the same fields do not show
through. A kubeconfig that is missing, cannot be read or names no cluster gives no settings.
-/

namespace ClusterAccess.Kubeconfig

open Config (Setting)
open Text (Content)

/-- The property that says where the kubeconfig is. -/
def locationProperty : String := "kubeconfig"

/-- Where the kubeconfig is, below the home directory unless the sources say otherwise. -/
def location (s : Sources) : String :=
  match s.lookup locationProperty with
  | some path => if path = "" then standard else path
  | none => standard
where
  standard : String := (s.home.join ⟨.here, [".kube", "config"]⟩).render

/-- A reference to a file, written out: below `home` if it starts with a tilde, and otherwise as seen
from `base`. -/
def resolveFile (base home : Path) (reference : String) : String :=
  if reference = "" then ""
  else
    let cs := reference.toList
    let path :=
      if reference = "~" || cs.take 2 = ['~', '/'] then home.join (.ofText (String.ofList (cs.drop 2)))
      else .ofText reference
    if path.isAbsolute then path.render else (base.join path).render

/-- A reference that may be broken, written out. One that is broken has a name that leads somewhere, and
is no tilde. -/
def resolve (base home : Path) : Content → Content
  | .text reference => .text (resolveFile base home reference)
  | .broken b =>
    let tilde := b.codes.take 2 = "~/".toList.map Char.toNat
    let rest := if tilde then b.codes.drop 2 else b.codes
    let names := Path.namesOfCodes rest
    match Path.rootOf (rest.map Char.ofNat) with
    | .here => (if tilde then base.join home else base).contentBelow names
    | root => Path.contentBelow ⟨root, []⟩ names

/-- The settings that a cluster governs. -/
def Cluster.settings (c : Cluster) (base home : Path) : List Setting.Wide :=
  [⟨.masterUrl, c.server⟩,
    ⟨.trustCerts, c.insecureSkipTlsVerify.getD false⟩,
    ⟨.caCertFile, c.certificateAuthority.map (resolve base home)⟩,
    ⟨.caCertData, c.certificateAuthorityData⟩]

/-- The settings that a user governs. -/
def User.settings (u : User) (base home : Path) : List Setting.Wide :=
  [⟨.clientCertFile, u.clientCertificate.map (resolve base home)⟩,
    ⟨.clientCertData, u.clientCertificateData⟩,
    ⟨.clientKeyFile, u.clientKey.map (resolve base home)⟩,
    ⟨.clientKeyData, u.clientKeyData⟩,
    ⟨.oauthToken, u.token⟩,
    ⟨.username, u.username⟩,
    ⟨.password, u.password⟩]

/-- The settings of the current context. -/
def settings (k : Kubeconfig) (path : String) (home : Path) : Logged (List Setting.Wide) :=
  let base := (Path.ofText path).parent
  match k.currentContext? with
  | none => do
    Logged.tell (.kubeconfigContextMissing path k.currentContext)
    pure []
  | some context =>
    match k.cluster? context with
    | none => do
      Logged.tell (.kubeconfigClusterMissing path context.cluster)
      pure []
    | some cluster =>
      match k.user? context with
      | none => do
        Logged.tell (.kubeconfigUserMissing path context.user)
        pure (cluster.settings base home)
      | some user => pure (cluster.settings base home ++ user.settings base home)

/-- Reading the file at a path that is known to hold one. -/
def load (s : Sources) (path : String) : Except Failure Reading :=
  match s.filesystem.readText path with
  | .ok text => .ok (.ofText s.limits text)
  | .error .nulInPath => .error (.unreadable .nulInPath)
  | .error fault => .ok (.faulty (.unreadable fault))

/-- What the kubeconfig says about a configuration. -/
def probe (s : Sources) : Logged (List Setting.Wide) := do
  let path := location s
  if ← Logged.ofExcept ((s.filesystem.isFile path).mapError .unreadable) then
    match ← Logged.ofExcept (load s path) with
    | .kubeconfig k => k.settings path s.home
    | .faulty fault =>
      Logged.tell (.kubeconfigParseFailed path fault)
      pure []
    | .unbuildable what => Logged.fail (.unbuildable what)
  else pure []

end ClusterAccess.Kubeconfig
