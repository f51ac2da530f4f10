import ClusterAccess.Text.Content

/-!
# Kubeconfig records

A kubeconfig lists clusters, users and contexts by name, and names the context in use. A context
points at a cluster and a user, again by name. `currentContext?`, `cluster?` and `user?` follow these
names: the first entry of a name counts, and an absent or empty `currentContext` names none. Texts in a
kubeconfig may be broken.
-/

namespace ClusterAccess

open Text (Content)

namespace Kubeconfig

/-- Where a cluster is and how its server is trusted. -/
structure Cluster where
  server : Option Content := none
  insecureSkipTlsVerify : Option Bool := none
  certificateAuthority : Option Content := none
  certificateAuthorityData : Option Content := none
  deriving DecidableEq, Repr

/-- Which cluster to use, as whom. -/
structure Context where
  cluster : Option Content := none
  user : Option Content := none
  namespaceName : Option Content := none
  deriving DecidableEq, Repr

/-- How a user proves an identity. -/
structure User where
  clientCertificate : Option Content := none
  clientCertificateData : Option Content := none
  clientKey : Option Content := none
  clientKeyData : Option Content := none
  token : Option Content := none
  username : Option Content := none
  password : Option Content := none
  deriving DecidableEq, Repr

/-- A record under its name. -/
structure Entry (α : Type) where
  name : Content
  record : α
  deriving DecidableEq, Repr

/-- The record of the first entry with the given name. -/
def find? {α : Type} (entries : List (Entry α)) (name : Option Content) : Option α :=
  (entries.find? fun e => some e.name = name).map (·.record)

end Kubeconfig

structure Kubeconfig where
  clusters : List (Kubeconfig.Entry Kubeconfig.Cluster) := []
  contexts : List (Kubeconfig.Entry Kubeconfig.Context) := []
  users : List (Kubeconfig.Entry Kubeconfig.User) := []
  currentContext : Option Content := none
  deriving DecidableEq, Repr

namespace Kubeconfig

/-- The context that `currentContext` names. -/
def currentContext? (k : Kubeconfig) : Option Context :=
  match k.currentContext with
  | none => none
  | some name => if name = .text "" then none else find? k.contexts (some name)

/-- The cluster that a context points at. -/
def cluster? (k : Kubeconfig) (c : Context) : Option Cluster := find? k.clusters c.cluster

/-- The user that a context points at. -/
def user? (k : Kubeconfig) (c : Context) : Option User := find? k.users c.user

end Kubeconfig

end ClusterAccess
