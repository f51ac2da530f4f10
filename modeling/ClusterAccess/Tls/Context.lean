import ClusterAccess.Config.Basic
import ClusterAccess.Event
import ClusterAccess.Pki.Store
import ClusterAccess.Tls.Bounds

/-!
# TLS contexts

A `Context` says which protocol versions a connection admits, which certificates it trusts, who the
client is and whether the certificate and the name of the server are checked at all. `Context.ofConfig`
makes the context that a configuration asks for, of certificates and keys that the provider takes. A
configuration that asks for nothing gets none: the platform's usual trust applies.
-/

namespace ClusterAccess.Tls

open Pki (Certificate KeyStore Material Provider TrustStore)

/-- Whether the server has to show a certificate that is trusted. -/
inductive Verification where
  | required
  | off
  deriving DecidableEq, Repr

/-- Unless it is told otherwise, a context verifies the server and checks its name. -/
structure Context where
  bounds : Bounds
  /-- The trusted certificates; none for those of the platform. -/
  trusted : Option (List Certificate)
  identity : Option KeyStore
  verification : Verification := .required
  checksHostname : Bool := true
  deriving DecidableEq, Repr

namespace Context

/-- The context that takes any server. -/
def trustingAll (c : Context) : Context := { c with verification := .off, checksHostname := false }

def verifiesServer (c : Context) : Bool := c.verification = .required

/-- Certificates without repetitions. -/
def distinct : List Certificate → List Certificate
  | [] => []
  | c :: cs => c :: (distinct cs).filter fun d => d.encoded != c.encoded

/-! ## What the provider takes -/

/-- Trusts the certificates of a trust store, if there is one. -/
def checkAnchors (via : Provider) : Option TrustStore → Except Failure Unit
  | none => .ok ()
  | some t => if via.takesAnchors t.certificates then .ok () else .error (.access (.tls .rejected))

/-- Refuses a key store that cannot be the identity of a client. -/
def checkIdentity (via : Provider) (s : KeyStore) : Except Failure Unit := do
  s.checkPassphrase
  if via.takesIdentity s.chain s.privateKey then pure () else .error (.access (.tls .rejected))

/-- Takes a key store, if there is one, as the identity of the client. -/
def loadIdentity (via : Provider) : Option KeyStore → Logged Unit
  | none => pure ()
  | some s => do
    Logged.tellIf (s.passphrase = Config.defaultPassphrase)
      (.defaultKeyPassphraseInUse KeyStore.entryName)
    Logged.ofExcept (checkIdentity via s)

/-! ## Contexts of configurations -/

/-- The CA material of a configuration. -/
def caMaterial (c : Config) : Material := ⟨c.caCertFile, c.caCertData⟩

/-- The client material of a configuration. -/
def clientMaterial (c : Config) : KeyStore.Source where
  certificate := ⟨c.clientCertFile, c.clientCertData⟩
  key := ⟨c.clientKeyFile, c.clientKeyData⟩
  algorithm := c.clientKeyAlgo
  passphrase := c.clientKeyPassphrase

/-- The trust store that a configuration asks for. -/
def trustStore (c : Config) (fs : Filesystem) : Except Failure (Option TrustStore) :=
  if c.hasCaMaterial then TrustStore.load fs (caMaterial c) else .ok none

/-- The key store that a configuration asks for. -/
def keyStore (via : Provider) (c : Config) (fs : Filesystem) : Except Failure (Option KeyStore) :=
  if c.hasClientIdentity then KeyStore.load via fs (clientMaterial c) else .ok none

/-- The bounds that a configuration asks for. -/
def boundsOf (c : Config) : Except Failure Bounds :=
  (Bounds.ofNames c.enabledProtocols).mapError fun fault => .access (.tls fault)

/-- The context made of what a configuration asks for. -/
def assemble (c : Config) (trust : Option TrustStore) (keys : Option KeyStore) (bounds : Bounds) :
    Context :=
  let context : Context :=
    { bounds := bounds
      trusted := trust.map fun t => distinct t.certificates
      identity := keys }
  if c.trustCerts then context.trustingAll else context

/-- The context that a configuration asks for. -/
def ofConfig (via : Provider) (c : Config) (fs : Filesystem) : Logged (Option Context) :=
  if c.needsCustomContext then do
    let trust ← Logged.ofExcept (trustStore c fs)
    let keys ← Logged.ofExcept (keyStore via c fs)
    let bounds ← Logged.ofExcept (boundsOf c)
    Logged.ofExcept (checkAnchors via trust)
    loadIdentity via keys
    Logged.tellIf c.trustCerts (.insecureTrustEnabled c.masterUrl)
    pure (some (assemble c trust keys bounds))
  else pure none

end Context

end ClusterAccess.Tls
