import ClusterAccess.Config.Basic
import ClusterAccess.Sources

/-!
# Overrides

Every field but one has a property that overrides what was found for it. `Override.settings` reads
those properties that are there; an empty text is there too.
-/

namespace ClusterAccess.Config

/-- The property that overrides a field. -/
structure Override where
  property : String
  field : Field
  deriving DecidableEq, Repr

namespace Override

def masterProperty : String := "kubernetes.master"

/-- All overrides, in the order in which they are read. -/
def table : List Override :=
  [⟨"kubernetes.trust.certificates", .trustCerts⟩,
    ⟨masterProperty, .masterUrl⟩,
    ⟨"kubernetes.api.version", .apiVersion⟩,
    ⟨"kubernetes.oapi.version", .extendedApiVersion⟩,
    ⟨"kubernetes.certs.ca.file", .caCertFile⟩,
    ⟨"kubernetes.certs.ca.data", .caCertData⟩,
    ⟨"kubernetes.certs.client.file", .clientCertFile⟩,
    ⟨"kubernetes.certs.client.data", .clientCertData⟩,
    ⟨"kubernetes.certs.client.key.file", .clientKeyFile⟩,
    ⟨"kubernetes.certs.client.key.data", .clientKeyData⟩,
    ⟨"kubernetes.certs.client.key.algo", .clientKeyAlgo⟩,
    ⟨"kubernetes.certs.client.key.passphrase", .clientKeyPassphrase⟩,
    ⟨"kubernetes.auth.token", .oauthToken⟩,
    ⟨"kubernetes.auth.basic.username", .username⟩,
    ⟨"kubernetes.auth.basic.password", .password⟩,
    ⟨"kubernetes.tls.protocols", .enabledProtocols⟩]

/-- The environment variable that overrides a field when the property is not there. -/
def environName (o : Override) : String := Sources.environName o.property

/-- The setting that an override makes, if it is there. -/
def setting? (s : Sources) (o : Override) : Option Setting :=
  (s.lookup o.property).map fun raw => ⟨o.field, o.field.kind.read raw⟩

/-- The settings that the sources override. -/
def settings (s : Sources) (os : List Override) : List Setting := os.filterMap (setting? s)

end Override

/-- What to say when no source names a master. -/
def missingEndpointMessage : String :=
  "Unknown Kubernetes master URL - please set with the builder, or set with either property \"" ++
    Override.masterProperty ++ "\" or environment variable \"" ++
    Sources.environName Override.masterProperty ++ "\""

end ClusterAccess.Config
