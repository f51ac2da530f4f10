import ClusterAccess.Auth

/-!
# Summaries

A `Summary` describes a configuration without its secrets: where it leads, how it proves itself and
how the server is trusted.
-/

namespace ClusterAccess

/-- How the server is trusted: blindly, as the configuration says, or as the platform does. -/
inductive TlsMode where
  | insecure
  | custom
  | platform
  deriving DecidableEq, Repr

def TlsMode.name : TlsMode → String
  | insecure => "insecure"
  | custom => "custom"
  | platform => "default"

structure Summary where
  masterUrl : String
  extendedApiUrl : String
  auth : AuthScheme
  tls : TlsMode
  clientIdentity : Bool
  config : Config
  deriving DecidableEq, Repr

namespace Config

def tlsMode (c : Config) : TlsMode :=
  if c.trustCerts then .insecure
  else if c.needsCustomContext then .custom
  else .platform

def summary (c : Config) : Summary where
  masterUrl := c.masterUrl
  extendedApiUrl := c.extendedApiUrl
  auth := c.authScheme
  tls := c.tlsMode
  clientIdentity := c.hasClientIdentity
  config := c.redacted

end Config

end ClusterAccess
