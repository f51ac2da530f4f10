import ClusterAccess.Config.Field

/-!
# Configurations

A `Draft` is a configuration in the making: its base URLs may be missing. A `Config` is complete, and
its base URLs are final. They share the `Options` that say how a cluster is reached, trusted and
addressed. `Draft.get` and `Draft.set` see a draft as one value per field; what a draft holds
after a list of settings is what `Setting.last?` says, and otherwise what it held before.
-/

namespace ClusterAccess

namespace Config

/-- What a draft and a configuration share. -/
structure Options where
  apiVersion : String := "v1"
  extendedApiVersion : String := "v1"
  trustCerts : Bool := false
  enabledProtocols : List String := ["TLSv1.2"]
  caCertFile : Option String := none
  caCertData : Option String := none
  clientCertFile : Option String := none
  clientCertData : Option String := none
  clientKeyFile : Option String := none
  clientKeyData : Option String := none
  clientKeyAlgo : String := "RSA"
  clientKeyPassphrase : String := "changeit"
  username : Option String := none
  password : Option String := none
  oauthToken : Option String := none
  deriving DecidableEq, Repr

/-- The passphrase of a client key for which none is given. -/
def defaultPassphrase : String := ({} : Options).clientKeyPassphrase

/-- A configuration in the making. -/
structure Draft extends Options where
  masterUrl : Option String := some "https://kubernetes.default.svc"
  extendedApiUrl : Option String := none
  deriving DecidableEq, Repr

namespace Draft

def get (d : Draft) : (f : Field) → f.Value
  | .masterUrl => d.masterUrl
  | .extendedApiUrl => d.extendedApiUrl
  | .apiVersion => d.apiVersion
  | .extendedApiVersion => d.extendedApiVersion
  | .trustCerts => d.trustCerts
  | .enabledProtocols => d.enabledProtocols
  | .caCertFile => d.caCertFile
  | .caCertData => d.caCertData
  | .clientCertFile => d.clientCertFile
  | .clientCertData => d.clientCertData
  | .clientKeyFile => d.clientKeyFile
  | .clientKeyData => d.clientKeyData
  | .clientKeyAlgo => d.clientKeyAlgo
  | .clientKeyPassphrase => d.clientKeyPassphrase
  | .username => d.username
  | .password => d.password
  | .oauthToken => d.oauthToken

def set (d : Draft) : Setting → Draft
  | ⟨.masterUrl, v⟩ => { d with masterUrl := v }
  | ⟨.extendedApiUrl, v⟩ => { d with extendedApiUrl := v }
  | ⟨.apiVersion, v⟩ => { d with apiVersion := v }
  | ⟨.extendedApiVersion, v⟩ => { d with extendedApiVersion := v }
  | ⟨.trustCerts, v⟩ => { d with trustCerts := v }
  | ⟨.enabledProtocols, v⟩ => { d with enabledProtocols := v }
  | ⟨.caCertFile, v⟩ => { d with caCertFile := v }
  | ⟨.caCertData, v⟩ => { d with caCertData := v }
  | ⟨.clientCertFile, v⟩ => { d with clientCertFile := v }
  | ⟨.clientCertData, v⟩ => { d with clientCertData := v }
  | ⟨.clientKeyFile, v⟩ => { d with clientKeyFile := v }
  | ⟨.clientKeyData, v⟩ => { d with clientKeyData := v }
  | ⟨.clientKeyAlgo, v⟩ => { d with clientKeyAlgo := v }
  | ⟨.clientKeyPassphrase, v⟩ => { d with clientKeyPassphrase := v }
  | ⟨.username, v⟩ => { d with username := v }
  | ⟨.password, v⟩ => { d with password := v }
  | ⟨.oauthToken, v⟩ => { d with oauthToken := v }

/-- The draft after settings, the last of a field counting. -/
def update (d : Draft) (ss : List Setting) : Draft := ss.foldl set d

/-- The fields in which two drafts differ. -/
def changed (before after : Draft) : List Field :=
  Field.all.filter fun f => before.get f != after.get f

/-- A setting says what its field holds and leaves the others alone. -/
theorem get_set (d : Draft) (s : Setting) (f : Field) :
    (d.set s).get f = (s.for? f).getD (d.get f) := by
  obtain ⟨g, v⟩ := s
  by_cases h : g = f
  · subst h
    rw [Setting.for?_self]
    cases g <;> rfl
  · rw [Setting.for?_of_ne h]
    cases g <;> cases f <;> first | rfl | exact absurd rfl h

/-- After settings a field holds what the last of them says, and otherwise what it held before. -/
theorem get_update (d : Draft) (ss : List Setting) (f : Field) :
    (d.update ss).get f = (Setting.last? ss f).getD (d.get f) := by
  induction ss generalizing d with
  | nil => rfl
  | cons s ss ih =>
    rw [update, List.foldl_cons, ← update, ih, get_set, Setting.last?_cons]
    cases Setting.last? ss f <;> rfl

/-- Drafts are equal when their fields are. -/
theorem ext_get {d e : Draft} (h : ∀ f, d.get f = e.get f) : d = e := by
  cases d
  cases e
  rw [Draft.mk.injEq, Options.mk.injEq]
  exact ⟨⟨h .apiVersion, h .extendedApiVersion, h .trustCerts, h .enabledProtocols, h .caCertFile,
    h .caCertData, h .clientCertFile, h .clientCertData, h .clientKeyFile, h .clientKeyData,
    h .clientKeyAlgo, h .clientKeyPassphrase, h .username, h .password, h .oauthToken⟩,
    h .masterUrl, h .extendedApiUrl⟩

end Draft

end Config

/-- A complete configuration: everything needed to reach and trust a cluster. -/
@[ext] structure Config extends Config.Options where
  masterUrl : String
  extendedApiUrl : String
  deriving DecidableEq, Repr

namespace Config

/-- A configuration as a draft with both base URLs. -/
def toDraft (c : Config) : Draft :=
  { c.toOptions with masterUrl := some c.masterUrl, extendedApiUrl := some c.extendedApiUrl }

/-- A configuration is what its fields hold. -/
theorem ext_get {a b : Config} (h : ∀ f, a.toDraft.get f = b.toDraft.get f) : a = b :=
  Config.ext (h .apiVersion) (h .extendedApiVersion) (h .trustCerts) (h .enabledProtocols)
    (h .caCertFile) (h .caCertData) (h .clientCertFile) (h .clientCertData) (h .clientKeyFile)
    (h .clientKeyData) (h .clientKeyAlgo) (h .clientKeyPassphrase) (h .username) (h .password)
    (h .oauthToken) (Option.some.inj (h .masterUrl)) (Option.some.inj (h .extendedApiUrl))

/-- A text that is there and not empty. -/
def isGiven (s : Option String) : Bool :=
  match s with
  | some t => t != ""
  | none => false

theorem isGiven_eq_true {s : Option String} : isGiven s = true ↔ ∃ t, s = some t ∧ t ≠ "" := by
  unfold isGiven
  cases s <;> simp

namespace Options

def hasCaMaterial (o : Options) : Bool := isGiven o.caCertFile || isGiven o.caCertData

def hasClientCert (o : Options) : Bool := isGiven o.clientCertFile || isGiven o.clientCertData

def hasClientKey (o : Options) : Bool := isGiven o.clientKeyFile || isGiven o.clientKeyData

/-- Only a certificate and a key together identify a client. -/
def hasClientIdentity (o : Options) : Bool := o.hasClientCert && o.hasClientKey

def hasBasicAuth (o : Options) : Bool := o.username.isSome && o.password.isSome

/-- Whether the connection needs more than the platform's usual trust. -/
def needsCustomContext (o : Options) : Bool :=
  o.hasCaMaterial || o.hasClientIdentity || o.trustCerts

end Options

/-- What stands for a secret in reports. -/
def mask : String := "***"

/-- What stands for certificates in reports. -/
def inlineMark : String := "<inline>"

/-- The configuration without its secrets, safe to show. -/
def redacted (c : Config) : Config :=
  { c with
    password := c.password.map fun _ => mask
    oauthToken := c.oauthToken.map fun _ => mask
    clientKeyPassphrase := mask
    clientKeyData := c.clientKeyData.map fun _ => mask
    caCertData := c.caCertData.map fun _ => inlineMark
    clientCertData := c.clientCertData.map fun _ => inlineMark }

end Config

end ClusterAccess
