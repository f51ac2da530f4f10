import ClusterAccess.Config.Layers
import ClusterAccess.Http.Session

/-!
# Clients

A `Client` has a configuration and a session with the TLS context and the proof of identity that the
configuration asks for. `Client.ofConfig` makes one or tells why there is none, `Client.rootPaths` asks
the cluster which paths it serves, and `Client.close` ends the client and its session once and for all.
-/

namespace ClusterAccess

structure Client where
  config : Config
  session : Http.Session
  closed : Bool := false
  deriving DecidableEq, Repr

namespace Client

/-! ## Making a client -/

/-- Refuses a configuration without a master, or with a base URL that is no endpoint. -/
def checkEndpoints (c : Config) : Except Failure Unit :=
  if c.masterUrl = "" then .error (.access .missingEndpoint)
  else do
    let _ ← Endpoint.check Endpoint.masterLabel c.masterUrl
    let _ ← Endpoint.check Endpoint.extendedLabel c.extendedApiUrl
    pure ()

/-- The client of a configuration. -/
def ofConfig (via : Pki.Provider) (c : Config) (fs : Filesystem) : Logged Client := do
  Logged.ofExcept (checkEndpoints c)
  let context ← Tls.Context.ofConfig via c fs
  let auth ← c.selectAuth
  Logged.tell (.clientCreated c.masterUrl c.authScheme context.isSome c.hasClientIdentity)
  pure { config := c, session := { context, auth } }

/-- The client of a draft. -/
def ofDraft (via : Pki.Provider) (d : Config.Draft) (fs : Filesystem) : Logged Client := do
  let c ← Logged.ofExcept d.build
  ofConfig via c fs

/-- The client that the sources give. -/
def ofSources (via : Pki.Provider) (s : Sources) : Logged Client := do
  let d ← Config.Draft.ofSources s
  ofDraft via d s.filesystem

/-- The client that the sources give for a master. -/
def ofMasterUrl (via : Pki.Provider) (masterUrl : String) (s : Sources) : Logged Client := do
  let sketch ← Config.Sketch.ofSources s
  let d ← Logged.ofExcept (sketch.choose (.setting ⟨.masterUrl, some masterUrl⟩)).toDraft
  ofDraft via d s.filesystem

/-! ## Requests -/

/-- What came of an attempt to ask the cluster. -/
structure Answer where
  requests : List Http.Request
  outcome : Except Failure Json

/-- The document in a response. -/
def document (url : Url) (r : Http.Response) : Except Failure Json :=
  if Http.Status.isSuccess r.status then (Json.ofBytes r.body).mapError .body
  else .error (.status r.status url.render)

/-- Asks for the paths that the cluster serves, beginning with request number `n`. -/
def rootPaths (c : Client) (server : Http.Server) (n : Nat) : Answer :=
  match Url.parse c.config.masterUrl with
  | .error fault => ⟨[], .error (.invalidUrl fault)⟩
  | .ok url =>
    let sent := c.session.get server n url []
    let last := (sent.requests.getLast?.map (·.url)).getD url
    ⟨sent.requests, sent.outcome.bind (document last)⟩

/-! ## The end of a client -/

/-- Closes the client and its session, and tells so. A closed client stays as it is. -/
def close (c : Client) : List Event × Client :=
  if c.closed then ([], c)
  else ([.clientClosed c.config.masterUrl], { c with session := c.session.close, closed := true })

end Client

end ClusterAccess
