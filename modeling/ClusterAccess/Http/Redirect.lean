import ClusterAccess.Event
import ClusterAccess.Http.Message
import ClusterAccess.Url.Join

/-!
# Redirects

A response may send the client to another place. `Redirect.request` is the request that follows: to the
place that the response names, as seen from the request, and without the proof of identity where the
place belongs to another origin. The step from plain to secure connections with the same host is no
change of origin here.
-/

namespace ClusterAccess.Http.Redirect

/-- Where a response sends the client. -/
def location? (r : Response) : Option String :=
  if Status.isRedirect r.status then r.headers.value? locationHeader else none

/-- The port that a URL leads to. -/
def port? (u : Url) : Option Int := u.port.or (Url.defaultPort? u.scheme)

/-- Whether two URLs lead to the same server, given their hosts. -/
def sameOrigin (u v : Url) (uHost vHost : String) : Bool :=
  u.scheme = v.scheme && uHost = vHost && port? u = port? v

/-- Whether the second URL is the secure variant of the first, given their hosts. -/
def isSecureVariant (u v : Url) (uHost vHost : String) : Bool :=
  uHost = vHost && u.scheme = "http" && port? u = some 80 && v.scheme = "https" && port? v = some 443

/-- The host of a URL in its own script. -/
def host (u : Url) : Except Failure String :=
  match u.nativeHost? with
  | some h => .ok h
  | none => .error .undecodableHost

/-- A location that names a scheme and no host is at the host of the request. -/
def completeHost (fromUrl url : Url) : Except Failure Url :=
  if url.scheme = "" then .ok url
  else do
    let own ← host url
    if own != "" then pure url
    else
      let fromHost ← host fromUrl
      (url.withHost? fromHost).mapError .invalidUrl

/-- A location that is not absolute is seen from the request. -/
def resolve (fromUrl url : Url) : Except Failure Url :=
  if url.isAbsolute then .ok url else (Url.join? fromUrl url).mapError .invalidUrl

/-- The fragment of a URL, decoded. -/
def fragmentText (u : Url) : String := Url.Percent.decode (u.fragment.getD "")

/-- A location without a fragment has that of the request. -/
def keepFragment (fromUrl url : Url) : Except Failure Url :=
  if fragmentText fromUrl != "" && fragmentText url = "" then
    (url.withFragment? (fragmentText fromUrl)).mapError .invalidUrl
  else .ok url

/-- The URL that a location names. -/
def target (fromUrl : Url) (location : String) : Except Failure Url := do
  let url ← (Url.parse location).mapError .invalidRedirect
  let url ← completeHost fromUrl url
  let url ← resolve fromUrl url
  keepFragment fromUrl url

/-- The headers that go with a request to another URL. -/
def headersFor (fromUrl url : Url) (hs : Headers) : Except Failure Headers := do
  let fromHost ← host fromUrl
  let toHost ← host url
  if sameOrigin url fromUrl toHost fromHost || isSecureVariant fromUrl url fromHost toHost then pure hs
  else pure (hs.without authorization)

/-- The method of the request that follows a response with a status. -/
def methodAfter (status : Nat) (method : String) : String :=
  if (status = 302 || status = 303) && method != "HEAD" || status = 301 && method = "POST" then "GET"
  else method

/-- The request that follows a redirect. -/
def request (r : Request) (status : Nat) (location : String) : Except Failure Request := do
  let url ← target r.url location
  let headers ← headersFor r.url url r.headers
  pure ⟨methodAfter status r.method, url, headers⟩

end ClusterAccess.Http.Redirect
