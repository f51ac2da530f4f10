import ClusterAccess.Failure
import ClusterAccess.Url.Basic

/-!
# Endpoints

An endpoint is an absolute URL of a web server. `Endpoint.check` accepts a text that is one, and
`Endpoint.compose` derives the base URLs of the two interfaces of a cluster from the URL of its master.
-/

namespace ClusterAccess.Endpoint

/-- The text with one slash at its end. -/
def withTrailingSlash (url : String) : String :=
  String.ofList ((url.toList.reverse.dropWhile (· = '/')).reverse ++ ['/'])

/-- Whether a URL names a web server. A host in encoded form has to be decodable. -/
def isWebServer (u : Url) : Except Failure Bool :=
  if u.scheme != "http" && u.scheme != "https" then .ok false
  else
    match u.nativeHost? with
    | some host => .ok (host != "")
    | none => .error .undecodableHost

/-- The text itself, if it is an endpoint. -/
def check (label url : String) : Except Failure String :=
  match Url.parse url with
  | .error fault => .error (.access (.invalidEndpoint label url (.unreadable fault)))
  | .ok u => do
    if ← isWebServer u then pure url
    else .error (.access (.invalidEndpoint label url .notAbsolute))

/-- What messages call the two base URLs. -/
def masterLabel : String := "master"

def extendedLabel : String := "extended API"

/-- The base URLs of the two interfaces of a cluster. -/
structure BaseUrls where
  masterUrl : String
  extendedApiUrl : String
  deriving DecidableEq, Repr

/-- The base URLs before they are checked. Without a URL of its own the extended interface lies beside
the other. -/
def baseUrls (masterUrl : String) (extendedApiUrl : Option String)
    (apiVersion extendedApiVersion : String) : BaseUrls :=
  let base := withTrailingSlash masterUrl
  { masterUrl := base ++ "api/" ++ apiVersion ++ "/"
    extendedApiUrl :=
      match extendedApiUrl with
      | none => base ++ "oapi/" ++ extendedApiVersion ++ "/"
      | some url => withTrailingSlash url }

/-- Both base URLs, if they are endpoints. -/
def BaseUrls.check (urls : BaseUrls) : Except Failure BaseUrls := do
  let masterUrl ← Endpoint.check masterLabel urls.masterUrl
  let extendedApiUrl ← Endpoint.check extendedLabel urls.extendedApiUrl
  pure ⟨masterUrl, extendedApiUrl⟩

def compose (masterUrl : String) (extendedApiUrl : Option String)
    (apiVersion extendedApiVersion : String) : Except Failure BaseUrls :=
  (baseUrls masterUrl extendedApiUrl apiVersion extendedApiVersion).check

end ClusterAccess.Endpoint
