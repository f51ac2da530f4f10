import ClusterAccess.Config.Basic
import ClusterAccess.Event
import ClusterAccess.Text.Base64

/-!
# Authorization

Requests prove who sends them by a user name with a password, else by a token, else not at all. `Auth`
is the proof itself, and `Auth.header` its value in the `Authorization` header.
-/

namespace ClusterAccess

/-- What proves who sends a request. -/
inductive Auth where
  | basic (username password : String)
  | bearer (token : String)
  deriving DecidableEq, Repr

namespace Auth

/-- The value of the header that carries the proof. -/
def header : Auth → String
  | basic username password => "Basic " ++ Base64.encodeText (Bytes.ofText (username ++ ":" ++ password))
  | bearer token => "Bearer " ++ token

end Auth

namespace Config

/-- The scheme that applies: a user name and password go before a token. -/
def authScheme (c : Config) : AuthScheme :=
  if c.hasBasicAuth then .basic
  else if c.oauthToken.isSome then .bearer
  else .anonymous

/-- The proof that applies. A token beside a user name and password is ignored. -/
def selectAuth (c : Config) : Logged (Option Auth) :=
  match c.authScheme with
  | .basic => do
    Logged.tellIf c.oauthToken.isSome .bearerTokenIgnored
    pure (some (.basic (c.username.getD "") (c.password.getD "")))
  | .bearer => pure (some (.bearer (c.oauthToken.getD "")))
  | .anonymous => pure none

end Config

end ClusterAccess
