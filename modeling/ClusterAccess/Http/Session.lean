import ClusterAccess.Auth
import ClusterAccess.Http.Redirect
import ClusterAccess.Tls.Context

/-!
# Sessions

A `Session` sends requests under one TLS context and with one proof of identity, follows redirects, and
ends when it is closed. `Session.ask` sends one request, `Session.askAll` one after the other, and
`Session.get` asks for a URL. The proof is put into the request of the caller only, and what follows a
redirect carries what the redirect leaves. Without a proof of its own the session takes user name and
password from the URL. Headers are those of the caller and the proof; what the connection adds by itself,
such as its host and cookies, is left out.
-/

namespace ClusterAccess.Http

/-- What came of sending: the requests in order, and the last response or why there is none. -/
structure Sent where
  requests : List Request
  outcome : Except Failure Response

structure Session where
  context : Option Tls.Context := none
  auth : Option Auth := none
  closed : Bool := false
  deriving DecidableEq, Repr

namespace Session

/-- How many redirects are followed in a row. -/
def maxRedirects : Nat := 20

/-- The proof that user name and password in a URL make. -/
def urlAuth? (u : Url) : Option Auth :=
  if u.username = "" && u.password = "" then none else some (.basic u.username u.password)

/-- A request with a proof of identity, which replaces one that is there. -/
def authorize (auth : Option Auth) (r : Request) : Request :=
  match auth.or (urlAuth? r.url) with
  | some a => { r with headers := r.headers.set authorization a.header }
  | none => r

/-- Sends request number `n` to a server, and up to `redirects` that follow it. -/
def send (server : Server) : Nat → Nat → Request → Sent
  | redirects, n, r =>
    match Redirect.location? (server n) with
    | none => ⟨[r], .ok (server n)⟩
    | some location =>
      match Redirect.request r (server n).status location with
      | .error e => ⟨[r], .error e⟩
      | .ok next =>
        match redirects with
        | 0 => ⟨[r], .error .tooManyRedirects⟩
        | redirects + 1 =>
          let rest := send server redirects (n + 1) next
          ⟨r :: rest.requests, rest.outcome⟩

/-- Sends the request of a caller, beginning with request number `n`. A closed session sends nothing. -/
def ask (s : Session) (server : Server) (n : Nat) (r : Request) : Sent :=
  if s.closed then ⟨[], .error .clientClosed⟩ else send server maxRedirects n (authorize s.auth r)

/-- Sends the requests of a caller one after the other, beginning with request number `n`. -/
def askAll (s : Session) (server : Server) : Nat → List Request → List Sent
  | _, [] => []
  | n, r :: rs =>
    let sent := s.ask server n r
    sent :: askAll s server (n + sent.requests.length) rs

/-- Asks for a URL, beginning with request number `n`. -/
def get (s : Session) (server : Server) (n : Nat) (url : Url) (headers : Headers) : Sent :=
  s.ask server n ⟨"GET", url, headers⟩

def close (s : Session) : Session := { s with closed := true }

theorem get_of_closed {s : Session} (h : s.closed = true) (server : Server) (n : Nat) (url : Url)
    (headers : Headers) : s.get server n url headers = ⟨[], .error .clientClosed⟩ := by
  simp [get, ask, h]

end Session

end ClusterAccess.Http
