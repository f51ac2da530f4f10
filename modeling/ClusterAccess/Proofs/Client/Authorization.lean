import ClusterAccess.Proofs.Client.Scheme
import Mathlib.Data.List.Forall2

/-!
# One proof in every request

A session with a proof of identity sends every request of a caller with that proof and with no other, in
whatever letter case and how often the caller has put one in, and leaves the other headers as they are
(`proves_ask`). Behind a redirect the request has the same proof or none. What a session sends does not change
it, so this is so of any number of requests in a row (`proves_askAll`), and the proof is that of the
configuration (`one_authorization`).
-/

namespace ClusterAccess

variable {via : Pki.Provider}

namespace Http

/-- What is sent for a request of a caller is the request with just one proof of identity in it. -/
structure Request.Proves (value : String) (asked sent : Request) : Prop where
  method : sent.method = asked.method
  url : sent.url = asked.url
  proof : sent.headers.values authorization = [value]
  others : sent.headers.without authorization = asked.headers.without authorization

/-- No proof of identity but the one with the value. -/
def Request.HasNoOther (value : String) (r : Request) : Prop :=
  r.headers.values authorization = [value] ∨ r.headers.values authorization = []

/-- The request of a caller is sent with the proof, and what follows redirects has no other. -/
def Sent.Proves (value : String) (asked : Request) (sent : Sent) : Prop :=
  ∃ first rest, sent.requests = first :: rest ∧ asked.Proves value first ∧ ∀ r ∈ rest, r.HasNoOther value

/-- A redirect puts no other proof into a request. -/
theorem Request.Follows.hasNoOther {value : String} {r next : Request} (h : r.Follows next)
    (hr : r.HasNoOther value) : next.HasNoOther value := by
  obtain ⟨o, p, -, -, hh⟩ := h.headers_eq
  unfold HasNoOther
  rw [hh]
  by_cases ht : o.Trusts p
  · rw [if_pos ht]
    exact hr
  · rw [if_neg ht]
    exact .inr (Headers.values_without authorization r.headers)

namespace Session

theorem proves_authorize (a : Auth) (r : Request) : r.Proves a.header (authorize (some a) r) where
  method := rfl
  url := rfl
  proof := Headers.values_set authorization a.header r.headers
  others := Headers.without_set authorization a.header r.headers

variable {s : Session} {a : Auth}

/-- One request: it is sent with the proof of the session. -/
theorem proves_ask (opened : s.closed = false) (proof : s.auth = some a) (server : Server) (n : Nat)
    (r : Request) : (s.ask server n r).Proves a.header r := by
  have first := proves_authorize a r
  obtain ⟨rest, sent, chain⟩ := requests_send server maxRedirects n (authorize (some a) r)
  have follow := chain.induction (Request.HasNoOther a.header) _ (fun _ _ hf hr => hf.hasNoOther hr)
    fun _ => .inl first.proof
  refine ⟨_, rest, ?_, first, fun x hx => follow x (List.mem_cons_of_mem _ hx)⟩
  rw [ask, opened, if_neg (by simp), proof]
  exact sent

/-- All requests, whatever was asked before and whatever the server said to it. -/
theorem proves_askAll (opened : s.closed = false) (proof : s.auth = some a) (server : Server) (n : Nat)
    (asked : List Request) : List.Forall₂ (Sent.Proves a.header) asked (s.askAll server n asked) := by
  induction asked generalizing n with
  | nil => exact .nil
  | cons r asked ih => exact .cons (proves_ask opened proof server n r) (ih _)

end Session

end Http

theorem Config.exists_auth? {c : Config} (h : c.authScheme ≠ .anonymous) : ∃ a, c.auth? = some a := by
  unfold auth?
  cases hs : c.authScheme with
  | basic => exact ⟨_, rfl⟩
  | bearer => exact ⟨_, rfl⟩
  | anonymous => exact absurd hs h

namespace Client

/-- One value stands in the header of identity of all requests that the client of a configuration is asked
for: that of the scheme of the configuration, whichever requests came before, whatever headers they had, and
whatever the server answered. -/
theorem one_authorization {c : Config} {fs : Filesystem} {client : Client}
    (h : (ofConfig via c fs).outcome = .ok client) (proves : c.authScheme ≠ .anonymous) :
    ∃ value, c.Presents [value] ∧ ∀ server n asked,
      List.Forall₂ (Http.Sent.Proves value) asked (client.session.askAll server n asked) := by
  obtain ⟨-, -, context, -, rfl⟩ := ofConfig_eq_ok h
  obtain ⟨a, proof⟩ := Config.exists_auth? proves
  have presents := Config.presents_of_authScheme proves none
  rw [Option.or_none, proof] at presents
  exact ⟨a.header, presents, Http.Session.proves_askAll rfl proof⟩

/-! ### A caller who puts in proofs of identity -/

/-- A request with three proofs of identity between other headers, two of which have one name. -/
def sampleStale : Http.Request where
  method := "POST"
  url := ⟨"https", "v:q", "x", none, "/", none, none⟩
  headers := [("X-A", "1"), ("AUTHORIZATION", "Bearer s"), ("Accept", "*/*"), ("authorization", "Basic dTpw"),
    ("x-a", "2"), ("Authorization", "")]

/-- The server sends the first request elsewhere. -/
def sampleDetours : Http.Server := fun n =>
  if n = 0 then { status := 302, headers := [("Location", "https://y/")] } else {}

/-- What is sent when the request is asked for twice. -/
def sampleSent : List Http.Sent :=
  (sampleNamedClient (some "t")).session.askAll sampleDetours 0 [sampleStale, sampleStale]

theorem one_authorization_sampleStale :
    (ofConfig .standard (sampleNamed (some "t")) (.inMemory [] [])).outcome =
        .ok (sampleNamedClient (some "t")) ∧
      (sampleNamed (some "t")).authScheme ≠ .anonymous ∧
      List.Forall₂ (Http.Sent.Proves "Bearer t") [sampleStale, sampleStale] sampleSent ∧
      sampleStale.headers.without Http.authorization = [("X-A", "1"), ("Accept", "*/*"), ("x-a", "2")] ∧
      (sampleSent.map fun sent => sent.requests.map fun r => r.headers.values Http.authorization) =
        [[["Bearer t"], []], [["Bearer t"]]] := by
  have opened : (ofConfig .standard (sampleNamed (some "t")) (.inMemory [] [])).outcome =
      .ok (sampleNamedClient (some "t")) := by decide
  have token : (sampleNamed (some "t")).authScheme ≠ .anonymous := by decide
  obtain ⟨value, presents, each⟩ := one_authorization opened token
  obtain ⟨t, ht, hv⟩ :
      ∃ t, (sampleNamed (some "t")).oauthToken = some t ∧ [value] = ["Bearer " ++ t] := presents
  cases ht
  cases hv
  exact ⟨opened, token, each sampleDetours 0 _, rfl, by decide⟩

end Client

end ClusterAccess
