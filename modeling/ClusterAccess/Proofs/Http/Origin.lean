import ClusterAccess.Http.Session
import Mathlib.Data.List.Chain

/-!
# Where a proof of identity goes

An `Origin` is a server as redirects tell servers apart. A redirect hands the proof of identity on only
where the origin of the request `Trusts` the new one (`headersFor_eq_ok`), and nothing on the way puts a
proof into a request that has none. The requests of a session form a chain of redirects
(`requests_send`), so a run stays where its first request may go for as long as it carries a proof.
-/

namespace ClusterAccess

namespace Http

/-! ## Origins -/

/-- How a server is talked to, its host and its port. The host is the name in its own script, so two
spellings of one name on the wire are one host. -/
structure Origin where
  scheme : String
  host : String
  port : Option Int
  deriving DecidableEq, Repr

namespace Origin

/-- The secure variant of an origin that is plain, at the usual ports of both. -/
def secured? (o : Origin) : Option Origin :=
  if o.scheme = "http" ∧ o.port = some 80 then some ⟨"https", o.host, some 443⟩ else none

/-- What may be known at the first origin may be known at the second: they are one, or the second is the
secure variant of the first. -/
def Trusts (o p : Origin) : Prop := p = o ∨ o.secured? = some p

instance (o p : Origin) : Decidable (o.Trusts p) := inferInstanceAs (Decidable (_ ∨ _))

theorem Trusts.refl (o : Origin) : o.Trusts o := .inl rfl

/-- What is secure has no secure variant. -/
theorem secured?_of_secured {o p : Origin} (h : o.secured? = some p) : p.secured? = none := by
  unfold secured? at h
  split at h
  · cases h
    simp [secured?]
  · cases h

theorem Trusts.trans {o p q : Origin} (h : o.Trusts p) (k : p.Trusts q) : o.Trusts q := by
  rcases h with rfl | h
  · exact k
  · rcases k with rfl | k
    · exact .inr h
    · rw [secured?_of_secured h] at k
      cases k

end Origin

end Http

open Http (Origin)

/-- The origin of a URL whose host can be read. -/
def Url.origin? (u : Url) : Option Origin :=
  u.nativeHost?.map fun host => ⟨u.scheme, host, Http.Redirect.port? u⟩

namespace Http

/-- A URL leads where a proof for the origin may go. -/
def Origin.Admits (home : Origin) (u : Url) : Prop := ∃ o, u.origin? = some o ∧ home.Trusts o

/-- A request carries a proof of identity. -/
def Request.CarriesProof (r : Request) : Prop := r.headers.values authorization ≠ []

namespace Redirect

/-! ## One redirect -/

section

variable {u v : Url} {o p : Origin}

theorem host_eq_ok {host : String} : Redirect.host u = .ok host ↔ u.nativeHost? = some host := by
  unfold Redirect.host
  cases u.nativeHost? <;> simp

theorem sameOrigin_iff {uHost vHost : String} :
    sameOrigin v u vHost uHost = true ↔
      (⟨v.scheme, vHost, port? v⟩ : Origin) = ⟨u.scheme, uHost, port? u⟩ := by
  simp [sameOrigin, and_assoc]

theorem isSecureVariant_iff {uHost vHost : String} :
    isSecureVariant u v uHost vHost = true ↔
      Origin.secured? ⟨u.scheme, uHost, port? u⟩ = some ⟨v.scheme, vHost, port? v⟩ := by
  simp only [isSecureVariant, Origin.secured?, Bool.and_eq_true, decide_eq_true_eq,
    Option.ite_none_right_eq_some, Option.some.injEq, Origin.mk.injEq]
  constructor
  · rintro ⟨⟨⟨⟨hh, hs⟩, hp⟩, vs⟩, vp⟩
    exact ⟨⟨hs, hp⟩, vs.symm, hh, vp.symm⟩
  · rintro ⟨⟨hs, hp⟩, vs, hh, vp⟩
    exact ⟨⟨⟨⟨hh, hs⟩, hp⟩, vs.symm⟩, vp.symm⟩

/-- The headers go on as they are to an origin that is trusted, and without the proof to any other. -/
theorem headersFor_eq_ok {hs ks : Headers} (h : headersFor u v hs = .ok ks) :
    ∃ o p, u.origin? = some o ∧ v.origin? = some p ∧
      ks = if o.Trusts p then hs else hs.without authorization := by
  obtain ⟨uHost, hu, h⟩ := Except.bind_eq_ok.mp h
  obtain ⟨vHost, hv, h⟩ := Except.bind_eq_ok.mp h
  refine ⟨⟨u.scheme, uHost, port? u⟩, ⟨v.scheme, vHost, port? v⟩, ?_, ?_, ?_⟩
  · rw [Url.origin?, host_eq_ok.mp hu, Option.map_some]
  · rw [Url.origin?, host_eq_ok.mp hv, Option.map_some]
  · simp only [Origin.Trusts, ← sameOrigin_iff, ← isSecureVariant_iff, ← Bool.or_eq_true]
    split at h <;> cases h <;> simp [*]

end

end Redirect

/-- The second request is the one that a redirect of the first leads to. -/
def Request.Follows (r next : Request) : Prop :=
  ∃ status location, Redirect.request r status location = .ok next

namespace Request

theorem Follows.headers_eq {r next : Request} (h : r.Follows next) :
    ∃ o p, r.url.origin? = some o ∧ next.url.origin? = some p ∧
      next.headers = if o.Trusts p then r.headers else r.headers.without authorization := by
  obtain ⟨_, _, h⟩ := h
  obtain ⟨url, -, h⟩ := Except.bind_eq_ok.mp h
  obtain ⟨headers, hh, h⟩ := Except.bind_eq_ok.mp h
  cases h
  exact Redirect.headersFor_eq_ok hh

/-- A proof that a redirect hands on was there before, and goes to an origin that is trusted. -/
theorem Follows.carriesProof {r next : Request} (h : r.Follows next) (hc : next.CarriesProof) :
    r.CarriesProof ∧ ∃ o p, r.url.origin? = some o ∧ next.url.origin? = some p ∧ o.Trusts p := by
  obtain ⟨o, p, ho, hp, hh⟩ := h.headers_eq
  unfold CarriesProof at hc ⊢
  rw [hh] at hc
  by_cases ht : o.Trusts p
  · rw [if_pos ht] at hc
    exact ⟨hc, o, p, ho, hp, ht⟩
  · rw [if_neg ht] at hc
    exact absurd (Headers.values_without authorization r.headers) hc

/-- What carries a proof stays where the proof may go. -/
theorem Follows.admits {home : Origin} {r next : Request} (h : r.Follows next)
    (ha : r.CarriesProof → home.Admits r.url) (hc : next.CarriesProof) : home.Admits next.url := by
  obtain ⟨hr, o, p, ho, hp, ht⟩ := h.carriesProof hc
  obtain ⟨q, hq, hh⟩ := ha hr
  rw [ho] at hq
  cases hq
  exact ⟨p, hp, hh.trans ht⟩

end Request

namespace Session

/-! ## Runs of requests -/

/-- What is sent begins with the request, and every other request follows from the one before it. -/
theorem requests_send (server : Server) (redirects n : Nat) (r : Request) :
    ∃ rest, (send server redirects n r).requests = r :: rest ∧ (r :: rest).IsChain Request.Follows := by
  -- only a redirect that is followed sends on; the other three ways out send the one request
  fun_induction send server redirects n r with
  | case1 redirects n r => exact ⟨[], rfl, .singleton r⟩
  | case2 redirects n r => exact ⟨[], rfl, .singleton r⟩
  | case3 n r => exact ⟨[], rfl, .singleton r⟩
  | case4 n r location hl next hn redirects rest ih =>
    obtain ⟨more, hr, hc⟩ := ih
    exact ⟨next :: more, by rw [hr], .cons_cons ⟨_, location, hn⟩ hc⟩

end Session

end Http

end ClusterAccess
