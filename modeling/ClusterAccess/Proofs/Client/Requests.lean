import ClusterAccess.Proofs.Client.Opening
import ClusterAccess.Proofs.Endpoint
import ClusterAccess.Proofs.Http.Origin

/-!
# What a client asks

The requests of an open client are a chain of redirects that begins at the URL of its master, with the
proof of identity of its configuration or, for want of one, of that URL (`requests_rootPaths`).
-/

namespace ClusterAccess

variable {via : Pki.Provider}

namespace Http.Session

/-- A request without headers carries, once authorized, the one proof that there is. -/
theorem values_authorize (auth : Option Auth) (method : String) (url : Url) :
    (authorize auth ⟨method, url, []⟩).headers.values authorization =
      ((auth.or (urlAuth? url)).map Auth.header).toList := by
  unfold authorize
  cases auth.or (urlAuth? url) with
  | none => rfl
  | some a => exact Headers.values_set authorization a.header []

theorem url_authorize (auth : Option Auth) (r : Request) : (authorize auth r).url = r.url := by
  unfold authorize
  cases auth.or (urlAuth? r.url) <;> rfl

end Http.Session

namespace Client

/-- The master of an opened client is a URL at a host that can be read. -/
theorem checkEndpoints_eq_ok {c : Config} (h : checkEndpoints c = .ok ()) :
    ∃ master host, Url.parse c.masterUrl = .ok master ∧
      (master.scheme = "http" ∨ master.scheme = "https") ∧ master.nativeHost? = some host := by
  unfold checkEndpoints at h
  split at h
  · cases h
  · obtain ⟨_, hm, -⟩ := Except.bind_eq_ok.mp h
    obtain ⟨-, master, host, hu, hs, hh, -⟩ := Endpoint.check_eq_ok hm
    exact ⟨master, host, hu, hs, hh⟩

theorem requests_rootPaths {c : Config} {fs : Filesystem} {client : Client}
    (h : (ofConfig via c fs).outcome = .ok client) (server : Http.Server) (n : Nat) :
    ∃ master home first rest, Url.parse c.masterUrl = .ok master ∧ master.origin? = some home ∧
      first.url = master ∧
      first.headers.values Http.authorization =
        ((c.auth?.or (Http.Session.urlAuth? master)).map Auth.header).toList ∧
      (client.rootPaths server n).requests = first :: rest ∧
      (first :: rest).IsChain Http.Request.Follows := by
  obtain ⟨-, he, context, -, rfl⟩ := ofConfig_eq_ok h
  obtain ⟨master, host, hu, -, hh⟩ := checkEndpoints_eq_ok he
  obtain ⟨rest, hr, hc⟩ := Http.Session.requests_send server Http.Session.maxRedirects n
    (Http.Session.authorize c.auth? ⟨"GET", master, []⟩)
  refine ⟨master, ⟨master.scheme, host, Http.Redirect.port? master⟩,
    Http.Session.authorize c.auth? ⟨"GET", master, []⟩, rest, hu, ?_, ?_, ?_, ?_, hc⟩
  · rw [Url.origin?, hh, Option.map_some]
  · exact Http.Session.url_authorize ..
  · exact Http.Session.values_authorize ..
  · rw [rootPaths, hu]
    exact hr

end Client

end ClusterAccess
