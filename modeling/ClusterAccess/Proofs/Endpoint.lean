import ClusterAccess.Endpoint

/-!
# What is an endpoint

A text that is accepted as an endpoint is left as it is, and describes a URL of the web at a host that can
be read (`check_eq_ok`). Any other is refused as one, unless its host cannot be decoded (`IsRefusal`). Both
base URLs of a cluster are endpoints (`BaseUrls.check_eq_ok`).
-/

namespace ClusterAccess.Endpoint

theorem isWebServer_eq_true {u : Url} (h : isWebServer u = .ok true) :
    (u.scheme = "http" ∨ u.scheme = "https") ∧ ∃ host, u.nativeHost? = some host ∧ host ≠ "" := by
  unfold isWebServer at h
  split at h
  · cases h
  · next hs =>
    have hs : u.scheme = "http" ∨ u.scheme = "https" := by
      by_cases hp : u.scheme = "http"
      · exact .inl hp
      · exact .inr (by simpa [hp] using hs)
    refine ⟨hs, ?_⟩
    split at h
    · next host hh => exact ⟨host, hh, by simpa using h⟩
    · cases h

theorem check_eq_ok {label url text : String} (h : check label url = .ok text) :
    text = url ∧ ∃ u host, Url.parse url = .ok u ∧ (u.scheme = "http" ∨ u.scheme = "https") ∧
      u.nativeHost? = some host ∧ host ≠ "" := by
  unfold check at h
  split at h
  · cases h
  · next u hu =>
    obtain ⟨isWeb, hw, h⟩ := Except.bind_eq_ok.mp h
    cases isWeb with
    | false => cases h
    | true =>
      cases h
      obtain ⟨hs, host, hh, hne⟩ := isWebServer_eq_true hw
      exact ⟨rfl, u, host, hu, hs, hh, hne⟩

/-- Why a text is refused as an endpoint. -/
inductive IsRefusal : Failure → Prop
  | invalid (label url : String) (fault : EndpointFault) :
      IsRefusal (.access (.invalidEndpoint label url fault))
  | undecodableHost : IsRefusal .undecodableHost

theorem failsOnly_isWebServer (u : Url) : FailsOnly IsRefusal (isWebServer u) := by
  unfold isWebServer
  split
  · exact .ok _
  · split
    · exact .ok _
    · exact .error .undecodableHost

theorem failsOnly_check (label url : String) : FailsOnly IsRefusal (check label url) := by
  unfold check
  split
  · exact .error (.invalid ..)
  · next u _ =>
    refine .bind (failsOnly_isWebServer u) fun isWeb => ?_
    cases isWeb with
    | false => exact .error (.invalid ..)
    | true => exact .ok _

/-- The empty text has no scheme. -/
theorem ne_empty_of_check {label url text : String} (h : check label url = .ok text) : url ≠ "" := by
  rintro rfl
  obtain ⟨-, u, -, hu, hs, -⟩ := check_eq_ok h
  have parsed : Url.parse "" = .ok ⟨"", "", "", none, "", none, none⟩ := by decide
  rw [parsed] at hu
  cases hu
  revert hs
  decide

/-- Base URLs are left as they are when they are endpoints. -/
theorem BaseUrls.check_eq_ok {urls checked : BaseUrls} (h : urls.check = .ok checked) :
    checked = urls ∧ Endpoint.check masterLabel urls.masterUrl = .ok urls.masterUrl ∧
      Endpoint.check extendedLabel urls.extendedApiUrl = .ok urls.extendedApiUrl := by
  obtain ⟨master, hm, h⟩ := Except.bind_eq_ok.mp h
  obtain ⟨extended, he, h⟩ := Except.bind_eq_ok.mp h
  obtain ⟨rfl, -⟩ := Endpoint.check_eq_ok hm
  obtain ⟨rfl, -⟩ := Endpoint.check_eq_ok he
  exact ⟨(Except.ok.inj h).symm, hm, he⟩

theorem failsOnly_compose (masterUrl : String) (extendedApiUrl : Option String)
    (apiVersion extendedApiVersion : String) :
    FailsOnly IsRefusal (compose masterUrl extendedApiUrl apiVersion extendedApiVersion) := by
  unfold compose BaseUrls.check
  refine .bind (failsOnly_check _ _) fun _ => ?_
  exact .bind (failsOnly_check _ _) fun _ => .ok _

end ClusterAccess.Endpoint
