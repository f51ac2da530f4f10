import ClusterAccess.Proofs.Endpoint
import ClusterAccess.Proofs.Url.Host
import ClusterAccess.Proofs.Url.Server

/-!
# How endpoints are refused

A text is accepted as an endpoint if it can be read as a URL and has a scheme of the web and a host, and is
refused as one otherwise. The exception is a host that looks like an encoded name and is none: such a text is
neither accepted nor refused, but ends in a failure of its own (`verdict_check`). So base URLs that cannot be
composed are refused for what one of them says, or the host of a URL that they are made from is such a host
(`refused_of_compose`).
-/

namespace ClusterAccess

namespace Endpoint

open Url (Parts Readable SameServer hostOf)

/-! ## What a text says of its server -/

/-- The scheme of the text is one of the web, in any case. -/
def HasWebScheme (url : String) : Prop :=
  (Parts.split url.toList).scheme.map Char.toLower = "http".toList ∨
    (Parts.split url.toList).scheme.map Char.toLower = "https".toList

/-- The text has a scheme of the web and a host. -/
structure NamesWebServer (url : String) : Prop where
  scheme : HasWebScheme url
  host : hostOf url ≠ []

/-- The text has a scheme of the web, and a host that looks like an encoded name and is none. -/
structure HasUndecodableHost (url : String) : Prop where
  scheme : HasWebScheme url
  host : ∃ host, Url.normalHost (hostOf url) = .ok host ∧ Hostname.wireMark <+: host ∧
    Hostname.decode? host = none

/-- Texts of one server have the same host. -/
theorem hasUndecodableHost_congr {a b : String} (h : SameServer a b) :
    HasUndecodableHost a ↔ HasUndecodableHost b := by
  have scheme : HasWebScheme a ↔ HasWebScheme b := by
    rw [HasWebScheme, HasWebScheme, h.scheme]
  have host : hostOf a = hostOf b := by
    rw [hostOf, hostOf, h.authority]
  constructor
  · rintro ⟨web, undecodable⟩
    exact ⟨scheme.mp web, host ▸ undecodable⟩
  · rintro ⟨web, undecodable⟩
    exact ⟨scheme.mpr web, host ▸ undecodable⟩

/-! ## Checking one text -/

theorem nativeHost?_eq_none {u : Url} :
    u.nativeHost? = none ↔
      Hostname.wireMark <+: u.host.toList ∧ Hostname.decode? u.host.toList = none := by
  unfold Url.nativeHost?
  rw [← List.isPrefixOf_iff_prefix]
  split
  · next mark => simp [mark]
  · next plain => simp [plain]

section

variable {url : String} {u : Url} (hu : Url.parse url = .ok u)

include hu

theorem hasWebScheme_iff : HasWebScheme url ↔ u.scheme = "http" ∨ u.scheme = "https" := by
  rw [(Url.parse_eq_ok hu).1, Url.lower_scheme, ← String.toList_inj, ← String.toList_inj,
    String.toList_ofList]
  rfl

theorem host_eq_empty_iff : u.host = "" ↔ hostOf url = [] := by
  obtain ⟨-, normal⟩ := Url.parse_eq_ok hu
  constructor
  · intro empty
    by_cases hne : hostOf url = []
    · exact hne
    · rw [empty] at normal
      exact absurd rfl (Url.normalHost_ne_nil normal hne)
  · intro nothing
    rw [nothing] at normal
    exact String.toList_injective (Except.ok.inj normal).symm

theorem isWebServer_of_not_web (elsewhere : ¬HasWebScheme url) : isWebServer u = .ok false := by
  unfold isWebServer
  refine if_pos ?_
  simpa using mt (hasWebScheme_iff hu).mpr elsewhere

theorem isWebServer_of_web (web : HasWebScheme url) :
    isWebServer u =
      match u.nativeHost? with
      | some host => .ok (host != "")
      | none => .error .undecodableHost := by
  unfold isWebServer
  refine if_neg ?_
  simpa [Classical.or_iff_not_imp_left] using (hasWebScheme_iff hu).mp web

/-- A host in its own script is empty if none is written. -/
theorem nativeHost_eq_empty_iff {host : String} (h : u.nativeHost? = some host) :
    host = "" ↔ hostOf url = [] := by
  rw [← host_eq_empty_iff hu]
  unfold Url.nativeHost? at h
  split at h
  · next mark =>
    obtain ⟨native, decoded, rfl⟩ := Option.map_eq_some_iff.mp h
    have left : String.ofList native ≠ "" := by
      intro empty
      have := congrArg String.toList empty
      rw [String.toList_ofList] at this
      exact Hostname.ne_nil_of_decode? decoded this
    have right : u.host ≠ "" := by
      intro empty
      rw [empty] at mark
      revert mark
      decide
    exact iff_of_false left right
  · cases h
    rfl

theorem hasUndecodableHost_iff : HasUndecodableHost url ↔ HasWebScheme url ∧ u.nativeHost? = none := by
  obtain ⟨-, normal⟩ := Url.parse_eq_ok hu
  rw [nativeHost?_eq_none]
  constructor
  · rintro ⟨web, host, normal', undecodable⟩
    cases normal.symm.trans normal'
    exact ⟨web, undecodable⟩
  · rintro ⟨web, undecodable⟩
    exact ⟨web, u.host.toList, normal, undecodable⟩

end

/-- Why a text is no endpoint. -/
inductive IsFaultOf (url : String) : EndpointFault → Prop
  | unreadable (fault : Url.Fault) (unread : Url.parse url = .error fault) :
      IsFaultOf url (.unreadable fault)
  | notAbsolute (readable : Readable url) (elsewhere : ¬NamesWebServer url) : IsFaultOf url .notAbsolute

/-- What checking a text comes to. -/
inductive Verdict (label url : String) : Except Failure String → Prop
  | accepted (readable : Readable url) (web : NamesWebServer url) (decodable : ¬HasUndecodableHost url) :
      Verdict label url (.ok url)
  | invalid (fault : EndpointFault) (reason : IsFaultOf url fault) :
      Verdict label url (.error (.access (.invalidEndpoint label url fault)))
  | undecodable (readable : Readable url) (host : HasUndecodableHost url) :
      Verdict label url (.error .undecodableHost)

theorem verdict_check (label url : String) : Verdict label url (check label url) := by
  unfold check
  split
  · next fault unread => exact .invalid _ (.unreadable fault unread)
  · next u hu =>
    have readable : Readable url := ⟨u, hu⟩
    by_cases web : HasWebScheme url
    · rw [isWebServer_of_web hu web]
      cases native : u.nativeHost? with
      | none => exact .undecodable readable ((hasUndecodableHost_iff hu).mpr ⟨web, native⟩)
      | some host =>
        have decodable : ¬HasUndecodableHost url := by
          intro undecodable
          rw [((hasUndecodableHost_iff hu).mp undecodable).2] at native
          cases native
        have written := nativeHost_eq_empty_iff hu native
        by_cases empty : host = ""
        · subst empty
          exact .invalid _ (.notAbsolute readable fun h => h.host (written.mp rfl))
        · have given : Except.ok (host != "") = (.ok true : Except Failure Bool) := by simpa using empty
          simp only [given]
          exact .accepted readable ⟨web, mt written.mpr empty⟩ decodable
    · rw [isWebServer_of_not_web hu web]
      exact .invalid _ (.notAbsolute readable fun h => web h.scheme)

/-! ## Composing base URLs -/

/-- What goes wrong with the base URLs that are made from a master and an extended API URL. -/
inductive Refused (masterUrl : String) (extendedApiUrl : Option String) (urls : BaseUrls) : Failure → Prop
  | master (fault : EndpointFault) (reason : IsFaultOf urls.masterUrl fault) :
      Refused masterUrl extendedApiUrl urls
        (.access (.invalidEndpoint masterLabel urls.masterUrl fault))
  | extended (fault : EndpointFault) (reason : IsFaultOf urls.extendedApiUrl fault) :
      Refused masterUrl extendedApiUrl urls
        (.access (.invalidEndpoint extendedLabel urls.extendedApiUrl fault))
  | undecodable (host : HasUndecodableHost masterUrl ∨ HasUndecodableHost (extendedApiUrl.getD masterUrl)) :
      Refused masterUrl extendedApiUrl urls .undecodableHost

/-- What is wrong with a text that is checked. -/
theorem check_eq_error {label url : String} {e : Failure} (h : check label url = .error e) :
    (∃ fault, e = .access (.invalidEndpoint label url fault) ∧ IsFaultOf url fault) ∨
      e = .undecodableHost ∧ HasUndecodableHost url := by
  have verdict := verdict_check label url
  rw [h] at verdict
  cases verdict with
  | invalid fault reason => exact .inl ⟨fault, rfl, reason⟩
  | undecodable _ host => exact .inr ⟨rfl, host⟩

theorem refused_of_compose (masterUrl : String) (extendedApiUrl : Option String)
    (apiVersion extendedApiVersion : String) :
    FailsOnly (Refused masterUrl extendedApiUrl
        (baseUrls masterUrl extendedApiUrl apiVersion extendedApiVersion))
      (compose masterUrl extendedApiUrl apiVersion extendedApiVersion) := by
  obtain ⟨ofMaster, ofExtended⟩ :=
    sameServer_baseUrls masterUrl extendedApiUrl apiVersion extendedApiVersion
  unfold compose BaseUrls.check
  refine .bind (fun e he => ?_) fun _ => .bind (fun e he => ?_) fun _ => .ok _
  · obtain ⟨fault, rfl, reason⟩ | ⟨rfl, host⟩ := check_eq_error he
    · exact .master fault reason
    · exact .undecodable (.inl ((hasUndecodableHost_congr ofMaster).mp host))
  · obtain ⟨fault, rfl, reason⟩ | ⟨rfl, host⟩ := check_eq_error he
    · exact .extended fault reason
    · exact .undecodable (.inr ((hasUndecodableHost_congr ofExtended).mp host))

end Endpoint

end ClusterAccess
