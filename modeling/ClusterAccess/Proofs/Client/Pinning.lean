import ClusterAccess.Proofs.Client.Opening
import ClusterAccess.Proofs.Config.Isolation
import ClusterAccess.Proofs.Kubeconfig.Finding
import ClusterAccess.Proofs.Url.Server

/-!
# A chosen master is kept

Completing a draft changes no server: whatever is written behind the given URLs, the base URLs name the
servers of these. No source names a URL for the extended interface, so a client that is made for a master
has both of its base URLs at that server, whatever the sources say.
-/

namespace ClusterAccess

open Url (SameServer)

variable {via : Pki.Provider}

/-! ## The URL of the extended interface -/

/-- A kubeconfig says nothing of the extended interface. -/
theorem Kubeconfig.extendedApiUrl_not_mem_fields {s : Sources} {ss : List Config.Setting.Wide}
    (h : (probe s).outcome = .ok ss) : .extendedApiUrl ∉ ss.map Config.Setting.Wide.field := by
  rcases (finding_of_probe h).fields_eq with rfl | fields | fields
  · exact List.not_mem_nil
  · rw [fields]
    decide
  · rw [fields]
    decide

namespace Config

/-- An override is for a field that a property overrides. -/
theorem Override.extendedApiUrl_not_mem_fields (s : Sources) :
    .extendedApiUrl ∉ ((settings s table).map Setting.wide).map Setting.Wide.field := by
  rw [fields_map_wide]
  intro named
  obtain ⟨t, ht, ho⟩ := List.mem_map.mp named
  obtain ⟨o, hm, hs⟩ := List.mem_filterMap.mp ht
  obtain ⟨raw, -, rfl⟩ := Option.map_eq_some_iff.mp hs
  have property := mem_table_iff.mp hm
  rw [show o.field = .extendedApiUrl from ho] at property
  cases property

/-- No source names a URL for the extended interface. -/
theorem Sketch.extendedApiUrl_of_ofSources {s : Sources} {k : Sketch}
    (h : (ofSources s).outcome = .ok k) : k.get .extendedApiUrl = none := by
  obtain ⟨account, kubeconfig, ha, hk, rfl⟩ := ofSources_eq_ok.mp h
  have silent : .extendedApiUrl ∉ kubeconfig.map Setting.Wide.field := by
    obtain ⟨-, hk⟩ | ⟨-, rfl⟩ := layer_eq_ok.mp hk
    · exact Kubeconfig.extendedApiUrl_not_mem_fields hk
    · exact List.not_mem_nil
  rw [get_update_of_not_mem (Override.extendedApiUrl_not_mem_fields s), get_update_of_not_mem silent,
    get_ofDraft, get_update_account ha (by decide) (by decide)]
  rfl

end Config

namespace Client

open Config (Draft Sketch)

/-- The client that the sources give for a master has that master and its base URLs. -/
theorem ofMasterUrl_eq_ok {url : String} {s : Sources} {client : Client}
    (h : (ofMasterUrl via url s).outcome = .ok client) :
    ∃ apiVersion extendedApiVersion urls,
      Endpoint.compose url none apiVersion extendedApiVersion = .ok urls ∧
        client.config.masterUrl = urls.masterUrl ∧
        client.config.extendedApiUrl = urls.extendedApiUrl := by
  obtain ⟨k, found, h⟩ := Logged.outcome_bind_eq_ok.mp h
  obtain ⟨d, hd, h⟩ := Logged.outcome_bind_eq_ok.mp h
  obtain ⟨c, hc, h⟩ := Logged.outcome_bind_eq_ok.mp h
  rw [Logged.outcome_ofExcept] at hd hc
  obtain ⟨-, -, context, -, rfl⟩ := ofConfig_eq_ok h
  obtain ⟨masterUrl, urls, hm, -, hu, rfl⟩ := Draft.build_eq_ok hc
  have chosen : d.masterUrl = some url := by
    have held := Sketch.get_of_toDraft hd .masterUrl
    exact (Config.Kind.wide_injective ((k.get_choose_self _).symm.trans held)).symm
  have silent : d.extendedApiUrl = none := by
    have held := Sketch.get_of_toDraft hd .extendedApiUrl
    rw [Sketch.get_choose_of_not_mem (by simp [Config.Choice.settings]),
      Sketch.extendedApiUrl_of_ofSources found] at held
    exact Option.map_eq_none_iff.mp held.symm
  cases chosen.symm.trans hm
  rw [silent] at hu
  exact ⟨_, _, urls, hu, rfl, rfl⟩

/-- Base URLs name the servers of the URLs that they are composed of, whatever the versions are. A client
that is made for a master has both of its base URLs at the server of the master, whatever the sources
say. -/
theorem server_pinned :
    (∀ masterUrl extendedApiUrl apiVersion extendedApiVersion urls,
      Endpoint.compose masterUrl extendedApiUrl apiVersion extendedApiVersion = .ok urls →
        SameServer urls.masterUrl masterUrl ∧
          SameServer urls.extendedApiUrl (extendedApiUrl.getD masterUrl)) ∧
      ∀ via s url client, (ofMasterUrl via url s).outcome = .ok client →
        SameServer client.config.masterUrl url ∧ SameServer client.config.extendedApiUrl url := by
  have composed : ∀ masterUrl extendedApiUrl apiVersion extendedApiVersion urls,
      Endpoint.compose masterUrl extendedApiUrl apiVersion extendedApiVersion = .ok urls →
        SameServer urls.masterUrl masterUrl ∧
          SameServer urls.extendedApiUrl (extendedApiUrl.getD masterUrl) := by
    intro masterUrl extendedApiUrl apiVersion extendedApiVersion urls h
    obtain ⟨rfl, -, -⟩ := Endpoint.BaseUrls.check_eq_ok h
    exact Endpoint.sameServer_baseUrls masterUrl extendedApiUrl apiVersion extendedApiVersion
  refine ⟨composed, fun via s url client h => ?_⟩
  obtain ⟨apiVersion, extendedApiVersion, urls, hu, hm, he⟩ := ofMasterUrl_eq_ok h
  rw [hm, he]
  exact composed url none apiVersion extendedApiVersion urls hu

/-! ### Sources that would lead elsewhere -/

/-- Sources with a master of their own and versions that look like the end of an authority. -/
def sampleDecoy : Sources where
  properties := [("kubernetes.master", "https://b"), ("kubernetes.oapi.version", "?@b")]
  environ := [("KUBERNETES_API_VERSION", "//@b")]
  filesystem := .inMemory [] []
  home := .ofText "/"

theorem server_pinned_sampleDecoy :
    (∃ urls, Endpoint.compose "http://u@a:1//" (some "http://c//") "@b" "@b" = .ok urls ∧
      urls.masterUrl = "http://u@a:1/api/@b/" ∧ SameServer urls.masterUrl "http://u@a:1//" ∧
      SameServer urls.extendedApiUrl "http://c//") ∧
      ∃ client, (ofMasterUrl .standard "https://a" sampleDecoy).outcome = .ok client ∧
        client.config.masterUrl = "https://a/api///@b/" ∧
        client.config.extendedApiUrl = "https://a/oapi/?@b/" ∧
        SameServer client.config.masterUrl "https://a" ∧
        SameServer client.config.extendedApiUrl "https://a" := by
  have composed : Endpoint.compose "http://u@a:1//" (some "http://c//") "@b" "@b" =
      .ok ⟨"http://u@a:1/api/@b/", "http://c/"⟩ := by decide
  have opened : (ofMasterUrl .standard "https://a" sampleDecoy).outcome = .ok
      { config :=
          { masterUrl := "https://a/api///@b/", extendedApiUrl := "https://a/oapi/?@b/"
            apiVersion := "//@b", extendedApiVersion := "?@b" }
        session := {} } := by decide
  obtain ⟨master, extended⟩ := server_pinned.1 _ _ _ _ _ composed
  obtain ⟨master', extended'⟩ := server_pinned.2 _ _ _ _ opened
  exact ⟨⟨_, composed, rfl, master, extended⟩, _, opened, rfl, rfl, master', extended'⟩

end Client

end ClusterAccess
