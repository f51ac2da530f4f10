import ClusterAccess.Config.Builder
import ClusterAccess.Proofs.Client.Opening
import ClusterAccess.Proofs.Tls.Failure

/-!
# Completing a draft

A draft is completed to a configuration that holds what it holds, with the base URLs composed of its own,
and lacks a master when it names none (`Draft.build_exact`). Completions leave no trace in a draft, whether
they succeed or not, and the client of a complete configuration never fails for a URL.
-/

namespace ClusterAccess

variable {via : Pki.Provider}

/-- The failure is about a URL. -/
def Failure.isOfUrl : Failure → Bool
  | access .missingEndpoint => true
  | access (.invalidEndpoint ..) => true
  | undecodableHost => true
  | invalidUrl _ => true
  | invalidRedirect _ => true
  | _ => false

theorem Tls.Context.isOfUrl_of_isFailure {e : Failure} (h : IsFailure e) : e.isOfUrl = false := by
  cases h <;> rfl

/-- A client of a configuration whose base URLs are in order fails as its TLS context does. -/
theorem Client.failsOnly_ofConfig {c : Config} (checked : checkEndpoints c = .ok ()) (fs : Filesystem) :
    FailsOnly Tls.Context.IsFailure (ofConfig via c fs).outcome := by
  rw [outcome_ofConfig, checked]
  exact .map _ (Tls.Context.failsOnly_ofConfig via c fs)

namespace Config

namespace Draft

/-! ## Completions -/

/-- The configuration that a draft is completed to with base URLs. -/
def completed (d : Draft) (urls : Endpoint.BaseUrls) : Config :=
  { d.toOptions with masterUrl := urls.masterUrl, extendedApiUrl := urls.extendedApiUrl }

/-- A draft with a master is completed when its base URLs can be composed. -/
theorem build_of_masterUrl {d : Draft} {masterUrl : String} (hm : d.masterUrl = some masterUrl)
    (hne : masterUrl ≠ "") :
    d.build = (Endpoint.compose masterUrl d.extendedApiUrl d.apiVersion
      d.extendedApiVersion).bind fun urls => .ok (d.completed urls) := by
  simp only [build, hm, if_neg hne]
  rfl

/-- A draft lacks an endpoint when it names no master. -/
theorem build_eq_missingEndpoint {d : Draft} :
    d.build = .error (.access .missingEndpoint) ↔ d.masterUrl = none ∨ d.masterUrl = some "" := by
  cases hm : d.masterUrl with
  | none => simp [build, hm]
  | some masterUrl =>
    by_cases hne : masterUrl = ""
    · simp [build, hm, hne]
    · have refused : FailsOnly Endpoint.IsRefusal d.build := by
        rw [build_of_masterUrl hm hne]
        exact .bind (Endpoint.failsOnly_compose _ _ _ _) fun _ => .ok _
      refine ⟨fun h => ?_, fun h => ?_⟩
      · cases refused _ h
      · simp [hne] at h

/-- All fields but the base URLs are kept. -/
theorem get_build {d : Draft} {c : Config} (h : d.build = .ok c) {f : Field} (hm : f ≠ .masterUrl)
    (he : f ≠ .extendedApiUrl) : c.toDraft.get f = d.get f := by
  obtain ⟨_, urls, -, -, -, rfl⟩ := build_eq_ok h
  cases f with
  | masterUrl => exact absurd rfl hm
  | extendedApiUrl => exact absurd rfl he
  | _ => rfl

end Draft

/-! ## Calls -/

def Call.isChoice : Call → Bool
  | choose _ => true
  | build => false

namespace Draft

/-- Of the calls to a builder only the choices leave something behind. -/
theorem after_filter_isChoice (d : Draft) (calls : List Call) :
    d.after (calls.filter Call.isChoice) = d.after calls := by
  induction calls generalizing d with
  | nil => rfl
  | cons call calls ih =>
    cases call with
    | choose c =>
      rw [List.filter_cons_of_pos rfl, after_cons, after_cons]
      exact ih _
    | build =>
      rw [List.filter_cons_of_neg (by decide), after_cons]
      exact ih d

/-- A draft is completed unless it names no master or its base URLs are refused. The configuration has the
composed base URLs and keeps all else. Leaving a completion out changes neither the draft after later calls
nor what completing that comes to. The client of the configuration never fails for a URL. -/
theorem build_exact (d : Draft) :
    (d.build = .error (.access .missingEndpoint) ↔ d.masterUrl = none ∨ d.masterUrl = some "") ∧
      (∀ c, d.build = .ok c →
        (∃ masterUrl urls, d.masterUrl = some masterUrl ∧
          Endpoint.compose masterUrl d.extendedApiUrl d.apiVersion d.extendedApiVersion = .ok urls ∧
          c.masterUrl = urls.masterUrl ∧ c.extendedApiUrl = urls.extendedApiUrl) ∧
        ∀ f, f ≠ .masterUrl → f ≠ .extendedApiUrl → c.toDraft.get f = d.get f) ∧
      (∀ earlier later, d.after (earlier ++ .build :: later) = d.after (earlier ++ later) ∧
        (d.after (earlier ++ .build :: later)).build = (d.after (earlier ++ later)).build) ∧
      ∀ c, d.build = .ok c → ∀ via fs e,
        (Client.ofConfig via c fs).outcome = .error e → e.isOfUrl = false := by
  have traceless : ∀ earlier later : List Call,
      d.after (earlier ++ .build :: later) = d.after (earlier ++ later) := by
    intro earlier later
    rw [← after_filter_isChoice, ← after_filter_isChoice d (earlier ++ later), List.filter_append,
      List.filter_append, List.filter_cons_of_neg (by decide)]
  refine ⟨build_eq_missingEndpoint, fun c h => ⟨?_, fun f => get_build h⟩,
    fun earlier later => ⟨traceless earlier later, by rw [traceless]⟩, fun c h via fs e he => ?_⟩
  · obtain ⟨masterUrl, urls, hm, -, hu, rfl⟩ := build_eq_ok h
    exact ⟨masterUrl, urls, hm, hu, rfl, rfl⟩
  · exact Tls.Context.isOfUrl_of_isFailure
      (Client.failsOnly_ofConfig (Client.checkEndpoints_of_build h) fs e he)

/-! ### A builder that is called twice -/

/-- A draft with certificates that cannot be read. -/
def sampleUnfinished : Draft := { masterUrl := none, caCertData := some "A" }

def sampleChosen (masterUrl : String) : Call := .choose (.setting ⟨.masterUrl, some masterUrl⟩)

def sampleFinished : Config where
  masterUrl := "https://a/api/v1/"
  extendedApiUrl := "https://a/oapi/v1/"
  caCertData := some "A"

theorem build_sampleUnfinished :
    (sampleUnfinished.after [sampleChosen "ftp://a", .build, sampleChosen "https://a"]).build =
      .ok sampleFinished := by
  decide

/-- A completion that fails is as good as none, and what the client refuses in the end is no URL. -/
theorem build_exact_sampleUnfinished :
    sampleUnfinished.build = .error (.access .missingEndpoint) ∧
      (∃ e, (sampleUnfinished.after [sampleChosen "ftp://a"]).build = .error e) ∧
      (sampleUnfinished.after [sampleChosen "ftp://a", sampleChosen "https://a"]).build =
        .ok sampleFinished ∧
      sampleFinished.toDraft.get .caCertData = some "A" ∧
      ∃ e, (Client.ofConfig .standard sampleFinished (.inMemory [] [])).outcome = .error e ∧
        e.isOfUrl = false := by
  have refused : (sampleUnfinished.after [sampleChosen "ftp://a"]).build =
      .error (.access (.invalidEndpoint "master" "ftp://a/api/v1/" .notAbsolute)) := by decide
  have unread : (Client.ofConfig .standard sampleFinished (.inMemory [] [])).outcome =
      .error (.access (.material (.notBase64 Pki.caLabel (.loneDigit 1)))) := by decide
  obtain ⟨missing, -, traceless, -⟩ := build_exact sampleUnfinished
  obtain ⟨-, kept, -, clients⟩ :=
    build_exact (sampleUnfinished.after [sampleChosen "ftp://a", .build, sampleChosen "https://a"])
  have again := (traceless [sampleChosen "ftp://a"] [sampleChosen "https://a"]).2
  exact ⟨missing.mpr (.inl rfl), ⟨_, refused⟩, again.symm.trans build_sampleUnfinished,
    (kept _ build_sampleUnfinished).2 .caCertData (by decide) (by decide), _, unread,
    clients _ build_sampleUnfinished _ _ _ unread⟩

end Draft

end Config

end ClusterAccess
