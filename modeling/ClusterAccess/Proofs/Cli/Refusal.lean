import ClusterAccess.Proofs.Cli.Describe
import ClusterAccess.Proofs.Endpoint.Refusal

/-!
# What is said about endpoints that are refused

Checking a text, composing base URLs and completing a draft meet the same two things: a text that is no
endpoint, and a host that looks like an encoded name and is none. A run of the program tells the user of the
first and ends with the second unhandled (`Cli.invalid_or_undecodable`).
-/

namespace ClusterAccess

open Config (Draft)
open Endpoint (HasUndecodableHost Refused Verdict)

/-- The base URLs of a draft with a master are refused as those that are composed. -/
theorem Config.Draft.refused_of_build {d : Draft} {masterUrl : String} (hm : d.masterUrl = some masterUrl)
    (hne : masterUrl ≠ "") :
    FailsOnly (Refused masterUrl d.extendedApiUrl
      (Endpoint.baseUrls masterUrl d.extendedApiUrl d.apiVersion d.extendedApiVersion)) d.build := by
  rw [Draft.build_of_masterUrl hm hne]
  exact .bind (Endpoint.refused_of_compose _ _ _ _) fun _ => .ok _

namespace Cli

/-- The draft that a run completes. -/
def draftFrom (o : DescribeOptions) (p : Site) : Except Failure Draft := do
  let sources ← Sources.ofSite [] p
  let sketch ← sketchFrom o sources
  sketch.toDraft

section

variable {via : Pki.Provider} {o : DescribeOptions} {p : Site} {e : Failure}

/-- No client is opened when the draft of the run cannot be completed. -/
theorem opened_of_build {d : Draft} (hd : draftFrom o p = .ok d)
    (hb : d.build = .error e) : opened via o p = .error e := by
  obtain ⟨sources, hs, hd⟩ := Except.bind_eq_ok.mp hd
  obtain ⟨sketch, found, hd⟩ := Except.bind_eq_ok.mp hd
  refine Except.bind_eq_error.mpr (.inr ⟨sources, hs, ?_⟩)
  refine Except.bind_eq_error.mpr (.inr ⟨sketch, found, ?_⟩)
  refine Except.bind_eq_error.mpr (.inr ⟨d, hd, ?_⟩)
  exact Except.bind_eq_error.mpr (.inl hb)

/-- How a run ends that opens no client. -/
inductive Ends (said : Report) : Failure → Prop
  | told (a : AccessError) (code : said.ending = .exit 1) (output : said.output = "")
      (errors : said.errors = ["error: " ++ a.message]) : Ends said (.access a)
  | unhandled (e : Failure) (other : ∀ a, e ≠ .access a) (ending : said.ending = .failure e)
      (output : said.output = "") : Ends said e

theorem ends_of_opened (verbose : Bool) (h : opened via o p = .error e) :
    Ends (run via verbose o p) e := by
  have ends := outcome_run via o p
  rw [h] at ends
  unfold run report
  rw [ends]
  cases e with
  | access a => exact .told a rfl rfl rfl
  | _ => exact .unhandled _ (by simp) rfl rfl

end

/-- A text that is checked is accepted as it is, with a scheme of the web and a host, or refused as no
endpoint, unless its host cannot be decoded. Composing base URLs and completing a draft with a master fail
for one of the same two reasons. A run tells the user that something is no endpoint, and leaves the other
unhandled. -/
theorem invalid_or_undecodable (label url : String) (d : Draft) (via : Pki.Provider) (verbose : Bool)
    (o : DescribeOptions) (p : Site) :
    Verdict label url (Endpoint.check label url) ∧
      (∀ masterUrl extendedApiUrl apiVersion extendedApiVersion,
        FailsOnly (Refused masterUrl extendedApiUrl
            (Endpoint.baseUrls masterUrl extendedApiUrl apiVersion extendedApiVersion))
          (Endpoint.compose masterUrl extendedApiUrl apiVersion extendedApiVersion)) ∧
      (∀ masterUrl, d.masterUrl = some masterUrl → masterUrl ≠ "" →
        FailsOnly (Refused masterUrl d.extendedApiUrl
          (Endpoint.baseUrls masterUrl d.extendedApiUrl d.apiVersion d.extendedApiVersion)) d.build) ∧
      ∀ e, draftFrom o p = .ok d → d.build = .error e → Ends (run via verbose o p) e := by
  refine ⟨Endpoint.verdict_check label url, Endpoint.refused_of_compose, fun masterUrl hm hne => ?_,
    fun e hd hb => ?_⟩
  · exact Draft.refused_of_build hm hne
  · exact ends_of_opened verbose (opened_of_build hd hb)

/-! ### A scheme that is none of the web -/

def sampleFtp : DescribeOptions where
  master := some "ftp://a"
  insecure := false
  json := false

def sampleHome : Site where
  environ := [("HOME", "/h")]
  userHome := none
  filesystem := .inMemory [] []

def sampleFtpDraft : Draft := { masterUrl := some "ftp://a" }

theorem invalid_or_undecodable_sampleFtp :
    Verdict "endpoint" "HTTPS://a" (.ok "HTTPS://a") ∧ sampleFtpDraft.masterUrl = some "ftp://a" ∧
      draftFrom sampleFtp sampleHome = .ok sampleFtpDraft ∧
      (∃ e, sampleFtpDraft.build = .error e ∧
        Refused "ftp://a" none ⟨"ftp://a/api/v1/", "ftp://a/oapi/v1/"⟩ e) ∧
      (run .standard false sampleFtp sampleHome).ending = .exit 1 ∧
      (run .standard false sampleFtp sampleHome).errors =
        ["error: " ++ (AccessError.invalidEndpoint "master" "ftp://a/api/v1/" .notAbsolute).message] := by
  have accepted : Endpoint.check "endpoint" "HTTPS://a" = .ok "HTTPS://a" := by decide
  have found : draftFrom sampleFtp sampleHome = .ok sampleFtpDraft := by decide
  have refused : sampleFtpDraft.build =
      .error (.access (.invalidEndpoint "master" "ftp://a/api/v1/" .notAbsolute)) := by decide
  obtain ⟨verdict, -, builds, runs⟩ :=
    invalid_or_undecodable "endpoint" "HTTPS://a" sampleFtpDraft .standard false sampleFtp sampleHome
  rw [accepted] at verdict
  have reason := builds "ftp://a" rfl (by decide) _ refused
  cases runs _ found refused with
  | told _ code _ errors => exact ⟨verdict, rfl, found, ⟨_, refused, reason⟩, code, errors⟩
  | unhandled _ other => exact absurd rfl (other _)

/-- A text with a host that looks like an encoded name is neither accepted nor refused. -/
theorem not_acceptedOrInvalid_sampleEncoded :
    ¬∀ label url, Endpoint.check label url = .ok url ∨
      ∃ fault, Endpoint.check label url = .error (.access (.invalidEndpoint label url fault)) := by
  intro h
  have undecodable : Endpoint.check "endpoint" "https://xn--" = .error .undecodableHost := by decide
  obtain accepted | ⟨fault, invalid⟩ := h "endpoint" "https://xn--"
  · rw [undecodable] at accepted
    cases accepted
  · rw [undecodable] at invalid
    cases invalid

end Cli

end ClusterAccess
