import ClusterAccess.Proofs.Client.Opening
import ClusterAccess.Proofs.Tls.Bounds

/-!
# Protocols that bind a client

The protocols of a configuration bind a client that has a TLS context of its own: its context admits the
versions that are listed, raised to the least safe one, and no others, and there is no such client for an
unknown protocol or for none at all. A configuration that needs no context leaves the versions to the
platform and its protocols unread (`protocols_bind`).
-/

namespace ClusterAccess

open Tls (Bounds leastSafe)

variable {via : Pki.Provider}

namespace Tls.Context

section

variable {c : Config} {fs : Filesystem} {context : Option Context}

theorem bounds_assemble (trust : Option Pki.TrustStore) (keys : Option Pki.KeyStore) (bounds : Bounds) :
    (assemble c trust keys bounds).bounds = bounds := by
  unfold assemble
  split <;> rfl

/-- A context that a configuration needs has the bounds of its protocols. -/
theorem bounds_of_ofConfig (hn : c.needsCustomContext = true)
    (h : (ofConfig via c fs).outcome = .ok context) :
    ∃ own, context = some own ∧ Bounds.ofNames c.enabledProtocols = .ok own.bounds := by
  obtain ⟨-, ⟨hf, -⟩ | ⟨-, trust, keys, bounds, -, -, hb, -, -, rfl⟩⟩ := ofConfig_eq_ok h
  · rw [hn] at hf
    cases hf
  · refine ⟨_, rfl, ?_⟩
    rw [bounds_assemble]
    exact Except.mapError_eq_ok.mp hb

end

end Tls.Context

namespace Client

/-- There is no client for no protocol or an unknown one, and a client has a context that admits just the
versions that are listed, raised to the least safe one. -/
def ProtocolsBind (via : Pki.Provider) (c : Config) (fs : Filesystem) : Prop :=
  ((c.enabledProtocols = [] ∨ ∃ name ∈ c.enabledProtocols, Bounds.listed? name = none) →
      ∃ e, (ofConfig via c fs).outcome = .error e) ∧
    ∀ client, (ofConfig via c fs).outcome = .ok client →
      ∃ context, client.session.context = some context ∧
        ∀ w, context.bounds.admits w = true ↔
          ∃ name ∈ c.enabledProtocols, ∃ v, Bounds.listed? name = some v ∧ max v leastSafe = w

section

variable {c : Config} {fs : Filesystem}

theorem bounds_of_ofConfig (hn : c.needsCustomContext = true) {client : Client}
    (h : (ofConfig via c fs).outcome = .ok client) :
    ∃ context, client.session.context = some context ∧
      Bounds.ofNames c.enabledProtocols = .ok context.bounds := by
  obtain ⟨-, -, context, hc, rfl⟩ := ofConfig_eq_ok h
  exact Tls.Context.bounds_of_ofConfig hn hc

/-- The protocols bind a client that needs a context. -/
theorem protocolsBind_of_needsCustomContext (hn : c.needsCustomContext = true) :
    ProtocolsBind via c fs := by
  constructor
  · intro unusable
    cases h : (ofConfig via c fs).outcome with
    | error e => exact ⟨e, rfl⟩
    | ok client =>
      obtain ⟨context, -, hb⟩ := bounds_of_ofConfig hn h
      rcases unusable with none | ⟨name, mem, unknown⟩
      · exact absurd none (Bounds.ne_nil_of_ofNames hb)
      · obtain ⟨v, hv⟩ := Bounds.listed?_of_ofNames hb mem
        rw [unknown] at hv
        cases hv
  · intro client h
    obtain ⟨context, hc, hb⟩ := bounds_of_ofConfig hn h
    exact ⟨context, hc, Bounds.admits_of_ofNames hb⟩

/-- Without need of a context a client is opened for any right endpoints, and has none. -/
theorem outcome_of_not_needsCustomContext (hn : c.needsCustomContext = false) :
    (ofConfig via c fs).outcome =
      (checkEndpoints c).map fun _ => { config := c, session := { context := none, auth := c.auth? } } := by
  have context : (Tls.Context.ofConfig via c fs).outcome = .ok none := by
    rw [Tls.Context.ofConfig, hn]
    rfl
  rw [outcome_ofConfig, context]
  cases checkEndpoints c <;> rfl

end

/-- Protocols bind the clients of configurations that need a context. Any other configuration is opened
without a context as soon as its endpoints are right, whatever protocols it lists. -/
theorem protocols_bind (via : Pki.Provider) (c : Config) (fs : Filesystem) :
    (c.needsCustomContext = true → ProtocolsBind via c fs) ∧
      (c.needsCustomContext = false →
        (ofConfig via c fs).outcome =
          (checkEndpoints c).map fun _ =>
            { config := c, session := { context := none, auth := c.auth? } }) :=
  ⟨protocolsBind_of_needsCustomContext, outcome_of_not_needsCustomContext⟩

/-! ### Protocols with and without a context -/

def sampleListed (trustCerts : Bool) (protocols : List String) : Config where
  masterUrl := "https://a/"
  extendedApiUrl := "https://a/"
  trustCerts := trustCerts
  enabledProtocols := protocols

/-- A client that takes any server still speaks the listed version only, and no unknown one. -/
theorem protocols_bind_sampleListed :
    (sampleListed true [" TLSv1.3"]).needsCustomContext = true ∧
      (∃ client context,
        (ofConfig .standard (sampleListed true [" TLSv1.3"]) (.inMemory [] [])).outcome = .ok client ∧
          client.session.context = some context ∧ context.bounds.admits .tls13 = true ∧
          context.bounds.admits .tls12 = false) ∧
      ∃ e, (ofConfig .standard (sampleListed true ["SSLv3"]) (.inMemory [] [])).outcome = .error e := by
  have listed : Bounds.listed? " TLSv1.3" = some .tls13 := by decide
  have unknown : Bounds.listed? "SSLv3" = none := by decide
  obtain ⟨client, opened⟩ : ∃ client,
      (ofConfig .standard (sampleListed true [" TLSv1.3"]) (.inMemory [] [])).outcome = .ok client :=
    Except.exists_of_isOk (by decide)
  obtain ⟨-, bound⟩ := (protocols_bind .standard (sampleListed true [" TLSv1.3"]) (.inMemory [] [])).1 rfl
  obtain ⟨refused, -⟩ := (protocols_bind .standard (sampleListed true ["SSLv3"]) (.inMemory [] [])).1 rfl
  refine ⟨rfl, ?_, refused (.inr ⟨"SSLv3", List.mem_singleton_self _, unknown⟩)⟩
  obtain ⟨context, hc, admitted⟩ := bound client opened
  refine ⟨client, context, opened, hc, ?_, ?_⟩
  · exact (admitted .tls13).mpr ⟨" TLSv1.3", List.mem_singleton_self _, .tls13, listed, rfl⟩
  · rw [Bool.eq_false_iff, ne_eq, admitted]
    rintro ⟨name, mem, v, hv, hw⟩
    rw [List.mem_singleton.mp mem, listed] at hv
    cases hv
    cases hw

/-- Where nothing but the list is given, a client is opened for an empty list and for the last version
alone, and in both cases has no context that could restrict it. -/
theorem not_protocolsBind_sampleListed :
    ¬ ProtocolsBind .standard (sampleListed false []) (.inMemory [] []) ∧
      ¬ ProtocolsBind .standard (sampleListed false ["TLSv1.3"]) (.inMemory [] []) := by
  have opened : (ofConfig .standard (sampleListed false []) (.inMemory [] [])).outcome =
      .ok { config := sampleListed false [], session := {} } := by decide
  have opened' : (ofConfig .standard (sampleListed false ["TLSv1.3"]) (.inMemory [] [])).outcome =
      .ok { config := sampleListed false ["TLSv1.3"], session := {} } := by decide
  constructor
  · rintro ⟨refused, -⟩
    obtain ⟨e, he⟩ := refused (.inl rfl)
    rw [opened] at he
    cases he
  · rintro ⟨-, bound⟩
    obtain ⟨context, hc, -⟩ := bound _ opened'
    cases hc

end Client

end ClusterAccess
