import ClusterAccess.Config.Summary
import ClusterAccess.Proofs.Client.Opening
import ClusterAccess.Proofs.Url.Password

/-!
# Passwords in base URLs

A summary and what opening a client tells show the base URLs of a configuration whole, with the passwords
that are written into them. To hide these in the URLs that are shown would be enough: nothing else that is
shown depends on them (`url_passwords_shown`).
-/

namespace ClusterAccess

open Url (discreet)

variable {via : Pki.Provider}

/-! ## Views of computations -/

namespace Logged

variable {α β : Type} {g : Event → Event}

/-- Both computations come to the same, and the second tells what `g` makes of the events of the first. -/
structure SeenThrough (g : Event → Event) (x y : Logged α) : Prop where
  outcome : y.outcome = x.outcome
  events : y.events = x.events.map g

theorem SeenThrough.ofExcept (x : Except Failure α) :
    SeenThrough g (Logged.ofExcept x) (Logged.ofExcept x) := ⟨rfl, rfl⟩

theorem SeenThrough.tellIf (p : Prop) [Decidable p] (e : Event) :
    SeenThrough g (Logged.tellIf p e) (Logged.tellIf p (g e)) := by
  refine ⟨rfl, ?_⟩
  rw [events_tellIf, events_tellIf]
  split <;> rfl

/-- A sequence tells what `g` makes of the events when both its parts do. -/
theorem SeenThrough.events_bind {x y : Logged α} (h : SeenThrough g x y) {f k : α → Logged β}
    (rest : ∀ a, (k a).events = (f a).events.map g) : (y >>= k).events = (x >>= f).events.map g := by
  cases hx : x.outcome with
  | error e => rw [events_bind_error hx, events_bind_error (h.outcome.trans hx), h.events]
  | ok a => rw [events_bind_ok hx, events_bind_ok (h.outcome.trans hx), h.events, rest, List.map_append]

theorem SeenThrough.bind {x y : Logged α} (h : SeenThrough g x y) {f k : α → Logged β}
    (rest : ∀ a, SeenThrough g (f a) (k a)) : SeenThrough g (x >>= f) (y >>= k) := by
  refine ⟨?_, h.events_bind fun a => (rest a).events⟩
  rw [outcome_bind, outcome_bind, h.outcome]
  congr 1
  funext a
  exact (rest a).outcome

end Logged

/-! ## Views of URLs -/

/-- The event with another view of the URL that it shows. -/
def Event.mapUrl (f : String → String) : Event → Event
  | insecureTrustEnabled url => insecureTrustEnabled (f url)
  | clientCreated url auth customTls clientIdentity =>
    clientCreated (f url) auth customTls clientIdentity
  | clientClosed url => clientClosed (f url)
  | e => e

namespace Config

/-- The configuration with other views of its base URLs. -/
def mapUrls (f : String → String) (c : Config) : Config :=
  { c with masterUrl := f c.masterUrl, extendedApiUrl := f c.extendedApiUrl }

theorem toOptions_mapUrls (f : String → String) (c : Config) :
    (c.mapUrls f).toOptions = c.toOptions := rfl

/-- The configurations differ at most in the passwords in their base URLs. -/
def AlikeButUrlPasswords (a b : Config) : Prop := a.mapUrls discreet = b.mapUrls discreet

end Config

namespace Config.AlikeButUrlPasswords

variable {a b : Config}

theorem toOptions_eq (h : a.AlikeButUrlPasswords b) : a.toOptions = b.toOptions := by
  rw [← toOptions_mapUrls discreet a, h, toOptions_mapUrls]

/-- Configurations with the same base URLs have the same passwords in them. -/
theorem eq_of_urls (h : a.AlikeButUrlPasswords b) (master : a.masterUrl = b.masterUrl)
    (extended : a.extendedApiUrl = b.extendedApiUrl) : a = b := by
  have options := h.toOptions_eq
  cases a
  cases b
  cases options
  cases master
  cases extended
  rfl

end Config.AlikeButUrlPasswords

/-- The summary with other views of the URLs that it shows. -/
def Summary.mapUrls (f : String → String) (s : Summary) : Summary :=
  { s with masterUrl := f s.masterUrl, extendedApiUrl := f s.extendedApiUrl, config := s.config.mapUrls f }

section

variable (f : String → String) (c : Config) (fs : Filesystem)

theorem Config.summary_mapUrls : (c.mapUrls f).summary = c.summary.mapUrls f := rfl

theorem Config.seenThrough_selectAuth :
    Logged.SeenThrough (Event.mapUrl f) c.selectAuth (c.mapUrls f).selectAuth := by
  have same : (c.mapUrls f).selectAuth = c.selectAuth := rfl
  refine ⟨by rw [same], ?_⟩
  rw [same, Config.events_selectAuth, Config.toldOfAuth]
  split <;> rfl

theorem Tls.Context.seenThrough_loadIdentity (keys : Option Pki.KeyStore) :
    Logged.SeenThrough (Event.mapUrl f) (loadIdentity via keys) (loadIdentity via keys) := by
  refine ⟨rfl, ?_⟩
  rw [events_loadIdentity, toldOf]
  split <;> rfl

/-- Making a context shows the URL of the master as it is, and depends on no URL otherwise. -/
theorem Tls.Context.seenThrough_ofConfig :
    Logged.SeenThrough (Event.mapUrl f) (ofConfig via c fs) (ofConfig via (c.mapUrls f) fs) := by
  unfold ofConfig
  have needed : (c.mapUrls f).needsCustomContext = c.needsCustomContext := rfl
  rw [needed]
  split
  · refine .bind (.ofExcept _) fun trust => ?_
    refine .bind (.ofExcept _) fun keys => ?_
    refine .bind (.ofExcept _) fun bounds => ?_
    refine .bind (.ofExcept _) fun _ => ?_
    refine .bind (seenThrough_loadIdentity f keys) fun _ => ?_
    refine .bind (.tellIf _ _) fun _ => ?_
    exact ⟨rfl, rfl⟩
  · exact ⟨rfl, rfl⟩

end

namespace Client

/-- What is left of opening a client when the base URLs are in order. -/
def opening (via : Pki.Provider) (c : Config) (fs : Filesystem) : Logged Client := do
  let context ← Tls.Context.ofConfig via c fs
  let auth ← c.selectAuth
  Logged.tell (.clientCreated c.masterUrl c.authScheme context.isSome c.hasClientIdentity)
  pure { config := c, session := { context, auth } }

theorem events_ofConfig_of_checked {c : Config} (h : checkEndpoints c = .ok ()) (fs : Filesystem) :
    (ofConfig via c fs).events = (opening via c fs).events :=
  Logged.events_bind_ok h _

theorem events_opening_mapUrls (f : String → String) (c : Config) (fs : Filesystem) :
    (opening via (c.mapUrls f) fs).events = (opening via c fs).events.map (Event.mapUrl f) := by
  refine (Tls.Context.seenThrough_ofConfig f c fs).events_bind fun context => ?_
  exact (Config.seenThrough_selectAuth f c).events_bind fun auth => rfl

/-- Opened clients tell the same exactly of the same master, if nothing but URLs differs. -/
theorem told_eq_iff {a b : Config} (options : a.toOptions = b.toOptions) :
    told a = told b ↔ a.masterUrl = b.masterUrl := by
  constructor
  · intro h
    have created := congrArg (List.filter Event.isCreation) h
    rw [creation_told, creation_told, List.singleton_inj, Event.clientCreated.injEq] at created
    exact created.1
  · intro master
    cases a
    cases b
    cases options
    cases master
    rfl

section

variable {a b : Config}

/-- A client is opened for both of two configurations that are alike, or for none. -/
theorem exists_ofConfig_of_alike (checked : checkEndpoints b = .ok ())
    (alike : a.AlikeButUrlPasswords b) {fs : Filesystem} {client : Client}
    (h : (ofConfig via a fs).outcome = .ok client) : ∃ other, (ofConfig via b fs).outcome = .ok other := by
  obtain ⟨-, -, context, hc, -⟩ := ofConfig_eq_ok h
  have made : (Tls.Context.ofConfig via b fs).outcome = .ok context := by
    rw [← (Tls.Context.seenThrough_ofConfig discreet b fs).outcome, ← alike,
      (Tls.Context.seenThrough_ofConfig discreet a fs).outcome, hc]
  rw [outcome_ofConfig, checked, made]
  exact ⟨_, rfl⟩

end

/-- Two configurations that were built and differ in the passwords in their base URLs only have one
summary, and opening their clients tells the same, if the passwords in URLs that are shown are hidden.
As they are shown, the summary tells apart all of them, and what opening a client tells those in the URL
of the master. -/
theorem url_passwords_shown {d e : Config.Draft} {a b : Config} (ha : d.build = .ok a)
    (hb : e.build = .ok b) (alike : a.AlikeButUrlPasswords b) (via : Pki.Provider) (fs : Filesystem) :
    a.summary.mapUrls discreet = b.summary.mapUrls discreet ∧
      (ofConfig via a fs).events.map (Event.mapUrl discreet) =
        (ofConfig via b fs).events.map (Event.mapUrl discreet) ∧
      (a.summary = b.summary ↔ a = b) ∧
      ∀ client, (ofConfig via a fs).outcome = .ok client →
        ((ofConfig via a fs).events = (ofConfig via b fs).events ↔ a.masterUrl = b.masterUrl) := by
  refine ⟨?_, ?_, ?_, ?_⟩
  · rw [← Config.summary_mapUrls, alike, Config.summary_mapUrls]
  · rw [events_ofConfig_of_checked (checkEndpoints_of_build ha),
      events_ofConfig_of_checked (checkEndpoints_of_build hb), ← events_opening_mapUrls, alike,
      events_opening_mapUrls]
  · constructor
    · intro h
      exact alike.eq_of_urls (congrArg Summary.masterUrl h) (congrArg Summary.extendedApiUrl h)
    · rintro rfl
      rfl
  · intro client opened
    obtain ⟨other, opened'⟩ := exists_ofConfig_of_alike (checkEndpoints_of_build hb) alike opened
    rw [(ofConfig_eq_ok opened).1, (ofConfig_eq_ok opened').1, told_eq_iff alike.toOptions_eq]

/-! ### One user with two passwords -/

def sampleOwner (password : String) : Config.Draft :=
  { masterUrl := some ("https://u:" ++ password ++ "@x") }

def sampleOwned (password : String) : Config where
  masterUrl := "https://u:" ++ password ++ "@x/api/v1/"
  extendedApiUrl := "https://u:" ++ password ++ "@x/oapi/v1/"

theorem build_sampleOwner_p : (sampleOwner "p").build = .ok (sampleOwned "p") := by decide

theorem build_sampleOwner_q : (sampleOwner "q").build = .ok (sampleOwned "q") := by decide

theorem alike_sampleOwned : (sampleOwned "p").AlikeButUrlPasswords (sampleOwned "q") := by
  unfold Config.AlikeButUrlPasswords
  decide

/-- With the passwords hidden the same is shown of both. -/
theorem url_passwords_shown_sampleOwned :
    (sampleOwned "p").summary.mapUrls discreet = (sampleOwned "q").summary.mapUrls discreet ∧
      (sampleOwned "p").summary ≠ (sampleOwned "q").summary ∧
      ∃ client, (ofConfig .standard (sampleOwned "p") (.inMemory [] [])).outcome = .ok client ∧
        (ofConfig .standard (sampleOwned "p") (.inMemory [] [])).events ≠
          (ofConfig .standard (sampleOwned "q") (.inMemory [] [])).events := by
  have opened : (ofConfig .standard (sampleOwned "p") (.inMemory [] [])).outcome =
      .ok { config := sampleOwned "p", session := {} } := by decide
  have apart : (sampleOwned "p").masterUrl ≠ (sampleOwned "q").masterUrl := by decide
  obtain ⟨hidden, -, summary, events⟩ :=
    url_passwords_shown build_sampleOwner_p build_sampleOwner_q alike_sampleOwned .standard (.inMemory [] [])
  refine ⟨hidden, fun h => ?_, _, opened, fun h => ?_⟩
  · exact apart (congrArg Config.masterUrl (summary.mp h))
  · exact apart ((events _ opened).mp h)

/-- The same two passwords are in what is shown. -/
theorem told_apart_sampleOwned :
    (sampleOwner "p").build = .ok (sampleOwned "p") ∧ (sampleOwner "q").build = .ok (sampleOwned "q") ∧
      (sampleOwned "p").AlikeButUrlPasswords (sampleOwned "q") ∧
      (sampleOwned "p").summary ≠ (sampleOwned "q").summary ∧
      (sampleOwned "p").redacted ≠ (sampleOwned "q").redacted ∧
      (ofConfig .standard (sampleOwned "p") (.inMemory [] [])).events ≠
        (ofConfig .standard (sampleOwned "q") (.inMemory [] [])).events :=
  ⟨build_sampleOwner_p, build_sampleOwner_q, alike_sampleOwned, by decide, by decide +kernel,
    by decide⟩

end Client

end ClusterAccess
