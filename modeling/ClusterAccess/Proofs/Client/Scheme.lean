import ClusterAccess.Config.Document
import ClusterAccess.Proofs.Client.Requests

/-!
# The scheme that is told and the scheme that is sent

`Config.Presents` says what a server sees of the scheme of a configuration. It is what the first request
of a client carries, but for a configuration that proves no identity whose master URL names a user: the
scheme that is told is none then, and the user of the URL is sent.
-/

namespace ClusterAccess

variable {via : Pki.Provider}

/-- The user information of a URL says something. -/
def Url.NamesUser (u : Url) : Prop := u.username ≠ "" ∨ u.password ≠ ""

theorem Http.Session.urlAuth?_of_namesUser {u : Url} (h : u.NamesUser) :
    urlAuth? u = some (.basic u.username u.password) := by
  unfold urlAuth?
  rcases h with h | h <;> simp [h]

theorem Http.Session.urlAuth?_of_not_namesUser {u : Url} (h : ¬ u.NamesUser) : urlAuth? u = none := by
  simp only [Url.NamesUser, not_or, not_not] at h
  simp [urlAuth?, h]

namespace Config

/-- The values of the header of identity are those of the scheme that applies. -/
def Presents (c : Config) (values : List String) : Prop :=
  match c.authScheme with
  | .basic =>
    ∃ username password, c.username = some username ∧ c.password = some password ∧
      values = ["Basic " ++ Base64.encodeText (Bytes.ofText (username ++ ":" ++ password))]
  | .bearer => ∃ token, c.oauthToken = some token ∧ values = ["Bearer " ++ token]
  | .anonymous => values = []

theorem authScheme_eq_basic {c : Config} (h : c.authScheme = .basic) :
    ∃ username password, c.username = some username ∧ c.password = some password := by
  unfold authScheme at h
  split at h
  · next hb =>
    simp only [Options.hasBasicAuth, Bool.and_eq_true, Option.isSome_iff_exists] at hb
    obtain ⟨⟨username, hu⟩, password, hp⟩ := hb
    exact ⟨username, password, hu, hp⟩
  · split at h <;> cases h

theorem authScheme_eq_bearer {c : Config} (h : c.authScheme = .bearer) :
    ∃ token, c.oauthToken = some token := by
  unfold authScheme at h
  split at h
  · cases h
  · split at h
    · next ht => exact Option.isSome_iff_exists.mp ht
    · cases h

/-- A configuration that proves an identity presents its own proof, whatever else there is. -/
theorem presents_of_authScheme {c : Config} (h : c.authScheme ≠ .anonymous) (other : Option Auth) :
    c.Presents ((c.auth?.or other).map Auth.header).toList := by
  unfold Presents auth?
  cases hs : c.authScheme with
  | basic =>
    obtain ⟨username, password, hu, hp⟩ := authScheme_eq_basic hs
    exact ⟨username, password, hu, hp, by rw [hu, hp]; rfl⟩
  | bearer =>
    obtain ⟨token, ht⟩ := authScheme_eq_bearer hs
    exact ⟨token, ht, by rw [ht]; rfl⟩
  | anonymous => exact absurd hs h

theorem auth?_of_anonymous {c : Config} (h : c.authScheme = .anonymous) : c.auth? = none := by
  unfold auth?
  rw [h]

theorem presents_of_anonymous {c : Config} (h : c.authScheme = .anonymous) {values : List String} :
    c.Presents values ↔ values = [] := by
  unfold Presents
  rw [h]

end Config

namespace Client

/-- One event tells of a client, and it and the summary name the scheme that applies. The first request
presents that scheme, unless it is none and the master URL names a user, who is then presented. -/
theorem presents_iff {c : Config} {fs : Filesystem} {client : Client}
    (h : (ofConfig via c fs).outcome = .ok client) (server : Http.Server) (n : Nat) :
    ∃ created master first rest, (ofConfig via c fs).events.filter Event.isCreation = [created] ∧
      (∀ scheme, ("auth", Json.text scheme) ∈ created.details ↔ scheme = c.authScheme.name) ∧
      (∀ scheme, ("auth", Json.text scheme) ∈ c.summary.members ↔ scheme = c.authScheme.name) ∧
      Url.parse c.masterUrl = .ok master ∧ (client.rootPaths server n).requests = first :: rest ∧
      (c.Presents (first.headers.values Http.authorization) ↔
        ¬ (c.authScheme = .anonymous ∧ master.NamesUser)) ∧
      (c.authScheme = .anonymous → master.NamesUser →
        first.headers.values Http.authorization =
          ["Basic " ++ Base64.encodeText (Bytes.ofText (master.username ++ ":" ++ master.password))]) := by
  obtain ⟨master, -, first, rest, hm, -, -, hv, hr, -⟩ := requests_rootPaths h server n
  refine ⟨_, master, first, rest, by rw [(ofConfig_eq_ok h).1, creation_told], ?_, ?_, hm, hr, ?_, ?_⟩
  · intro scheme
    simp [Event.details]
  · intro scheme
    simp [Summary.members, Config.summary]
  · rw [hv]
    by_cases hs : c.authScheme = .anonymous
    · rw [Config.presents_of_anonymous hs, Config.auth?_of_anonymous hs, Option.none_or]
      by_cases hn : master.NamesUser
      · simp [Http.Session.urlAuth?_of_namesUser hn, hs, hn]
      · simp [Http.Session.urlAuth?_of_not_namesUser hn, hn]
    · simp [Config.presents_of_authScheme hs, hs]
  · intro hs hn
    rw [hv, Config.auth?_of_anonymous hs, Option.none_or, Http.Session.urlAuth?_of_namesUser hn]
    rfl

/-! ### A user whom only the URL names -/

def sampleNamed (token : Option String) : Config where
  masterUrl := "https://u:p@x/"
  extendedApiUrl := "https://x/"
  oauthToken := token

def sampleNamedClient (token : Option String) : Client where
  config := sampleNamed token
  session := { auth := token.map .bearer }

/-- A token is presented, although the URL names a user. -/
theorem presents_sampleNamed :
    (ofConfig .standard (sampleNamed (some "t")) (.inMemory [] [])).outcome =
        .ok (sampleNamedClient (some "t")) ∧
      ∃ first rest, ((sampleNamedClient (some "t")).rootPaths (fun _ => {}) 0).requests = first :: rest ∧
        (sampleNamed (some "t")).Presents (first.headers.values Http.authorization) := by
  have opened : (ofConfig .standard (sampleNamed (some "t")) (.inMemory [] [])).outcome =
      .ok (sampleNamedClient (some "t")) := by decide
  obtain ⟨-, master, first, rest, -, -, -, -, hr, hp, -⟩ := presents_iff opened (fun _ => {}) 0
  have token : (sampleNamed (some "t")).authScheme ≠ .anonymous := by decide
  exact ⟨opened, first, rest, hr, hp.mpr fun hn => token hn.1⟩

/-- Without a token the scheme is none, and the server sees a user. -/
theorem not_presents_sampleNamed :
    (ofConfig .standard (sampleNamed none) (.inMemory [] [])).outcome = .ok (sampleNamedClient none) ∧
      (sampleNamed none).authScheme = .anonymous ∧
      (((sampleNamedClient none).rootPaths (fun _ => {}) 0).requests.map fun r =>
          r.headers.values Http.authorization) = [["Basic dTpw"]] ∧
      ¬ (sampleNamed none).Presents ["Basic dTpw"] := by
  refine ⟨by decide, by decide, by decide +kernel, ?_⟩
  rw [Config.presents_of_anonymous (by decide)]
  decide

end Client

end ClusterAccess
