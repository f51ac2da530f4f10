import ClusterAccess.Config.Sketch
import ClusterAccess.Endpoint
import ClusterAccess.Kubeconfig.Probe
import ClusterAccess.ServiceAccount

/-!
# Layers of a configuration

A sketch is made from sources in layers: defaults, the service account, the kubeconfig, overrides. Later
layers count more, and explicit choices count most. `said` is all that sources say, and the draft that they
give is their sketch where no text in it is broken. `Draft.build` completes a draft: it derives the
base URLs and leaves all else as it is.
-/

namespace ClusterAccess.Config

/-- The switches that say which layers are looked at. -/
def tryServiceAccountProperty : String := "kubernetes.auth.tryServiceAccount"

def tryKubeconfigProperty : String := "kubernetes.auth.tryKubeConfig"

/-- The settings of a layer that a switch turns on, which it does when nothing is said. -/
def layer {α : Type} (s : Sources) (switch : String) (settings : Logged (List α)) : Logged (List α) :=
  if s.lookupFlag switch true then settings else pure []

/-- What the sources say, the service account first and the overrides last. -/
def said (s : Sources) : Logged (List Setting.Wide) := do
  let account ← layer s tryServiceAccountProperty (ServiceAccount.probe s {})
  let kubeconfig ← layer s tryKubeconfigProperty (Kubeconfig.probe s)
  pure (account.map Setting.wide ++ kubeconfig ++ (Override.settings s Override.table).map Setting.wide)

/-- An explicit choice: the value of a field, or a user name and password together. -/
inductive Choice where
  | setting (s : Setting)
  | basicAuth (username password : Option String)

/-- The settings that a choice makes. -/
def Choice.settings : Choice → List Setting
  | setting s => [s]
  | basicAuth username password => [⟨.username, username⟩, ⟨.password, password⟩]

namespace Sketch

/-- The sketch that the sources give. -/
def ofSources (s : Sources) : Logged Sketch := do
  let settings ← said s
  pure ((ofDraft {}).update settings)

/-- The sketch after an explicit choice. -/
def choose (k : Sketch) (c : Choice) : Sketch := k.update (c.settings.map Setting.wide)

theorem get_choose_self (k : Sketch) (s : Setting) :
    (k.choose (.setting s)).get s.field = s.field.kind.wide s.value :=
  get_set_self k s.field _

/-- A choice leaves the fields alone that it does not govern. -/
theorem get_choose_of_not_mem {k : Sketch} {c : Choice} {f : Field}
    (h : f ∉ c.settings.map Setting.field) : (k.choose c).get f = k.get f :=
  get_update_of_not_mem (by rwa [fields_map_wide])

end Sketch

namespace Draft

/-- The draft that the sources give. -/
def ofSources (s : Sources) : Logged Draft := do
  let sketch ← Sketch.ofSources s
  Logged.ofExcept sketch.toDraft

/-- The draft after an explicit choice. -/
def choose (d : Draft) (c : Choice) : Draft := d.update c.settings

/-- The complete configuration. -/
def build (d : Draft) : Except Failure Config :=
  match d.masterUrl with
  | none => .error (.access .missingEndpoint)
  | some masterUrl =>
    if masterUrl = "" then .error (.access .missingEndpoint)
    else do
      let urls ← Endpoint.compose masterUrl d.extendedApiUrl d.apiVersion d.extendedApiVersion
      pure { d.toOptions with masterUrl := urls.masterUrl, extendedApiUrl := urls.extendedApiUrl }

/-- A draft that is completed has a master, and keeps all but its base URLs. -/
theorem build_eq_ok {d : Draft} {c : Config} (h : d.build = .ok c) :
    ∃ masterUrl urls, d.masterUrl = some masterUrl ∧ masterUrl ≠ "" ∧
      Endpoint.compose masterUrl d.extendedApiUrl d.apiVersion d.extendedApiVersion = .ok urls ∧
      c = { d.toOptions with masterUrl := urls.masterUrl, extendedApiUrl := urls.extendedApiUrl } := by
  unfold build at h
  cases hm : d.masterUrl with
  | none => simp [hm] at h
  | some masterUrl =>
    simp only [hm] at h
    by_cases he : masterUrl = ""
    · simp [he] at h
    · rw [if_neg he] at h
      obtain ⟨urls, hu, h⟩ := Except.bind_eq_ok.mp h
      cases h
      exact ⟨masterUrl, urls, rfl, he, hu, rfl⟩

end Draft

end ClusterAccess.Config
