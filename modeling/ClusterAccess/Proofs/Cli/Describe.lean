import ClusterAccess.Cli.Describe
import ClusterAccess.Proofs.Client.Opening
import ClusterAccess.Proofs.Config.Completion
import ClusterAccess.Proofs.Json.Pretty
import Mathlib.Data.List.Forall2

/-!
# What a description says

Whoever has the library do what the options of `describe` stand for gets `opened`: a client, or the failure
of the first part that fails. A run of the program says the same (`describe_agrees`). Its output as a document
is read back as the summary of the client's configuration (`ofText_toJson`), and its output for reading shows
the entries of that summary in order (`forall₂_lines`).
-/

namespace ClusterAccess

open Config (Choice Draft Field Kind Sketch)

variable {via : Pki.Provider}

/-! ## Summaries as documents -/

namespace Config

theorem Kind.plain_toJson (k : Kind) (v : k.Value) : (k.toJson v).Plain := by
  cases k with
  | flag => exact .bool v
  | text => exact .text v
  | names =>
    refine .array fun w hw => ?_
    obtain ⟨s, -, rfl⟩ := List.mem_map.mp hw
    exact .text s
  | optionalText =>
    cases v with
    | none => exact .null
    | some s => exact .text s

/-- The value of a field has no members. -/
theorem Kind.sorted_toJson (k : Kind) (v : k.Value) : (k.toJson v).sorted = k.toJson v := by
  cases k with
  | flag => rfl
  | text => rfl
  | names =>
    rw [Kind.toJson, Json.sorted, Json.sortedItems_eq_map, List.map_map]
    rfl
  | optionalText => cases v <;> rfl

theorem Draft.plain_toJson (d : Draft) : d.toJson.Plain := by
  refine .object ?_ fun m hm => ?_
  · rw [List.map_map]
    change (Field.all.map Field.name).Nodup
    decide
  · obtain ⟨f, -, rfl⟩ := List.mem_map.mp hm
    exact Kind.plain_toJson f.kind (d.get f)

/-- The fields of a configuration in the order of their names. -/
theorem Draft.sorted_toJson (d : Draft) :
    ∃ fields, d.toJson.sorted = .object fields ∧ fields.Perm (Field.all.map d.member) := by
  obtain ⟨fields, hf, same⟩ := Json.sorted_object (Field.all.map d.member)
  refine ⟨fields, hf, ?_⟩
  have kept : (Field.all.map d.member).map (fun m => (m.1, m.2.sorted)) = Field.all.map d.member := by
    rw [List.map_map]
    refine List.map_congr_left fun f _ => ?_
    exact congrArg (Prod.mk f.name) (Kind.sorted_toJson f.kind (d.get f))
  rwa [kept] at same

end Config

namespace Summary

theorem plain_toJson (s : Summary) : s.toJson.Plain := by
  refine .object ?_ fun m hm => ?_
  · change ["master_url", "extended_api_url", "auth", "tls", "client_identity", "config"].Nodup
    decide
  · obtain hm | hm := List.mem_append.mp hm
    · simp only [members, List.mem_cons, List.not_mem_nil, or_false] at hm
      obtain rfl | rfl | rfl | rfl | rfl := hm
      · exact .text _
      · exact .text _
      · exact .text _
      · exact .text _
      · exact .bool _
    · rw [List.mem_singleton.mp hm]
      exact s.config.toDraft.plain_toJson

/-- A summary in order has its members and the configuration, with all fields of it. -/
theorem sorted_toJson (s : Summary) :
    ∃ ordered fields, s.toJson.sorted = .object ordered ∧
      ordered.Perm (s.members ++ [("config", .object fields)]) ∧
      fields.Perm (Field.all.map s.config.toDraft.member) := by
  obtain ⟨ordered, ho, same⟩ := Json.sorted_object (s.members ++ [("config", s.config.toJson)])
  obtain ⟨fields, hf, sameFields⟩ := s.config.toDraft.sorted_toJson
  refine ⟨ordered, fields, ho, ?_, sameFields⟩
  have config : s.config.toJson.sorted = .object fields := hf
  rw [List.map_append, List.map_singleton, config] at same
  exact same

/-- The document of a summary is read back from its text. -/
theorem ofText_toJson (s : Summary) :
    ∃ ordered fields, Json.ofText (s.toJson.pretty ++ "\n") = .ok (.object ordered) ∧
      ordered.Perm (s.members ++ [("config", .object fields)]) ∧
      fields.Perm (Field.all.map s.config.toDraft.member) := by
  obtain ⟨ordered, fields, ho, same, sameFields⟩ := s.sorted_toJson
  exact ⟨ordered, fields, by rw [Json.ofText_pretty s.plain_toJson, ho], same, sameFields⟩

/-! ## Summaries for reading -/

/-- How a value stands on a line. -/
inductive Shows : Json → String → Prop
  | text (s : String) : Shows (.text s) s
  | yes : Shows (.bool true) "True"
  | no : Shows (.bool false) "False"

/-- The line shows the member. -/
def Lists (m : String × Json) (line : String) : Prop :=
  ∃ value, Shows m.2 value ∧ line = m.1 ++ ": " ++ value

/-- The lines of a summary list its members in order. -/
theorem forall₂_lines (s : Summary) : List.Forall₂ Lists s.members s.lines := by
  have truth : Shows (.bool s.clientIdentity) (flagText s.clientIdentity) := by
    cases s.clientIdentity with
    | true => exact .yes
    | false => exact .no
  refine .cons ⟨_, .text _, rfl⟩ (.cons ⟨_, .text _, rfl⟩ (.cons ⟨_, .text _, rfl⟩ ?_))
  exact .cons ⟨_, .text _, rfl⟩ (.cons ⟨_, truth, rfl⟩ .nil)

theorem insecure_mem_members {c : Config} (h : c.trustCerts = true) :
    ("tls", Json.text "insecure") ∈ c.summary.members := by
  have mode : c.summary.tls = .insecure := if_pos h
  simp [members, mode, TlsMode.name]

end Summary

namespace Cli

/-! ## The library in place of the program -/

/-- What a user of a builder chooses who does what the options stand for: a master that is not empty is set,
and trust without a check. -/
def DescribeOptions.chosen (o : DescribeOptions) : List Choice :=
  ((o.master.filter (· ≠ "")).toList.map fun m => .setting ⟨.masterUrl, some m⟩) ++
    if o.insecure then [.setting ⟨.trustCerts, true⟩] else []

/-- The sketch that sources give after these choices. -/
def sketchFrom (o : DescribeOptions) (sources : Sources) : Except Failure Sketch := do
  let sketch ← (Sketch.ofSources sources).outcome
  pure (o.chosen.foldl Sketch.choose sketch)

/-- The client that the library opens for sources after these choices, or the first failure. -/
def openedFrom (via : Pki.Provider) (o : DescribeOptions) (sources : Sources) : Except Failure Client := do
  let sketch ← sketchFrom o sources
  let draft ← sketch.toDraft
  let config ← draft.build
  (Client.ofConfig via config sources.filesystem).outcome

/-- Some field is left with a broken text. -/
def LeavesBroken (o : DescribeOptions) (p : Site) : Prop :=
  ∃ sources k, Sources.ofSite [] p = .ok sources ∧ sketchFrom o sources = .ok k ∧ k.IsBroken

/-- The client that the library opens at a site. -/
def opened (via : Pki.Provider) (o : DescribeOptions) (p : Site) : Except Failure Client := do
  let sources ← Sources.ofSite [] p
  openedFrom via o sources

/-- No client is opened when a field is left with a broken text. -/
theorem opened_of_leavesBroken {o : DescribeOptions} {p : Site} (h : LeavesBroken o p) :
    opened via o p = .error .brokenText := by
  obtain ⟨sources, k, hs, hk, broken⟩ := h
  refine Except.bind_eq_error.mpr (.inr ⟨sources, hs, ?_⟩)
  refine Except.bind_eq_error.mpr (.inr ⟨k, hk, ?_⟩)
  exact Except.bind_eq_error.mpr (.inl (Sketch.toDraft_eq_error.mpr ⟨rfl, broken⟩))

theorem chosen_eq_choices (o : DescribeOptions) : o.chosen = o.choices := by
  obtain ⟨master, insecure, -⟩ := o
  cases master with
  | none => cases insecure <;> rfl
  | some m =>
    by_cases h : m = "" <;> cases insecure <;>
      simp [DescribeOptions.chosen, DescribeOptions.choices, Option.filter, h]

/-- A description ends as the library does. -/
theorem outcome_describe (o : DescribeOptions) (sources : Sources) :
    (describe via o sources).outcome = (openedFrom via o sources).map (·.config.summary) := by
  simp only [describe, openedFrom, sketchFrom, Client.ofDraft, Logged.outcome_bind, Logged.outcome_ofExcept,
    chosen_eq_choices]
  cases (Sketch.ofSources sources).outcome with
  | error e => rfl
  | ok sketch =>
    simp only [bind, Except.bind, pure, Except.pure]
    cases (o.choices.foldl Sketch.choose sketch).toDraft with
    | error e => rfl
    | ok draft =>
      simp only
      cases draft.build with
      | error e => rfl
      | ok config =>
        simp only
        cases (Client.ofConfig via config sources.filesystem).outcome <;> rfl

theorem outcome_run (via : Pki.Provider) (o : DescribeOptions) (p : Site) :
    (Logged.ofExcept (Sources.ofSite [] p) >>= describe via o).outcome =
      (opened via o p).map (·.config.summary) := by
  rw [Logged.outcome_bind, Logged.outcome_ofExcept, opened]
  cases Sources.ofSite [] p with
  | error e => rfl
  | ok sources => exact outcome_describe o sources

/-- With trust the configuration of the client says so. -/
theorem trustCerts_of_opened {o : DescribeOptions} (insecure : o.insecure = true) {p : Site}
    {client : Client} (h : opened via o p = .ok client) : client.config.trustCerts = true := by
  obtain ⟨sources, -, h⟩ := Except.bind_eq_ok.mp h
  obtain ⟨sketch, hs, h⟩ := Except.bind_eq_ok.mp h
  obtain ⟨draft, hd, h⟩ := Except.bind_eq_ok.mp h
  obtain ⟨config, hb, h⟩ := Except.bind_eq_ok.mp h
  obtain ⟨-, -, context, -, rfl⟩ := Client.ofConfig_eq_ok h
  obtain ⟨found, -, hs⟩ := Except.bind_eq_ok.mp hs
  cases hs
  have kept : config.trustCerts = draft.trustCerts :=
    Draft.get_build hb (f := .trustCerts) (by decide) (by decide)
  have held := Sketch.get_of_toDraft hd .trustCerts
  rw [DescribeOptions.chosen, if_pos insecure, List.foldl_append] at held
  exact kept.trans (held.symm.trans (Sketch.get_choose_self _ _))

theorem unlines_singleton (line : String) : unlines [line] = line ++ "\n" := by
  simp only [unlines, List.map_singleton, String.join_cons, String.join_nil, String.append_empty]

/-- A run of the program agrees with the library. An access error is told and nothing is printed. A client is
described by its summary, as a document that is read back or by its entries in order, and with trust the
summary says so. Any other failure of the library is that of the program, save that nothing is claimed where
a text that a field is left with is broken. -/
theorem describe_agrees (via : Pki.Provider) (verbose : Bool) (o : DescribeOptions) (p : Site) :
    let said := run via verbose o p
    (∀ e, opened via o p = .error (.access e) →
      said.ending = .exit 1 ∧ said.output = "" ∧ said.errors = ["error: " ++ e.message]) ∧
    (∀ client, opened via o p = .ok client →
      said.ending = .exit 0 ∧ said.errors = [] ∧
      (o.json = true → ∃ ordered fields, Json.ofText said.output = .ok (.object ordered) ∧
        ordered.Perm (client.config.summary.members ++ [("config", .object fields)]) ∧
        fields.Perm (Field.all.map client.config.redacted.toDraft.member)) ∧
      (o.json = false → ∃ lines, said.output = unlines lines ∧
        List.Forall₂ Summary.Lists client.config.summary.members lines) ∧
      (o.insecure = true → ("tls", Json.text "insecure") ∈ client.config.summary.members)) ∧
    (¬LeavesBroken o p → ∀ e, opened via o p = .error e → (∀ a, e ≠ .access a) →
      said.ending = .failure e ∧ said.output = "") := by
  have ends := outcome_run via o p
  refine ⟨fun e h => ?_, fun client h => ?_, fun _ e h other => ?_⟩
  · rw [h] at ends
    simp only [run, report, ends, Except.map, and_self]
  · rw [h] at ends
    simp only [run, report, ends, Except.map]
    refine ⟨trivial, trivial, fun json => ?_, fun json => ?_, fun insecure => ?_⟩
    · rw [DescribeOptions.print, if_pos json, unlines_singleton]
      exact client.config.summary.ofText_toJson
    · exact ⟨_, by rw [DescribeOptions.print, json]; rfl, client.config.summary.forall₂_lines⟩
    · exact Summary.insecure_mem_members (trustCerts_of_opened insecure h)
  · rw [h] at ends
    cases e with
    | access a => exact absurd rfl (other a)
    | _ => simp only [run, report, ends, Except.map, and_self]

/-! ### A name with a quotation mark -/

def sampleNamed : DescribeOptions where
  master := some "https://a/"
  insecure := true
  json := true

/-- The home directory is not in the environment. -/
def sampleNamedSite : Site where
  environ := [("KUBERNETES_AUTH_BASIC_USERNAME", "\"ü")]
  userHome := some "/h/"
  filesystem := .inMemory [] []

def sampleNamedClient : Client where
  config :=
    { masterUrl := "https://a/api/v1/", extendedApiUrl := "https://a/oapi/v1/", trustCerts := true,
      username := "\"ü" }
  session :=
    { context := some
        (Tls.Context.trustingAll { bounds := ⟨.tls12, some .tls12⟩, trusted := none, identity := none }) }

theorem describe_agrees_sampleNamed :
    opened .standard sampleNamed sampleNamedSite = .ok sampleNamedClient ∧
      ∃ ordered fields,
        Json.ofText (run .standard false sampleNamed sampleNamedSite).output =
          .ok (.object ordered) ∧
        ("tls", Json.text "insecure") ∈ ordered ∧ ("config", Json.object fields) ∈ ordered ∧
        ("username", Json.text "\"ü") ∈ fields := by
  have named : opened .standard sampleNamed sampleNamedSite = .ok sampleNamedClient := by decide
  obtain ⟨-, shown, -⟩ := describe_agrees .standard false sampleNamed sampleNamedSite
  obtain ⟨-, -, document, -, insecure⟩ := shown _ named
  obtain ⟨ordered, fields, decoded, members, same⟩ := document rfl
  refine ⟨named, ordered, fields, decoded, ?_, ?_, ?_⟩
  · exact members.mem_iff.mpr (List.mem_append_left _ (insecure rfl))
  · exact members.mem_iff.mpr (List.mem_append_right _ (List.mem_singleton.mpr rfl))
  · exact same.mem_iff.mpr (List.mem_map_of_mem (a := Field.username) (by decide))

end Cli

end ClusterAccess
