import ClusterAccess.Config.Builder

/-!
# Which source a field comes from

`overridden? s f` is what the sources say of a field by its property or its environment variable, and
`saidBy?` what a layer says of it that a switch turns on. A draft that the sources give and that calls
have changed holds, in each field, what the last call governing it says, else the override, else the
kubeconfig, else the service account, else the default.
-/

namespace ClusterAccess.Config

/-! ## Overrides -/

/-- The property that overrides a field. Only the URL of the extended interface has none. -/
def Field.property? : Field → Option String
  | .masterUrl => some "kubernetes.master"
  | .extendedApiUrl => none
  | .apiVersion => some "kubernetes.api.version"
  | .extendedApiVersion => some "kubernetes.oapi.version"
  | .trustCerts => some "kubernetes.trust.certificates"
  | .enabledProtocols => some "kubernetes.tls.protocols"
  | .caCertFile => some "kubernetes.certs.ca.file"
  | .caCertData => some "kubernetes.certs.ca.data"
  | .clientCertFile => some "kubernetes.certs.client.file"
  | .clientCertData => some "kubernetes.certs.client.data"
  | .clientKeyFile => some "kubernetes.certs.client.key.file"
  | .clientKeyData => some "kubernetes.certs.client.key.data"
  | .clientKeyAlgo => some "kubernetes.certs.client.key.algo"
  | .clientKeyPassphrase => some "kubernetes.certs.client.key.passphrase"
  | .username => some "kubernetes.auth.basic.username"
  | .password => some "kubernetes.auth.basic.password"
  | .oauthToken => some "kubernetes.auth.token"

/-- What overrides a field: the text of its property, else of the environment variable named for it. -/
def overridden? (s : Sources) (f : Field) : Option f.Value :=
  f.property?.bind fun p =>
    ((s.properties.lookup p).or (s.environ.lookup (Sources.environName p))).map f.kind.read

namespace Override

theorem mem_table_iff {p : String} {f : Field} : ⟨p, f⟩ ∈ table ↔ f.property? = some p := by
  cases f <;> simp [table, masterProperty, Field.property?, eq_comm]

theorem nodup_fields : (table.map field).Nodup := by decide

/-- What the first override of a list says counts only when the others say nothing. -/
theorem last?_settings_cons (s : Sources) (o : Override) (os : List Override) (f : Field) :
    Setting.last? (settings s (o :: os)) f =
      (Setting.last? (settings s os) f).or ((setting? s o).bind (·.for? f)) :=
  Setting.last?_filterMap_cons (setting? s) o os f

theorem setting?_for?_self (s : Sources) (o : Override) :
    (setting? s o).bind (·.for? o.field) = (s.lookup o.property).map o.field.kind.read := by
  rw [setting?]
  cases s.lookup o.property with
  | none => rfl
  | some raw => exact Setting.for?_self o.field _

theorem setting?_for?_of_ne {o : Override} {f : Field} (h : o.field ≠ f) (s : Sources) :
    (setting? s o).bind (·.for? f) = none := by
  rw [setting?]
  cases s.lookup o.property with
  | none => rfl
  | some raw => exact Setting.for?_of_ne h

/-- Overrides for other fields say nothing of a field. -/
theorem last?_settings_of_not_mem {os : List Override} {f : Field} (h : f ∉ os.map field)
    (s : Sources) : Setting.last? (settings s os) f = none := by
  induction os with
  | nil => rfl
  | cons o os ih =>
    rw [List.map_cons, List.mem_cons, not_or] at h
    rw [last?_settings_cons, ih h.2, setting?_for?_of_ne (Ne.symm h.1), Option.none_or]

/-- Of overrides for different fields, the one for a field decides what is said of it. -/
theorem last?_settings_of_mem {os : List Override} (distinct : (os.map field).Nodup) {o : Override}
    (h : o ∈ os) (s : Sources) :
    Setting.last? (settings s os) o.field = (s.lookup o.property).map o.field.kind.read := by
  induction os with
  | nil => cases h
  | cons a os ih =>
    rw [List.map_cons, List.nodup_cons] at distinct
    rw [last?_settings_cons]
    rcases List.mem_cons.mp h with rfl | h
    · rw [last?_settings_of_not_mem distinct.1, Option.none_or, setting?_for?_self]
    · have hne : a.field ≠ o.field := fun e => distinct.1 (e ▸ List.mem_map_of_mem h)
      rw [ih distinct.2 h, setting?_for?_of_ne hne, Option.or_none]

/-- The overrides say of a field what its property says. -/
theorem last?_settings_table (s : Sources) (f : Field) :
    Setting.last? (settings s table) f = overridden? s f := by
  cases hp : f.property? with
  | some p =>
    rw [overridden?, hp]
    exact last?_settings_of_mem nodup_fields (mem_table_iff.mpr hp) s
  | none =>
    rw [overridden?, hp]
    refine last?_settings_of_not_mem (fun hf => ?_) s
    obtain ⟨o, ho, rfl⟩ := List.mem_map.mp hf
    rw [mem_table_iff.mp ho] at hp
    cases hp

end Override

/-! ## Layers -/

/-- What a layer says of a field, if its switch turns it on. -/
def saidBy? (s : Sources) (switch : String) (found : Logged (List Setting)) (f : Field) :
    Option f.Value :=
  if s.lookupFlag switch true then found.outcome.toOption.bind (Setting.last? · f) else none

section

variable {α : Type} {s : Sources} {switch : String} {found : Logged (List α)}

theorem outcome_layer_on (h : s.lookupFlag switch true = true) :
    (layer s switch found).outcome = found.outcome := by
  rw [layer, if_pos h]

theorem outcome_layer_off (h : s.lookupFlag switch true = false) :
    (layer s switch found).outcome = .ok [] := by
  simp [layer, h]

/-- A layer has the settings that were found, or none if it is switched off. -/
theorem layer_eq_ok {ss : List α} :
    (layer s switch found).outcome = .ok ss ↔
      s.lookupFlag switch true = true ∧ found.outcome = .ok ss ∨
        s.lookupFlag switch true = false ∧ ss = [] := by
  cases h : s.lookupFlag switch true with
  | true => simp [outcome_layer_on h]
  | false => simp [outcome_layer_off h, eq_comm]

end

theorem last?_of_layer {s : Sources} {switch : String} {found : Logged (List Setting)} {ss : List Setting}
    (h : (layer s switch found).outcome = .ok ss) (f : Field) :
    Setting.last? ss f = saidBy? s switch found f := by
  unfold saidBy?
  obtain ⟨on, h⟩ | ⟨off, rfl⟩ := layer_eq_ok.mp h
  · rw [if_pos on, h]
    rfl
  · simp [off]

/-! ## Settings of texts -/

/-- What was found, save for what is broken. -/
def narrowed (found : Logged (List Setting.Wide)) : Logged (List Setting) := do
  let ss ← found
  pure (ss.filterMap Setting.Wide.narrow?)

theorem filterMap_map_wide (ss : List Setting) :
    (ss.map Setting.wide).filterMap Setting.Wide.narrow? = ss := by
  have back : Setting.Wide.narrow? ∘ Setting.wide = some :=
    funext fun s => Setting.Wide.narrow?_eq_some.mpr rfl
  rw [List.filterMap_map, back, List.filterMap_some]

theorem field_of_narrow? {w : Setting.Wide} {s : Setting} (h : w.narrow? = some s) : s.field = w.field := by
  rw [Setting.Wide.narrow?_eq_some.mp h]
  rfl

/-- Narrowing leaves fields out and brings none in. -/
theorem fields_narrowed (ws : List Setting.Wide) :
    ((ws.filterMap Setting.Wide.narrow?).map Setting.field).Sublist (ws.map Setting.Wide.field) := by
  induction ws with
  | nil => exact .slnil
  | cons w ws ih =>
    cases h : w.narrow? with
    | none =>
      rw [List.filterMap_cons_none h]
      exact ih.cons _
    | some s =>
      rw [List.filterMap_cons_some h, List.map_cons, field_of_narrow? h]
      exact ih.cons_cons _

/-- A field holds a text after settings because the last of them for it says so, or because they leave it
alone and it held the text before. -/
theorem last?_narrowed {k : Sketch} {ws : List Setting.Wide} {f : Field} {v : f.Value}
    (h : (k.update ws).get f = f.kind.wide v) :
    Setting.last? (ws.filterMap Setting.Wide.narrow?) f = some v ∨
      Setting.last? (ws.filterMap Setting.Wide.narrow?) f = none ∧ k.get f = f.kind.wide v := by
  induction ws generalizing k with
  | nil => exact .inr ⟨rfl, h⟩
  | cons w ws ih =>
    rw [Setting.last?_filterMap_cons]
    rcases ih (k := k.set w) h with said | ⟨silent, held⟩
    · rw [said]
      exact .inl (Option.some_or)
    · rw [silent, Option.none_or]
      by_cases same : w.field = f
      · subst same
        rw [Sketch.get_set_self k w.field w.value] at held
        have narrow : w.narrow? = some ⟨w.field, v⟩ := by
          rw [Setting.Wide.narrow?, Kind.narrow?_eq_some.mpr held, Option.map_some]
        rw [narrow]
        exact .inl (Setting.for?_self w.field v)
      · rw [Sketch.get_set_of_ne same] at held
        refine .inr ⟨Option.bind_eq_none_iff.mpr fun s hs => ?_, held⟩
        exact Setting.for?_of_ne (field_of_narrow? hs ▸ same)

theorem layer_narrowed_eq_ok {s : Sources} {switch : String} {found : Logged (List Setting.Wide)}
    {ss : List Setting} :
    (layer s switch (narrowed found)).outcome = .ok ss ↔
      ∃ ws, (layer s switch found).outcome = .ok ws ∧ ws.filterMap Setting.Wide.narrow? = ss := by
  cases h : s.lookupFlag switch true with
  | true => simp [outcome_layer_on h, narrowed, Logged.outcome_bind_eq_ok]
  | false => simp [outcome_layer_off h, eq_comm]

/-- What sources say is made of two layers and the overrides. -/
theorem said_eq_ok {s : Sources} {ss : List Setting.Wide} :
    (said s).outcome = .ok ss ↔
      ∃ account kubeconfig,
        (layer s tryServiceAccountProperty (ServiceAccount.probe s {})).outcome = .ok account ∧
        (layer s tryKubeconfigProperty (Kubeconfig.probe s)).outcome = .ok kubeconfig ∧
        ss = account.map Setting.wide ++ kubeconfig ++
          (Override.settings s Override.table).map Setting.wide := by
  simp only [said, Logged.outcome_bind_eq_ok, Logged.outcome_pure, Except.ok.injEq]
  constructor
  · rintro ⟨account, ha, kubeconfig, hk, rfl⟩
    exact ⟨account, kubeconfig, ha, hk, rfl⟩
  · rintro ⟨account, kubeconfig, ha, hk, rfl⟩
    exact ⟨account, ha, kubeconfig, hk, rfl⟩

/-- A sketch that the sources give is made of two layers and the overrides. -/
theorem Sketch.ofSources_eq_ok {s : Sources} {k : Sketch} :
    (ofSources s).outcome = .ok k ↔
      ∃ account kubeconfig,
        (layer s tryServiceAccountProperty (ServiceAccount.probe s {})).outcome = .ok account ∧
        (layer s tryKubeconfigProperty (Kubeconfig.probe s)).outcome = .ok kubeconfig ∧
        k = ((ofDraft (({} : Draft).update account)).update kubeconfig).update
          ((Override.settings s Override.table).map Setting.wide) := by
  have layers (account : List Setting) (kubeconfig overrides : List Setting.Wide) :
      (ofDraft {}).update (account.map Setting.wide ++ kubeconfig ++ overrides) =
        ((ofDraft (({} : Draft).update account)).update kubeconfig).update overrides := by
    rw [update_append, update_append, update_map_wide]
  simp only [ofSources, Logged.outcome_bind_eq_ok, Logged.outcome_pure, Except.ok.injEq, said_eq_ok]
  constructor
  · rintro ⟨ws, ⟨account, kubeconfig, ha, hk, rfl⟩, rfl⟩
    exact ⟨account, kubeconfig, ha, hk, layers _ _ _⟩
  · rintro ⟨account, kubeconfig, ha, hk, rfl⟩
    exact ⟨_, ⟨account, kubeconfig, ha, hk, rfl⟩, layers _ _ _⟩

namespace Draft

/-- The sources give a draft when no text in their sketch is broken. -/
theorem ofSources_eq_ok {s : Sources} {d : Draft} :
    (ofSources s).outcome = .ok d ↔ (Sketch.ofSources s).outcome = .ok (.ofDraft d) := by
  simp [ofSources, Logged.outcome_bind_eq_ok, Sketch.toDraft_eq_ok]

/-- Where no text in a kubeconfig is broken, the draft is made of two layers and the overrides. -/
theorem ofSources_of_texts {s : Sources} {account kubeconfig : List Setting}
    (ha : (layer s tryServiceAccountProperty (ServiceAccount.probe s {})).outcome = .ok account)
    (hk : (layer s tryKubeconfigProperty (Kubeconfig.probe s)).outcome = .ok (kubeconfig.map Setting.wide)) :
    (ofSources s).outcome = .ok (((({} : Draft).update account).update kubeconfig).update
      (Override.settings s Override.table)) := by
  refine ofSources_eq_ok.mpr (Sketch.ofSources_eq_ok.mpr ⟨account, _, ha, hk, ?_⟩)
  rw [Sketch.update_map_wide, Sketch.update_map_wide]

/-- What the sources say of a field: the override, else the kubeconfig, else the service account. -/
def found? (s : Sources) (f : Field) : Option f.Value :=
  (overridden? s f).or <|
    (saidBy? s tryKubeconfigProperty (narrowed (Kubeconfig.probe s)) f).or <|
      saidBy? s tryServiceAccountProperty (ServiceAccount.probe s {}) f

theorem get_of_ofSources {s : Sources} {d : Draft} (h : (ofSources s).outcome = .ok d) (f : Field) :
    d.get f = (found? s f).getD (({} : Draft).get f) := by
  obtain ⟨account, kubeconfig, ha, hk, same⟩ := Sketch.ofSources_eq_ok.mp (ofSources_eq_ok.mp h)
  have held := (congrArg (·.get f) same).symm
  rw [found?, ← Override.last?_settings_table, ← last?_of_layer ha,
    ← last?_of_layer (layer_narrowed_eq_ok.mpr ⟨_, hk, rfl⟩)]
  obtain said | ⟨silent, held⟩ := last?_narrowed held
  · rw [filterMap_map_wide] at said
    rw [said, Option.some_or, Option.getD_some]
  · rw [filterMap_map_wide] at silent
    rw [silent, Option.none_or]
    obtain said | ⟨silent, held⟩ := last?_narrowed held
    · rw [said, Option.some_or, Option.getD_some]
    · rw [silent, Option.none_or, ← get_update]
      exact (Kind.wide_injective held).symm

/-- Each field of a draft comes from the last call that governs it, else from the override, else from
the kubeconfig, else from the service account, else from the defaults. A choice changes no other field
than those it governs. -/
theorem get_after_of_ofSources {s : Sources} {d : Draft} (h : (ofSources s).outcome = .ok d)
    (calls : List Call) (f : Field) :
    (d.after calls).get f =
        ((Call.lastSaid? calls f).or <|
          (overridden? s f).or <|
          (saidBy? s tryKubeconfigProperty (narrowed (Kubeconfig.probe s)) f).or <|
          saidBy? s tryServiceAccountProperty (ServiceAccount.probe s {}) f).getD
          (({} : Draft).get f) ∧
      ∀ c : Choice, c.says? f = none → ((d.after calls).choose c).get f = (d.after calls).get f := by
  constructor
  · rw [get_after, get_of_ofSources h, ← Option.getD_or, found?]
  · intro c hc
    rw [get_choose, hc, Option.getD_none]

/-! ### A draft from all layers -/

/-- Sources with a service account, a kubeconfig that names a cluster and no user, and overrides. -/
def sampleSources : Sources where
  properties :=
    [("kubeconfig", "/c"), ("kubernetes.api.version", "v2"), ("kubernetes.auth.basic.username", "")]
  environ := []
  filesystem := .inMemory
    [("/c", Bytes.ofText <|
        "current_context: c\ncontexts:\n- name: c\n  context:\n    cluster: k\nclusters:\n" ++
        "- name: k\n  cluster:\n    insecure_skip_tls_verify: y\n"),
      (({} : ServiceAccount.Mount).tokenPath, Bytes.ofText "t"),
      (({} : ServiceAccount.Mount).caCertPath, [])] []
  home := .ofText "/root"

/-- The kubeconfig clears the master and the certificate and leaves the token. -/
def sampleDraft : Draft :=
  { masterUrl := none, apiVersion := "v2", trustCerts := true, username := some "",
    oauthToken := some "t" }

theorem account_sampleSources :
    (layer sampleSources tryServiceAccountProperty (ServiceAccount.probe sampleSources {})).outcome =
      .ok [⟨.caCertFile, some (({} : ServiceAccount.Mount).caCertPath)⟩, ⟨.oauthToken, some "t"⟩] := by
  decide +kernel

theorem kubeconfig_sampleSources :
    (layer sampleSources tryKubeconfigProperty (Kubeconfig.probe sampleSources)).outcome =
      .ok (List.map Setting.wide
        [⟨.masterUrl, none⟩, ⟨.trustCerts, true⟩, ⟨.caCertFile, none⟩, ⟨.caCertData, none⟩]) := by
  decide +kernel

theorem ofSources_sampleSources : (ofSources sampleSources).outcome = .ok sampleDraft := by
  have overrides : Override.settings sampleSources Override.table =
      [⟨.apiVersion, "v2"⟩, ⟨.username, some ""⟩] := by decide
  rw [ofSources_of_texts account_sampleSources kubeconfig_sampleSources, overrides]
  rfl

/-- The last call decides one field, a property another, and the kubeconfig clears a third. -/
theorem get_after_sampleDraft :
    let calls := [.choose (.basicAuth (some "a") none), .build, .choose (.basicAuth (some "b") none)]
    (sampleDraft.after calls).get .username = some "b" ∧
      (sampleDraft.after calls).get .apiVersion = "v2" ∧
      (sampleDraft.after calls).get .caCertFile = none := by
  have h := get_after_of_ofSources ofSources_sampleSources
    [.choose (.basicAuth (some "a") none), .build, .choose (.basicAuth (some "b") none)]
  refine ⟨?_, ?_, ?_⟩
  · exact (h .username).1.trans (by decide)
  · exact (h .apiVersion).1.trans (by decide)
  · refine (h .caCertFile).1.trans ?_
    rw [← last?_of_layer (layer_narrowed_eq_ok.mpr ⟨_, kubeconfig_sampleSources, rfl⟩), filterMap_map_wide]
    decide

end Draft

end ClusterAccess.Config
