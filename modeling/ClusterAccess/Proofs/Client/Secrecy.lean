import ClusterAccess.Config.Summary
import ClusterAccess.Proofs.Client.Opening

/-!
# Secrets stay unseen

Two configurations are `AlikeButSecrets` when they differ in the text of secrets only: not in whether a
secret is there, is empty, or is the passphrase of keys for which none is given. A configuration can then
be `veiled` without a trace: its summary and all that opening and closing its client tells are those of
the veiled configuration, and configurations that are alike are equal when they are veiled.
-/

namespace ClusterAccess

variable {via : Pki.Provider}

namespace Config

/-! ## What may be known of a secret -/

def Field.isSecret : Field → Bool
  | .password => true
  | .oauthToken => true
  | .clientKeyPassphrase => true
  | .clientKeyData => true
  | .caCertData => true
  | .clientCertData => true
  | _ => false

/-- Whether a value is there, and whether it says anything. -/
inductive Shape where
  | absent
  | empty
  | given
  deriving DecidableEq, Repr

def Shape.ofText (t : String) : Shape := if t = "" then empty else given

def Kind.shape : (k : Kind) → k.Value → Shape
  | .flag, _ => .given
  | .names, _ => .given
  | .text, t => .ofText t
  | .optionalText, none => .absent
  | .optionalText, some t => .ofText t

/-- The configurations differ at most in what their secrets say. -/
structure AlikeButSecrets (a b : Config) : Prop where
  openFields : ∀ f : Field, f.isSecret = false → a.toDraft.get f = b.toDraft.get f
  shapes : ∀ f : Field, f.isSecret = true →
    f.kind.shape (a.toDraft.get f) = f.kind.shape (b.toDraft.get f)
  standardPassphrase : a.clientKeyPassphrase = defaultPassphrase ↔
    b.clientKeyPassphrase = defaultPassphrase

/-! ## Veils -/

/-- A text that is not empty, made unknown. -/
def veilText (t : String) : String := if t = "" then "" else mask

/-- A passphrase made unknown, unless it is the one that everybody knows. -/
def veilPassphrase (t : String) : String := if t = defaultPassphrase then t else veilText t

def veiled (c : Config) : Config :=
  { c with
    password := c.password.map veilText
    oauthToken := c.oauthToken.map veilText
    clientKeyPassphrase := veilPassphrase c.clientKeyPassphrase
    clientKeyData := c.clientKeyData.map veilText
    caCertData := c.caCertData.map veilText
    clientCertData := c.clientCertData.map veilText }

theorem veilText_eq_empty {t : String} : veilText t = "" ↔ t = "" := by
  unfold veilText
  split
  · next h => simp [h]
  · next h => simp [h, mask]

theorem veilPassphrase_eq_default {t : String} :
    veilPassphrase t = defaultPassphrase ↔ t = defaultPassphrase := by
  unfold veilPassphrase
  split
  · next h => simp [h]
  · next h =>
    simp only [h, iff_false]
    unfold veilText
    split <;> decide

@[simp] theorem isGiven_map_veilText (s : Option String) : isGiven (s.map veilText) = isGiven s := by
  cases s with
  | none => rfl
  | some t =>
    rw [Bool.eq_iff_iff]
    simp [isGiven, veilText_eq_empty]

theorem veilText_congr {t u : String} (h : Shape.ofText t = Shape.ofText u) :
    veilText t = veilText u := by
  unfold Shape.ofText at h
  unfold veilText
  by_cases ht : t = "" <;> by_cases hu : u = "" <;> simp_all

theorem map_veilText_congr {s t : Option String}
    (h : Kind.optionalText.shape s = Kind.optionalText.shape t) : s.map veilText = t.map veilText := by
  cases s with
  | none =>
    cases t with
    | none => rfl
    | some u => by_cases hu : u = "" <;> simp [Kind.shape, Shape.ofText, hu] at h
  | some v =>
    cases t with
    | none => by_cases hv : v = "" <;> simp [Kind.shape, Shape.ofText, hv] at h
    | some u => rw [Option.map_some, Option.map_some, veilText_congr h]

theorem AlikeButSecrets.veilPassphrase_eq {a b : Config} (h : AlikeButSecrets a b) :
    veilPassphrase a.clientKeyPassphrase = veilPassphrase b.clientKeyPassphrase := by
  by_cases ha : a.clientKeyPassphrase = defaultPassphrase
  · rw [ha, h.standardPassphrase.mp ha]
  · have hb : b.clientKeyPassphrase ≠ defaultPassphrase := fun hb => ha (h.standardPassphrase.mpr hb)
    rw [veilPassphrase, if_neg ha, veilPassphrase, if_neg hb]
    exact veilText_congr (h.shapes .clientKeyPassphrase rfl)

/-- Configurations that are alike cannot be told apart behind a veil. -/
theorem AlikeButSecrets.veiled_eq {a b : Config} (h : AlikeButSecrets a b) : a.veiled = b.veiled := by
  refine ext_get fun f => ?_
  cases hs : f.isSecret with
  | false =>
    have := h.openFields f hs
    cases f <;> first | exact this | cases hs
  | true =>
    have := h.shapes f hs
    cases f with
    | clientKeyPassphrase => exact h.veilPassphrase_eq
    | _ => first | exact map_veilText_congr this | cases hs

/-! ## What is seen through a veil -/

section

variable (c : Config)

@[simp] theorem hasCaMaterial_veiled : c.veiled.hasCaMaterial = c.hasCaMaterial := by
  simp [Options.hasCaMaterial, veiled]

@[simp] theorem hasClientIdentity_veiled : c.veiled.hasClientIdentity = c.hasClientIdentity := by
  simp [Options.hasClientIdentity, Options.hasClientCert, Options.hasClientKey, veiled]

@[simp] theorem needsCustomContext_veiled : c.veiled.needsCustomContext = c.needsCustomContext := by
  rw [Options.needsCustomContext, hasCaMaterial_veiled, hasClientIdentity_veiled]
  rfl

@[simp] theorem isSome_oauthToken_veiled : c.veiled.oauthToken.isSome = c.oauthToken.isSome :=
  Option.isSome_map

@[simp] theorem authScheme_veiled : c.veiled.authScheme = c.authScheme := by
  have basic : c.veiled.hasBasicAuth = c.hasBasicAuth := by simp [Options.hasBasicAuth, veiled]
  rw [authScheme, basic, isSome_oauthToken_veiled]
  rfl

theorem redacted_veiled : c.veiled.redacted = c.redacted := by
  simp [redacted, veiled, Function.comp_def]

/-- A summary shows no secret. -/
theorem summary_veiled : c.veiled.summary = c.summary := by
  have mode : c.veiled.tlsMode = c.tlsMode := by
    rw [tlsMode, needsCustomContext_veiled]
    rfl
  rw [summary, authScheme_veiled, mode, hasClientIdentity_veiled, redacted_veiled]
  rfl

/-- Making a context tells no secret. -/
theorem told_veiled : Tls.Context.told c.veiled = Tls.Context.told c := by
  have passphrase : c.veiled.clientKeyPassphrase = defaultPassphrase ↔
    c.clientKeyPassphrase = defaultPassphrase := veilPassphrase_eq_default
  simp only [Tls.Context.told, hasClientIdentity_veiled, passphrase]
  rfl

end

end Config

namespace Client

/-- Opening a client tells no secret. -/
theorem told_veiled (c : Config) : told c.veiled = told c := by
  rw [told, Config.told_veiled, Config.toldOfAuth, Config.authScheme_veiled,
    Config.isSome_oauthToken_veiled, Config.needsCustomContext_veiled, Config.hasClientIdentity_veiled]
  rfl

/-- What a client tells that is opened and closed. -/
theorem events_of_ofConfig {c : Config} {fs : Filesystem} {client : Client}
    (h : (ofConfig via c fs).outcome = .ok client) :
    (ofConfig via c fs).events ++ client.close.1 = told c ++ [.clientClosed c.masterUrl] := by
  obtain ⟨he, -, context, -, rfl⟩ := ofConfig_eq_ok h
  rw [he]
  rfl

/-- Configurations that differ in their secrets only have one summary, and their clients tell the same from
being opened to being closed. -/
theorem secrets_unseen {a b : Config} (h : Config.AlikeButSecrets a b) :
    a.summary = b.summary ∧
      ∀ (fs : Filesystem) (x y : Client), (ofConfig via a fs).outcome = .ok x →
        (ofConfig via b fs).outcome = .ok y →
        (ofConfig via a fs).events ++ x.close.1 = (ofConfig via b fs).events ++ y.close.1 := by
  have veiled := h.veiled_eq
  constructor
  · rw [← Config.summary_veiled a, veiled, Config.summary_veiled]
  · intro fs x y hx hy
    have master : a.masterUrl = b.masterUrl := Option.some.inj (h.openFields .masterUrl rfl)
    rw [events_of_ofConfig hx, events_of_ofConfig hy, ← told_veiled a, veiled, told_veiled, master]

/-- A user of a cluster that is taken on trust, with four secrets of their own. -/
def sampleUser (password token passphrase key : String) : Config where
  masterUrl := "http://a/"
  extendedApiUrl := "http://a/"
  trustCerts := true
  username := some "u"
  password := some password
  oauthToken := some token
  clientKeyPassphrase := passphrase
  clientKeyData := some key

def sampleOpened (password token passphrase key : String) : Client where
  config := sampleUser password token passphrase key
  session :=
    { context := some ⟨⟨.tls12, some .tls12⟩, none, none, .off, false⟩
      auth := some (.basic "u" password) }

theorem secrets_unseen_sampleUser :
    ∃ x y, (ofConfig .standard (sampleUser "p" "q" "r" "s") (.inMemory [] [])).outcome = .ok x ∧
      (ofConfig .standard (sampleUser "k" "l" "m" "n") (.inMemory [] [])).outcome = .ok y ∧
      (ofConfig .standard (sampleUser "p" "q" "r" "s") (.inMemory [] [])).events ++ x.close.1 =
        (ofConfig .standard (sampleUser "k" "l" "m" "n") (.inMemory [] [])).events ++ y.close.1 := by
  have alike : (sampleUser "p" "q" "r" "s").AlikeButSecrets (sampleUser "k" "l" "m" "n") := by
    refine ⟨fun f hf => ?_, fun f hf => ?_, by decide⟩
    · cases f <;> first | rfl | cases hf
    · cases f <;> decide
  have hx : (ofConfig .standard (sampleUser "p" "q" "r" "s") (.inMemory [] [])).outcome =
      .ok (sampleOpened "p" "q" "r" "s") := by decide
  have hy : (ofConfig .standard (sampleUser "k" "l" "m" "n") (.inMemory [] [])).outcome =
      .ok (sampleOpened "k" "l" "m" "n") := by decide
  exact ⟨_, _, hx, hy, (secrets_unseen alike).2 _ _ _ hx hy⟩

end Client

end ClusterAccess
