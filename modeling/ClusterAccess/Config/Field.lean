import ClusterAccess.Text.Blank
import ClusterAccess.Text.Case
import ClusterAccess.Text.Content

/-!
# Fields of a configuration

A configuration has seventeen fields. The `Kind` of a field says what its values are and how a value is
read from a text: truth values are true for the word `true` alone, lists of names are separated by
commas, and texts stand for themselves. A `Setting` gives one field a value. What is found in a document
may be a broken text: a `Setting.Wide` gives it all the same, and is narrowed to a setting if it is none.
-/

namespace ClusterAccess.Config

/-- What the values of a field are. -/
inductive Kind where
  | flag
  | names
  | text
  | optionalText
  deriving DecidableEq, Repr

abbrev Kind.Value : Kind → Type
  | flag => Bool
  | names => List String
  | text => String
  | optionalText => Option String

instance (k : Kind) : DecidableEq k.Value := by
  cases k <;> exact inferInstance

/-- Only the word `true` is true, in any case and with blanks around it. -/
def readFlag (raw : String) : Bool :=
  Text.lower (Text.strip raw.toList) = "true".toList

/-- The items of a list separated by commas, without the blanks around them. Blank items do not count. -/
def readNames (raw : String) : List String :=
  (((Text.pieces ',' raw.toList).map Text.strip).filter (!List.isEmpty ·)).map String.ofList

/-- The value that a text stands for. -/
def Kind.read : (k : Kind) → String → k.Value
  | flag, raw => readFlag raw
  | names, raw => readNames raw
  | text, raw => raw
  | optionalText, raw => some raw

inductive Field where
  | masterUrl
  | extendedApiUrl
  | apiVersion
  | extendedApiVersion
  | trustCerts
  | enabledProtocols
  | caCertFile
  | caCertData
  | clientCertFile
  | clientCertData
  | clientKeyFile
  | clientKeyData
  | clientKeyAlgo
  | clientKeyPassphrase
  | username
  | password
  | oauthToken
  deriving DecidableEq, Repr

namespace Field

def all : List Field :=
  [masterUrl, extendedApiUrl, apiVersion, extendedApiVersion, trustCerts, enabledProtocols, caCertFile,
    caCertData, clientCertFile, clientCertData, clientKeyFile, clientKeyData, clientKeyAlgo,
    clientKeyPassphrase, username, password, oauthToken]

/-- The name of a field in reports. -/
def name : Field → String
  | masterUrl => "master_url"
  | extendedApiUrl => "extended_api_url"
  | apiVersion => "api_version"
  | extendedApiVersion => "extended_api_version"
  | trustCerts => "trust_certs"
  | enabledProtocols => "enabled_protocols"
  | caCertFile => "ca_cert_file"
  | caCertData => "ca_cert_data"
  | clientCertFile => "client_cert_file"
  | clientCertData => "client_cert_data"
  | clientKeyFile => "client_key_file"
  | clientKeyData => "client_key_data"
  | clientKeyAlgo => "client_key_algo"
  | clientKeyPassphrase => "client_key_passphrase"
  | username => "username"
  | password => "password"
  | oauthToken => "oauth_token"

abbrev kind : Field → Kind
  | apiVersion => .text
  | extendedApiVersion => .text
  | clientKeyAlgo => .text
  | clientKeyPassphrase => .text
  | trustCerts => .flag
  | enabledProtocols => .names
  | _ => .optionalText

abbrev Value (f : Field) : Type := f.kind.Value

end Field

/-- A field and the value it is given. -/
structure Setting where
  field : Field
  value : field.Value
  deriving DecidableEq

namespace Setting

/-- The value that a setting gives to a field, if it is that field's. -/
def for? (s : Setting) (f : Field) : Option f.Value :=
  if h : s.field = f then some (h ▸ s.value) else none

theorem for?_self (f : Field) (v : f.Value) : (Setting.mk f v).for? f = some v := by simp [for?]

theorem for?_of_ne {s : Setting} {f : Field} (h : s.field ≠ f) : s.for? f = none := by simp [for?, h]

/-- What the last setting of a field says. -/
def last? (ss : List Setting) (f : Field) : Option f.Value :=
  ss.foldl (fun found s => (s.for? f).or found) none

theorem foldl_for? (ss : List Setting) (f : Field) (found : Option f.Value) :
    ss.foldl (fun found s => (s.for? f).or found) found = (last? ss f).or found := by
  induction ss generalizing found with
  | nil => rfl
  | cons s ss ih =>
    simp only [last?, List.foldl_cons, Option.or_none]
    rw [ih, ih (s.for? f), Option.or_assoc]

@[simp] theorem last?_nil (f : Field) : last? [] f = none := rfl

theorem last?_cons (s : Setting) (ss : List Setting) (f : Field) :
    last? (s :: ss) f = (last? ss f).or (s.for? f) := by
  rw [last?, List.foldl_cons, Option.or_none, foldl_for?]

@[simp] theorem last?_singleton (s : Setting) (f : Field) : last? [s] f = s.for? f := by
  rw [last?_cons, last?_nil, Option.none_or]

/-- What the first attempt at a setting says counts only when the others say nothing. -/
theorem last?_filterMap_cons {α : Type} (g : α → Option Setting) (a : α) (as : List α) (f : Field) :
    last? ((a :: as).filterMap g) f = (last? (as.filterMap g) f).or ((g a).bind (·.for? f)) := by
  cases h : g a with
  | none => rw [List.filterMap_cons_none h, Option.bind_none, Option.or_none]
  | some s =>
    rw [List.filterMap_cons_some h, last?_cons]
    rfl

/-- A list that never names a field says nothing of it. -/
theorem last?_eq_none {ss : List Setting} {f : Field} (h : ∀ s ∈ ss, s.field ≠ f) :
    last? ss f = none := by
  induction ss with
  | nil => rfl
  | cons s ss ih =>
    rw [last?_cons, ih fun t ht => h t (List.mem_cons_of_mem s ht),
      for?_of_ne (h s List.mem_cons_self), Option.none_or]

/-- Of settings of different fields, the one of a field says what is said of it. -/
theorem last?_of_mem {ss : List Setting} (distinct : (ss.map field).Nodup) {s : Setting} (h : s ∈ ss) :
    last? ss s.field = some s.value := by
  induction ss with
  | nil => cases h
  | cons t ss ih =>
    rw [List.map_cons, List.nodup_cons] at distinct
    rw [last?_cons]
    rcases List.mem_cons.mp h with rfl | h
    · have others : last? ss s.field = none :=
        last?_eq_none fun u hu same => distinct.1 (List.mem_map.mpr ⟨u, hu, same⟩)
      rw [others, Option.none_or]
      exact for?_self s.field s.value
    · rw [ih distinct.2 h, Option.some_or]

end Setting

/-! ## Values that may be broken -/

abbrev Kind.Wide : Kind → Type
  | flag => Bool
  | names => List String
  | text => String
  | optionalText => Option Text.Content

instance (k : Kind) : DecidableEq k.Wide := by
  cases k <;> exact inferInstance

def Kind.wide : (k : Kind) → k.Value → k.Wide
  | flag, b => b
  | names, ns => ns
  | text, s => s
  | optionalText, s => s.map .text

/-- The value, unless it is broken. -/
def Kind.narrow? : (k : Kind) → k.Wide → Option k.Value
  | flag, b => some b
  | names, ns => some ns
  | text, s => some s
  | optionalText, none => some none
  | optionalText, some c => c.text?.map some

theorem Kind.narrow?_eq_some {k : Kind} {w : k.Wide} {v : k.Value} :
    k.narrow? w = some v ↔ w = k.wide v := by
  cases k with
  | flag | names | text => exact Option.some_inj
  | optionalText =>
    cases w with
    | none => cases v <;> simp [narrow?, wide]
    | some c => cases c <;> cases v <;> simp [narrow?, wide, Text.Content.text?]

theorem Kind.wide_injective {k : Kind} {u v : k.Value} (h : k.wide u = k.wide v) : u = v :=
  Option.some.inj ((narrow?_eq_some.mpr h).symm.trans (narrow?_eq_some.mpr rfl)).symm

/-- A field and the value that was found for it. -/
structure Setting.Wide where
  field : Field
  value : field.kind.Wide
  deriving DecidableEq

namespace Setting

def wide (s : Setting) : Wide := ⟨s.field, s.field.kind.wide s.value⟩

def Wide.narrow? (s : Wide) : Option Setting := (s.field.kind.narrow? s.value).map (⟨s.field, ·⟩)

/-- A setting that is not broken is narrowed to that from which it comes. -/
theorem Wide.narrow?_eq_some {w : Wide} {s : Setting} : w.narrow? = some s ↔ w = s.wide := by
  obtain ⟨f, v⟩ := w
  simp only [narrow?, Option.map_eq_some_iff, Kind.narrow?_eq_some]
  constructor
  · rintro ⟨u, rfl, rfl⟩
    rfl
  · rintro h
    cases h
    exact ⟨s.value, rfl, rfl⟩

end Setting

end ClusterAccess.Config
