import ClusterAccess.Config.Summary
import ClusterAccess.Json.Basic

/-!
# Configurations as documents

A configuration becomes a JSON object with one member for each field, and a summary an object whose
last member is the configuration. `Summary.lines` is the summary for reading, without the configuration.
-/

namespace ClusterAccess

namespace Config

/-- A value of a field. -/
def Kind.toJson : (k : Kind) → k.Value → Json
  | flag, b => .bool b
  | names, ns => .array (ns.map .text)
  | text, s => .text s
  | optionalText, s => .optionalText s

def Setting.member (s : Setting) : String × Json := (s.field.name, s.field.kind.toJson s.value)

/-- The value of one field under its name. -/
def Draft.member (d : Draft) (f : Field) : String × Json := (f.name, f.kind.toJson (d.get f))

def Draft.toJson (d : Draft) : Json := .object (Field.all.map d.member)

def toJson (c : Config) : Json := c.toDraft.toJson

end Config

namespace Summary

/-- What a summary says beside the configuration. -/
def members (s : Summary) : List (String × Json) :=
  [("master_url", .text s.masterUrl), ("extended_api_url", .text s.extendedApiUrl),
    ("auth", .text s.auth.name), ("tls", .text s.tls.name), ("client_identity", .bool s.clientIdentity)]

def toJson (s : Summary) : Json := .object (s.members ++ [("config", s.config.toJson)])

/-- A truth value for reading. -/
def flagText (b : Bool) : String := if b then "True" else "False"

/-- The names and values of a summary for reading. -/
def entries (s : Summary) : List (String × String) :=
  [("master_url", s.masterUrl), ("extended_api_url", s.extendedApiUrl), ("auth", s.auth.name),
    ("tls", s.tls.name), ("client_identity", flagText s.clientIdentity)]

def lines (s : Summary) : List String := s.entries.map fun e => e.1 ++ ": " ++ e.2

end Summary

end ClusterAccess
