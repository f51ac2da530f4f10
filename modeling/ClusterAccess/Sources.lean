import ClusterAccess.Config.Field
import ClusterAccess.Filesystem
import ClusterAccess.Path
import ClusterAccess.Yaml.Fault

/-!
# Sources

A configuration is found in a table of properties, in the environment, in files and below a home
directory. `Sources.lookup` asks for a property by its dotted name; when there is none, the environment
variable whose name is derived from it answers.
-/

namespace ClusterAccess

/-- All that finding a configuration may look at, and how deep it may read documents. -/
structure Sources where
  properties : List (String × String)
  environ : List (String × String)
  filesystem : Filesystem
  home : Path
  limits : Yaml.Limits := {}

namespace Sources

/-- The environment variable for a property: capitals, and underscores for dots. -/
def environName (property : String) : String :=
  String.ofList (Text.replaceChar '.' '_' (Text.upper property.toList))

/-- The text of a property, else of its environment variable. -/
def lookup (s : Sources) (property : String) : Option String :=
  (s.properties.lookup property).or (s.environ.lookup (environName property))

/-- A switch: on for the word `true` alone, and as `default` says when nothing is there. -/
def lookupFlag (s : Sources) (property : String) (default : Bool) : Bool :=
  match s.lookup property with
  | some raw => Config.readFlag raw
  | none => default

/-- Sources whose files are a table. -/
def withFiles (s : Sources) (files : List (String × Bytes)) (unreadable : List String) : Sources :=
  { s with filesystem := .inMemory files unreadable }

end Sources

end ClusterAccess
