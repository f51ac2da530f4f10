import ClusterAccess.Text.Content
import ClusterAccess.Yaml.Fault

/-!
# Tokens of a document

Tokens carry what the structure above them needs and no positions. The content of a scalar is a
text, or broken when a numeric escape named half of a surrogate pair. A document is lexed as far as it
goes: `Tokens` holds the tokens before the first defect, and the defect.
-/

namespace ClusterAccess.Yaml

open Text (Content)

/-- A tag as written: the handle, unless the tag is verbatim, and the rest. -/
structure TagName where
  handle : Option String
  suffix : String
  deriving DecidableEq, Repr

inductive Directive where
  | yaml (major : Int)
  | tag (handle uri : String)
  | other
  deriving DecidableEq, Repr

inductive Token where
  | directive (d : Directive)
  | documentStart
  | documentEnd
  | streamEnd
  | blockSequenceStart
  | blockMappingStart
  | blockEnd
  | flowSequenceStart
  | flowMappingStart
  | flowSequenceEnd
  | flowMappingEnd
  | blockEntry
  | flowEntry
  | key
  | value
  | reference (name : String)
  | anchor (name : String)
  | tag (name : TagName)
  | scalar (content : Content) (plain : Bool)
  deriving DecidableEq, Repr

/-- The tokens of a document up to its first defect. -/
structure Tokens where
  tokens : List Token
  fault : Option Fault

end ClusterAccess.Yaml
