import ClusterAccess.Text.Numeral

/-!
# What can be wrong with a document

A `Fault` is either a defect in the form of a document (`Malformed`), which every reader of the
format reports as such, or something of the right form that cannot be built (`Unbuildable`): a thirteenth
month, a numeral without digits, or nodes that lie deeper in one another than the `Limits` of the reader.
-/

namespace ClusterAccess.Yaml

/-- Defects of form, in the order in which reading meets them: characters, tokens, structure, values. -/
inductive Malformed where
  | unprintableCharacter
  | badDirective
  | badAnchor
  | badTag
  | badEscape
  | badBlockHeader
  | unclosedQuote
  | documentMarkInQuote
  | unfinishedSimpleKey
  | misplacedEntry
  | misplacedKey
  | misplacedValue
  | strayCharacter
  | noDocumentStart
  | duplicateDirective
  | incompatibleVersion
  | duplicateHandle
  | undefinedHandle
  | noNodeContent
  | noBlockEnd
  | noFlowSeparator
  | undefinedAlias
  | duplicateAnchor
  | secondDocument
  | unknownTag
  | wrongKind
  | unhashableKey
  | badMergeSource
  | badBinary
  | badPair
  deriving DecidableEq, Repr

/-- Why fields that look like a date or a time of day name none. -/
inductive MomentFault where
  | year (year : Nat)
  | month
  | day
  | hour
  | minute
  | second
  | offset (days : Int) (seconds : Nat)
  deriving DecidableEq, Repr

/-- A duration as the message about it shows it: days, then seconds, each only if there are any. -/
def showDuration (days : Int) (seconds : Nat) : String :=
  let parts :=
    (if days = 0 then [] else ["days=" ++ toString days]) ++
      (if seconds = 0 then [] else ["seconds=" ++ toString seconds])
  "datetime.timedelta(" ++ (if parts.isEmpty then "0" else ", ".intercalate parts) ++ ")"

def MomentFault.message : MomentFault → String
  | year y => "year " ++ toString y ++ " is out of range"
  | month => "month must be in 1..12"
  | day => "day is out of range for month"
  | hour => "hour must be in 0..23"
  | minute => "minute must be in 0..59"
  | second => "second must be in 0..59"
  | offset days seconds =>
    "offset must be a timedelta strictly between -timedelta(hours=24) and timedelta(hours=24), not "
      ++ showDuration days seconds ++ "."

/-- Scalars that have the form of a value and stand for none, and nodes that lie too deep. -/
inductive Unbuildable where
  | codePoint (code : Nat)
  | integer (fault : Text.IntegerFault)
  | brokenInteger (base : Nat) (shown : String)
  | real (shown : String)
  | moment (fault : MomentFault)
  | emptyNumber
  | notBoolean
  | notTimestamp
  | timestampOfMapping
  | tooDeep
  deriving DecidableEq, Repr

def Unbuildable.message : Unbuildable → String
  | codePoint code =>
    if code < 0x80000000 then "chr() arg not in range(0x110000)"
    else "Python int too large to convert to C int"
  | integer fault => fault.message
  | brokenInteger base shown => "invalid literal for int() with base " ++ toString base ++ ": " ++ shown
  | real shown => "could not convert string to float: " ++ shown
  | moment fault => fault.message
  | emptyNumber => "string index out of range"
  | notBoolean => "unknown boolean"
  | notTimestamp => "'NoneType' object has no attribute 'groupdict'"
  | timestampOfMapping => "expected string or bytes-like object, got 'list'"
  | tooDeep => "maximum recursion depth exceeded"

inductive Fault where
  | malformed (what : Malformed)
  | unbuildable (what : Unbuildable)
  deriving DecidableEq, Repr

/-- How deep a reader goes before it gives up. How deep it can go depends on the room on its stack. -/
structure Limits where
  /-- How many collections may lie in one another. -/
  nesting : Nat := 480
  /-- How many mappings may lead to one another by what they merge, or by the values that they stand for. -/
  chaining : Nat := 900
  deriving DecidableEq, Repr

/-- What an attempt to read part of a document gives. -/
abbrev Result (α : Type) := Except Fault α

/-- Reading stops at a defect of form. -/
def refuse {α : Type} (what : Malformed) : Result α := .error (.malformed what)

end ClusterAccess.Yaml
