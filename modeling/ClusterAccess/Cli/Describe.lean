import ClusterAccess.Cli.Arguments
import ClusterAccess.Client
import ClusterAccess.Config.Document
import ClusterAccess.Json.Writer
import ClusterAccess.Sources.Site

/-!
# Describing an access

`describe` makes the client that the sources and the options give, closes it again and keeps a summary
of its configuration. A `Report` is what the program leaves behind: how it ends, what it prints and
which events it shows. An access error is told to the user; any other failure ends the program.
-/

namespace ClusterAccess.Cli

/-- The choices that the options make. An empty master is no choice. -/
def DescribeOptions.choices (o : DescribeOptions) : List Config.Choice :=
  let master := match o.master with
    | some m => if m = "" then [] else [.setting ⟨.masterUrl, some m⟩]
    | none => []
  master ++ if o.insecure then [.setting ⟨.trustCerts, true⟩] else []

/-- The summary of the access that sources and options give. -/
def describe (via : Pki.Provider) (o : DescribeOptions) (s : Sources) : Logged Summary := do
  let sketch ← Config.Sketch.ofSources s
  let draft ← Logged.ofExcept (o.choices.foldl Config.Sketch.choose sketch).toDraft
  let client ← Client.ofDraft via draft s.filesystem
  Logged.tellAll client.close.1
  pure client.config.summary

/-- The exit codes for a command line that cannot be understood, and for one that asks for help. -/
def misuseCode : Nat := 2

def helpCode : Nat := 0

/-- How a run of the program ends: with an exit code, or with a failure that nothing handles. -/
inductive Ending where
  | exit (code : Nat)
  | failure (e : Failure)
  deriving DecidableEq, Repr

structure Report where
  ending : Ending
  output : String
  errors : List String
  events : List Event
  deriving DecidableEq, Repr

/-- Each line with a line feed behind it. -/
def unlines (lines : List String) : String := String.join (lines.map (· ++ "\n"))

/-- The printed form of a summary. -/
def DescribeOptions.print (o : DescribeOptions) (s : Summary) : String :=
  unlines (if o.json then [s.toJson.pretty] else s.lines)

/-- The least level of the events that are shown. -/
def leastLevel (verbose : Bool) : Level := if verbose then .debug else .warning

/-- The report on a description. -/
def report (verbose : Bool) (o : DescribeOptions) (r : Logged Summary) : Report :=
  let events := r.events.filter fun e => leastLevel verbose ≤ e.level
  match r.outcome with
  | .ok s => ⟨.exit 0, o.print s, [], events⟩
  | .error (.access e) => ⟨.exit 1, "", ["error: " ++ e.message], events⟩
  | .error e => ⟨.failure e, "", [], events⟩

/-- The report of a run at a site. -/
def run (via : Pki.Provider) (verbose : Bool) (o : DescribeOptions) (p : Site) : Report :=
  report verbose o (Logged.ofExcept (Sources.ofSite [] p) >>= describe via o)

end ClusterAccess.Cli
