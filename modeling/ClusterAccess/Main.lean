import ClusterAccess.Cli.Lookout
import ClusterAccess.Filesystem.Snapshot

/-!
# The program

The program reads its command line and its environment, looks at the files that a description depends
on, and prints the report. All decisions are made elsewhere.
-/

namespace ClusterAccess.Cli

def usage : String :=
  "Usage: clusteraccess [-v | --verbose] describe [--master URL] [--insecure] [--json]"

/-- The number that the system gave to an error, which may come with a sign. -/
def systemCode (code : UInt32) : Nat :=
  if code.toNat < 0x80000000 then code.toNat else 0x100000000 - code.toNat

/-- What the system said instead of giving the contents of a file. -/
def entryOfError (e : IO.Error) : Except IoCause Entry :=
  let code := match e with
    | .noFileOrDirectory _ code _ => systemCode code
    | .permissionDenied _ code _ => systemCode code
    | .inappropriateType _ code _ => systemCode code
    | .invalidArgument _ code _ => systemCode code
    | _ => 0
  match IoCause.ofCode? code with
  | some .isDirectory => .ok .directory
  | some .permissionDenied => .ok .lockedFile
  | some cause => .error cause
  | none => .error .notFound

/-- Looks at a path. -/
def look (text : String) : IO (String × Except IoCause Entry) := do
  let path := Snapshot.key text
  match ← (IO.FS.readBinFile path).toBaseIO with
  | .ok contents => pure (path, .ok (.file contents.toList))
  | .error e => pure (path, entryOfError e)

/-- The variables that matter and are there. -/
def environment : IO (List (String × String)) :=
  environNames.filterMapM fun name => do
    let value ← IO.getEnv name
    pure (value.map (name, ·))

/-- The site as far as a snapshot tells. Nothing is known of its user. -/
def site (environ : List (String × String)) (seen : Snapshot) : Site :=
  { environ, userHome := none, filesystem := seen.filesystem }

/-- Looks at the files that matter as far as a snapshot tells. -/
def lookAround (environ : List (String × String)) (seen : Snapshot) : IO Snapshot :=
  match Sources.ofSite [] (site environ seen) with
  | .ok sources => (paths sources).mapM look
  | .error _ => pure seen

/-- Prints a report, and gives the exit code. -/
def printReport (r : Report) : IO UInt32 := do
  for event in r.events do
    IO.eprintln (event.toJson "level").compact
  for line in r.errors do
    IO.eprintln line
  IO.print r.output
  match r.ending with
  | .exit code => pure code.toUInt32
  | .failure e => do
    IO.eprintln e.message
    pure 1

/-- Does what a command line asks for. -/
def respond (args : List String) : IO UInt32 :=
  match Request.ofArgs args with
  | .error misuse => do
    IO.eprintln misuse.message
    IO.eprintln usage
    pure misuseCode.toUInt32
  | .ok .help => do
    IO.println usage
    pure helpCode.toUInt32
  | .ok (.describe verbose options) => do
    let environ ← environment
    let seen ← lookAround environ []
    let seen ← lookAround environ seen
    printReport (run .standard verbose options (site environ seen))

end ClusterAccess.Cli

def main (args : List String) : IO UInt32 := ClusterAccess.Cli.respond args
