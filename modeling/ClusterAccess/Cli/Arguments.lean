/-!
# Command lines

A command line has options and operands. `scan` tells them apart by the rules that an `Opt` table gives:
an option of the table stands alone or has a value, which follows as the next argument or behind an
equals sign; flags of one letter may stand together; two hyphens alone end the options. `Request.ofArgs`
reads the whole line: options, a command, and the options of the command.
-/

namespace ClusterAccess.Cli

/-- An option that may be given. -/
inductive Opt where
  /-- A long name, perhaps a letter too, and no value. -/
  | flag (name : String) (letter : Option Char)
  /-- A long name and a value. -/
  | value (name : String)
  deriving DecidableEq, Repr

/-- Why a command line cannot be understood. -/
inductive Misuse where
  | unknownOption (name : String)
  | valueMissing (name : String)
  | valueUnexpected (name : String)
  | operandUnexpected (text : String)
  | commandMissing
  | commandUnknown (name : String)
  deriving DecidableEq, Repr

def Misuse.message : Misuse → String
  | unknownOption name => "No such option: " ++ name
  | valueMissing name => "Option '" ++ name ++ "' requires an argument."
  | valueUnexpected name => "Option '" ++ name ++ "' does not take a value."
  | operandUnexpected text => "Got unexpected extra argument (" ++ text ++ ")"
  | commandMissing => "Missing command."
  | commandUnknown name => "No such command '" ++ name ++ "'."

/-- The options that were given, with their values, and the operands. -/
structure Scan where
  given : List (Opt × Option String)
  operands : List String
  deriving DecidableEq, Repr

namespace Opt

/-- The long name, two hyphens included. -/
def name : Opt → String
  | flag name _ => name
  | value name => name

def hasLetter (c : Char) : Opt → Bool
  | flag _ letter => letter = some c
  | value _ => false

end Opt

/-! ## One argument -/

/-- What an argument is. -/
inductive Word where
  | operand
  | options (given : List (Opt × Option String))
  /-- An option whose value is the next argument. -/
  | awaiting (o : Opt)
  | endOfOptions

/-- The flags that letters behind one hyphen stand for. -/
def letters (table : List Opt) : List Char → Except Misuse (List (Opt × Option String))
  | [] => .ok []
  | c :: cs =>
    match table.find? (·.hasLetter c) with
    | none => .error (.unknownOption (String.ofList ['-', c]))
    | some o => (letters table cs).map ((o, none) :: ·)

/-- The name of an option, and what stands behind the equals sign. -/
def splitValue (arg : List Char) : String × Option String :=
  match arg.dropWhile (· ≠ '=') with
  | [] => (String.ofList arg, none)
  | _ :: v => (String.ofList (arg.takeWhile (· ≠ '=')), some (String.ofList v))

def readOption (table : List Opt) (arg : List Char) : Except Misuse Word :=
  let (name, value?) := splitValue arg
  match table.find? (·.name = name), value? with
  | some (.flag name letter), none => .ok (.options [(.flag name letter, none)])
  | some (.flag name _), some _ => .error (.valueUnexpected name)
  | some (.value name), none => .ok (.awaiting (.value name))
  | some (.value name), some v => .ok (.options [(.value name, some v)])
  | none, _ =>
    if arg.take 2 = ['-', '-'] then .error (.unknownOption name)
    else (letters table (arg.drop 1)).map .options

/-- Reads one argument. A hyphen alone is an operand. -/
def Word.ofArg (table : List Opt) (arg : String) : Except Misuse Word :=
  match arg.toList with
  | ['-', '-'] => .ok .endOfOptions
  | '-' :: c :: cs => readOption table ('-' :: c :: cs)
  | _ => .ok .operand

/-! ## All arguments -/

/-- Reads arguments. With `leading`, all that follows the first operand is left to it. -/
def scan (table : List Opt) (leading : Bool) : List String → Except Misuse Scan
  | [] => .ok ⟨[], []⟩
  | arg :: args =>
    match Word.ofArg table arg with
    | .error e => .error e
    | .ok .endOfOptions => .ok ⟨[], args⟩
    | .ok .operand =>
      if leading then .ok ⟨[], arg :: args⟩
      else (scan table leading args).map fun s => { s with operands := arg :: s.operands }
    | .ok (.options given) =>
      (scan table leading args).map fun s => { s with given := given ++ s.given }
    | .ok (.awaiting o) =>
      match args with
      | [] => .error (.valueMissing o.name)
      | v :: args => (scan table leading args).map fun s => { s with given := (o, some v) :: s.given }

namespace Scan

def has (s : Scan) (o : Opt) : Bool := s.given.any (·.1 = o)

/-- The value that was given last. -/
def value? (s : Scan) (o : Opt) : Option String := s.given.reverse.lookup o |>.join

end Scan

/-! ## The program's own command line -/

def helpOption : Opt := .flag "--help" none

def verboseOption : Opt := .flag "--verbose" (some 'v')

def masterOption : Opt := .value "--master"

def insecureOption : Opt := .flag "--insecure" none

def jsonOption : Opt := .flag "--json" none

/-- How a description is to be made. -/
structure DescribeOptions where
  master : Option String := none
  insecure : Bool := false
  json : Bool := false
  deriving DecidableEq, Repr

/-- What a command line asks for. -/
inductive Request where
  | help
  | describe (verbose : Bool) (options : DescribeOptions)
  deriving DecidableEq, Repr

def describeCommand : String := "describe"

/-- The options behind the command. -/
def DescribeOptions.ofScan (s : Scan) : DescribeOptions :=
  ⟨s.value? masterOption, s.has insecureOption, s.has jsonOption⟩

/-- Reads what stands behind the command. -/
def Request.ofDescribeArgs (verbose : Bool) (args : List String) : Except Misuse Request := do
  let s ← scan [masterOption, insecureOption, jsonOption, helpOption] false args
  if s.has helpOption then pure .help
  else
    match s.operands with
    | [] => pure (.describe verbose (.ofScan s))
    | text :: _ => .error (.operandUnexpected text)

/-- Reads a command line. Asking for help goes before all but misuse of the options. -/
def Request.ofArgs (args : List String) : Except Misuse Request := do
  let s ← scan [verboseOption, helpOption] true args
  if s.has helpOption then pure .help
  else
    match s.operands with
    | [] => .error .commandMissing
    | command :: args =>
      if command = describeCommand then ofDescribeArgs (s.has verboseOption) args
      else .error (.commandUnknown command)

end ClusterAccess.Cli
