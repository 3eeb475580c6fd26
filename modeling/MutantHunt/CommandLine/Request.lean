import MutantHunt.CommandLine.Scan
import MutantHunt.Hunt
import MutantHunt.Mismatch
import MutantHunt.Toolchain

/-!
# What a command line asks for

The program does one of two things: `run` searches for kills, and `status` shows what the latest search
found. `Request.ofWords` reads a request off the words of a command line. The three files and directories
of a search may be named by variables of the environment instead.
-/

namespace MutantHunt.CommandLine

/-! ## Values -/

/-- The value of decimal digits, of which there must be some. -/
def decimal? (digits : List Char) : Option Nat :=
  if digits.isEmpty || !digits.all Char.isDigit then none else some (Binary64.digitsValue digits)

/-- A number below a bound. A plus sign may stand in front. -/
def natural? (bound : Nat) (text : String) : Option Nat :=
  let digits :=
    match text.toList with
    | '+' :: rest => rest
    | all => all
  (decimal? digits).filter (· < bound)

/-- A number below a bound that is read as a signed one, so zero may carry a minus sign. -/
def integral? (bound : Nat) (text : String) : Option Nat :=
  match text.toList with
  | '-' :: rest => (decimal? rest).filter (· = 0)
  | _ => natural? bound text

/-- A path is any text but the empty one. -/
def path? (text : String) : Option String :=
  if text.isEmpty then none else some text

/-! ## Requests -/

/-- A search that is asked for. -/
structure RunRequest where
  /-- The file with the description of the mutants. -/
  description : String
  tools : Toolchain
  limits : Limits
  mismatch : Mismatch
  /-- The reducer with its first arguments. -/
  reducer : String
  /-- Where programs are made. If none is given, this is a directory for this search alone. -/
  workDirectory : Option String
  /-- Where the results go. -/
  outputDirectory : String
  seed : Option UInt64
  maxPrograms : Option UInt64
  /-- The least time that a mutated step is given, in seconds. -/
  minimumSeconds : Binary64
  deriving DecidableEq, Repr

/-- What a command line asks for. -/
inductive Request where
  | run (request : RunRequest)
  /-- Shows the report in a directory, for people or as JSON. -/
  | status (directory : String) (json : Bool)
  deriving DecidableEq, Repr

/-- A parameter with a value that has to be readable. -/
def Parameter.reading {α : Type} (name : String) (read : String → Option α) : Parameter :=
  { name, accepts := some fun text => (read text).isSome }

/-- The value of an option as it is read, or another one if the option is not given. -/
def Given.valueOr {α : Type} (given : Given) (name : String) (read : String → Option α)
    (default : α) : α :=
  ((given.value? name).bind read).getD default

/-- The options of a search. -/
def runSignature : Signature where
  positional := 3
  parameters :=
    [.reading "max-consecutive-failed-attempts-per-program" (integral? UInt32.size),
      .reading "max-attempts-per-program" (integral? UInt32.size),
      .reading "num-simultaneous-mutations" (natural? UInt64.size),
      .reading "output-mismatch" (Mismatch.ofArgument? · false),
      .reading "reducer" some,
      .reading "work-dir" path?,
      .reading "output-dir" path?,
      .reading "seed" (natural? UInt64.size),
      .reading "max-programs" (natural? UInt64.size),
      .reading "min-timeout-secs" Binary64.ofText?,
      { name := "verbose", letter := some 'v' }]

/-- The options of a look at the latest search. -/
def statusSignature : Signature where
  positional := 0
  parameters := [.reading "output-dir" path?, { name := "json" }]

/-- The variables that name the files and directories of a search. -/
def positionalVariables : List String :=
  ["MUTANT_KILLER_MUTATION_INFO", "MUTANT_KILLER_COMPILER", "MUTANT_KILLER_CSMITH_ROOT"]

/-- The directory for results if none is given. -/
def defaultOutput : String := "."

/-- The files and directories of a search: those that are given, and the rest by the environment. -/
def positionalWords (environment : String → Option String) (given : Given) :
    Option (List String) :=
  let named := positionalVariables.drop given.positional.length
  (named.mapM fun name => (environment name).bind path?).map (given.positional ++ ·)

/-- The search that the sorted words ask for. -/
def RunRequest.ofGiven? (environment : String → Option String) (given : Given) :
    Option RunRequest :=
  match positionalWords environment given with
  | some [description, compiler, csmith] =>
    some
      { description
        tools := { compiler, csmith }
        limits :=
          { failures :=
              given.valueOr "max-consecutive-failed-attempts-per-program" (integral? UInt32.size) 10
            attempts := given.valueOr "max-attempts-per-program" (integral? UInt32.size) 100
            batch := max 1 (given.valueOr "num-simultaneous-mutations" (natural? UInt64.size) 64) }
        mismatch := given.valueOr "output-mismatch" (Mismatch.ofArgument? · false) .kill
        reducer := given.valueOr "reducer" some "creduce"
        workDirectory := given.value? "work-dir"
        outputDirectory := given.valueOr "output-dir" path? defaultOutput
        seed := ((given.value? "seed").bind (natural? UInt64.size)).map UInt64.ofNat
        maxPrograms := ((given.value? "max-programs").bind (natural? UInt64.size)).map UInt64.ofNat
        minimumSeconds := given.valueOr "min-timeout-secs" Binary64.ofText? (.ofNat 5) }
  | _ => none

/-- The commands that help can be asked for. -/
def topics : List String := ["run", "status", "help"]

/-- Whether words name something to ask for help on: nothing in particular, or one of the commands.
Help on asking for help can be asked for in the same way. -/
def isTopic : List String → Bool
  | [] => true
  | "help" :: rest => isTopic rest
  | [topic] => topics.contains topic
  | _ => false

namespace Request

/-- Reads what a command line asks for off its words. -/
def ofWords (environment : String → Option String) : List String → Except Interruption Request
  | "run" :: rest => do
    let given ← scan runSignature {} rest
    match RunRequest.ofGiven? environment given with
    | some request => .ok (.run request)
    | none => .error .misuse
  | "status" :: rest => do
    let given ← scan statusSignature {} rest
    .ok (.status (given.valueOr "output-dir" path? defaultOutput) (given.has "json"))
  | "help" :: rest => .error (if isTopic rest then .help else .misuse)
  | word :: _ =>
    match Word.ofText word with
    | .letters ('h' :: _) | .long "help" none => .error .help
    | .letters ('V' :: _) | .long "version" none => .error .version
    | _ => .error .misuse
  | [] => .error .misuse

end Request

end MutantHunt.CommandLine
