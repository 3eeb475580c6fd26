import MutantHunt.CommandLine.Request
import MutantHunt.Reduction
import MutantHunt.Report.Stored
import MutantHunt.Report.Summary
import MutantHunt.Tree.Load
import MutantHunt.Workbench

/-!
# Carrying out what a command line asks for

A `Terminal` is where the program is started: a machine to work on, a working directory, an environment,
and two places to print to. `Terminal.execute` carries out a command line on it and gives the status that
the program ends with (`ExitStatus`).

A search makes its report anew after each program and stores it; that a report cannot be stored is no
reason to end the search. A directory that was made for a search alone is removed when it ends.
-/

namespace MutantHunt.CommandLine

/-- How the program ends. -/
inductive ExitStatus where
  | success
  /-- What is asked for makes no sense or is not there. -/
  | misuse
  /-- A search broke off. -/
  | failure
  /-- A time limit did not fit. -/
  | crash
  deriving DecidableEq, Repr

/-- The number of a status. -/
def ExitStatus.code : ExitStatus → Nat
  | success => 0
  | misuse => 2
  | failure => 3
  | crash => 101

/-- Where the program is started. -/
structure Terminal (σ : Type) where
  host : Host σ
  /-- The working directory. -/
  directory : String
  environment : String → Option String
  /-- The seed of a search that is given none. -/
  anySeed : UInt64
  pathExists : String → σ → Bool
  /-- Makes a new directory for a search, and gives its path. -/
  makeTemporary : Act OsError σ String
  /-- Removes a directory with all inside it. -/
  removeTemporary : String → σ → σ
  /-- Prints a line. -/
  print : String → σ → σ
  /-- Prints a line to where failures are reported. -/
  report : String → σ → σ

/-- Why a search broke off. -/
inductive SearchError where
  | noDirectory (path : String) (cause : OsError)
  | noTemporaryDirectory (cause : OsError)
  | hunt (error : HuntError)
  deriving DecidableEq, Repr

/-- The wording of why a search broke off. The cause of a failure stands behind what it caused, even
where that is worded with its cause already. -/
def SearchError.message : SearchError → String
  | noDirectory path cause => "Failed to create " ++ path ++ ": " ++ cause.message
  | noTemporaryDirectory cause => "Failed to create temp directory: " ++ cause.message
  | hunt (.io context cause) =>
    (HuntError.io context cause).message ++ ": " ++ cause.message
  | hunt error => error.message

/-- The status of a program whose search broke off. -/
def SearchError.exitStatus : SearchError → ExitStatus
  | hunt .limitTooLong => .crash
  | _ => .failure

namespace Terminal

variable {σ : Type} (t : Terminal σ)

/-- Whether lines are printed with colours, which has to be asked for. -/
def colours : Bool :=
  (t.environment "CLICOLOR_FORCE").any (· != "0")

/-- A path as seen from the root. -/
def absolute (path : String) : String :=
  Path.absolute t.directory path

/-- Reports a failure. -/
def fail (message : String) (status : ExitStatus) (s : σ) : ExitStatus × σ :=
  (status, t.report (failureLine t.colours message) s)

/-- Prints lines. -/
def printAll (lines : List String) (s : σ) : σ :=
  lines.foldl (fun s line => t.print line s) s

/-- Shows the report of the latest search. -/
def status (directory : String) (json : Bool) (s : σ) : ExitStatus × σ :=
  match Report.load t.host directory s with
  | (.ok (some report), s) =>
    (.success, t.printAll (if json then [report.compact] else report.summary t.colours) s)
  | (_, s) => t.fail "No previous run found. Run \x60mutant-killer run\x60 first." .misuse s

/-- The first of the files and directories of a search that is not there, with what it is. -/
def missing? (request : RunRequest) (s : σ) : Option String :=
  let wanted :=
    [("Mutation info file", request.description),
      ("Compiler executable", request.tools.compiler), ("Csmith root", request.tools.csmith)]
  (wanted.find? fun (_, path) => !t.pathExists path s).map fun (what, path) =>
    what ++ " not found: " ++ path

/-- Makes a directory, with all around it. -/
def makeDirectory (path : String) : Act SearchError σ Unit :=
  (t.host.createDirectories path).mapError (.noDirectory path)

/-- Stores a report, if that is possible. -/
def store (directory : String) (report : Report) (s : σ) : σ :=
  (Report.store t.host directory report s).2

/-- The time limits of a search. -/
def timeouts (request : RunRequest) : Act SearchError σ Timeouts :=
  match Duration.ofSeconds? request.minimumSeconds with
  | some minimum => pure { minimum }
  | none => Act.throw (.hunt .limitTooLong)

/-- The campaign of a search that makes its programs in a directory. -/
def campaign (tree : Tree) (request : RunRequest) (workDirectory outputDirectory : String)
    (timeouts : Timeouts) : Campaign σ :=
  let tools : Toolchain :=
    { compiler := t.absolute request.tools.compiler, csmith := t.absolute request.tools.csmith }
  let bench : Workbench σ :=
    { host := t.host, tools, directory := workDirectory, timeouts, mismatch := request.mismatch }
  let reduction : Reduction σ :=
    { host := t.host, command := request.reducer, tools, directory := workDirectory
      output := outputDirectory, timeouts }
  { tree, limits := request.limits, harness := bench.harness, reducer := reduction.reducer }

/-- Runs a campaign from its start, and gives its last report. -/
def runCampaign (campaign : Campaign σ) (request : RunRequest) (outputDirectory : String) :
    Act SearchError σ Report := fun s =>
  let hunt := campaign.start (request.seed.getD t.anySeed) s
  match campaign.run (t.store outputDirectory) request.maxPrograms hunt with
  | (.ok (some report), hunt) => (.ok report, hunt.outside.world)
  | (.ok none, hunt) => (.ok hunt.report, hunt.outside.world)
  | (.error e, hunt) => (.error (.hunt e), hunt.outside.world)

/-- Searches for kills, with programs made in a directory. -/
def searchIn (tree : Tree) (request : RunRequest) (workDirectory : String) :
    Act SearchError σ Report := do
  let outputDirectory := t.absolute request.outputDirectory
  t.makeDirectory outputDirectory
  let timeouts ← timeouts request
  t.runCampaign (t.campaign tree request workDirectory outputDirectory timeouts) request
    outputDirectory

/-- Searches for kills. -/
def search (tree : Tree) (request : RunRequest) : Act SearchError σ Report :=
  match request.workDirectory with
  | some path => do
    t.makeDirectory path
    t.searchIn tree request (t.absolute path)
  | none => do
    let path ← t.makeTemporary.mapError .noTemporaryDirectory
    fun s =>
      let (result, s) := t.searchIn tree request path s
      (result, t.removeTemporary path s)

/-- Carries out a search that is asked for, and shows what it found. -/
def run (request : RunRequest) (s : σ) : ExitStatus × σ :=
  match t.missing? request s with
  | some message => t.fail message .misuse s
  | none =>
    if !request.minimumSeconds.isPositiveFinite then
      t.fail "--min-timeout-secs must be a positive number of seconds" .misuse s
    else
      match Tree.load t.host request.description s with
      | (.error e, s) => t.fail e.message .misuse s
      | (.ok tree, s) =>
        match t.search tree request s with
        | (.ok report, s) => (.success, t.printAll (report.summary t.colours) s)
        | (.error e, s) => t.fail e.message e.exitStatus s

/-- The name of the program with its version. -/
def version : String := "mutant-killer 0.1.0"

/-- How to use the program. -/
def usage : List String :=
  ["Kill compiler mutants with randomly generated programs",
    "",
    "Usage: mutant-killer run [OPTIONS] <MUTATION_INFO_FILE> <COMPILER_EXECUTABLE> <CSMITH_ROOT>",
    "       mutant-killer status [--output-dir <OUTPUT_DIR>] [--json]"]

/-- Carries out a command line. -/
def execute (words : List String) (s : σ) : ExitStatus × σ :=
  match Request.ofWords t.environment words with
  | .ok (.run request) => t.run request s
  | .ok (.status directory json) => t.status directory json s
  | .error .help => (.success, t.printAll usage s)
  | .error .version => (.success, t.print version s)
  | .error .misuse => (.misuse, usage.foldl (fun s line => t.report line s) s)

end Terminal

end MutantHunt.CommandLine
