import MutantHunt.CommandLine.Terminal
import MutantHunt.Sandbox.Host

/-!
# A terminal in a sandbox

A program can be started in a sandbox as in any other place. What it prints, and what the processes
print that it starts, goes to two pipes, and `runMain` gives what was written there.
-/

namespace MutantHunt.Sandbox

/-- The value of a variable of the environment. -/
def variableValue? (s : Sandbox) (name : String) : Option String :=
  (s.environment.lookup (pathOf name)).map ByteText.toText

/-- The directory where directories for a while are made. -/
def temporaryRoot (s : Sandbox) : String :=
  Path.absolute (ByteText.toText s.directory.path) ((s.variableValue? "TMPDIR").getD "/tmp")

/-- Names for a directory that is there for a while. There is one more than there are files. -/
def temporaryNames (s : Sandbox) : List String :=
  (List.range (s.machine.files.items.length + 1)).map fun n => "mutant-killer-" ++ n.repr

/-- Makes a new directory, and gives its path. -/
def makeTemporary : Act OsError Sandbox String := fun s =>
  let paths := s.temporaryNames.map (Path.join s.temporaryRoot)
  let path := (paths.find? fun path => !s.pathExists path).getD s.temporaryRoot
  match changeFiles (fun files => files.makeDirectory s.directory (pathOf path) 0o700) s with
  | (.ok (), s) => (.ok path, s)
  | (.error e, s) => (.error e, s)

/-- Writes a line to a channel. -/
def writeLine (channel : Channel) (line : String) (s : Sandbox) : Sandbox :=
  { s with machine := s.machine.write channel (Text.encode (line ++ "\n")) }

/-- A sandbox as the place where the program is started. -/
def terminal (s : Sandbox) : CommandLine.Terminal Sandbox where
  host := host
  directory := ByteText.toText s.directory.path
  environment := s.variableValue?
  anySeed := 0
  pathExists path s := s.pathExists path
  makeTemporary := makeTemporary
  removeTemporary path s := (removeTree path s).2
  print line s := s.writeLine s.output line
  report line s := s.writeLine s.errors line

/-- What a program did: how it ended, and what was printed. -/
structure Session where
  status : CommandLine.ExitStatus
  output : List UInt8
  errors : List UInt8
  deriving Repr

/-- Starts the program with the given words, and lets it run to its end. -/
def runMain (words : List String) (s : Sandbox) : Session × Sandbox :=
  let (output, machine) := s.machine.openPipe
  let (errors, machine) := machine.openPipe
  let started := { s with machine, output := .pipe output, errors := .pipe errors }
  let (status, ended) := (terminal started).execute words started
  ({ status
     output := (ended.machine.collect output).bytes
     errors := (ended.machine.collect errors).bytes },
    { ended with output := s.output, errors := s.errors })

end MutantHunt.Sandbox
