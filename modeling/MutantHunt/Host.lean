import MutantHunt.Act
import MutantHunt.OsError
import MutantHunt.Timeouts

/-!
# The machine a search runs on

Trials and reductions work with files and processes. `Host` lists what they need of the machine they
run on, as acts that can fail the way an operating system refuses; what a machine *is*, is left open.
-/

namespace MutantHunt

/-- What a process is started with. -/
structure Command where
  /-- A path, or the name of a program that is looked up. -/
  program : String
  arguments : List String := []
  /-- The directory the process works in, unless it is the one of the process that starts it. -/
  directory : Option String := none
  /-- Variables that are set to a text or taken out of the environment the process inherits. -/
  environment : List (String × Option String) := []
  deriving DecidableEq, Repr, Inhabited

/-- How messages name the program of a command. A name that the system cannot be given is not shown. -/
def Command.label (command : Command) : String :=
  if command.program.contains '\x00' then "<string-with-nul>" else command.program

/-- How a process that was given a time limit ended. -/
inductive Ending where
  /-- It ended by itself. `output` is what it printed, where that was asked for. -/
  | completed (success : Bool) (output : List UInt8) (elapsed : Duration)
  /-- It was killed when the limit had passed. -/
  | timedOut
  deriving DecidableEq, Repr, Inhabited

/-- What can be done with the files and processes of a machine. Names are paths. -/
structure Host (σ : Type) where
  /-- Runs a process, and kills it when the limit has passed. What it prints is collected where
  `capture` asks for it, and else discarded. -/
  runWithin : (command : Command) → (limit : Duration) → (capture : Bool) → Act OsError σ Ending
  /-- Runs a process to its end, and tells whether it succeeded. -/
  run : Command → Act OsError σ Bool
  /-- Gives what a file holds. -/
  read : String → Act OsError σ (List UInt8)
  /-- Makes a file with the given content, or replaces the content of a file. -/
  write : String → List UInt8 → Act OsError σ Unit
  /-- Copies a file with its permissions. -/
  copy : (source : String) → (destination : String) → Act OsError σ Unit
  /-- Removes a file. -/
  remove : String → Act OsError σ Unit
  /-- Makes a directory, and those around it that are missing. -/
  createDirectories : String → Act OsError σ Unit
  /-- Lets everyone execute a file. -/
  makeExecutable : String → Act OsError σ Unit

end MutantHunt
