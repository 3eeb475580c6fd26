import MutantHunt.Host
import MutantHunt.Sandbox.Shell.Run

/-!
# A sandbox as the machine of a search

A `Sandbox` is a machine with a process that works on it, which is all that the acts of a `Host` need.
It lets a search run without touching anything outside, and always in the same way.

A process with a time limit is watched: every 5.1 milliseconds the watcher looks whether it has ended,
and kills it if it has not and the limit has passed by then (`watch`). So a process that ends between
two looks is never killed, even if it is a little late.
-/

namespace MutantHunt

open Sandbox in
/-- A machine with the process that works on it. -/
structure Sandbox where
  machine : Machine := {}
  /-- The variables that processes inherit. -/
  environment : List (String × String) := []
  /-- The directory the process works in. -/
  directory : Place := []
  /-- Where it prints. -/
  output : Channel := .sink
  /-- Where it reports failures. -/
  errors : Channel := .sink
  deriving Inhabited

namespace Sandbox

/-- Whether a text cannot be handed to the system. -/
def hasNul (text : String) : Bool :=
  text.toList.contains '\x00'

/-- A path in the form the machine uses. -/
def pathOf (path : String) : String :=
  ByteText.ofText path

/-! ## Files -/

/-- Does something with the files. If that fails they stay as they are. -/
def changeFiles (change : Files → Except OsError Files) : Act OsError Sandbox Unit := fun s =>
  let (result, machine) := s.machine.attempt change
  (result, { s with machine })

/-- Gives what a file holds. -/
def read (path : String) : Act OsError Sandbox (List UInt8) := fun s =>
  (s.machine.files.read s.directory (pathOf path), s)

/-- Makes a file, or replaces its content. -/
def write (path : String) (content : List UInt8) : Act OsError Sandbox Unit := fun s =>
  changeFiles (fun files => files.write s.directory (pathOf path) content plainMode) s

/-- Copies a file with its permissions. -/
def copy (source destination : String) : Act OsError Sandbox Unit := fun s =>
  changeFiles (fun files => files.copy s.directory (pathOf source) (pathOf destination)) s

/-- Removes a file. -/
def remove (path : String) : Act OsError Sandbox Unit := fun s =>
  changeFiles (fun files => files.remove s.directory (pathOf path)) s

/-- Removes a directory with all inside it. -/
def removeTree (path : String) : Act OsError Sandbox Unit := fun s =>
  changeFiles (fun files => files.removeTree s.directory (pathOf path)) s

/-- Makes a directory, and those around it that are missing. -/
def createDirectories (path : String) : Act OsError Sandbox Unit := fun s =>
  let (result, machine) := s.machine.attemptParts fun files =>
    files.makeDirectories s.directory (pathOf path) openMode
  (result, { s with machine })

/-- Changes the mode of a file. -/
def changeMode (path : String) (change : Nat → Nat) : Act OsError Sandbox Unit := fun s =>
  changeFiles (fun files => files.changeMode s.directory (pathOf path) change) s

/-- Lets everyone execute a file. -/
def makeExecutable (path : String) : Act OsError Sandbox Unit :=
  changeMode path (· ||| 0o111)

/-- Whether a path leads to something. -/
def pathExists (s : Sandbox) (path : String) : Bool :=
  s.machine.files.pathExists s.directory (pathOf path)

/-! ## Processes -/

/-- The environment with variables set or taken out. -/
def changedEnvironment (environment : List (String × String)) :
    List (String × Option String) → List (String × String)
  | [] => environment
  | (name, value) :: rest =>
    let others := environment.filter (·.1 != pathOf name)
    match value with
    | some value => changedEnvironment (others ++ [(pathOf name, pathOf value)]) rest
    | none => changedEnvironment others rest

/-- The process that a command starts. There is nothing for it to read. -/
def processOf (s : Sandbox) (command : Command) (output errors : Channel) (deadline : Option Nat) :
    Except OsError Process := do
  let texts := command.program :: command.arguments ++ command.directory.toList
    ++ command.environment.flatMap fun (name, value) => name :: value.toList
  if texts.any hasNul then throw .nulInArgument
  let directory ←
    match command.directory with
    | none => pure s.directory
    | some path =>
      match ← s.machine.files.find s.directory (pathOf path) with
      | (place, .directory mode) =>
        if (Item.directory mode).allows executable then pure place else throw .permissionDenied
      | _ => throw .notADirectory
  pure
    { name := pathOf command.program
      arguments := command.arguments.map pathOf
      environment := changedEnvironment s.environment command.environment
      directory
      channels := [(0, .sink), (1, output), (2, errors)]
      deadline }

/-- Starts a command and runs it to its end, or up to a deadline. -/
def start (s : Sandbox) (command : Command) (output errors : Channel) (deadline : Option Nat) :
    Except OsError Exit × Sandbox :=
  match s.processOf command output errors deadline with
  | .error e => (.error e, s)
  | .ok process =>
    let (result, machine) := startProgram Shell.runCommand startDepth none process s.machine
    (result, { s with machine })

/-- When a watcher looks first, in microseconds after the start. -/
def firstLook : Nat := 100

/-- The time between two looks, in microseconds. -/
def lookInterval : Nat := 5100

/-- When a watcher looks for the first time after so many microseconds, or just then. -/
def lookFrom (microseconds : Nat) : Nat :=
  firstLook + (microseconds - firstLook + (lookInterval - 1)) / lookInterval * lookInterval

/-- When a watcher finds for the first time that a limit has passed. -/
def lookBeyond (limit : Duration) : Nat :=
  lookFrom (limit.toNanoseconds / 1000 + 1)

/-- Runs a process, and kills it when the limit has passed. -/
def runWithin (command : Command) (limit : Duration) (capture : Bool) :
    Act OsError Sandbox Ending := fun s =>
  let begin_ := s.machine.clock
  let (pipe, machine) := s.machine.openPipe
  let output := if capture then Channel.pipe pipe else .sink
  match start { s with machine } command output .sink (some (begin_ + lookBeyond limit)) with
  | (.error e, s) => (.error e, s)
  | (.ok .overdue, s) => (.ok .timedOut, s)
  | (.ok exit, s) =>
    let elapsed := lookFrom (s.machine.clock - begin_)
    let printed := s.machine.collect pipe
    if !printed.endless.isEmpty then
      (.ok .timedOut, { s with machine := s.machine.advance (begin_ + lookBeyond limit + 1) })
    else
    let machine := s.machine.advance (max (begin_ + elapsed) printed.ready)
    let duration := (Duration.ofNanoseconds? (elapsed * 1000)).getD limit
    (.ok (.completed exit.isSuccess printed.bytes duration), { s with machine })

/-- Runs a process to its end, and tells whether it succeeded. It prints where this process prints. -/
def run (command : Command) : Act OsError Sandbox Bool := fun s =>
  match start s command s.output s.errors none with
  | (.error e, s) => (.error e, s)
  | (.ok exit, s) => (.ok exit.isSuccess, s)

/-- The acts of a search on a sandbox. -/
def host : Host Sandbox where
  runWithin := runWithin
  run := run
  read := read
  write := write
  copy := copy
  remove := remove
  createDirectories := createDirectories
  makeExecutable := makeExecutable

end Sandbox

end MutantHunt
