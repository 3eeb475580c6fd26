import MutantHunt.Sandbox.Files

/-!
# A machine with processes

A `Machine` has files, a clock that counts microseconds, and the channels through which processes
read and write. Nothing happens at the same time: a process that is started runs to its end, and the
clock says when that is. A process that runs beside another one is run first, and then the machine is
taken back to the time before (`Machine.rewind`): what the process did to the files is still to come, and
happens when the clock gets there (`Machine.advance`). All that is written to a pipe carries the time of
writing, so the reader gets it in the right order (`Machine.collect`).

A process may have a deadline. It is stopped as soon as the clock has passed it, and whatever it would
have done later does not happen. The clock itself stops short behind the deadline of the running process,
which is the `horizon` of the machine.
-/

namespace MutantHunt.Sandbox

/-- Where a file descriptor leads. -/
inductive Channel where
  /-- Gives nothing and takes anything. -/
  | sink
  /-- Gives what is left of an input. -/
  | input (number : Nat)
  /-- Adds to the end of a file. -/
  | file (place : Place)
  | pipe (number : Nat)
  deriving DecidableEq, Repr, Inhabited

/-- What is left to be read of an input. -/
structure Input where
  bytes : List UInt8
  /-- What follows the bytes again and again. Where it is empty, nothing follows. -/
  endless : List UInt8 := []
  /-- When the last of the bytes is there. -/
  ready : Nat := 0
  /-- Whether a reader can go back to what it did not want. -/
  isFile : Bool := false
  /-- Whether some of it was not wanted by anyone. -/
  unwanted : Bool := false
  deriving Repr, Inhabited

/-- Something that was written to a pipe. -/
structure Piece where
  time : Nat
  /-- The job that wrote it. -/
  job : Nat
  bytes : List UInt8
  deriving Repr, Inhabited

/-- What was written to a pipe. -/
structure Pipe where
  /-- The latest piece comes first. -/
  pieces : List Piece := []
  /-- How many bytes were written. -/
  size : Nat := 0
  /-- What a writer goes on writing without end. -/
  endless : List UInt8 := []
  /-- The jobs that could write, with the times when they ended. -/
  writers : List (Nat × Nat) := []
  deriving Repr, Inhabited

/-- When the last writer has ended. -/
def Pipe.openUntil (pipe : Pipe) : Nat :=
  pipe.writers.foldl (fun time writer => max time writer.2) 0

/-- Notes when a job ended that could write to a pipe. -/
def Pipe.release (pipe : Pipe) (job time : Nat) : Pipe :=
  let before := (pipe.writers.lookup job).getD 0
  { pipe with writers := (job, max before time) :: pipe.writers.filter (·.1 != job) }

/-- Takes away what a job would do to a pipe after some time. -/
def Pipe.silence (pipe : Pipe) (job time : Nat) : Pipe :=
  { pipe with
    pieces := pipe.pieces.filter fun piece => piece.job != job || piece.time ≤ time
    writers := pipe.writers.map fun (writer, end_) =>
      (writer, if writer == job then min end_ time else end_) }

/-- How a process ends. -/
inductive Exit where
  | code (n : Nat)
  /-- Killed by a signal. -/
  | signal (n : Nat)
  /-- Stopped at its deadline. -/
  | overdue
  deriving DecidableEq, Repr, Inhabited

/-- The status that a shell gives to an end. -/
def Exit.status : Exit → Nat
  | code n => n % 256
  | signal n => 128 + n
  | overdue => 137

/-- Whether a process succeeded. -/
def Exit.isSuccess (exit : Exit) : Bool :=
  exit == .code 0

/-- Something that is done to the files. -/
structure Deed where
  /-- Counts all deeds. -/
  number : Nat
  time : Nat
  /-- The job that does it. -/
  job : Nat
  change : Files → Files
  deriving Inhabited

/-- Files, a clock, and what is under way between processes. -/
structure Machine where
  files : Files := {}
  /-- Microseconds since the start. -/
  clock : Nat := 0
  /-- The deadline of the process that is running. -/
  horizon : Option Nat := none
  /-- The number of the process started last. -/
  lastProcess : Nat := 1000
  inputs : Array Input := #[]
  pipes : Array Pipe := #[]
  /-- Processes that were sent a deadly signal, with the signal. -/
  doomed : List (Nat × Nat) := []
  /-- The process put beside others that is running, or zero. -/
  job : Nat := 0
  /-- The pipe whose reader waits for all that is written to it before it reads anything. -/
  brim : Option Nat := none
  /-- Whether that pipe holds more than it can. -/
  isFull : Bool := false
  /-- What is still to be done to the files. -/
  ahead : List Deed := []
  /-- What was done to the files since some process was put beside others, the latest deed first. -/
  done : Option (List Deed) := none
  /-- How many deeds there have been. -/
  deeds : Nat := 0
  deriving Inhabited

/-- What a process has of its own. -/
structure Process where
  /-- The name it was started by. -/
  name : String
  arguments : List String := []
  environment : List (String × String) := []
  /-- The directories where the program is looked up, if the environment does not say that. -/
  searched : Option String := none
  directory : Place := []
  /-- The bits of a mode that its new files do not get. -/
  mask : Nat := 0o022
  /-- Where its file descriptors lead. One that is not listed is closed. -/
  channels : List (Nat × Channel) := []
  /-- The number of the process that started it. -/
  parent : Nat := 1
  deadline : Option Nat := none
  deriving Repr, Inhabited

namespace Process

/-- The value of a variable. -/
def valueOf? (process : Process) (name : String) : Option String :=
  process.environment.lookup name

/-- Where a file descriptor leads. -/
def channel? (process : Process) (descriptor : Nat) : Option Channel :=
  process.channels.lookup descriptor

/-- Lets a file descriptor lead somewhere else. -/
def redirect (process : Process) (descriptor : Nat) (channel : Channel) : Process :=
  { process with
    channels := (descriptor, channel) :: process.channels.filter fun entry => entry.1 != descriptor }

/-- Closes a file descriptor. -/
def close (process : Process) (descriptor : Nat) : Process :=
  { process with channels := process.channels.filter fun entry => entry.1 != descriptor }

/-- Sets a variable. -/
def setVariable (process : Process) (name value : String) : Process :=
  { process with
    environment := process.environment.filter (·.1 != name) ++ [(name, value)] }

/-- Takes a variable out of the environment. -/
def unsetVariable (process : Process) (name : String) : Process :=
  { process with environment := process.environment.filter (·.1 != name) }

/-- Whether the deadline has passed. -/
def isOverdue (process : Process) (clock : Nat) : Bool :=
  process.deadline.any fun deadline => deadline < clock

/-- The mode of a file that a process makes. -/
def fileMode (process : Process) : Nat :=
  0o666 &&& (0o777 ^^^ process.mask)

/-- The mode of a directory that a process makes. -/
def directoryMode (process : Process) : Nat :=
  0o777 &&& (0o777 ^^^ process.mask)

end Process

namespace Machine

/-! ## Time and files -/

/-- Does the deeds that are due. -/
def perform (machine : Machine) : Machine :=
  if machine.ahead.isEmpty then machine
  else
    let (due, rest) := machine.ahead.partition (·.time ≤ machine.clock)
    let due := due.mergeSort fun a b => decide (a.time < b.time ∨ a.time = b.time ∧ a.number ≤ b.number)
    { machine with
      files := due.foldl (fun files deed => deed.change files) machine.files
      ahead := rest
      done := machine.done.map (due.reverse ++ ·) }

/-- Waits until a time, or until the process that is running has missed its deadline. -/
def advance (machine : Machine) (time : Nat) : Machine :=
  let time :=
    match machine.horizon with
    | some deadline => min time (deadline + 1)
    | none => time
  { machine with clock := max machine.clock time }.perform

/-- Lets time pass. -/
def elapse (machine : Machine) (microseconds : Nat) : Machine :=
  machine.advance (machine.clock + microseconds)

/-- Notes that a change made the files what they are now. -/
def record (machine : Machine) (change : Files → Files) (files : Files) : Machine :=
  let deed : Deed := { number := machine.deeds, time := machine.clock, job := machine.job, change }
  { machine with files, done := machine.done.map (deed :: ·), deeds := machine.deeds + 1 }

/-- Does something to the files. -/
def change (machine : Machine) (change : Files → Files) : Machine :=
  machine.record change (change machine.files)

/-- Does something to the files that may fail. If it does, they stay as they are. -/
def attempt {ε : Type} (machine : Machine) (change : Files → Except ε Files) : Except ε Unit × Machine :=
  match change machine.files with
  | .ok files => (.ok (), machine.record (fun files => (change files).toOption.getD files) files)
  | .error e => (.error e, machine)

/-- Does something to the files of which a part may be done when it fails. -/
def attemptParts (machine : Machine) (change : Files → Except OsError Unit × Files) :
    Except OsError Unit × Machine :=
  let (result, files) := change machine.files
  (result, machine.record (fun files => (change files).2) files)

/-- Makes ready to run a process beside others. -/
def branch (machine : Machine) : Machine :=
  { machine with done := some [] }

/-- Goes back to the time before a process was run beside others. What it did is still to come. -/
def rewind (before after : Machine) : Machine :=
  let known := before.ahead.map Deed.number
  let fresh := (after.ahead ++ after.done.getD []).filter fun deed => !known.contains deed.number
  { after with
    files := before.files
    clock := before.clock
    horizon := before.horizon
    job := before.job
    brim := before.brim
    isFull := before.isFull
    ahead := before.ahead ++ fresh
    done := before.done }

/-- Takes away all that a job would still do. -/
def silence (machine : Machine) (job : Nat) : Machine :=
  { machine with
    ahead := machine.ahead.filter fun deed => deed.job != job || deed.time ≤ machine.clock
    pipes := machine.pipes.map fun pipe => pipe.silence job machine.clock }

/-- Runs something that has to end before a deadline. -/
def within {α : Type} (machine : Machine) (deadline : Option Nat) (body : Machine → α × Machine) :
    α × Machine :=
  let (result, after) := body { machine with horizon := deadline }
  (result, { after with horizon := machine.horizon })

/-! ## Inputs -/

/-- Opens an input. -/
def openInput (machine : Machine) (input : Input) : Channel × Machine :=
  (.input machine.inputs.size, { machine with inputs := machine.inputs.push input })

/-- What is left of what a file descriptor reads. -/
def pending (machine : Machine) (process : Process) (descriptor : Nat) : Input :=
  match process.channel? descriptor with
  | some (.input number) => machine.inputs.getD number { bytes := [] }
  | _ => { bytes := [] }

/-- Leaves a rest of an input, and waits until the part that was read is there. -/
def leave (machine : Machine) (process : Process) (descriptor : Nat) (rest : Input) : Machine :=
  match process.channel? descriptor with
  | some (.input number) =>
    { machine with inputs := machine.inputs.setIfInBounds number rest }.advance rest.ready
  | _ => machine

/-- Notes that something was read but is not wanted. In a file, the reader goes back to it. -/
def giveBack (machine : Machine) (process : Process) (descriptor : Nat) (bytes : List UInt8) : Machine :=
  match process.channel? descriptor with
  | some (.input number) =>
    { machine with
      inputs := machine.inputs.modify number fun input =>
        if input.isFile then { input with bytes := bytes ++ input.bytes } else { input with unwanted := true } }
  | _ => machine

/-- Reads all that is left, except for what has no end. -/
def readAll (machine : Machine) (process : Process) (descriptor : Nat) : Input × Machine :=
  let input := machine.pending process descriptor
  (input, machine.leave process descriptor { input with bytes := [] })

/-! ## Pipes -/

/-- Opens a pipe. -/
def openPipe (machine : Machine) : Nat × Machine :=
  (machine.pipes.size, { machine with pipes := machine.pipes.push {} })

/-- How many bytes a pipe can hold. -/
def capacity : Nat := 65536

/-- Writes to a channel. -/
def write (machine : Machine) (channel : Channel) (bytes : List UInt8) : Machine :=
  if bytes.isEmpty then machine
  else
    match channel with
    | .sink | .input _ => machine
    | .file place => machine.change fun files => files.append place bytes
    | .pipe number =>
      let size := (machine.pipes.getD number {}).size + bytes.length
      { machine with
        pipes := machine.pipes.modify number fun pipe =>
          { pipe with pieces := ⟨machine.clock, machine.job, bytes⟩ :: pipe.pieces, size }
        isFull := machine.isFull || machine.brim == some number && capacity < size }

/-- A time that no process lives to see, in microseconds. -/
def never : Nat := 1000000000000000

/-- Writes without end. Where nobody can stop reading, this goes on for ever. -/
def writeEndless (machine : Machine) (channel : Channel) (bytes : List UInt8) : Machine :=
  match channel with
  | .sink | .file _ => machine.elapse never
  | .pipe number =>
    { machine with
      pipes := machine.pipes.modify number fun pipe =>
        if pipe.endless.isEmpty then { pipe with endless := bytes } else pipe }
  | _ => machine

/-- Notes that a process with these channels ended now. -/
def release (machine : Machine) (process : Process) : Machine :=
  { machine with
    pipes := process.channels.foldl
      (fun pipes entry =>
        match entry.2 with
        | .pipe number =>
          pipes.modify number fun pipe => pipe.release machine.job machine.clock
        | _ => pipes)
      machine.pipes }

/-- What was written to a pipe, in the order of time. -/
def collect (machine : Machine) (number : Nat) : Input :=
  let pipe := machine.pipes.getD number {}
  let pieces := pipe.pieces.reverse.mergeSort fun a b => decide (a.time ≤ b.time)
  { bytes := pieces.flatMap Piece.bytes, endless := pipe.endless, ready := pipe.openUntil }

/-! ## Processes -/

/-- Takes the number of a new process. -/
def newProcess (machine : Machine) : Nat × Machine :=
  (machine.lastProcess + 1, { machine with lastProcess := machine.lastProcess + 1 })

/-- Whether a number is that of a process, which may have ended. -/
def isProcess (machine : Machine) (number : Nat) : Bool :=
  1000 < number && number ≤ machine.lastProcess

/-- Sends a deadly signal. -/
def doom (machine : Machine) (process signal : Nat) : Machine :=
  { machine with doomed := machine.doomed ++ [(process, signal)] }

/-- The signal that a process was sent. -/
def fate? (machine : Machine) (process : Nat) : Option Nat :=
  machine.doomed.lookup process

/-- Takes back the signals that a process was sent. -/
def spare (machine : Machine) (process : Nat) : Machine :=
  { machine with doomed := machine.doomed.filter (·.1 != process) }

/-- Writes to a file descriptor. Tells whether it is open. -/
def print (machine : Machine) (process : Process) (descriptor : Nat) (text : String) :
    Bool × Machine :=
  match process.channel? descriptor with
  | some channel => (true, machine.write channel (ByteText.toBytes text))
  | none => (false, machine)

/-- Writes a message to where errors go. -/
def complain (machine : Machine) (process : Process) (message : String) : Machine :=
  (machine.print process 2 (message ++ "\n")).2

end Machine

end MutantHunt.Sandbox
