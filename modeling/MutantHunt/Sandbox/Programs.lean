import MutantHunt.Sandbox.Shell.Builtin
import MutantHunt.Sandbox.Shell.Script
import MutantHunt.Sandbox.Tools

/-!
# Starting programs

`startProgram` does what a system does to start a program: it looks the program up, checks that it may be
executed, and runs it. A script names the program that reads it in its first line, behind `#!`.

Some of the standard programs start another program themselves. They fall back on the shell for files
that are executable but no program, which the system itself refuses.
-/

namespace MutantHunt.Sandbox

open Shell

/-- Checks that there is a program at a path. Gives its content. -/
def programAt (machine : Machine) (directory : Place) (path : String) :
    Except OsError (List UInt8) :=
  match machine.files.find directory path with
  | .error e => .error e
  | .ok (_, .file content mode) =>
    if (Item.file content mode).allows executable then .ok content else .error .permissionDenied
  | .ok _ => .error .permissionDenied

/-- Looks a program up among directories. A program that may not be executed is passed over, but
remembered as the reason to give up. -/
def search (machine : Machine) (directory : Place) (name : String) :
    OsError → List String → Except OsError (String × List UInt8)
  | reason, [] => .error reason
  | reason, where_ :: rest =>
    let path := if where_.isEmpty then name else where_ ++ "/" ++ name
    match programAt machine directory path with
    | .ok content => .ok (path, content)
    | .error .permissionDenied => search machine directory name .permissionDenied rest
    | .error _ => search machine directory name reason rest

/-- The directories where programs are looked up if the environment names none. -/
def defaultPath : String := "/bin:/usr/bin"

/-- Finds a program by its name. Only a name without a slash is looked up. -/
def findProgram (machine : Machine) (process : Process) (name : String) :
    Except OsError (String × List UInt8) :=
  if name.isEmpty then .error .notFound
  else if name.toList.contains '/' then
    (programAt machine process.directory name).map (name, ·)
  else
    let path := process.searched.getD ((process.valueOf? "PATH").getD defaultPath)
    search machine process.directory name .notFound (path.splitOn ":")

/-- What a program is, by its content. -/
inductive Image where
  /-- One of the programs that every machine has. -/
  | standard (name : String)
  /-- A script, with the program that reads it and an argument for that program. -/
  | script (interpreter : String) (argument : Option String)
  | unknown
  deriving DecidableEq, Repr

/-- Tells what a program is by its content. -/
def Image.ofContent (content : List UInt8) : Image :=
  let text := (ByteText.ofBytes (content.take 256)).toList
  match text with
  | '#' :: '!' :: rest =>
    let isBlank (c : Char) : Bool := c == ' ' || c == '\t'
    let line := (rest.takeWhile (· != '\n')).dropWhile isBlank
    let line := (line.reverse.dropWhile isBlank).reverse
    let interpreter := line.takeWhile (!isBlank ·)
    let argument := (line.drop interpreter.length).dropWhile isBlank
    if interpreter.isEmpty then .unknown
    else
      .script (String.ofList interpreter)
        (if argument.isEmpty then none else some (String.ofList argument))
  | _ =>
    let all := ByteText.ofBytes content
    if all.startsWith programMarker then .standard (all.drop programMarker.length).toString
    else .unknown

/-- Starts a program that is named by a process, and gives how it ends. -/
abbrev Starter := Process → Machine → Except OsError Exit × Machine

/-- Runs a process up to its deadline, if it has one. -/
def upToDeadline (process : Process) (body : Machine → Exit × Machine) (machine : Machine) :
    Exit × Machine :=
  let (exit, machine) := machine.within process.deadline body
  (if process.isOverdue machine.clock then .overdue else exit, machine.release process)

/-- Starts the program that a list of words names, with the process otherwise as it is. What cannot be
started gives a status that says so. -/
def startWords (start : Starter) (process : Process) (words : List String) (machine : Machine) :
    Exit × Machine :=
  match words with
  | [] => (.code 0, machine)
  | name :: arguments =>
    match start { process with name, arguments } machine with
    | (.ok exit, machine) => (exit, machine)
    | (.error e, machine) =>
      let wording :=
        match process.name with
        | "timeout" => "failed to run command " ++ quoted name
        | "xargs" => name
        | "setsid" => "failed to execute " ++ name
        | _ => quoted name
      let machine := machine.complain process (process.name ++ ": " ++ wording ++ ": " ++ e.wording)
      (.code (if e == .notFound then 127 else 126), machine)

/-- Runs a command in a changed environment, or prints the environment. -/
def runEnv (start : Starter) : Nat → Process → List String → Machine → Exit × Machine
  | 0, _, _, machine => (.code 125, machine)
  | n + 1, process, words, machine =>
    match words with
    | [] =>
      let lines := process.environment.map fun (name, value) => name ++ "=" ++ value ++ "\n"
      (.code 0, say process machine (String.join lines))
    | word :: rest =>
      if word == "-i" || word == "-" || word == "--ignore-environment" then
        runEnv start n { process with environment := [] } rest machine
      else if word == "-u" then
        runEnv start n (process.unsetVariable (rest.headD "")) (rest.drop 1) machine
      else if word.startsWith "--unset=" then
        runEnv start n (process.unsetVariable (word.drop 8).toString) rest machine
      else if word == "-S" then
        runEnv start n process
          (((rest.headD "").splitOn " ").filter (!·.isEmpty) ++ rest.drop 1) machine
      else if word == "--" then startWords start process rest machine
      else
        match word.splitOn "=" with
        | name :: first :: more =>
          if name.isEmpty then startWords start process words machine
          else runEnv start n (process.setVariable name ("=".intercalate (first :: more))) rest machine
        | _ => startWords start process words machine

/-- What `timeout` was asked for. -/
structure Timeout where
  signal : Nat := 15
  /-- Whether the status is that of the command even when it was stopped. -/
  keepsStatus : Bool := false
  words : List String := []
  good : Bool := true

/-- Takes the options of `timeout` off its arguments. -/
def Timeout.ofWords (asked : Timeout) : List String → Timeout
  | "-s" :: name :: rest | "--signal" :: name :: rest =>
    match Builtin.signal? name with
    | some signal => ofWords { asked with signal } rest
    | none => { asked with good := false }
  | "-k" :: _ :: rest | "--kill-after" :: _ :: rest => ofWords asked rest
  | "--" :: rest => { asked with words := rest }
  | word :: rest =>
    if word.startsWith "--signal=" || word.startsWith "-s" then
      let name := if word.startsWith "-s" then (word.drop 2).toString else (word.drop 9).toString
      match Builtin.signal? name with
      | some signal => ofWords { asked with signal } rest
      | none => { asked with good := false }
    else if word == "--preserve-status" || word == "-p" then ofWords { asked with keepsStatus := true } rest
    else if word.startsWith "-" && word.length > 1 then ofWords asked rest
    else { asked with words := word :: rest }
  | [] => asked

/-- Runs a command and stops it when a time has passed. -/
def runTimeout (start : Starter) (process : Process) (machine : Machine) : Exit × Machine :=
  let asked := Timeout.ofWords {} process.arguments
  match asked.words with
  | limit :: command =>
    match Tools.sleep.microseconds? limit with
    | none => (.code 125, machine.complain process "timeout: invalid time interval")
    | some limit =>
      if !asked.good || command.isEmpty then (.code 125, machine.complain process "timeout: usage")
      else if limit = 0 then startWords start process command machine
      else
        let end_ := machine.clock + limit
        let sooner := process.deadline.all fun deadline => end_ < deadline
        let inner := if sooner then { process with deadline := some end_ } else process
        match startWords start inner command machine with
        | (.overdue, machine) =>
          if !sooner then (.overdue, machine)
          else if asked.signal = 9 || asked.keepsStatus then (.code (128 + asked.signal), machine)
          else (.code 124, machine)
        | (.signal n, machine) => (.code (128 + n), machine)
        | other => other
  | [] => (.code 125, machine)

/-- Sends a signal to processes, or names signals. -/
def runKill (process : Process) (machine : Machine) : Exit × Machine :=
  match Builtin.killArguments process.arguments with
  | .ok (signal, targets) =>
    let numbers := targets.map String.toNat?
    let known (n : Option Nat) : Bool := n.any machine.isProcess
    let machine := (numbers.filterMap id).foldl
      (fun machine n => if Builtin.isDeadly signal then machine.doom n signal else machine) machine
    (.code (if numbers.all known && !numbers.isEmpty then 0 else 1), machine)
  | .error _ => (.code 1, machine)

/-- What `xargs` was asked for. -/
structure Grouping where
  /-- How many words a command gets at most. -/
  most : Option Nat := none
  /-- What stands for a line of the input in the command. -/
  marker : Option String := none
  /-- The character between words, where it is a single one. -/
  delimiter : Option Char := none
  /-- Whether nothing is run without any words. -/
  skipsNone : Bool := false
  command : List String := []

/-- Takes the options of `xargs` off its arguments. The number bounds how many arguments there are. -/
def Grouping.ofWords (asked : Grouping) : Nat → List String → Grouping
  | 0, command => { asked with command }
  | n + 1, words =>
    let value (letter word : String) (rest : List String) : String × List String :=
      if word == letter then (rest.headD "", rest.drop 1) else ((word.drop 2).toString, rest)
    match words with
    | word :: rest =>
      if word == "--" then { asked with command := rest }
      else if word == "-r" || word == "--no-run-if-empty" then ofWords { asked with skipsNone := true } n rest
      else if word == "-0" || word == "--null" then ofWords { asked with delimiter := some '\x00' } n rest
      else if word.startsWith "-n" then
        let (count, rest) := value "-n" word rest
        ofWords { asked with most := count.toNat? } n rest
      else if word.startsWith "-L" then
        let (count, rest) := value "-L" word rest
        ofWords { asked with most := count.toNat?, delimiter := some '\n' } n rest
      else if word.startsWith "-I" then
        let (marker, rest) := value "-I" word rest
        ofWords { asked with marker := some marker, most := some 1, delimiter := some '\n' } n rest
      else if word.startsWith "-d" then
        let (text, rest) := value "-d" word rest
        let delimiter := (if text == "\\n" then some '\n' else text.toList.head?)
        ofWords { asked with delimiter } n rest
      else if word.startsWith "-P" then ofWords asked n (value "-P" word rest).2
      else if word.startsWith "-" && word.length > 1 then ofWords asked n rest
      else { asked with command := words }
    | [] => asked

/-- Reads words as `xargs` does: quotes and backslashes protect what separates words. The number bounds how
many characters are left. -/
def quotedWords : Nat → Option (List Char) → List Char → List (List Char)
  | 0, word, _ => word.toList
  | _ + 1, word, [] => word.toList.map List.reverse
  | n + 1, word, c :: rest =>
    let before := word.getD []
    if c == ' ' || c == '\t' || c == '\n' then
      word.toList.map List.reverse ++ quotedWords n none rest
    else if c == '\\' then quotedWords n (some ((rest.take 1) ++ before)) (rest.drop 1)
    else if c == '"' || c == '\x27' then
      let inner := rest.takeWhile (· != c)
      quotedWords n (some (inner.reverse ++ before)) (rest.drop (inner.length + 1))
    else quotedWords n (some (c :: before)) rest

/-- Runs a command once for each group of words. The number bounds how many groups there are. -/
def runGroups (start : Starter) (process : Process) (asked : Grouping) (command : List String) (size : Nat) :
    Nat → List String → Nat → Machine → Exit × Machine
  | 0, _, status, machine => (.code status, machine)
  | n + 1, words, status, machine =>
    if words.isEmpty then (.code status, machine)
    else
      let group := words.take size
      let line :=
        match asked.marker with
        | some marker => command.map fun word => word.replace marker (group.headD "")
        | none => command ++ group
      match startWords start process line machine with
      | (.overdue, machine) => (.overdue, machine)
      | (.code 255, machine) => (.code 124, machine)
      | (.signal _, machine) => (.code 125, machine)
      | (.code 126, machine) => (.code 126, machine)
      | (.code 127, machine) => (.code 127, machine)
      | (exit, machine) =>
        runGroups start process asked command size n (words.drop size)
          (if exit.isSuccess then status else 123) machine

/-- Runs a command with words from the input as further arguments. -/
def runXargs (start : Starter) (process : Process) (machine : Machine) : Exit × Machine :=
  let asked := Grouping.ofWords {} (process.arguments.length + 1) process.arguments
  let command := if asked.command.isEmpty then ["echo"] else asked.command
  let (input, machine) := machine.readAll process 0
  let text := ByteText.ofBytes input.bytes
  let words :=
    match asked.delimiter with
    | some c =>
      let parts : List String := text.splitOn c.toString
      let parts := if parts.getLast? == some "" then parts.dropLast else parts
      if c == '\n' then parts.filter fun part => part != "" else parts
    | none => (quotedWords (text.length + 1) none text.toList).map String.ofList
  let process := { process with channels := (0, .sink) :: process.channels.filter (·.1 != 0) }
  if words.isEmpty then
    if asked.skipsNone || asked.marker.isSome then (.code 0, machine)
    else startWords start process command machine
  else
    let size := max 1 (asked.most.getD words.length)
    runGroups start process asked command size (words.length + 1) words 0 machine

/-- Takes the options of `nice` off its arguments. -/
def niceCommand : List String → List String
  | "-n" :: _ :: rest => niceCommand rest
  | word :: rest =>
    if word == "--" then rest
    else if word.startsWith "-" && word.length > 1 then niceCommand rest else word :: rest
  | [] => []

/-- Runs one of the programs that every machine has. -/
def runStandard (run : Runner) (start : Starter) (name : String) (process : Process)
    (machine : Machine) : Exit × Machine :=
  match name with
  | "sh" | "dash" => runShell run .dash process machine
  | "bash" => runShell run .bash process machine
  | "env" =>
    runEnv start (process.arguments.length + 1) process process.arguments (machine.elapse 1000)
  | "timeout" => runTimeout start process (machine.elapse 1000)
  | "find" =>
    let exec (words : List String) (machine : Machine) : Bool × Machine :=
      let (exit, machine) := startWords start process words machine
      (exit.isSuccess, machine)
    let (status, machine) := Tools.findFiles exec process (machine.elapse 1000)
    (.code status, machine)
  | "nice" | "nohup" | "setsid" | "stdbuf" => startWords start process (niceCommand process.arguments) (machine.elapse 1000)
  | "kill" => runKill process (machine.elapse 1000)
  | "xargs" => runXargs start process (machine.elapse 1000)
  | _ =>
    match tool? name with
    | some tool =>
      let (status, machine) := tool process (machine.elapse 1000)
      (if status = 141 then .signal 13 else .code status, machine)
    | none => (.code 127, machine)

/-- How long a single argument, or a variable with its name, may be in bytes. -/
def argumentLimit : Nat := 131072

/-- How long all arguments and variables of a process may be together in bytes. -/
def argumentsLimit : Nat := 2097152

/-- Whether a process has more arguments and variables than the system passes on. -/
def isOverlong (process : Process) : Bool :=
  let lengths := (process.name :: process.arguments).map String.length
    ++ process.environment.map fun (name, value) => name.length + 1 + value.length
  lengths.any (argumentLimit ≤ · + 1) || argumentsLimit < lengths.foldl (fun total n => total + n + 9) 0

/-- Starts the program that a process is named by. A file that is no program is read by a shell, if there is
one to fall back on. The number bounds how many programs may start each other. -/
def startProgram (run : Runner) : Nat → (fallback : Option Dialect) → Starter
  | 0, _, _, machine => (.error .tooManyLinks, machine)
  | n + 1, fallback, process, machine =>
    match findProgram machine process process.name with
    | .error e => (.error e, machine)
    | .ok (path, content) =>
      if isOverlong process then (.error .argumentsTooLong, machine)
      else
        let process := { process with searched := none }
        let running (body : Machine → Exit × Machine) : Except OsError Exit × Machine :=
          let (exit, machine) := upToDeadline process body machine
          (.ok exit, machine)
        match Image.ofContent content, fallback with
        | .standard name, _ =>
          running (runStandard run (startProgram run n (some .dash)) name process)
        | .script interpreter argument, _ =>
          let name := if interpreter.contains '/' then interpreter else "./" ++ interpreter
          startProgram run n none
            { process with name, arguments := argument.toList ++ path :: process.arguments } machine
        | .unknown, some dialect =>
          let shell := if dialect == .dash then "/bin/sh" else "/bin/bash"
          running (runShell run dialect { process with name := shell, arguments := path :: process.arguments })
        | .unknown, none => (.error .notExecutable, machine)

/-- How many programs may start each other. -/
def startDepth : Nat := 1000

end MutantHunt.Sandbox
