import MutantHunt.Sandbox.Machine
import MutantHunt.Sandbox.Shell.Grammar
import MutantHunt.Sandbox.Shell.Options

/-!
# The state of a running script

A `Shell` is a process that runs a script, with the machine it runs on: its variables and functions, the
status of the command before, the processes it has put beside itself, and where it goes on (`Flow`). As
long as the flow is `onward` the next command is run; anything else is on its way to a loop, a function
or the end of the script.
-/

namespace MutantHunt.Sandbox.Shell

/-- What a variable holds. -/
inductive Value where
  | text (text : String)
  /-- Elements by number, in ascending order. -/
  | array (elements : List (Nat × String))
  /-- Elements by name. -/
  | table (elements : List (String × String))
  deriving DecidableEq, Repr, Inhabited

namespace Value

/-- An array of elements that are numbered without gaps. -/
def ofList (elements : List String) : Value :=
  .array (elements.zipIdx.map fun (element, n) => (n, element))

/-- The text of a value. Of an array it is the first element. -/
def toText : Value → String
  | text value => value
  | array elements => (elements.lookup 0).getD ""
  | table elements => (elements.lookup "0").getD ""

/-- All elements. -/
def toList : Value → List String
  | text value => [value]
  | array elements => elements.map Prod.snd
  | table elements => elements.map Prod.snd

/-- The names or numbers of all elements. -/
def keys : Value → List String
  | text _ => ["0"]
  | array elements => elements.map fun entry => entry.1.repr
  | table elements => elements.map Prod.fst

/-- The elements of an array by number. A text is its first element. -/
def numbered : Value → List (Nat × String)
  | text value => [(0, value)]
  | array elements => elements
  | table _ => []

/-- Sets an element of an array. -/
def insert (n : Nat) (text : String) (elements : List (Nat × String)) : List (Nat × String) :=
  elements.takeWhile (·.1 < n) ++ (n, text) :: elements.filter (n < ·.1)

end Value

/-- Where a script goes on. -/
inductive Flow where
  | onward
  /-- Leaves so many loops. -/
  | breaks (loops : Nat)
  /-- Goes on with the next round of a loop so many loops further out. -/
  | continues (loops : Nat)
  | returns (status : Nat)
  | exits (status : Nat)
  /-- A command could not be carried out, and nothing else on its line is. -/
  | fails (status : Nat)
  /-- The process has come to its end by force. -/
  | dies (exit : Exit)
  deriving DecidableEq, Repr, Inhabited

/-- A function of a script. -/
structure Definition where
  body : Command
  /-- The file where it is defined. -/
  origin : Option String
  deriving Repr, Inhabited

/-- A process that runs beside the script. -/
structure Job where
  process : Nat
  /-- When it ends. -/
  done : Nat
  status : Nat
  deriving Repr, Inhabited

end Shell

open Shell in
/-- A process that runs a script. -/
structure Shell where
  machine : Machine
  dialect : Dialect := .dash
  /-- Its name and arguments are those of the script. -/
  process : Process
  /-- The number of this process. -/
  number : Nat
  /-- The number of the process that runs the script as a whole. -/
  mainNumber : Nat
  /-- When the script was started. -/
  begin_ : Nat := 0
  bindings : List (String × Value) := []
  /-- What is special about variables, by letters. -/
  marks : List (Char × String) := []
  /-- The variables that are passed on to other programs. -/
  exported : List String := []
  /-- The variables that belong to the running function, with what they held before. There are none
  outside of functions. -/
  locals : Option (List (String × Option Value)) := none
  functions : List (String × Definition) := []
  /-- The functions that are running, the innermost first. -/
  callers : List String := []
  /-- Other words for the words at the beginning of commands. -/
  aliases : List (String × String) := []
  /-- The line of the command that runs. -/
  line : Nat := 1
  /-- The file where the commands stand that run. There is none for a script that is an argument. -/
  origin : Option String := none
  /-- What speaks in messages: a command that the shell runs by itself, or a file that it reads. -/
  speaker : Option String := none
  /-- How many loops are running. -/
  loops : Nat := 0
  /-- The status of the command before. -/
  status : Nat := 0
  /-- The status of each command of the latest pipeline. -/
  statuses : List Nat := [0]
  /-- The status of the latest command whose output became part of a word. -/
  substituted : Option Nat := none
  jobs : List Job := []
  /-- The process that was put beside the script last. -/
  latestJob : Option Nat := none
  /-- The options that are set, by their letters. -/
  options : List Char := []
  /-- Options with long names that one of the shells has. -/
  features : List String := []
  /-- Whether a failing command is expected here. -/
  tolerant : Bool := false
  /-- What is run at the end. -/
  farewell : Option String := none
  /-- What is run when a signal arrives. A signal for which this is empty is ignored. -/
  handlers : List (Nat × String) := []
  /-- What is run when a command fails. -/
  onFailure : Option String := none
  /-- Signals that have arrived and are still to be handled. -/
  arrived : List Nat := []
  /-- Directories to go back to. -/
  visited : List Place := []
  flow : Flow := .onward
  deriving Inhabited

namespace Shell

/-- Whether the next command is run. -/
def goesOn (sh : Shell) : Bool :=
  sh.flow == .onward

/-- Whether this is the shell that knows more. -/
def isBash (sh : Shell) : Bool :=
  sh.dialect == .bash

/-- Sets the status. -/
def withStatus (sh : Shell) (status : Nat) : Shell :=
  { sh with status }

/-- Lets time pass, and ends the process if it was killed, if its deadline has passed, or if it cannot write
any more. -/
def settle (sh : Shell) (microseconds : Nat) : Shell :=
  let sh := { sh with machine := sh.machine.elapse microseconds }
  match sh.machine.fate? sh.number with
  | some signal =>
    if signal != 9 && (sh.handlers.lookup signal).isSome then
      { sh with machine := sh.machine.spare sh.number, arrived := sh.arrived ++ [signal] }
    else { sh with flow := .dies (.signal signal) }
  | none =>
    if sh.process.isOverdue sh.machine.clock then { sh with flow := .dies .overdue }
    else if sh.machine.isFull then { sh with flow := .dies (.signal 13) } else sh

/-- Waits until a time. -/
def awaits (sh : Shell) (time : Nat) : Shell :=
  { sh with machine := sh.machine.advance time }.settle 0

/-- One of two texts, each in the words of one shell. -/
def wording (sh : Shell) (dash bash : String) : String :=
  if sh.isBash then bash else dash

/-- Writes a line to where errors go. -/
def mutter (sh : Shell) (line : String) : Shell :=
  { sh with machine := sh.machine.complain sh.process line }

/-- The name of the command that speaks, as it stands in front of what it says. -/
def spoken (sh : Shell) : String :=
  (sh.speaker.map (· ++ ": ")).getD ""

/-- What messages start with: where the commands stand that run. In one of the shells, the command that
speaks is always named. -/
def heading (sh : Shell) : String :=
  match sh.dialect with
  | .dash => sh.process.name ++ ": " ++ sh.line.repr ++ ": " ++ sh.spoken
  | .bash => sh.origin.getD sh.process.name ++ ": line " ++ sh.line.repr ++ ": "

/-- Writes a message to where errors go. -/
def complain (sh : Shell) (message : String) : Shell :=
  sh.mutter (sh.heading ++ message)

/-- Writes a message of the command that speaks, in the words of each shell. -/
def object (sh : Shell) (dash bash : String) : Shell :=
  sh.complain (sh.wording dash (sh.spoken ++ bash))

/-- Does something in the name of a command. -/
def speaking (sh : Shell) (speaker : Option String) (body : Shell → Shell) : Shell :=
  { body { sh with speaker } with speaker := sh.speaker }

/-- Gives up what is being done. -/
def giveUp (sh : Shell) : Shell :=
  let status := if sh.isBash then 1 else 2
  { sh with flow := .fails status, status }

/-- Gives up what is being done, with a message. -/
def stop (sh : Shell) (message : String) : Shell :=
  (sh.complain message).giveUp

/-- Gives up what is being done, with a message in the words of each shell. -/
def abort (sh : Shell) (dash bash : String) : Shell :=
  sh.stop (sh.wording dash bash)

/-- Goes on behind what was given up. -/
def recover (sh : Shell) : Shell :=
  match sh.flow with
  | .fails status => { sh with flow := .onward, status }
  | _ => sh

/-- Gives up with a message of the command that speaks, in the words of each shell. -/
def reject (sh : Shell) (dash bash : String) : Shell :=
  (sh.object dash bash).giveUp

/-- Ends the script with a message in the words of each shell. -/
def abandon (sh : Shell) (dash bash : String) : Shell :=
  let status := if sh.isBash then 127 else 2
  { sh.complain (sh.wording dash bash) with
    flow := if sh.isBash then .exits status else .fails status, status }

/-- Ends the script because a variable has no value. -/
def miss (sh : Shell) (name : String) (index : Option String) : Shell :=
  let sign := if (name.toList.head?).any fun c => c.isAlpha || c == '_' then "" else "$"
  let place := (index.map fun index => "[" ++ index ++ "]").getD ""
  sh.abandon (name ++ ": parameter not set") (sign ++ name ++ place ++ ": unbound variable")

/-- Prints text. Fails if the output is closed. -/
def print (sh : Shell) (text : String) : Shell :=
  let (good, machine) := sh.machine.print sh.process 1 text
  { sh with machine, status := if good then 0 else 1 }

/-! ## Variables -/

/-- The value of a variable, as far as it is a variable that can be set. -/
def stored? (sh : Shell) (name : String) : Option Value :=
  sh.bindings.lookup name

/-- Whether a variable has a mark. -/
def isMarked (sh : Shell) (mark : Char) (name : String) : Bool :=
  sh.marks.contains (mark, name)

/-- Gives a variable a mark. -/
def mark (sh : Shell) (mark : Char) (name : String) : Shell :=
  if sh.isMarked mark name then sh else { sh with marks := (mark, name) :: sh.marks }

/-- Takes a mark away from a variable. -/
def unmark (sh : Shell) (mark : Char) (name : String) : Shell :=
  { sh with marks := sh.marks.filter (· != (mark, name)) }

/-- Sets a variable, whether that is allowed or not. -/
def restore (sh : Shell) (name : String) (value : Value) : Shell :=
  if sh.bindings.any fun entry => entry.1 == name then
    { sh with
      bindings := sh.bindings.map fun entry => if entry.1 == name then (name, value) else entry }
  else { sh with bindings := sh.bindings ++ [(name, value)] }

/-- Sets a variable. -/
def store (sh : Shell) (name : String) (value : Value) : Shell :=
  if sh.isMarked 'r' name then sh.abort (name ++ ": is read only") (name ++ ": readonly variable")
  else
    let sh := sh.restore name value
    if sh.options.contains 'a' && !sh.exported.contains name then
      { sh with exported := sh.exported ++ [name] }
    else sh

/-- A text with its letters in the case that a variable asks for. -/
def recased (sh : Shell) (name text : String) : String :=
  if sh.isMarked 'u' name then text.map Char.toUpper
  else if sh.isMarked 'l' name then text.map Char.toLower else text

/-- Sets a variable to a text. Of an array this sets the first element. -/
def storeText (sh : Shell) (name value : String) : Shell :=
  let value := sh.recased name value
  match sh.stored? name with
  | some (.array elements) => sh.store name (.array (Value.insert 0 value elements))
  | some (.table elements) => sh.store name (.table (elements.filter (·.1 != "0") ++ [("0", value)]))
  | _ => sh.store name (.text value)

/-- Takes a variable away. -/
def forget (sh : Shell) (name : String) : Shell :=
  { sh with
    bindings := sh.bindings.filter fun entry => entry.1 != name
    exported := sh.exported.filter (· != name)
    marks := sh.marks.filter fun entry => entry.2 != name }

/-- Makes a variable belong to the running function. -/
def makeLocal (sh : Shell) (name : String) : Shell :=
  match sh.locals with
  | none => sh.reject "not in a function" "can only be used in a function"
  | some entries =>
    if entries.any fun entry => entry.1 == name then sh
    else
      let sh := { sh with locals := some ((name, sh.stored? name) :: entries) }
      if sh.isBash then { sh with bindings := sh.bindings.filter fun entry => entry.1 != name } else sh

/-- Gives the variables that belong to the running function back what they held before. -/
def restoreLocals (sh : Shell) : Shell :=
  (sh.locals.getD []).foldl
    (fun sh (name, value) =>
      match value with
      | some value => sh.restore name value
      | none => { sh with bindings := sh.bindings.filter fun entry => entry.1 != name })
    sh

/-- Marks a variable to be passed on to other programs. -/
def «export» (sh : Shell) (name : String) : Shell :=
  if sh.exported.contains name then sh else { sh with exported := sh.exported ++ [name] }

/-- What other programs get as their environment. -/
def environment (sh : Shell) : List (String × String) :=
  sh.exported.filterMap fun name =>
    match sh.stored? name with
    | some (.text value) => some (name, value)
    | _ => none

/-- The parameters of the script. -/
def parameters (sh : Shell) : List String :=
  sh.process.arguments

/-- A process for a program that the script starts. -/
def child (sh : Shell) (name : String) (arguments : List String) : Process :=
  let path := ((sh.stored? "PATH").map Value.toText).getD ""
  { sh.process with name, arguments, environment := sh.environment, searched := some path }

/-- Replaces the parameters. -/
def withParameters (sh : Shell) (parameters : List String) : Shell :=
  { sh with process := { sh.process with arguments := parameters } }

/-- A number that nobody can foretell, or so it seems. -/
def randomNumber (sh : Shell) : Nat :=
  (sh.machine.clock * 1103515245 + sh.bindings.length * 12345 + 6789) / 65536 % 32768

/-- The value of a variable that the shell itself keeps up to date. -/
def kept? (sh : Shell) (name : String) : Option String :=
  if name == "LINENO" then some sh.line.repr
  else if !sh.isBash then none
  else
    match name with
    | "RANDOM" => some sh.randomNumber.repr
    | "SECONDS" => some ((sh.machine.clock - sh.begin_) / 1000000).repr
    | "BASHPID" => some sh.number.repr
    | "FUNCNAME" => sh.callers.head?
    | "PIPESTATUS" => sh.statuses.head?.map Nat.repr
    | "EPOCHSECONDS" => some (1700000000 + sh.machine.clock / 1000000).repr
    | _ => none

/-- All that a variable holds. -/
def contents? (sh : Shell) (name : String) : Option Value :=
  match sh.stored? name with
  | some value => some value
  | none =>
    if !sh.isBash then none
    else
      match name with
      | "PIPESTATUS" => some (.ofList (sh.statuses.map Nat.repr))
      | "FUNCNAME" => if sh.callers.isEmpty then none else some (.ofList sh.callers)
      | "DIRSTACK" => some (.ofList ((sh.process.directory :: sh.visited).map Place.path))
      | "GROUPS" => some (.ofList ["1000"])
      | _ => (sh.kept? name).map .text

/-- The value of any variable, those of one character included. -/
def value? (sh : Shell) (name : String) : Option String :=
  match name with
  | "?" => some sh.status.repr
  | "#" => some sh.parameters.length.repr
  | "$" => some sh.mainNumber.repr
  | "!" => sh.latestJob.map Nat.repr
  | "-" => some (String.ofList (sh.dialect.optionLetters.filter sh.options.contains))
  | "0" => some sh.process.name
  | _ =>
    match name.toNat? with
    | some n => sh.parameters[n - 1]?
    | none =>
      match sh.stored? name with
      | some (.array elements) => elements.lookup 0
      | some (.table elements) => elements.lookup "0"
      | some (.text value) => some value
      | none => sh.kept? name

/-- The characters that separate fields. -/
def separators (sh : Shell) : List Char :=
  match sh.stored? "IFS" with
  | some value => value.toText.toList
  | none => [' ', '\t', '\n']

/-- Turns options on or off by their letters. -/
def setOptions (sh : Shell) (on : Bool) (letters : List Char) : Shell :=
  let others := sh.options.filter fun c => !letters.contains c
  { sh with options := if on then others ++ letters else others }

/-- Turns a feature on or off by its name. -/
def setFeature (sh : Shell) (on : Bool) (name : String) : Shell :=
  let others := sh.features.filter (· != name)
  { sh with features := if on then name :: others else others }

/-- Whether an option is on, by its letter or its name. -/
def isOn (sh : Shell) (name : String) (letter : Option Char) : Bool :=
  match letter with
  | some letter => sh.options.contains letter
  | none => sh.features.contains name

end Shell

end MutantHunt.Sandbox
