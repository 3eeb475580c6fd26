import MutantHunt.Sandbox.Shell.Pattern
import MutantHunt.Sandbox.Tools.Disk

/-!
# Finding files

`findFiles` goes through directories and does what a criterion says with everything it meets. A criterion
holds or not, and may do something on the way: print a path, remove what is there, or run a command. How a
command is run is left to whoever uses this module.
-/

namespace MutantHunt.Sandbox.Tools

/-- How a number has to compare. -/
inductive Comparison where
  | less (n : Nat)
  | equal (n : Nat)
  | more (n : Nat)
  deriving DecidableEq, Repr

/-- Whether a number compares so. -/
def Comparison.holds (m : Nat) : Comparison → Bool
  | less n => m < n
  | equal n => m == n
  | more n => n < m

/-- Reads a comparison from a number with a sign. -/
def Comparison.ofText? (text : String) : Option Comparison :=
  match text.toList with
  | '+' :: rest => ((String.ofList rest).toNat?).map more
  | '-' :: rest => ((String.ofList rest).toNat?).map less
  | chars => ((String.ofList chars).toNat?).map equal

/-- What is asked of a file, and what is done with it. -/
inductive Criterion where
  | always (holds : Bool)
  | name (pattern : String) (anyCase wholePath : Bool)
  | kind (letters : List Char)
  | empty
  | size (comparison : Comparison) (unit : Nat)
  | mode (bits : Nat) (all some_ : Bool)
  | allows (bit : Nat)
  | print (ending : String)
  | delete
  | prune
  | quit
  /-- Runs a command, with the path in the place of two braces. -/
  | run (words : List String)
  /-- Runs a command once with all paths. -/
  | runAll (words : List String)
  | negation (criterion : Criterion)
  | both (first second : Criterion)
  | either (first second : Criterion)
  deriving Repr, Inhabited

/-- Whether a criterion does something. -/
def Criterion.acts : Criterion → Bool
  | print _ | delete | run _ | runAll _ | quit => true
  | negation c => c.acts
  | both a b | either a b => a.acts || b.acts
  | _ => false

/-- Whether something is removed. -/
def Criterion.deletes : Criterion → Bool
  | delete => true
  | negation c => c.deletes
  | both a b | either a b => a.deletes || b.deletes
  | _ => false

/-- The unit that a letter behind a size stands for. -/
def sizeUnit (text : String) : String × Nat :=
  match text.toList.getLast? with
  | some 'c' => (String.ofList text.toList.dropLast, 1)
  | some 'w' => (String.ofList text.toList.dropLast, 2)
  | some 'k' => (String.ofList text.toList.dropLast, 1024)
  | some 'M' => (String.ofList text.toList.dropLast, 1048576)
  | some 'b' => (String.ofList text.toList.dropLast, 512)
  | _ => (text, 512)

mutual

/-- Reads criteria of which one has to hold. -/
def readEitherOf : Nat → List String → Option (Criterion × List String)
  | 0, _ => none
  | n + 1, words => do
    let (first, rest) ← readBothOf n words
    match rest with
    | "-o" :: rest | "-or" :: rest =>
      let (second, rest) ← readEitherOf n rest
      some (.either first second, rest)
    | "," :: rest =>
      let (second, rest) ← readEitherOf n rest
      some (.either (.both first (.always false)) second, rest)
    | _ => some (first, rest)

/-- Reads criteria that all have to hold. -/
def readBothOf : Nat → List String → Option (Criterion × List String)
  | 0, _ => none
  | n + 1, words => do
    let (first, rest) ← readCriterion n words
    match rest with
    | [] | "-o" :: _ | "-or" :: _ | ")" :: _ | "," :: _ => some (first, rest)
    | "-a" :: rest | "-and" :: rest =>
      let (second, rest) ← readBothOf n rest
      some (.both first second, rest)
    | _ =>
      let (second, rest) ← readBothOf n rest
      some (.both first second, rest)

/-- Reads one criterion. -/
def readCriterion : Nat → List String → Option (Criterion × List String)
  | 0, _ => none
  | n + 1, words =>
    match words with
    | "!" :: rest | "-not" :: rest => do
      let (criterion, rest) ← readCriterion n rest
      some (.negation criterion, rest)
    | "(" :: rest => do
      match ← readEitherOf n rest with
      | (criterion, ")" :: rest) => some (criterion, rest)
      | _ => none
    | "-name" :: pattern :: rest => some (.name pattern false false, rest)
    | "-iname" :: pattern :: rest => some (.name pattern true false, rest)
    | "-path" :: pattern :: rest | "-wholename" :: pattern :: rest => some (.name pattern false true, rest)
    | "-type" :: letters :: rest => some (.kind (letters.toList.filter (· != ',')), rest)
    | "-empty" :: rest => some (.empty, rest)
    | "-size" :: text :: rest => do
      let (number, unit) := sizeUnit text
      some (.size (← Comparison.ofText? number) unit, rest)
    | "-perm" :: text :: rest => do
      let digits := if text.startsWith "-" || text.startsWith "/" then (text.drop 1).toString else text
      let change ← Mode.change? 0 digits
      some (.mode (change 0) (text.startsWith "-") (text.startsWith "/"), rest)
    | "-readable" :: rest => some (.allows readable, rest)
    | "-writable" :: rest => some (.allows writable, rest)
    | "-executable" :: rest => some (.allows executable, rest)
    | "-true" :: rest => some (.always true, rest)
    | "-false" :: rest => some (.always false, rest)
    | "-print" :: rest => some (.print "\n", rest)
    | "-print0" :: rest => some (.print "\x00", rest)
    | "-delete" :: rest => some (.delete, rest)
    | "-prune" :: rest => some (.prune, rest)
    | "-quit" :: rest => some (.quit, rest)
    | "-exec" :: rest | "-ok" :: rest =>
      let command := rest.takeWhile fun word => word != ";"
      let upToPlus := rest.takeWhile fun word => word != "+"
      if upToPlus.getLast? == some "\x7b\x7d" && upToPlus.length < command.length then
        some (.runAll upToPlus.dropLast, rest.drop (upToPlus.length + 1))
      else if command.length < rest.length && !command.isEmpty then
        some (.run command, rest.drop (command.length + 1))
      else none
    | _ => none

end

/-- What finding is about. -/
structure Finding where
  criterion : Criterion
  least : Nat := 0
  most : Option Nat := none
  /-- Whether a directory comes after what is inside it. -/
  insideFirst : Bool := false
  /-- Whether links are followed. -/
  follows : Bool := false

/-- How far finding is. -/
structure Found where
  machine : Machine
  status : Nat := 0
  pruned : Bool := false
  stopped : Bool := false
  /-- The paths that commands still have to be run for all together. -/
  waiting : List (List String × String) := []

/-- Runs a command, and tells whether it succeeded. -/
abbrev CommandRunner := List String → Machine → Bool × Machine

/-- What is at a path. -/
def entryAt (finding : Finding) (files : Files) (directory : Place) (path : String) :
    Except OsError (Place × Item) :=
  match files.find directory path, finding.follows with
  | .ok found, true => .ok found
  | _, _ => files.findEntry directory path

/-- The letter of what is at a place. -/
def kindLetter : Item → Char
  | .directory _ => 'd'
  | .link _ => 'l'
  | .queue _ _ => 'p'
  | .sink | .endless _ => 'c'
  | .file _ _ => 'f'

/-- Whether a criterion holds for what is at a path, and what it does. -/
def meets (process : Process) (exec : CommandRunner) (path : String) (place : Place) (item : Item) :
    Criterion → Found → Bool × Found
  | .always holds, found => (holds, found)
  | .name pattern anyCase wholePath, found =>
    let text := if wholePath then path else lastName path
    let change (text : String) : String := if anyCase then text.map Char.toLower else text
    (Shell.patternFits false (Shell.Glyph.ofPattern (change pattern)) (change text), found)
  | .kind letters, found => (letters.contains (kindLetter item), found)
  | .empty, found =>
    (match item with
      | .file content _ => content.isEmpty
      | .directory _ => (found.machine.files.names place).isEmpty
      | _ => false, found)
  | .size comparison unit, found => (comparison.holds ((item.size + (unit - 1)) / unit), found)
  | .mode bits all some_, found =>
    (if all then item.mode &&& bits == bits
      else if some_ then bits == 0 || item.mode &&& bits != 0 else item.mode == bits, found)
  | .allows bit, found => (item.allows bit, found)
  | .print ending, found => (true, { found with machine := say process found.machine (path ++ ending) })
  | .delete, found =>
    let remove (files : Files) : Except OsError Files :=
      if item.isDirectory then files.removeDirectory process.directory path
      else files.remove process.directory path
    let (failed, machine) := alter process found.machine 1 path remove
    (failed == 0, { found with machine, status := max failed found.status })
  | .prune, found => (true, { found with pruned := true })
  | .quit, found => (true, { found with stopped := true })
  | .run words, found =>
    let (good, machine) := exec (words.map fun word => word.replace "\x7b\x7d" path) found.machine
    (good, { found with machine })
  | .runAll words, found => (true, { found with waiting := found.waiting ++ [(words, path)] })
  | .negation criterion, found =>
    let (holds, found) := meets process exec path place item criterion found
    (!holds, found)
  | .both first second, found =>
    match meets process exec path place item first found with
    | (true, found) => if found.stopped then (true, found) else meets process exec path place item second found
    | other => other
  | .either first second, found =>
    match meets process exec path place item first found with
    | (false, found) => meets process exec path place item second found
    | other => other

/-- Goes through what is at a path. The first number bounds how deep directories stand inside directories, the
second one says how deep this one does. -/
def findAt (finding : Finding) (process : Process) (exec : CommandRunner) :
    Nat → Nat → String → Found → Found
  | 0, _, _, found => found
  | n + 1, depth, path, found =>
    if found.stopped then found
    else
      match entryAt finding found.machine.files process.directory path with
      | .error e =>
        let (status, machine) := fail process found.machine 1 (path ++ ": " ++ e.wording)
        { found with machine, status }
      | .ok (place, item) =>
        let visit (found : Found) : Found :=
          if depth < finding.least then found else (meets process exec path place item finding.criterion found).2
        let before := if finding.insideFirst then found else visit { found with pruned := false }
        let within := item.isDirectory && finding.most.all (depth < ·) && !before.stopped
          && (finding.insideFirst || !before.pruned)
        let after :=
          if !within then before
          else
            match before.machine.files.listing place with
            | .error e =>
              let (status, machine) := fail process before.machine 1 (path ++ ": " ++ e.wording)
              { before with machine, status }
            | .ok names =>
              let start := if path.endsWith "/" then path else path ++ "/"
              names.foldl (fun found name => findAt finding process exec n (depth + 1) (start ++ name) found) before
        if finding.insideFirst then visit after else after

/-- Takes the global options off the words of an expression. -/
def findingOf (words : List String) : Option Finding :=
  let rec options : Nat → List String → Finding → Finding × List String
    | 0, words, finding => (finding, words)
    | n + 1, words, finding =>
      match words with
      | "-maxdepth" :: depth :: rest => options n rest { finding with most := depth.toNat? }
      | "-mindepth" :: depth :: rest => options n rest { finding with least := depth.toNat?.getD 0 }
      | "-depth" :: rest | "-d" :: rest => options n rest { finding with insideFirst := true }
      | "-xdev" :: rest | "-mount" :: rest | "-noleaf" :: rest => options n rest finding
      | word :: rest =>
        let (finding, more) := options n rest finding
        (finding, word :: more)
      | [] => (finding, [])
  let (finding, words) := options (words.length + 1) words { criterion := .always true }
  match if words.isEmpty then some (.always true, []) else readEitherOf (4 * words.length + 8) words with
  | some (criterion, []) =>
    some
      { finding with
        criterion := if criterion.acts then criterion else .both criterion (.print "\n")
        insideFirst := finding.insideFirst || criterion.deletes }
  | _ => none

/-- Finds files. -/
def findFiles (exec : CommandRunner) : Tool := fun process machine =>
  let follows := process.arguments.head? == some "-L"
  let arguments := process.arguments.filter fun a => !(["-L", "-H", "-P"].contains a)
  let isExpression (word : String) : Bool :=
    word.startsWith "-" || word == "(" || word == "!" || word == ")"
  let paths := arguments.takeWhile fun a => !isExpression a
  match findingOf (arguments.drop paths.length) with
  | none => fail process machine 1 "unknown predicate"
  | some finding =>
    let finding := { finding with follows }
    let depth := machine.files.items.length + 10
    let found := (if paths.isEmpty then ["."] else paths).foldl
      (fun found path => findAt finding process exec depth 0 path found) { machine }
    let commands := (found.waiting.map Prod.fst).eraseDups
    let (good, machine) := commands.foldl
      (fun (good, machine) command =>
        let paths := (found.waiting.filter fun entry => entry.1 == command).map Prod.snd
        let (succeeded, machine) := exec (command ++ paths) machine
        (good && succeeded, machine))
      (true, found.machine)
    (if good then found.status else 1, machine)

end MutantHunt.Sandbox.Tools
