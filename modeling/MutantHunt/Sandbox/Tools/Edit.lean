import MutantHunt.Sandbox.Tools.Basic
import MutantHunt.Sandbox.Tools.Edit.Script

/-!
# Editing lines

`sed` applies the steps of a script to each line of its input. `Editing` is a script under way: the line that
is being edited, the lines still to come, and what was printed. `Editing.step` does one step, `Editing.run`
all of them. What is edited is a text without end if its last line has no line break: then this line is
printed without one as well.
-/

namespace MutantHunt.Sandbox.Tools

/-- A text and whether a line break belongs behind it. -/
structure Held where
  text : List Char := []
  closed : Bool := true
  deriving DecidableEq, Repr, Inhabited

/-- A text behind another one, on a line of its own. -/
def Held.append (first second : Held) : Held :=
  ⟨first.text ++ '\n' :: second.text, second.closed⟩

/-- What the steps of a script leave to be done with a line. -/
inductive Course where
  /-- Goes on with the step of this number. -/
  | at (step : Nat)
  /-- Goes on with the next line, after this one was printed if that is wanted. -/
  | done (prints : Bool)
  /-- Goes on with the first step and what is left of the line. -/
  | again
  /-- Ends, after the line was printed if that is wanted. -/
  | stop (prints : Bool) (status : Nat)
  deriving DecidableEq, Repr, Inhabited

/-- A script under way. -/
structure Editing where
  /-- Whether lines are printed only where the script says so. -/
  quiet : Bool
  /-- What a file holds that the script puts into the output. -/
  contentOf : String → List Char
  line : Held := {}
  store : Held := {}
  /-- The lines still to come, and whether a line break follows the last of them. -/
  rest : List (List Char)
  restClosed : Bool
  /-- The number of the line. -/
  number : Nat := 0
  /-- The steps whose range of lines has begun, with the last line if that is known. -/
  ranges : List (Nat × Option Nat) := []
  /-- Whether something was replaced since the last jump that asked for it. -/
  replaced : Bool := false
  /-- The expression that was used last. -/
  regex : Regex := .nothing
  /-- What is printed behind the line. -/
  waiting : List (List Char) := []
  /-- What was printed, the latest piece first. -/
  output : List (List Char) := []
  /-- Whether a line break is missing at the end of what was printed. -/
  unfinished : Bool := false
  /-- What was written to files, by path. -/
  written : List (String × List Char) := []

namespace Editing

/-- Prints characters as they are. -/
def emit (editing : Editing) (text : List Char) : Editing :=
  let output := if editing.unfinished then ['\n'] :: editing.output else editing.output
  { editing with output := text :: output, unfinished := false }

/-- Prints characters with a line break. -/
def emitLine (editing : Editing) (text : List Char) : Editing :=
  editing.emit (text ++ ['\n'])

/-- Prints a text, with a line break if one belongs behind it. -/
def emitHeld (editing : Editing) (held : Held) : Editing :=
  if held.closed then editing.emitLine held.text else { editing.emit held.text with unfinished := true }

/-- Prints what waits to be printed behind the line. -/
def flush (editing : Editing) : Editing :=
  { editing.waiting.foldl emit editing with waiting := [] }

/-- Ends the work on a line. -/
def finish (editing : Editing) (prints : Bool) : Editing :=
  (if prints && !editing.quiet then editing.emitHeld editing.line else editing).flush

/-- Takes the next line, if there is one. -/
def takeLine? (editing : Editing) : Option (Held × Editing) :=
  match editing.rest with
  | [] => none
  | text :: rest =>
    some (⟨text, !rest.isEmpty || editing.restClosed⟩, { editing with rest, number := editing.number + 1 })

/-- The expression that is meant: the one that is given, or else the one that was used last. -/
def expression (editing : Editing) (regex : Option Regex) : Regex :=
  regex.getD editing.regex

/-- Whether an address names the line. -/
def isNamed (editing : Editing) : Address → Bool × Editing
  | .number n => (n == editing.number, editing)
  | .last => (editing.rest.isEmpty, editing)
  | .every first step =>
    (if step = 0 then editing.number == first
      else first ≤ editing.number && (editing.number - first) % step == 0, editing)
  | .matching regex =>
    let regex := editing.expression regex
    (regex.occurs editing.line.text, { editing with regex })

/-- Opens the range of a step. -/
def openRange (editing : Editing) (step : Nat) (last : Option Nat) : Editing :=
  { editing with ranges := (step, last) :: editing.ranges }

/-- Closes the range of a step. -/
def closeRange (editing : Editing) (step : Nat) : Editing :=
  { editing with ranges := editing.ranges.filter (·.1 != step) }

/-- Whether the line is in the range of a step that has begun. -/
def continueRange (editing : Editing) (step : Nat) (last : Option Nat) (finish : RangeEnd) : Bool × Editing :=
  match last, finish with
  | some last, _ =>
    (editing.number ≤ last, if last ≤ editing.number then editing.closeRange step else editing)
  | none, .address address =>
    let (named, editing) := editing.isNamed address
    (true, if named then editing.closeRange step else editing)
  | none, _ => (true, editing.closeRange step)

/-- Whether the range of a step begins at the line. -/
def beginRange (editing : Editing) (step : Nat) (first : Address) (finish : RangeEnd) : Bool × Editing :=
  let (named, editing) := editing.isNamed first
  if !named then (false, editing)
  else
    let upTo (last : Nat) : Bool × Editing :=
      (true, if editing.number < last then editing.openRange step (some last) else editing)
    match finish with
    | .address (.number last) => upTo last
    | .address _ => (true, editing.openRange step none)
    | .behind count => upTo (editing.number + count)
    | .multiple n => upTo (if n = 0 then editing.number else (editing.number + n - 1) / n * n)

/-- Whether a step is for the line. -/
def isSelected (editing : Editing) (step : Nat) : Selection → Bool × Editing
  | .all => (true, editing)
  | .single address => editing.isNamed address
  | .range first finish =>
    match editing.ranges.lookup step, first with
    | some last, _ => editing.continueRange step last finish
    | none, first => editing.beginRange step first finish

/-- Writes a line to a file. -/
def writeTo (editing : Editing) (path : String) (text : List Char) : Editing :=
  if path == "/dev/stdout" then editing.emitLine text
  else
    let before := (editing.written.lookup path).getD []
    { editing with
      written := editing.written.filter (·.1 != path) ++ [(path, before ++ text ++ ['\n'])] }

/-! ## Replacing -/

/-- Changes the case of letters in the way that one letter says for all and another one for the first. -/
def recased (all first : Option Char) : List Char → List Char
  | [] => []
  | c :: rest =>
    let change (letter : Option Char) (c : Char) : Char :=
      if letter == some 'U' || letter == some 'u' then c.toUpper
      else if letter == some 'L' || letter == some 'l' then c.toLower else c
    change (first.orElse fun _ => all) c :: rest.map (change all)

/-- What a match is replaced by. -/
def substituted (hit : Regex.Hit) (all first : Option Char) : List Substitute → List Char
  | [] => []
  | .recase letter :: rest =>
    if letter == 'u' || letter == 'l' then substituted hit all (some letter) rest
    else substituted hit (if letter == 'E' then none else some letter) none rest
  | .text chars :: rest => recased all first chars ++ substituted hit all none rest
  | .group number :: rest =>
    let text := if number = 0 then hit.text else (hit.finish.groups.lookup number).getD []
    recased all first text ++ substituted hit all (if text.isEmpty then first else none) rest

/-- The text in which matches are replaced, if there are any to replace. -/
def replaced? (regex : Regex) (pieces : List Substitute) (number : Nat) (everywhere : Bool)
    (text : List Char) : Option (List Char) :=
  let hits := regex.hits text
  if hits.length < number then none
  else
    let new := hits.zipIdx.flatMap fun (hit, i) =>
      let chosen := i + 1 == number || everywhere && number ≤ i + 1
      hit.before ++ if chosen then substituted hit none none pieces else hit.text
    some (new ++ (hits.getLast?.elim text fun hit => hit.finish.rest))

/-! ## Steps -/

/-- How a character is spelled so that it can be seen. -/
def spelled (c : Char) : List Char :=
  match "\x07a\x08b\x0cf\nn\rr\tt\x0bv\\\\".toList.dropWhile (· != c) with
  | _ :: letter :: _ => if c.isAlpha then [c] else ['\\', letter]
  | _ =>
    if ' ' ≤ c && c ≤ '~' then [c]
    else
      let digit (n : Nat) : Char := Char.ofNat (48 + n % 8)
      ['\\', digit (c.toNat / 64), digit (c.toNat / 8), digit c.toNat]

/-- A text that is spelled so that it can be seen, in lines of at most so many characters. -/
def spelledLines (width : Nat) (text : List Char) : List Char :=
  let (shown, _) := text.foldl
    (fun (shown, column) c =>
      let piece := spelled c
      if width < column + piece.length + 1 then (shown ++ '\\' :: '\n' :: piece, piece.length)
      else (shown ++ piece, column + piece.length))
    (([] : List Char), 0)
  shown ++ ['$']

/-- The number of the step behind the block that was not entered. -/
def behindBlock (depth number : Nat) : List EditStep → Nat
  | [] => number
  | step :: rest =>
    match step.action with
    | .enter => behindBlock (depth + 1) (number + 1) rest
    | .leave => if depth = 0 then number + 1 else behindBlock (depth - 1) (number + 1) rest
    | _ => behindBlock depth (number + 1) rest

/-- The number of the step that is a label. -/
def target (script : Script) (name : String) : Nat :=
  (script.findIdx? fun step =>
    match step.action with
    | .label other => other == name
    | _ => false).getD script.size

/-- Does an action to the line. `isLast` tells whether the line is the last one that the step is for. -/
def act (editing : Editing) (script : Script) (number : Nat) (isLast : Bool) :
    Action → Course × Editing
  | .enter | .leave | .label _ => (.at (number + 1), editing)
  | .jump time name =>
    let jumps :=
      match time with
      | .always => true
      | .replaced => editing.replaced
      | .notReplaced => !editing.replaced
    let goal := if name.isEmpty then script.size else target script name
    (.at (if jumps then goal else number + 1),
      if time == .always then editing else { editing with replaced := false })
  | .replace regex pieces first everywhere prints output =>
    let regex := editing.expression regex
    let editing := { editing with regex }
    match replaced? regex pieces first everywhere editing.line.text with
    | none => (.at (number + 1), editing)
    | some text =>
      let editing := { editing with line := { editing.line with text }, replaced := true }
      let editing := if prints then editing.emitHeld editing.line else editing
      (.at (number + 1), output.elim editing fun path => editing.writeTo path text)
  | .translate pairs =>
    let text := editing.line.text.map fun c => (pairs.lookup c).getD c
    (.at (number + 1), { editing with line := { editing.line with text } })
  | .print firstOnly =>
    (.at (number + 1),
      if firstOnly then editing.emitLine (editing.line.text.takeWhile (· != '\n'))
      else editing.emitHeld editing.line)
  | .delete firstOnly =>
    match editing.line.text.dropWhile (· != '\n'), firstOnly with
    | _ :: text, true => (.again, { editing with line := { editing.line with text } })
    | _, _ => (.done false, editing)
  | .next adds =>
    match editing.takeLine? with
    | none => (.stop true 0, editing)
    | some (line, later) =>
      if adds then (.at (number + 1), { later.flush with line := editing.line.append line })
      else
        let printed := if editing.quiet then later else later.emitHeld editing.line
        (.at (number + 1), { printed.flush with line })
  | .keep adds =>
    (.at (number + 1),
      { editing with store := if adds then editing.store.append editing.line else editing.line })
  | .fetch adds =>
    (.at (number + 1),
      { editing with line := if adds then editing.line.append editing.store else editing.store })
  | .exchange => (.at (number + 1), { editing with line := editing.store, store := editing.line })
  | .clear => (.at (number + 1), { editing with line := { editing.line with text := [] } })
  | .number => (.at (number + 1), editing.emitLine editing.number.repr.toList)
  | .spell => (.at (number + 1), editing.emitLine (spelledLines 70 editing.line.text))
  | .above text => (.at (number + 1), editing.emitLine text)
  | .below text =>
    (.at (number + 1),
      { editing with waiting := editing.waiting ++ [if text.isEmpty then [] else text ++ ['\n']] })
  | .change text => (.done false, if isLast then editing.emitLine text else editing)
  | .insert path =>
    let content := editing.contentOf path
    (.at (number + 1),
      if content.isEmpty then editing else { editing with waiting := editing.waiting ++ [content] })
  | .write path firstOnly =>
    let text := editing.line.text
    (.at (number + 1), editing.writeTo path (if firstOnly then text.takeWhile (· != '\n') else text))
  | .quit prints status => (.stop prints status, editing)

/-- Does the step of a number. -/
def step (editing : Editing) (script : Script) (number : Nat) : Course × Editing :=
  match script[number]? with
  | none => (.done true, editing)
  | some step =>
    let (selected, editing) := editing.isSelected number step.selection
    if selected != step.negated then
      let isLast := step.negated || !(editing.ranges.any fun entry => entry.1 == number)
      editing.act script number isLast step.action
    else
      match step.action with
      | .enter => (.at (behindBlock 0 (number + 1) (script.toList.drop (number + 1))), editing)
      | _ => (.at (number + 1), editing)

/-- Does step after step. The number bounds how many there are. Tells how all ends, with a status if the script
said so. -/
def run (script : Script) : Nat → Course → Editing → Option Nat × Editing
  | 0, _, editing => (none, editing)
  | n + 1, course, editing =>
    match course with
    | .at number =>
      let (course, editing) := editing.step script number
      run script n course editing
    | .done prints =>
      let editing := editing.finish prints
      match editing.takeLine? with
      | none => (none, editing)
      | some (line, editing) => run script n (.at 0) { editing with line, replaced := false }
    | .again => run script n (.at 0) editing.flush
    | .stop prints status => (some status, editing.finish prints)

/-- The ranges that have begun before the first line. -/
def firstRanges (script : Script) : List (Nat × Option Nat) :=
  script.toList.zipIdx.filterMap fun (step, i) =>
    match step.selection with
    | .range (.number 0) _ => some (i, none)
    | _ => none

end Editing

/-- How many steps are done in a script for each byte of its input, and how many there are besides. Only a script
that never ends does more. -/
def editLimit : Nat := 100000

/-- Applies a script to a text. Gives the status if the script ended itself. -/
def editText (script : Script) (quiet : Bool) (contentOf : String → List Char) (bytes : List UInt8) :
    Option Nat × Editing :=
  let lines := linesOf bytes
  let start : Editing :=
    { quiet, contentOf, rest := lines, restClosed := bytes.getLast? == some 10
      ranges := Editing.firstRanges script }
  match start.takeLine? with
  | none => (none, start)
  | some (line, editing) =>
    Editing.run script ((bytes.length + 1) * editLimit) (.at 0) { editing with line }

/-- What a script printed. -/
def Editing.printed (editing : Editing) : List UInt8 :=
  ByteText.toBytes (String.ofList editing.output.reverse.flatten)

/-- The files that a script writes to. -/
def Script.outputs (script : Script) : List String :=
  (script.toList.filterMap fun step =>
    match step.action with
    | .write path _ => some path
    | .replace _ _ _ _ _ output => output
    | _ => none).eraseDups.filter (· != "/dev/stdout")

/-- Edits lines, in place or on the way from input to output. -/
def sed : Tool := fun process machine =>
  let arguments := process.arguments.map fun a =>
    if a.startsWith "-i" && a.length > 2 then "--in-place=" ++ (a.drop 2).toString else a
  let options := Options.read ['e', 'f', 'l'] [("expression", 'e'), ("file", 'f'), ("in-place", 'i'),
    ("quiet", 'n'), ("silent", 'n'), ("regexp-extended", 'E'), ("null-data", 'z'), ("separate", 's'),
    ("unbuffered", 'u')] arguments
  let contentOf (machine : Machine) (path : String) : List Char :=
    ((machine.files.read process.directory path).toOption.map fun bytes =>
      (ByteText.ofBytes bytes).toList).getD []
  let explicit := options.has 'e' || options.has 'f'
  let scripts := options.given.filterMap fun (letter, value) =>
    if letter == 'e' then some value
    else if letter == 'f' then
      let text := String.ofList (contentOf machine value)
      some (if text.endsWith "\n" then (text.dropEnd 1).toString else text)
    else none
  let scripts := if explicit then scripts else options.operands.take 1
  let operands := if explicit then options.operands else options.operands.drop 1
  let text := "\n".intercalate scripts
  let extended := options.has 'E' || options.has 'r'
  let quiet := options.has 'n' || text == "#n" || text.startsWith "#n\n"
  let swap (bytes : List UInt8) : List UInt8 :=
    if options.has 'z' then bytes.map fun b => if b == 0 then 10 else if b == 10 then 0 else b else bytes
  match Script.ofText? extended text with
  | none => fail process machine 1 "-e expression #1, char 1: unknown command"
  | some script =>
    let machine := script.outputs.foldl (fun machine path => (store process machine 4 path []).2) machine
    let keepFiles (machine : Machine) (editing : Editing) : Machine :=
      editing.written.foldl
        (fun machine (path, content) =>
          (store process machine 4 path (ByteText.toBytes (String.ofList content))).2)
        machine
    let unreadable (machine : Machine) (path : String) (e : OsError) : Machine :=
      machine.complain process
        (process.name ++ if e == .isADirectory then ": couldn\x27t edit " ++ path ++ ": not a regular file"
          else ": can\x27t read " ++ path ++ ": " ++ e.wording)
    if options.has 'i' then
      operands.foldl
        (fun (status, machine) path =>
          match machine.files.read process.directory path with
          | .error e => (4, unreadable machine path e)
          | .ok bytes =>
            let (ended, editing) := editText script quiet (contentOf machine) (swap bytes)
            let ending := (options.value? 'i').getD ""
            let backup := if ending.contains '*' then ending.replace "*" path else path ++ ending
            let machine := if ending.isEmpty then machine else (store process machine 4 backup bytes).2
            let left := swap (ByteText.toBytes (unlines (if ended.isSome then editing.rest else [])))
            let (failed, machine) := store process machine 4 path (swap editing.printed ++ left)
            (max (max status failed) (ended.getD 0), keepFiles machine editing))
        (0, machine)
    else
      let (inputs, good, machine) :=
        (if operands.isEmpty then ["-"] else operands).foldl
          (fun (inputs, good, machine) path =>
            match source process machine path with
            | (.ok input, machine) => (inputs ++ [input], good, machine)
            | (.error e, machine) => (inputs, false, unreadable machine path e))
          (([] : List Input), true, machine)
      let texts :=
        if options.has 's' then inputs.map Input.bytes
        else [inputs.flatMap Input.start]
      let (status, machine) := texts.foldl
        (fun (status, machine) bytes =>
          let (ended, editing) := editText script quiet (contentOf machine) (swap bytes)
          let machine := pass process machine { bytes := swap editing.printed }
          let machine := keepFiles machine editing
          let endless := inputs.flatMap Input.endless
          let machine := if ended.isSome then machine.giveBack process 0 [] else machine
          (ended.getD status,
            if ended.isSome || endless.isEmpty then machine
            else
              let (_, again) := editText script quiet (contentOf machine) (swap endless)
              match process.channel? 1 with
              | some channel => machine.writeEndless channel (swap again.printed)
              | none => machine.elapse Machine.never))
        (0, machine)
      (if status = 0 && !good then 2 else status, machine)

end MutantHunt.Sandbox.Tools
