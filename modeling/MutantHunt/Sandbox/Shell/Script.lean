import MutantHunt.Sandbox.Shell.Builtin.Signal

/-!
# Scripts from beginning to end

A script is read and run line by line, so a mistake in it shows only when its line is reached. Running a
command is left to whoever uses this module: it is passed as a `Runner`. `runShell` is what a shell does
as a program, from its arguments to its end.
-/

namespace MutantHunt.Sandbox.Shell

/-- Runs one command. -/
abbrev Runner := Command → Shell → Shell

/-! ## Lines -/

/-- A script that is run, or a part of it. -/
structure Source where
  text : String
  /-- The number of its first line. -/
  line : Nat := 1
  /-- What one of the shells calls it where it cannot be read. -/
  label : Option String := none
  /-- Whether a line that cannot be read ends the process. -/
  ends : Bool := true

/-- The words of a token. -/
def Token.words : Token → List Word
  | .word w _ | .document w => [w]
  | .array _ _ elements => elements
  | _ => []

/-- The tokens of a list that are in front of the rest of it. -/
def consumed (tokens rest : List Token) : List Token :=
  tokens.take (tokens.length - rest.length)

/-- The words that stand in a use of a variable. -/
def Use.texts : Use → List String
  | .otherwise word _ | .assign word _ | .demand word _ | .instead word _ | .cut word _ _
  | .recase word _ _ => [word]
  | .slice offset size => offset :: size.toList
  | .replace pattern replacement _ _ => [pattern, replacement]
  | _ => []

/-- The scripts inside a word, also those in words inside it. The number bounds how deep these stand. -/
def Word.allScripts (dialect : Dialect) : Nat → Word → List String
  | 0, _ => []
  | n + 1, word =>
    word.flatMap fun part =>
      match part with
      | .command script _ | .channel script _ => [script]
      | .variable _ _ use _ => use.texts.flatMap fun text => allScripts dialect n (Word.ofText dialect text)
      | .arithmetic text _ => allScripts dialect n (Word.ofQuoted dialect text)
      | .text _ _ => []

/-- The first thing that is wrong with a script or the scripts inside its words. The number bounds how many
lines there are and how deep scripts stand inside scripts. -/
def flaw? (dialect : Dialect) : Nat → List Token → Option Misreading
  | 0, _ => none
  | n + 1, script =>
    match skipBreaks script with
    | [] => none
    | first :: others =>
      match readLine dialect (first :: others) with
      | .error misreading => some misreading
      | .ok (_, rest) =>
        let inside := (consumed (first :: others) rest).findSome? fun token =>
          token.words.findSome? fun word =>
            (word.allScripts dialect n).findSome? fun inner => flaw? dialect n (tokens dialect inner)
        inside.or (flaw? dialect n rest)

/-- Whether a whole script can be read. -/
def isReadable (dialect : Dialect) (script : String) : Bool :=
  (flaw? dialect (script.length + 1) (tokens dialect script)).isNone

/-- The first thing that is wrong with the scripts inside the words of a line. -/
def flawInside? (dialect : Dialect) (line : List Token) : Option Misreading :=
  line.findSome? fun token =>
    token.words.findSome? fun word =>
      (word.allScripts dialect 100).findSome? fun inner => flaw? dialect (inner.length + 1) (tokens dialect inner)

/-- Whether a command can start behind a token where one could start before it, or could not. -/
def Token.leadsOn (fresh : Bool) : Token → Bool
  | .word w _ =>
    fresh
      && (match w.plain? with
        | some text =>
          ["then", "do", "else", "elif", "if", "while", "until", "!", "\x7b"].contains text || text.contains '='
        | none => false)
  | .operator o => [";", "&", "&&", "||", "|", "(", ";;"].contains o
  | .lineBreak _ => true
  | _ => false

/-- Puts the meanings of words in their place. Inside its own meaning a word means nothing else. The
number bounds how many tokens are left and how deep meanings stand inside meanings. -/
def expandAliases (dialect : Dialect) :
    Nat → List (String × String) → (fresh : Bool) → List Token → List Token
  | 0, _, _, line => line
  | _ + 1, _, _, [] => []
  | n + 1, aliases, fresh, token :: rest =>
    let plain :=
      match token with
      | .word word _ => if fresh then word.plain? else none
      | _ => none
    match plain.bind fun name => (aliases.lookup name).map fun meaning => (name, meaning) with
    | some (name, meaning) =>
      let others := aliases.filter fun entry => entry.1 != name
      expandAliases dialect n others true (tokens dialect meaning)
        ++ expandAliases dialect n aliases (meaning.endsWith " ") rest
    | none => token :: expandAliases dialect n aliases (token.leadsOn fresh) rest

/-- Reads the next line of a script, with the words in it that have other meanings. -/
def nextLine (sh : Shell) (script : List Token) : Attempt (Command × List Token) :=
  if sh.aliases.isEmpty || sh.isBash && !sh.features.contains "expand_aliases" then
    readLine sh.dialect script
  else
    let rest := (((readLine sh.dialect script).toOption).map Prod.snd).getD []
    let line := consumed script rest
    let depth := line.length + sh.aliases.length + 64
    readLine sh.dialect (expandAliases sh.dialect depth sh.aliases true line ++ rest)

/-- Complains that a script cannot be read on a line. `nested` tells whether the mistake is in a script inside
one of its words. -/
def complainAbout (source : Source) (misreading : Misreading) (line : Nat) (nested : Bool) (sh : Shell) : Shell :=
  let last := source.line + source.text.toList.count '\n'
  match sh.dialect with
  | .dash =>
    let line :=
      match misreading.rest with
      | .broken missing line :: _ => if missing == '\x7d' then line else last
      | _ => line
    let ending := if nested then "\")\"" else "end of file"
    { sh with line }.complain ("Syntax error: " ++ misreading.plainWording ending)
  | .bash =>
    let name := sh.origin.getD sh.process.name
    let heading (line : Nat) : String :=
      name ++ ": " ++ (source.label.map (· ++ ": ")).getD "" ++ "line " ++ line.repr ++ ": "
    let behind := if source.text.endsWith "\n" then last else last + 1
    match misreading.rich (if nested then some ")" else none) with
    | .ending => sh.mutter (heading behind ++ "syntax error: unexpected end of file")
    | .missing character =>
      let line :=
        match character, misreading.rest with
        | ')', _ => behind
        | _, .broken _ line :: _ => line
        | _, _ => behind
      sh.mutter (heading line ++ "unexpected EOF while looking for matching \x60" ++ character.toString ++ "\x27")
    | .near text =>
      let written := (source.text.splitOn "\n").getD (line - source.line) ""
      let sh := sh.mutter (heading line ++ "syntax error near unexpected token \x60" ++ text ++ "\x27")
      sh.mutter (heading line ++ "\x60" ++ written ++ "\x27")

/-- Runs the lines of a script as long as the flow goes on. `line` is the number of the first one. One of the
shells leaves a line where something could not be carried out, and goes on with the next one. The number
bounds how many lines there are. -/
def runLines (run : Runner) (source : Source) : Nat → Nat → List Token → Shell → Shell
  | 0, _, _, sh => sh
  | n + 1, line, script, sh =>
    match skipBreaks script with
    | [] => sh
    | first :: others =>
      let line := lineBehind line (consumed script (first :: others))
      let refuse (misreading : Misreading) (place : Nat) (nested : Bool) (status : Nat) : Shell :=
        { complainAbout source misreading place nested sh with
          flow := if source.ends then .exits status else .onward, status }
      match nextLine sh (first :: others) with
      | .error misreading =>
        refuse misreading (lineBehind line (consumed (first :: others) misreading.rest)) false 2
      | .ok (command, rest) =>
        let behind := lineBehind line (consumed (first :: others) rest)
        match flawInside? sh.dialect (consumed (first :: others) rest) with
        | some misreading => refuse misreading line true (if sh.isBash then 127 else 2)
        | none =>
          let sh := run command sh
          match sh.flow with
          | .onward => runLines run source n behind rest sh
          | .fails status =>
            if sh.isBash && sh.number == sh.mainNumber then
              runLines run source n behind rest { sh with flow := .onward, status }
            else sh
          | _ => sh

/-- Runs a script. -/
def runSource (run : Runner) (source : Source) (sh : Shell) : Shell :=
  let script := tokensFrom sh.dialect source.line source.text
  runLines run source (script.length + 1) source.line script sh

/-- Runs the text of a script that was to be run when something happens. -/
def runAction (run : Runner) (script : String) (sh : Shell) : Shell :=
  { runSource run { text := script, label := some "trap", ends := !sh.isBash } sh with line := sh.line }

/-! ## Processes -/

/-- Ends a process that runs a script: runs what was to be done at the end, and gives the exit. -/
def finish (run : Runner) (sh : Shell) : Exit × Machine :=
  let leaves : Shell → Nat
    | { flow := .exits status, .. } | { flow := .fails status, .. } | { flow := .returns status, .. } =>
      status
    | sh => sh.status
  let sh :=
    match sh.flow, sh.farewell with
    | .dies _, _ | _, none => sh
    | _, some action =>
      let status := leaves sh
      let after := runAction run action { sh with flow := .onward, farewell := none, status }
      match after.flow with
      | .exits _ | .dies _ => after
      | _ => { after with flow := .exits status }
  let exit : Exit :=
    match sh.flow with
    | .dies exit => exit
    | _ => .code (leaves sh % 256)
  (exit, sh.machine.release sh.process)

/-- Runs a body in a process of its own that starts as a copy of this one. -/
def runBeside (run : Runner) (change : Process → Process) (body : Shell → Shell) (sh : Shell) :
    Exit × Machine :=
  let (number, machine) := sh.machine.newProcess
  let child : Shell :=
    { sh with
      machine, number
      process := change sh.process
      loops := if sh.isBash then 0 else sh.loops
      jobs := [], farewell := none, onFailure := none, flow := .onward
      handlers := sh.handlers.filter (·.2.isEmpty) }
  finish run (body (child.settle 100))

/-- Takes over what happened to the machine while another process ran, and the status of its end. One of the
shells says why a process has died. -/
def resume (sh : Shell) (machine : Machine) (exit : Exit) : Shell :=
  let sh := { sh with machine, status := exit.status }
  let mourned :=
    match exit, sh.dialect with
    | .signal signal, .dash =>
      let words := Builtin.obituary signal
      if words.isEmpty then sh else sh.mutter words
    | _, _ => sh
  mourned.settle 0

/-- A script that only names a file to read, which one of the shells takes for the content of that file, as a
script that prints it. -/
def printingScript (dialect : Dialect) (script : String) : String :=
  match dialect, script.trimAscii.toString.toList with
  | .bash, '<' :: _ =>
    match tokens dialect script with
    | [.operator "<", .word _ _] => "cat " ++ script
    | _ => script
  | _, _ => script

/-- Runs a script in a process of its own and gives what it prints. -/
def captureOutput (run : Runner) (script : String) (sh : Shell) : String × Shell :=
  let (pipe, machine) := sh.machine.openPipe
  let body (child : Shell) : Shell :=
    let options := if child.isBash then child.options.filter (· != 'e') else child.options
    let source : Source := { text := printingScript child.dialect script, line := sh.line }
    runSource run source { child with options, tolerant := false }
  let (exit, machine) := runBeside run (·.redirect 1 (.pipe pipe)) body { sh with machine }
  let input := machine.collect pipe
  let machine := machine.advance (if input.endless.isEmpty then input.ready else machine.clock + Machine.never)
  let text := String.ofList ((ByteText.ofBytes input.bytes).toList.filter (· != '\x00'))
  (text, { sh.resume machine exit with substituted := some exit.status })

/-! ## Shells -/

/-- The directories where a shell looks for programs as long as it is not told otherwise. -/
def firstPath : String := "/usr/local/sbin:/usr/local/bin:/usr/sbin:/usr/bin:/sbin:/bin"

/-- The variables that a shell has from the start. -/
def firstVariables (dialect : Dialect) (process : Process) : List (String × String) :=
  let common :=
    [("IFS", " \t\n"), ("OPTIND", "1"), ("PPID", process.parent.repr), ("PS4", "+ "),
      ("PWD", process.directory.path)] ++ if (process.valueOf? "PATH").isSome then [] else [("PATH", firstPath)]
  match dialect with
  | .dash => common ++ [("PS1", "$ "), ("PS2", "> ")]
  | .bash =>
    let level := ((process.valueOf? "SHLVL").bind String.toNat?).getD 0
    common ++ [("BASH", "/usr/bin/bash"), ("BASH_VERSION", "5.2.21(1)-release"), ("EUID", "1000"),
      ("HOSTNAME", "localhost"), ("HOSTTYPE", "x86_64"), ("MACHTYPE", "x86_64-pc-linux-gnu"),
      ("OPTERR", "1"), ("OSTYPE", "linux-gnu"), ("SHLVL", (level + 1).repr), ("UID", "1000")]

/-- A shell at its beginning. Its variables are those of the environment and a few of its own. -/
def openShell (dialect : Dialect) (process : Process) (machine : Machine) : Shell :=
  let (number, machine) := machine.newProcess
  let given := process.environment.filter fun entry => isName entry.1
  let exported := given.map Prod.fst
  let own := ["PWD"] ++ if dialect == .bash then ["SHLVL"] else []
  let sh : Shell :=
    { machine, dialect, process, number
      mainNumber := number
      begin_ := machine.clock
      bindings := given.map fun (name, value) => (name, .text value)
      exported := exported ++ own.filter (!exported.contains ·) }
  let sh := (firstVariables dialect process).foldl (fun sh (name, value) => sh.restore name (.text value)) sh
  if dialect == .bash then
    sh.restore "BASH_VERSINFO" (Value.ofList ["5", "2", "21", "1", "release", "x86_64-pc-linux-gnu"])
  else sh

/-- What the arguments of a shell ask for. -/
structure Invoked where
  /-- Whether the script is an argument. -/
  asText : Bool := false
  letters : List Char := []
  /-- Options with long names. -/
  named : List String := []
  rest : List String := []

/-- Reads the options of a shell. The number bounds how many arguments there are. -/
def readInvocation : Nat → List String → Invoked
  | 0, rest => { rest }
  | _ + 1, [] => {}
  | n + 1, argument :: rest =>
    if argument == "--" || argument == "-" then { rest }
    else if argument.startsWith "--" then readInvocation n rest
    else if (argument.startsWith "-" || argument.startsWith "+") && argument.length > 1 then
      let letters := argument.toList.drop 1
      let takesName := letters.contains 'o' || letters.contains 'O'
      let more := readInvocation n (if takesName then rest.drop 1 else rest)
      let on := argument.startsWith "-"
      { more with
        asText := more.asText || letters.contains 'c'
        letters :=
          if on then letters.filter (fun c => !(['c', 'o', 'O'].contains c)) ++ more.letters else more.letters
        named := if takesName && on then rest.headD "" :: more.named else more.named }
    else { rest := argument :: rest }

/-- What is wrong with the arguments of a shell, in its own words. -/
def invocationFault? (dialect : Dialect) (invoked : Invoked) : Option String :=
  let odd := invoked.letters.find? fun c => !("cso".toList ++ dialect.settableLetters).contains c
  let unknown := invoked.named.find? fun name => (dialect.namedOptions.lookup name).isNone
  match dialect, odd, unknown with
  | .dash, some c, _ => some ("0: Illegal option -" ++ c.toString)
  | .dash, none, some name => some ("0: Illegal option -o " ++ name)
  | .dash, none, none =>
    if invoked.asText && invoked.rest.isEmpty then some "0: -c requires an argument" else none
  | .bash, _, _ =>
    if invoked.asText && invoked.rest.isEmpty then some "-c: option requires an argument" else none

/-- Why a shell cannot read a script. -/
def scriptFault (dialect : Dialect) (path : String) (e : OsError) : String × Nat :=
  match dialect with
  | .dash =>
    let reason := if e == .notFound || e == .notADirectory then "No such file" else e.wording
    ("0: cannot open " ++ path ++ ": " ++ reason, 2)
  | .bash => (path ++ ": " ++ e.wording, if e == .notFound then 127 else 126)

/-- What a shell does as a program. -/
def runShell (run : Runner) (dialect : Dialect) (process : Process) (machine : Machine) :
    Exit × Machine :=
  let invoked := readInvocation (process.arguments.length + 1) process.arguments
  let start (name : String) (arguments : List String) (letters : List Char) (machine : Machine) : Shell :=
    let sh := openShell dialect { process with name, arguments } machine
    let named := invoked.named.filterMap fun name => (dialect.namedOptions.lookup name).join
    { sh with
      options := dialect.firstLetters ++ letters ++ invoked.letters ++ named
      features := dialect.firstFeatures ++ invoked.named }.settle 1000
  let go (sh : Shell) (source : Source) : Exit × Machine :=
    let checksOnly := sh.options.contains 'n' && isReadable dialect source.text
    let source := if checksOnly then { source with text := "" } else source
    finish run (if sh.goesOn then runSource run source sh else sh)
  let refuse (message : String) (status : Nat) : Exit × Machine :=
    (.code status, machine.complain process (process.name ++ ": " ++ message))
  let piped (arguments : List String) : Exit × Machine :=
    let (input, machine) := machine.readAll process 0
    go (start process.name arguments ['s'] machine) { text := ByteText.ofBytes input.bytes }
  match invocationFault? dialect invoked with
  | some message => refuse message 2
  | none =>
    match invoked.asText, invoked.rest with
    | true, script :: rest =>
      let letters := if dialect == .bash then ['c'] else []
      go (start (rest.headD process.name) (rest.drop 1) letters machine) { text := script, label := some "-c" }
    | true, [] => (.code 2, machine)
    | false, [] => piped []
    | false, path :: rest =>
      if invoked.letters.contains 's' then piped (path :: rest)
      else
        match machine.files.read process.directory path with
        | .ok content =>
          let sh := start path rest [] machine
          go { sh with origin := some path } { text := ByteText.ofBytes content }
        | .error e =>
          let (message, status) := scriptFault dialect path e
          refuse message status

end MutantHunt.Sandbox.Shell
