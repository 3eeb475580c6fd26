import MutantHunt.Sandbox.Programs
import MutantHunt.Sandbox.Shell.Assign

/-!
# Simple commands

A simple command is a row of words, perhaps with assignments in front and with redirections. The first
word names a function, a command that the shell runs by itself, or a program. `runSimple` finds out which
of these it is and runs it.
-/

namespace MutantHunt.Sandbox.Shell

section

variable (run : Runner)

/-! ## Programs and functions -/

/-- Why a program cannot be started, in the words of each shell, with the status for that. `called` tells whether
it was to take the place of the shell. -/
def startFault (sh : Shell) (name : String) (called : Bool) (e : OsError) : String × Nat :=
  match sh.dialect with
  | .dash =>
    let missing := e == .notFound || e == .notADirectory
    let lost := missing || e == .tooManyLinks || e == .nameTooLong
    let hidden := !name.contains '/' && !called
    (name ++ ": " ++ (if missing then "not found" else e.wording), if lost || hidden then 127 else 126)
  | .bash =>
    let status := if e == .notFound then 127 else 126
    if e == .notFound && !name.contains '/' then
      (name ++ (if called then ": not found" else ": command not found"), status)
    else if e == .notFound && (sh.machine.files.find sh.process.directory name).toOption.isSome then
      (name ++ ": cannot execute: required file not found", status)
    else if e == .notExecutable then (name ++ ": cannot execute binary file: " ++ e.wording, status)
    else
      let directory := match sh.machine.files.find sh.process.directory name with
        | .ok (_, .directory _) => true
        | _ => false
      let reason := (if directory then OsError.isADirectory else e).wording
      (name ++ ": " ++ (if called then "cannot execute: " else "") ++ reason, status)

/-- Runs another program with words as its arguments. -/
def runProgram (name : String) (arguments : List String) (sh : Shell) : Shell :=
  let process := { sh.child name arguments with parent := sh.number }
  match startProgram run startDepth (some sh.dialect) process sh.machine with
  | (.ok exit, machine) => sh.resume machine exit
  | (.error e, machine) =>
    let (message, status) := startFault sh name false e
    ({ sh with machine }.complain message).withStatus status

/-- How deep functions can call each other in one of the shells. -/
def callLimit : Nat := 1000

/-- How many calls of functions are more than the memory of a process can hold. -/
def callCapacity : Nat := 5000

/-- Runs a function with words as its parameters. -/
def runFunction (name : String) (function : Definition) (arguments : List String) (sh : Shell) : Shell :=
  if !sh.isBash && callLimit ≤ sh.callers.length then
    sh.stop ("Maximum function recursion depth (" ++ callLimit.repr ++ ") reached")
  else if callCapacity ≤ sh.callers.length then { sh with flow := .dies (.signal 11) }
  else
  let inside :=
    { sh.withParameters arguments with
      locals := some []
      loops := 0
      callers := name :: sh.callers
      origin := function.origin.or (some "environment")
      onFailure := if sh.options.contains 'E' then sh.onFailure else none }
  let after := (run function.body inside).restoreLocals
  let after :=
    { after.withParameters sh.parameters with
      locals := sh.locals, loops := sh.loops, callers := sh.callers, onFailure := sh.onFailure
      origin := sh.origin }
  match after.flow with
  | .returns status => { after with flow := .onward, status }
  | _ => after

/-! ## What names mean -/

/-- The words that the syntax of scripts needs. -/
def reserved (dialect : Dialect) : List String :=
  ["!", "case", "do", "done", "elif", "else", "esac", "fi", "for", "if", "in", "then", "until", "while",
    "\x7b", "\x7d"] ++ if dialect == .bash then ["[[", "]]", "function", "select", "time", "coproc"] else []

/-- What a name can mean at the beginning of a command. -/
inductive NameMeaning where
  | alias (text : String)
  | keyword
  | function
  | special
  | builtin
  | program (path : String)
  deriving DecidableEq, Repr

/-- What a name means. -/
def meaningOf? (sh : Shell) (name : String) : Option NameMeaning :=
  match sh.aliases.lookup name with
  | some text => if sh.isBash && !sh.features.contains "expand_aliases" then plain else some (.alias text)
  | none => plain
where
  /-- What a name means that is no alias. -/
  plain : Option NameMeaning :=
    if (reserved sh.dialect).contains name then some .keyword
    else if (sh.functions.lookup name).isSome then some .function
    else if !sh.isBash && isSpecialBuiltin name && name != "local" then some .special
    else if isBuiltin sh.dialect name then some .builtin
    else
      match findProgram sh.machine (sh.child name []) name with
      | .ok (path, _) => some (.program path)
      | .error _ => none

/-- What a name means in one word, as `command -v` tells it. -/
def shortMeaning (sh : Shell) (name : String) : NameMeaning → String
  | .alias text => "alias " ++ name ++ "=" ++ sh.quote text
  | .program path => if sh.isBash && name.contains '/' then name else path
  | _ => name

/-- What a name means, as `type` tells it. -/
def longMeaning (sh : Shell) (name : String) : NameMeaning → String
  | .alias text =>
    if sh.isBash then name ++ " is aliased to \x60" ++ text ++ "\x27" else name ++ " is an alias for " ++ text
  | .keyword => name ++ " is a shell keyword"
  | .function => if sh.isBash then name ++ " is a function" else name ++ " is a shell function"
  | .special => name ++ " is a special shell builtin"
  | .builtin => name ++ " is a shell builtin"
  | .program path => name ++ " is " ++ path

/-- What kind of thing a name means. -/
def kindOfMeaning : NameMeaning → String
  | .alias _ => "alias"
  | .keyword => "keyword"
  | .function => "function"
  | .special | .builtin => "builtin"
  | .program _ => "file"

/-- Tells what names mean. -/
def describe (show_ : Shell → String → NameMeaning → String) (names : List String) (sh : Shell) : Shell :=
  names.foldl
    (fun sh name =>
      match meaningOf? sh name with
      | some meaning =>
        let status := sh.status
        (sh.print (show_ sh name meaning ++ "\n")).withStatus status
      | none =>
        if sh.isBash then (sh.object "" (name ++ ": not found")).withStatus 1
        else (sh.print (name ++ ": not found\n")).withStatus 127)
    (sh.withStatus 0)

/-- Tells what a name means in one word, if it means anything. -/
def describeShortly (names : List String) (sh : Shell) : Shell :=
  names.foldl
    (fun sh name =>
      match meaningOf? sh name with
      | some meaning =>
        let status := sh.status
        (sh.print (shortMeaning sh name meaning ++ "\n")).withStatus status
      | none => sh.withStatus (if sh.isBash then 1 else 127))
    (sh.withStatus 0)

/-- Tells what names mean, in the way that options ask for. -/
def runType (arguments : List String) (sh : Shell) : Shell :=
  if sh.isBash then
    let names := arguments.filter fun a => !a.startsWith "-"
    let letters := (arguments.filter fun a => a.startsWith "-").flatMap fun a => a.toList.drop 1
    if letters.contains 't' then
      names.foldl
        (fun sh name =>
          match meaningOf? sh name with
          | some meaning => sh.print (kindOfMeaning meaning ++ "\n")
          | none => sh.withStatus 1)
        (sh.withStatus 0)
    else if letters.contains 'p' || letters.contains 'P' then
      let paths := names.filterMap fun name =>
        match meaningOf? sh name with
        | some (.program path) => some path
        | _ => none
      (sh.print (String.join (paths.map (· ++ "\n")))).withStatus
        (if names.all fun name => (meaningOf? sh name).isSome then 0 else 1)
    else describe longMeaning names sh
  else describe longMeaning arguments sh

/-! ## Commands that run commands -/

/-- The file that `.` reads. A name without a slash is looked up among the directories of programs. -/
def sourceOf (path : String) (sh : Shell) : Except OsError (List UInt8) :=
  let read (path : String) : Except OsError (List UInt8) :=
    match openDescriptor? path sh with
    | some source => .ok (sh.machine.pending sh.process source).bytes
    | none => sh.machine.files.read sh.process.directory path
  if path.contains '/' then read path
  else
    let directories := ((sh.value? "PATH").getD "").splitOn ":"
    let paths := directories.map fun directory => if directory.isEmpty then path else directory ++ "/" ++ path
    match (paths ++ if sh.isBash then [path] else []).findSome? fun path => (read path).toOption with
    | some content => .ok content
    | none => if sh.isBash then read path else .error .notFound

/-- Complains that a file cannot be read as a script. -/
def refuseFile (path : String) (e : OsError) (sh : Shell) : Shell :=
  match sh.dialect with
  | .dash =>
    if path.contains '/' then sh.stop ("cannot open " ++ path ++ ": " ++ if e == .notFound then "No such file" else e.wording)
    else sh.stop (path ++ ": not found")
  | .bash =>
    let message := if e == .isADirectory then sh.spoken ++ path ++ ": is a directory" else path ++ ": " ++ e.wording
    (sh.complain message).withStatus 1

/-- Runs the commands of a file in this shell. -/
def runFile (path : String) (arguments : List String) (sh : Shell) : Shell :=
  match sourceOf path sh with
  | .error e => refuseFile path e sh
  | .ok content =>
    let given := sh.isBash && !arguments.isEmpty
    let inside :=
      { sh with
        features := "sourced" :: sh.features
        status := 0
        origin := some path
        speaker := if sh.isBash then none else some path }
    let inside := if given then inside.withParameters arguments else inside
    let after := runSource run { text := ByteText.ofBytes content, ends := !sh.isBash } inside
    let after := if given then after.withParameters sh.parameters else after
    let after :=
      { after with
        features := if sh.features.contains "sourced" then after.features else after.features.erase "sourced"
        origin := sh.origin
        speaker := sh.speaker
        line := sh.line }
    match after.flow with
    | .returns status => { after with flow := .onward, status }
    | _ => after

/-- Runs a script that words make up together. -/
def runEval (words : List String) (sh : Shell) : Shell :=
  let source : Source :=
    { text := " ".intercalate words
      line := if sh.isBash then sh.line else 1
      label := some "eval"
      ends := !sh.isBash }
  let speaker := if sh.isBash then none else sh.speaker
  { sh.speaking speaker (fun sh => runSource run source (sh.withStatus 0)) with line := sh.line }

/-- Replaces the shell by another program. -/
def runExec (arguments : List String) (sh : Shell) : Shell :=
  match arguments with
  | [] => sh.withStatus 0
  | "--" :: name :: rest | name :: rest =>
    let (name, given, rest) :=
      match sh.dialect, name, rest with
      | .bash, "-a", _ :: name :: rest => (name, name, rest)
      | .bash, "-c", name :: rest | .bash, "-l", name :: rest => (name, name, rest)
      | _, _, _ => (name, name, rest)
    let process := sh.child given rest
    match startProgram run startDepth (some sh.dialect) process sh.machine with
    | (.ok exit, machine) =>
      { sh with machine, status := exit.status, farewell := none, flow := .dies exit }
    | (.error e, machine) =>
      let (message, status) := startFault sh name true e
      { { sh with machine }.object message message with flow := .exits status, status }

/-- Takes words off that say only that no function is meant. The number bounds how many words there are. -/
def withoutPrelude (dialect : Dialect) : Nat → List String → List String
  | 0, words => words
  | n + 1, words =>
    match words with
    | "command" :: "-p" :: rest | "command" :: "--" :: rest => withoutPrelude dialect n ("command" :: rest)
    | "command" :: next :: rest =>
      if next.startsWith "-" && next.length > 1 then words else withoutPrelude dialect n (next :: rest)
    | "builtin" :: next :: rest => if dialect == .bash then withoutPrelude dialect n (next :: rest) else words
    | _ => words

/-- Looks up where programs are. -/
def runHash (arguments : List String) (sh : Shell) : Shell :=
  let names := arguments.filter fun a => !a.startsWith "-"
  if arguments.isEmpty && sh.isBash then sh.print "hash: hash table empty\n"
  else
    names.foldl
      (fun sh name =>
        if (meaningOf? sh name).isSome then sh else (sh.object (name ++ ": not found") (name ++ ": not found")).withStatus 1)
      (sh.withStatus 0)

/-- Runs a command that is no function, if the shell runs it by itself. -/
def runKnown? (name : String) (rest : List String) : Option (Shell → Shell) :=
  match name with
  | "command" =>
    some fun sh =>
      match rest with
      | option :: names =>
        if option.contains 'V' then describe longMeaning names sh else describeShortly names sh
      | [] => sh.withStatus 0
  | "type" => some (Usage.check runType rest)
  | "hash" => some (Usage.check runHash rest)
  | "eval" => some (runEval run rest)
  | "exec" => some (runExec run rest)
  | "." | "source" =>
    some fun sh =>
      match if rest.head? == some "--" then rest.drop 1 else rest with
      | path :: arguments => runFile run path arguments sh
      | [] => if sh.isBash then Usage.explain (sh.object "" "filename argument required") else sh.withStatus 0
  | "builtin" =>
    some fun sh =>
      match rest with
      | name :: _ => (sh.object "" (name ++ ": not a shell builtin")).withStatus 1
      | [] => sh.withStatus 0
  | _ => none

/-- Whether what goes wrong in a command that the shell runs by itself ends no more than that command. -/
def isSheltered (dialect : Dialect) (name : String) (commanded : Bool) : Bool :=
  match dialect with
  | .dash => commanded || !isSpecialBuiltin name
  | .bash => !(["break", "continue", "eval", "exit", "return", ".", "source"].contains name)

/-- Runs a command that is no function. -/
def runNamed (words : List String) (sh : Shell) : Shell :=
  match withoutPrelude sh.dialect words.length words with
  | [] => sh.withStatus 0
  | name :: rest =>
    let known? :=
      if !isBuiltin sh.dialect name then none
      else
        match builtin? sh.dialect name with
        | some builtin => some (builtin rest)
        | none => runKnown? run name rest
    match known? with
    | none => runProgram run name rest sh
    | some known =>
      let after := sh.speaking (some name) known
      if isSheltered sh.dialect name (words.head? == some "command") then after.recover else after

/-! ## All together -/

/-- Sets the arrays that a command declared. They may be constant from then on. -/
def assignDeclared (arrays : List Assignment) (before after : Shell) : Shell :=
  arrays.foldl
    (fun sh assignment =>
      let name := assignment.name
      let fresh := sh.isMarked 'r' name && !before.isMarked 'r' name
      if !sh.goesOn then sh
      else if fresh then (assignOne run assignment (sh.unmark 'r' name)).mark 'r' name
      else assignOne run assignment sh)
    after

/-- Runs a command whose name and arguments are known. -/
def runWords (assignments : List Assignment) (name : String) (rest : List String)
    (redirects : List Redirect) (sh : Shell) : Shell :=
  if name == "exec" then
    let (good, after) := redirectAll run redirects sh
    if good then
      let after := assignAll run assignments after
      if after.goesOn then after.speaking (some "exec") (runExec run rest) else after
    else if after.goesOn && !(sh.isBash && rest.isEmpty) then { after with flow := .fails after.status }
    else after
  else
    match sh.functions.lookup name with
    | some function =>
      withRedirects run redirects
        (withAssignments run assignments (runFunction run name function rest)) sh
    | none =>
      if !sh.isBash && isSpecialBuiltin name then
        let (good, after) := redirectAll run redirects sh
        let after :=
          if !good then if after.goesOn then { after with flow := .fails after.status } else after
          else
            let set := assignAll run assignments after
            if set.goesOn then runNamed run (name :: rest) set else set
        restoreChannels redirects sh after
      else if sh.isBash && isDeclaring [.text name false] then
        let (arrays, others) := assignments.partition fun assignment =>
          match assignment with
          | .array _ _ _ => true
          | _ => false
        withRedirects run redirects
          (withAssignments run others fun sh =>
            assignDeclared run arrays sh (runNamed run (name :: rest) sh)) sh
      else
        withRedirects run redirects
          (withAssignments run assignments (runNamed run (name :: rest))) sh

/-- Runs a simple command. -/
def runSimple (assignments : List Assignment) (words : List Word) (redirects : List Redirect)
    (sh : Shell) : Shell :=
  let sh := { sh with substituted := none }
  let (arguments, sh) :=
    if (words.head?).any isDeclaring then declaredFields (capture run) words sh
    else fields (capture run) words sh
  if !sh.goesOn then sh
  else
    match arguments with
    | [] =>
      withRedirects run redirects
        (fun sh =>
          let sh := assignAll run assignments sh
          if sh.goesOn then sh.withStatus (sh.substituted.getD 0) else sh)
        sh
    | name :: rest =>
      let sh := runWords run assignments name rest redirects sh
      if sh.isBash then sh.restore "_" (.text (rest.getLastD name)) else sh

end

end MutantHunt.Sandbox.Shell
