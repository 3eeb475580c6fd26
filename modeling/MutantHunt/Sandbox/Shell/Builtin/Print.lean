import MutantHunt.Sandbox.Condition
import MutantHunt.Sandbox.Shell.Expand
import MutantHunt.Sandbox.Shell.Usage

/-!
# Commands that print and decide

The commands `echo` and `printf`, and the conditions of `test` and `[`.
-/

namespace MutantHunt.Sandbox.Shell.Builtin

/-! ## Printing -/

/-- The escapes that a shell knows in what it prints. -/
def escapes (sh : Shell) : Format.Escapes :=
  { bare := !sh.isBash, rich := sh.isBash, quotes := sh.isBash }

/-- Prints its arguments. One dialect knows escapes at once, the other only when asked. -/
def echo : Builtin := fun arguments sh =>
  match sh.dialect with
  | .dash =>
    match arguments with
    | "-n" :: rest => sh.print (Format.echo (some (escapes sh)) false rest)
    | _ => sh.print (Format.echo (some (escapes sh)) true arguments)
  | .bash =>
    let letters := arguments.takeWhile fun a =>
      a.startsWith "-" && a.length > 1 && (a.toList.drop 1).all fun c => "neE".toList.contains c
    let flags := letters.flatMap fun a => a.toList.drop 1
    let wanted := (flags.filter (· != 'n')).getLast? == some 'e' || sh.features.contains "xpg_echo"
    sh.print
      (Format.echo (if wanted then some (escapes sh) else none) (!flags.contains 'n')
        (arguments.drop letters.length))

/-- Complains about what `printf` cannot make sense of. -/
def mention (sh : Shell) (fault : Format.Fault) : Shell :=
  sh.object fault.plainWording fault.richWording

/-- Prints pieces. In one of the shells a line goes out as soon as it is complete, in the other one
everything at the end. -/
def printPieces (pieces : List Format.Piece) (sh : Shell) : Shell :=
  let (waiting, sh) := pieces.foldl
    (fun (waiting, sh) piece =>
      match piece with
      | .text text => (waiting ++ text, sh)
      | .fault fault =>
        let lines := waiting.splitOn "\n"
        if sh.isBash && lines.length > 1 then
          (lines.getLastD "", mention (sh.print ("\n".intercalate lines.dropLast ++ "\n")) fault)
        else (waiting, mention sh fault))
    ("", sh.withStatus 0)
  sh.print waiting

/-- The status of `printf` behind its faults. -/
def faultStatus (bash : Bool) (faults : List Format.Fault) : Nat :=
  faults.foldl
    (fun status fault =>
      match fault with
      | .outOfRange _ => if bash then status else max status 1
      | .noNumber _ => max status 1
      | _ => if bash then 1 else 2)
    0

/-- Prints its arguments after a format, or sets a variable to what it would print. -/
def printf : Builtin := fun arguments sh =>
  let (target, arguments) :=
    match sh.dialect, arguments with
    | .bash, "-v" :: name :: rest => (some name, rest)
    | _, _ => (none, arguments)
  match if arguments.head? == some "--" then arguments.drop 1 else arguments with
  | format :: rest =>
    let pieces := Format.printf (escapes sh) format rest
    let faults := Format.faultsOf pieces
    let after :=
      match target with
      | some name => storeQuantity name (Format.textOf pieces) ((faults.foldl mention sh).withStatus 0)
      | none => printPieces pieces sh
    after.withStatus (max after.status (faultStatus sh.isBash faults))
  | [] => if sh.isBash then Usage.explain sh else sh.reject "usage: printf format [arg ...]" ""

/-! ## Conditions -/

/-- Whether a name, perhaps with an index, stands for something that has a value. -/
def isSet (sh : Shell) (name : String) : Bool :=
  match name.splitOn "[" with
  | [array, index] =>
    let key := String.ofList index.toList.dropLast
    match sh.contents? array with
    | some value => if key == "@" || key == "*" then !value.toList.isEmpty else value.keys.contains key
    | none => false
  | _ => (sh.value? name).isSome

/-- The paths that stand for the first file descriptors, where these lead to pipes. -/
def pipePaths (sh : Shell) : List String :=
  let isPipe (descriptor : Nat) : Bool :=
    match sh.process.channel? descriptor with
    | some (.pipe _) => true
    | some (.input _) => !(sh.machine.pending sh.process descriptor).isFile
    | _ => false
  let names := [(0, "/dev/stdin"), (1, "/dev/stdout"), (2, "/dev/stderr")]
  (names.filter fun entry => isPipe entry.1).flatMap fun (n, name) => [name, "/dev/fd/" ++ n.repr]

/-- What conditions can look at. -/
def world (sh : Shell) : Condition.World :=
  { files := sh.machine.files
    directory := sh.process.directory
    doubled := sh.isBash
    isSet := if sh.isBash then some (isSet sh) else none
    pipes := pipePaths sh }

/-- Decides a condition. -/
def decideCondition (words : List String) (sh : Shell) : Shell :=
  match Condition.holds (world sh) words with
  | .ok true => sh.withStatus 0
  | .ok false => sh.withStatus 1
  | .error fault => (sh.object fault.plainWording (fault.richWording words)).withStatus 2

/-- Decides a condition between brackets. -/
def bracket : Builtin := fun arguments sh =>
  if arguments.getLast? == some "]" then decideCondition arguments.dropLast sh
  else (sh.object "missing ]" "missing \x60]\x27").withStatus 2

end MutantHunt.Sandbox.Shell.Builtin
