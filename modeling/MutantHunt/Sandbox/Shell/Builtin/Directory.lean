import MutantHunt.Sandbox.Mode
import MutantHunt.Sandbox.Shell.Usage

/-!
# Commands about directories and modes

Commands that go from directory to directory, and `umask`, which says what may be done with new files.
-/

namespace MutantHunt.Sandbox.Shell.Builtin

/-! ## Directories -/

/-- The names of a path with all dots followed in the text alone. -/
def cleanNames (path : String) : List String :=
  (Files.namesOf path).foldl
    (fun names name => if name == "." then names else if name == ".." then names.dropLast else names ++ [name])
    []

/-- The path of the current directory as the script came to it. -/
def workingPath (sh : Shell) : String :=
  let physical := sh.process.directory.path
  match (sh.stored? "PWD").map Value.toText with
  | some path =>
    if path.startsWith "/" && (sh.machine.files.locate [] path).toOption == some sh.process.directory then path
    else physical
  | none => physical

/-- The directory that a path names, which may be gone to. -/
def enterable (sh : Shell) (path : String) : Except OsError Place :=
  match sh.machine.files.find sh.process.directory path with
  | .ok (place, .directory mode) =>
    if (Item.directory mode).allows executable then .ok place else .error .permissionDenied
  | .ok _ => .error .notADirectory
  | .error e => .error e

/-- Goes to a directory. Links on the way are part of the path, unless it is to be the physical one. -/
def goTo (physical : Bool) (operand : String) (sh : Shell) : Except OsError Shell := do
  let path := if operand.startsWith "/" then operand else workingPath sh ++ "/" ++ operand
  let logical := Place.path (cleanNames path)
  let given ← enterable sh operand
  let place ← if physical then .ok given else enterable sh logical
  let old := workingPath sh
  let sh := { sh with process := { sh.process with directory := place } }
  let sh := sh.restore "OLDPWD" (.text old)
  .ok (sh.restore "PWD" (.text (if physical then place.path else logical)))

/-- Goes to another directory. -/
def cd : Builtin := fun arguments sh =>
  let options := arguments.takeWhile fun a => a.startsWith "-" && a.length > 1
  let operands := arguments.drop options.length
  let go (path : String) (shows : Bool) : Shell :=
    match goTo ((options.flatMap String.toList).contains 'P') path sh with
    | .ok sh => if shows then sh.print (workingPath sh ++ "\n") else sh.withStatus 0
    | .error e =>
      (sh.object ("can\x27t cd to " ++ path) (path ++ ": " ++ e.wording)).withStatus (if sh.isBash then 1 else 2)
  let goHome (name : String) (shows : Bool) : Shell :=
    match sh.value? name with
    | some path => go (if path.isEmpty then "." else path) shows
    | none => if sh.isBash then (sh.object "" (name ++ " not set")).withStatus 1 else go "." shows
  if sh.isBash && operands.length > 1 then (sh.object "" "too many arguments").withStatus 1
  else
    match operands with
    | [] => goHome "HOME" false
    | "-" :: _ => goHome "OLDPWD" true
    | path :: _ => go (if path.isEmpty then "." else path) false

/-- Prints the path of the current directory. -/
def pwd : Builtin := fun arguments sh =>
  sh.print ((if arguments.contains "-P" then sh.process.directory.path else workingPath sh) ++ "\n")

/-- Prints the directories to go back to. -/
def dirs : Builtin := fun _ sh =>
  sh.print (" ".intercalate (workingPath sh :: sh.visited.map Place.path) ++ "\n")

/-- Goes to a directory with the given ones to go back to. -/
def switch (path : String) (visited : List Place) (sh : Shell) : Shell :=
  match goTo false path sh with
  | .ok sh => dirs [] { sh with visited }
  | .error e => (sh.object "" (path ++ ": " ++ e.wording)).withStatus 1

/-- Goes to another directory and remembers this one. -/
def pushd : Builtin := fun arguments sh =>
  let here := sh.process.directory
  match arguments, sh.visited with
  | path :: _, visited => switch path (here :: visited) sh
  | [], top :: rest => switch top.path (here :: rest) sh
  | [], [] => (sh.object "" "no other directory").withStatus 1

/-- Goes back to the directory remembered last. -/
def popd : Builtin := fun _ sh =>
  match sh.visited with
  | top :: rest => switch top.path rest sh
  | [] => (sh.object "" "directory stack empty").withStatus 1

/-! ## Modes -/

/-- Tells or sets which bits of a mode new files do not get. -/
def umask : Builtin := fun arguments sh =>
  let setMask (mask : Nat) : Shell := { sh with process := { sh.process with mask := mask &&& 0o777 }, status := 0 }
  let digits := String.ofList (Nat.toDigits 8 sh.process.mask)
  let shown := String.ofList (List.replicate (4 - digits.length) '0') ++ digits ++ "\n"
  match arguments with
  | [] => sh.print shown
  | "-p" :: _ => sh.print ("umask " ++ shown)
  | "-S" :: _ =>
    let letters (shift : Nat) : String :=
      let bits := (0o777 ^^^ sh.process.mask) >>> shift
      (if bits &&& 4 != 0 then "r" else "") ++ (if bits &&& 2 != 0 then "w" else "")
        ++ (if bits &&& 1 != 0 then "x" else "")
    sh.print ("u=" ++ letters 6 ++ ",g=" ++ letters 3 ++ ",o=" ++ letters 0 ++ "\n")
  | text :: _ =>
    if (text.toList.head?).any Char.isDigit then
      match Mode.ofOctal? text with
      | some mask => setMask mask
      | none => (sh.object ("Illegal number: " ++ text) (text ++ ": octal number out of range")).withStatus
          (if sh.isBash then 1 else 2)
    else
      match Mode.change? 0 text with
      | some change => setMask (0o777 ^^^ change (0o777 ^^^ sh.process.mask))
      | none =>
        let odd := (text.toList.dropWhile fun c => "ugoa".toList.contains c).head?.getD ' '
        (sh.object ("Illegal mode: " ++ text)
          ("\x60" ++ odd.toString ++ "\x27: invalid symbolic mode operator")).withStatus
            (if sh.isBash then 1 else 2)

end MutantHunt.Sandbox.Shell.Builtin
