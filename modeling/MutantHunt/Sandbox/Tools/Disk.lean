import MutantHunt.Sandbox.Mode
import MutantHunt.Sandbox.Tools.Names

/-!
# Tools that make and remove files

Tools that make and remove files and directories, set their length, and change who may use them.
-/

namespace MutantHunt.Sandbox.Tools

/-! ## Removing -/

/-- Whether a path ends in one of the names that cannot be removed. -/
def isDots (path : String) : Bool :=
  let name := (Files.namesOf path).getLast?
  name == some "." || name == some ".."

/-- What is said of all that is removed at a path. The number bounds how deep directories stand inside
directories. -/
def removedText (files : Files) (directory : Place) : Nat → String → String
  | 0, _ => ""
  | n + 1, path =>
    match files.findEntry directory path with
    | .ok (place, .directory _) =>
      String.join ((files.names place).map fun name => removedText files directory n (path ++ "/" ++ name))
        ++ "removed directory " ++ quoted path ++ "\n"
    | .ok _ => "removed " ++ quoted path ++ "\n"
    | .error _ => ""

/-- Removes files, and directories where that is asked for. -/
def rm : Tool := fun process machine =>
  let options := Options.read [] [("recursive", 'r'), ("force", 'f'), ("dir", 'd'), ("verbose", 'v')]
    process.arguments
  let recursive := options.has 'r' || options.has 'R'
  let directory := process.directory
  if options.operands.isEmpty && !options.has 'f' then misuse process machine 1 "missing operand"
  else
    let step (operand : String) (files : Files) : Except String Files :=
      match files.findEntry directory operand with
      | .ok (place, .directory _) =>
        if !recursive && !options.has 'd' then explained "cannot remove" operand (.error .isADirectory)
        else if isDots operand || place.isEmpty then
          .error ("refusing to remove \x27.\x27 or \x27..\x27 directory: skipping " ++ quoted operand)
        else
          explained "cannot remove" operand
            (if recursive then files.removeTree directory operand else files.removeDirectory directory operand)
      | .ok _ => explained "cannot remove" operand (files.remove directory operand)
      | .error e =>
        if options.has 'f' && (e == .notFound || e == .notADirectory) then .ok files
        else explained "cannot remove" operand (.error e)
    let report (operand : String) (files : Files) : String :=
      if options.has 'v' then removedText files directory (files.items.length + 2) operand else ""
    forEach options.operands report step process machine

/-- Removes empty directories. -/
def rmdir : Tool := fun process machine =>
  let options := Options.read [] [("parents", 'p'), ("ignore-fail-on-non-empty", 'I'), ("verbose", 'v')]
    process.arguments
  if options.operands.isEmpty then misuse process machine 1 "missing operand"
  else
    let pathsOf (operand : String) : List String :=
      let names := Files.namesOf operand
      let start := if operand.startsWith "/" then "/" else ""
      let outer := if options.has 'p' then (List.range (names.length - 1)).reverse else []
      operand :: outer.map fun n => start ++ "/".intercalate (names.take (n + 1))
    (options.operands.map pathsOf).foldl
      (fun (status, machine) paths =>
        let (failed, machine) := paths.foldl
          (fun (failed, machine) path =>
            if failed then (true, machine)
            else
              let machine :=
                if options.has 'v' then say process machine ("rmdir: removing directory, " ++ quoted path ++ "\n")
                else machine
              match machine.attempt fun files => files.removeDirectory process.directory path with
              | (.ok (), machine) => (false, machine)
              | (.error e, machine) =>
                if e == .directoryNotEmpty && options.has 'I' then (false, machine)
                else (true, (fail process machine 1 ("failed to remove " ++ quoted path ++ ": " ++ e.wording)).2))
          (false, machine)
        (if failed then 1 else status, machine))
      (0, machine)

/-- Removes one file. -/
def unlink : Tool := fun process machine =>
  match process.arguments with
  | [path] =>
    forEach [path] (fun _ _ => "")
      (fun path files => explained "cannot unlink" path (files.remove process.directory path)) process machine
  | _ :: path :: _ => misuse process machine 1 ("extra operand " ++ quoted path)
  | [] => misuse process machine 1 "missing operand"

/-! ## Making -/

/-- The mode that a creating tool was asked for. -/
def askedMode (options : Options) (mode : Nat) : Option Nat :=
  match options.value? 'm' with
  | none => some mode
  | some text => (Mode.change? 0 text).map fun change => change 0o777

/-- What is said of the directories that have to be made for a path. -/
def madeText (files : Files) (directory : Place) (outerToo : Bool) (path : String) : String :=
  let names := path.splitOn "/"
  let outer := (List.range (names.length - 1)).map fun n => "/".intercalate (names.take (n + 1))
  let wanted := (if outerToo then outer else []) ++ [path]
  String.join (wanted.filterMap fun path =>
    if path.isEmpty || files.pathExists directory path then none
    else some ("mkdir: created directory " ++ quoted path ++ "\n"))

/-- Makes directories. -/
def mkdir : Tool := fun process machine =>
  let options := Options.read ['m'] [("parents", 'p'), ("mode", 'm'), ("verbose", 'v')] process.arguments
  match options.operands, askedMode options process.directoryMode with
  | [], _ => misuse process machine 1 "missing operand"
  | _, none => fail process machine 1 ("invalid mode " ++ quoted ((options.value? 'm').getD ""))
  | operands, some mode =>
    operands.foldl
      (fun (status, machine) operand =>
        let said :=
          if options.has 'v' then madeText machine.files process.directory (options.has 'p') operand else ""
        let (result, machine) :=
          if options.has 'p' then
            machine.attemptParts fun files =>
              let isNew := !files.pathExists process.directory operand
              match files.makeDirectories process.directory operand process.directoryMode with
              | (.ok (), made) =>
                (.ok (),
                  if isNew then (made.changeMode process.directory operand fun _ => mode).toOption.getD made
                  else made)
              | failure => failure
          else machine.attempt fun files => files.makeDirectory process.directory operand mode
        match result with
        | .ok () => (status, if said.isEmpty then machine else say process machine said)
        | .error e => fail process machine 1 ("cannot create directory " ++ quoted operand ++ ": " ++ e.wording))
      (0, machine)

/-- Makes pipes with names. -/
def mkfifo : Tool := fun process machine =>
  let options := Options.read ['m'] [("mode", 'm')] process.arguments
  match options.operands, askedMode options process.fileMode with
  | [], _ => misuse process machine 1 "missing operand"
  | _, none => fail process machine 1 "invalid mode"
  | operands, some mode =>
    let step (path : String) (files : Files) : Except String Files :=
      explained "cannot create fifo" path (files.put process.directory path (.queue [] mode))
    forEach operands (fun _ _ => "") step process machine

/-- Makes empty files where there are none. -/
def touch : Tool := fun process machine =>
  let options := Options.read ['d', 't', 'r'] [("no-create", 'c'), ("date", 'd'), ("reference", 'r')]
    process.arguments
  let step (operand : String) (files : Files) : Except OsError Files :=
    match files.find process.directory operand with
    | .ok (place, _) =>
      if (files.items.lookup place).isSome || place.head? == some "dev" then .ok files
      else .error .permissionDenied
    | .error .notFound =>
      if options.has 'c' then .ok files
      else files.write process.directory operand [] process.fileMode
    | .error e => .error e
  if options.operands.isEmpty then misuse process machine 1 "missing file operand"
  else
    forEach options.operands (fun _ _ => "") (fun path files => explained "cannot touch" path (step path files))
      process machine

/-- The size that a file gets, from the size it has. -/
def newSize? (text : String) (old : Nat) : Option Nat :=
  let rest := sizeOf? (text.drop 1).toString
  match text.toList with
  | '+' :: _ => rest.map (old + ·)
  | '-' :: _ => rest.map (old - ·)
  | '<' :: _ => rest.map (min old)
  | '>' :: _ => rest.map (max old)
  | '/' :: _ => rest.map fun n => if n = 0 then old else old / n * n
  | '%' :: _ => rest.map fun n => if n = 0 then old else (old + (n - 1)) / n * n
  | _ => sizeOf? text

/-- Sets the length of files. -/
def truncate : Tool := fun process machine =>
  let options := Options.read ['s', 'r'] [("size", 's'), ("no-create", 'c')] process.arguments
  match options.value? 's' with
  | none => misuse process machine 1 "you must specify either \x27--size\x27 or \x27--reference\x27"
  | some text =>
    if (newSize? text 0).isNone then fail process machine 1 ("Invalid number: " ++ quoted text)
    else if options.operands.isEmpty then misuse process machine 1 "missing file operand"
    else
      let step (operand : String) (files : Files) : Except String Files :=
        let known := files.pathExists process.directory operand
        let old := (files.read process.directory operand).toOption.getD []
        let size := (newSize? text old.length).getD 0
        let new := old.take size ++ List.replicate (size - old.length) 0
        if options.has 'c' && !known then .ok files
        else
          (files.write process.directory operand new process.fileMode).mapError fun e =>
            "cannot open " ++ quoted operand ++ " for writing: " ++ e.wording
      forEach options.operands (fun _ _ => "") step process machine

/-! ## Modes -/

/-- All places inside a directory. -/
def placesInside (files : Files) (place : Place) : List Place :=
  (files.items.filter fun (other, item) =>
    place.isPrefixOf other && other != place && (match item with | .link _ => false | _ => true)).map Prod.fst

/-- What is said of a change of mode. -/
def changeText (path : String) (old new : Nat) : String :=
  let shown (mode : Nat) : String :=
    Shell.Format.digitsIn 8 (mode + 0o10000) |>.drop 1 |>.toString
  let letters (mode : Nat) : String := ((modeLetters (.file [] mode)).drop 1).toString
  let described (mode : Nat) : String := shown mode ++ " (" ++ letters mode ++ ")"
  if old = new then "mode of " ++ quoted path ++ " retained as " ++ described old ++ "\n"
  else "mode of " ++ quoted path ++ " changed from " ++ described old ++ " to " ++ described new ++ "\n"

/-- Changes modes of files. -/
def chmod : Tool := fun process machine =>
  let isMode (argument : String) : Bool :=
    argument.length > 1 && (argument.toList.drop 1).all fun c => "rwxXstugo,+-=".toList.contains c
  let (flags, rest) := process.arguments.partition fun a =>
    a.startsWith "-" && a.length > 1 && !(isMode a && a != "-R")
  let recursive := flags.contains "-R" || flags.contains "--recursive"
  let isAny (letter long : String) : Bool := flags.contains letter || flags.contains long
  match rest with
  | mode :: operand :: operands =>
    match Mode.change? process.mask mode with
    | none => misuse process machine 1 ("invalid mode: " ++ quoted mode)
    | some change =>
      let step (path : String) (files : Files) : Except String Files := do
        let change (files : Files) (directory : Place) (path : String) : Except String Files :=
          (files.changeMode directory path change).mapError fun e =>
            (if e == .notPermitted then "changing permissions of " else "cannot access ") ++ quoted path
              ++ ": " ++ e.wording
        let changed ← change files process.directory path
        if recursive then
          let (place, _) ← (files.find process.directory path).mapError OsError.wording
          (placesInside files place).foldlM (fun files inner => change files [] inner.path) changed
        else .ok changed
      let report (path : String) (files : Files) : String :=
        match files.find process.directory path with
        | .ok (_, item) =>
          let new := change item.mode
          if isAny "-v" "--verbose" || isAny "-c" "--changes" && new != item.mode then
            changeText path item.mode new
          else ""
        | .error _ => ""
      forEach (operand :: operands) report step process machine
  | [mode] => misuse process machine 1 ("missing operand after " ++ quoted mode)
  | [] => misuse process machine 1 "missing operand"

end MutantHunt.Sandbox.Tools
