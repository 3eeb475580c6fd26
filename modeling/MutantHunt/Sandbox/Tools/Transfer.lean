import MutantHunt.Sandbox.Mode
import MutantHunt.Sandbox.Tools.Names

/-!
# Tools that bring files somewhere

`cp`, `mv`, `ln` and `install` copy, move, link and install each of their sources to a target, or into it if it
is a directory (`transfer`).
-/

namespace MutantHunt.Sandbox.Tools

/-- Where something goes that is copied or moved to a path: into a directory under its own name, or to
the path itself. -/
def destination (files : Files) (directory : Place) (source target : String) : String :=
  match files.find directory target with
  | .ok (_, .directory _) =>
    if target.endsWith "/" then target ++ lastName source else target ++ "/" ++ lastName source
  | _ => target

/-- Options of tools that bring something somewhere. -/
def transferOptions : List (String × Char) :=
  [("recursive", 'r'), ("archive", 'a'), ("force", 'f'), ("no-clobber", 'n'), ("target-directory", 't'),
    ("no-target-directory", 'T'), ("symbolic", 's'), ("verbose", 'v'), ("preserve", 'p'),
    ("no-dereference", 'P'), ("dereference", 'L')]

/-- Does something with each source and the path it goes to, and says so if that is wanted. -/
def transfer (options : Options) (said : String → String → String)
    (step : Files → String → String → Except String Files) : Tool := fun process machine =>
  let (sources, target?) :=
    match options.value? 't' with
    | some target => (options.operands, some target)
    | none => (options.operands.dropLast, options.operands.getLast?)
  match target? with
  | none => misuse process machine 1 "missing file operand"
  | some target =>
    let found := machine.files.find process.directory target
    let isDirectory :=
      match found with
      | .ok (_, item) => item.isDirectory
      | .error _ => false
    if sources.isEmpty then misuse process machine 1 ("missing destination file operand after " ++ quoted target)
    else if (sources.length > 1 || options.has 't') && !isDirectory then
      let wording := (match found with | .ok _ => OsError.notADirectory | .error e => e).wording
      fail process machine 1 ("target " ++ quoted target ++ ": " ++ wording)
    else
      let pathOf (source : String) (files : Files) : String :=
        if options.has 'T' then target else destination files process.directory source target
      let isKept (path : String) (files : Files) : Bool :=
        options.has 'n' && (files.findEntry process.directory path).toOption.isSome
      let move (source : String) (files : Files) : Except String Files :=
        let path := pathOf source files
        if isKept path files then .ok files else step files source path
      let report (source : String) (files : Files) : String :=
        let path := pathOf source files
        if options.has 'v' && !isKept path files then said source path ++ "\n" else ""
      forEach sources report move process machine

/-- Whether two paths lead to the same place. -/
def isSame (files : Files) (directory : Place) (place : Place) (path : String) : Bool :=
  (files.find directory path).toOption.map Prod.fst == some place

/-- Copies a file as a new file would be made, or a directory with all inside it. -/
def copyOne (process : Process) (options : Options) (files : Files) (source path : String) :
    Except String Files := do
  let recursive := options.has 'r' || options.has 'R' || options.has 'a'
  let keeps := options.has 'p' || options.has 'a'
  let links := (recursive || options.has 'P' || options.has 'd') && !options.has 'L'
  let newMode (mode : Nat) : Nat := if keeps then mode else mode &&& (0o777 ^^^ process.mask)
  let directory := process.directory
  let making {α : Type} (result : Except OsError α) : Except String α :=
    explained "cannot create regular file" path result
  let found ← explained "cannot stat" source
    (if links then files.findEntry directory source else files.find directory source)
  let (place, item) := found
  if !item.isDirectory && isSame files directory place path then
    throw (quoted source ++ " and " ++ quoted path ++ " are the same file")
  match item with
  | .file content mode =>
    if !item.allows readable then
      .error ("cannot open " ++ quoted source ++ " for reading: " ++ OsError.permissionDenied.wording)
    else if files.isDirectoryAt directory path then
      .error ("cannot overwrite directory " ++ quoted path ++ " with non-directory")
    else
      let unwritable := (files.write directory path content mode).toOption.isNone
      let files ← if options.has 'f' && unwritable then making (files.remove directory path) else .ok files
      let isNew := (files.find directory path).toOption.isNone
      let written ← making (files.write directory path content (newMode mode))
      if keeps && !isNew then making (written.changeMode directory path fun _ => mode) else .ok written
  | .link target => explained "cannot create symbolic link" path (files.put directory path (.link target))
  | .queue content mode =>
    if recursive then making (files.put directory path (.queue [] mode))
    else making (files.write directory path content (newMode mode))
  | .sink => making (files.write directory path [] (newMode plainMode))
  | .endless _ => making (.error .invalidArgument)
  | .directory mode =>
    if !recursive then .error ("-r not specified; omitting directory " ++ quoted source)
    else
      let made ←
        match files.find directory path with
        | .ok (_, .directory _) => .ok files
        | .ok _ =>
          .error ("cannot overwrite non-directory " ++ quoted path ++ " with directory " ++ quoted source)
        | .error _ => explained "cannot create directory" path (files.makeDirectory directory path (newMode mode))
      let goal ← explained "cannot create directory" path (made.locate directory path)
      if place.isPrefixOf goal then
        .error ("cannot copy a directory, " ++ quoted source ++ ", into itself, " ++ quoted path)
      else
        .ok (files.items.foldl
          (fun copied (other, item) =>
            if place.isPrefixOf other && other != place then
              copied.set (goal ++ other.drop place.length) (item.withMode (newMode item.mode))
            else copied)
          made)

/-- An arrow between two paths. -/
def arrow (mark source path : String) : String :=
  quoted source ++ " " ++ mark ++ " " ++ quoted path

/-- Copies files and directories. -/
def cp : Tool := fun process machine =>
  let options := Options.read ['t'] transferOptions process.arguments
  transfer options (arrow "->") (copyOne process options) process machine

/-- Moves files and directories. -/
def mv : Tool := fun process machine =>
  let options := Options.read ['t'] transferOptions process.arguments
  let directory := process.directory
  let step (files : Files) (source path : String) : Except String Files := do
    let (place, item) ← explained "cannot stat" source (files.findEntry directory source)
    let goal := (files.locateEntry directory path).toOption
    if goal == some place then throw (quoted source ++ " and " ++ quoted path ++ " are the same file")
    else if item.isDirectory && goal.any place.isPrefixOf then
      throw ("cannot move " ++ quoted source ++ " to a subdirectory of itself, " ++ quoted path)
    else if item.isDirectory && files.pathExists directory path && !files.isDirectoryAt directory path then
      throw ("cannot overwrite non-directory " ++ quoted path ++ " with directory " ++ quoted source)
    else if !item.isDirectory && files.isDirectoryAt directory path then
      throw ("cannot overwrite directory " ++ quoted path ++ " with non-directory")
    else
      (files.move directory source path).mapError fun e =>
        "cannot move " ++ quoted source ++ " to " ++ quoted path ++ ": " ++ e.wording
  transfer options (fun source path => "renamed " ++ arrow "->" source path) step process machine

/-- Gives files further names. A name that is not a link gets a copy, which is the same as long as nobody
writes to it. -/
def ln : Tool := fun process machine =>
  let options := Options.read ['t'] transferOptions process.arguments
  let options :=
    if options.operands.length = 1 && !options.has 't' then
      { options with operands := options.operands ++ ["."] }
    else options
  let directory := process.directory
  let step (files : Files) (source path : String) : Except String Files := do
    let failure := if options.has 's' then "failed to create symbolic link" else "failed to create hard link"
    let files ←
      if options.has 'f' && (files.findEntry directory path).toOption.isSome then
        explained failure path (files.remove directory path)
      else .ok files
    if options.has 's' then explained failure path (files.put directory path (.link source))
    else
      match ← explained "failed to access" source (files.findEntry directory source) with
      | (_, .directory _) => .error (source ++ ": hard link not allowed for directory")
      | (_, item) => explained failure path (files.put directory path item)
  let said (source path : String) : String :=
    if options.has 's' then arrow "->" path source else arrow "=>" path source
  transfer { options with given := options.given.filter (·.1 != 'n') } said step process machine

/-- Copies files and sets their modes, or makes directories. -/
def install : Tool := fun process machine =>
  let options := Options.read ['m', 'o', 'g', 't'] [("directory", 'd'), ("mode", 'm'), ("target-directory", 't'),
    ("verbose", 'v')] process.arguments
  match (Mode.change? 0 ((options.value? 'm').getD "755")).map fun change => change 0 with
  | none => fail process machine 1 ("invalid mode " ++ quoted ((options.value? 'm').getD ""))
  | some mode =>
    if options.has 'd' then
      options.operands.foldl
        (fun (status, machine) path =>
          match machine.attemptParts (Files.makeDirectories process.directory path openMode) with
          | (.ok (), machine) =>
            let (failed, machine) :=
              alter process machine 1 path fun files => files.changeMode process.directory path fun _ => mode
            (max status failed, machine)
          | (.error e, machine) => fail process machine 1 (path ++ ": " ++ e.wording))
        (0, machine)
    else
      let around (path : String) (machine : Machine) : Machine :=
        if options.has 'D' then
          (machine.attemptParts (Files.makeDirectories process.directory (parentName path) openMode)).2
        else machine
      let machine := (options.operands.getLast?.map fun path => around path machine).getD machine
      let step (files : Files) (source path : String) : Except String Files := do
        let content ← explained "cannot stat" source (files.read process.directory source)
        let files := (files.remove process.directory path).toOption.getD files
        let files ← explained "cannot create regular file" path (files.write process.directory path content mode)
        explained "cannot change permissions of" path
          (files.changeMode process.directory path fun _ => mode)
      transfer options (arrow "->") step process machine

end MutantHunt.Sandbox.Tools
