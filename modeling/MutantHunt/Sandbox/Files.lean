import MutantHunt.OsError
import MutantHunt.Sandbox.ByteText

/-!
# The files of a sandbox

`Files` is what a machine has on disk: every directory and file under its place, which is the list of
names that leads there from the root. Names are looked up the way a system does it: every part of a
path but the last has to be a directory that may be searched, `.` and `..` are followed, a link is
replaced by the path it holds, and a slash at the end asks for a directory.

There is one user, who owns everything but what is there on every machine (`standard`): a few
directories and devices, and the programs in `programs`. So of a mode only the bits of the owner
matter. The content of a standard program is a marker with its name, so a copy of it is the same
program.
-/

namespace MutantHunt.Sandbox

/-- The names that lead from the root to a place. -/
abbrev Place := List String

/-- What is at a place. -/
inductive Item where
  | file (content : List UInt8) (mode : Nat)
  | directory (mode : Nat)
  /-- Leads to another path. -/
  | link (path : String)
  /-- A pipe with a name, with what was written to it. -/
  | queue (content : List UInt8) (mode : Nat)
  /-- Holds nothing and forgets what is written to it. -/
  | sink
  /-- Holds the same bytes again and again. -/
  | endless (bytes : List UInt8)
  deriving DecidableEq, Repr, Inhabited

/-- The bit of a mode that lets its owner read. -/
def readable : Nat := 0o400

/-- The bit of a mode that lets its owner write, or change which names a directory has. -/
def writable : Nat := 0o200

/-- The bit of a mode that lets its owner execute, or follow the names of a directory. -/
def executable : Nat := 0o100

namespace Item

/-- Who may do what. -/
def mode : Item → Nat
  | file _ mode | directory mode | queue _ mode => mode
  | link _ => 0o777
  | sink | endless _ => 0o666

/-- Whether a bit of the mode is set. -/
def allows (item : Item) (bit : Nat) : Bool :=
  item.mode &&& bit != 0

/-- The same with another mode, where it has one. -/
def withMode (mode : Nat) : Item → Item
  | file content _ => file content mode
  | directory _ => directory mode
  | queue content _ => queue content mode
  | other => other

/-- Whether this is a directory. -/
def isDirectory : Item → Bool
  | directory _ => true
  | _ => false

/-- Whether this is a file. -/
def isFile : Item → Bool
  | file _ _ => true
  | _ => false

/-- How many bytes there are. -/
def size : Item → Nat
  | file content _ => content.length
  | link path => path.length
  | directory _ => 4096
  | _ => 0

end Item

/-- The mode of a new file that everyone may read. -/
def plainMode : Nat := 0o644

/-- The mode of a new directory, or of a file that everyone may execute. -/
def openMode : Nat := 0o755

/-- What the content of a program starts with. -/
def programMarker : String := "\x7fELF "

/-- The content of a program that every machine has. -/
def programImage (name : String) : List UInt8 :=
  ByteText.toBytes (programMarker ++ name)

/-- The programs that every machine has. -/
def programs : List String :=
  ["[", "arch", "base64", "basename", "bash", "cat", "chmod", "cksum", "cmp", "comm", "cp", "cut", "dash",
    "date", "dd", "diff", "dirname", "echo", "egrep", "env", "expand", "expr", "factor", "false", "fgrep",
    "find", "fold", "grep", "head", "hostname", "id", "install", "join", "kill", "ln", "ls", "md5sum", "mkdir",
    "mkfifo", "mktemp", "mv", "nice", "nl", "nohup", "nproc", "od", "paste", "printenv", "printf", "pwd",
    "readlink", "realpath", "rev", "rm", "rmdir", "sed", "seq", "setsid", "sh", "sha1sum", "sha256sum", "sleep",
    "sort", "split", "stat", "stdbuf", "sync", "tac", "tail", "tee", "test", "timeout", "touch", "tr", "true",
    "truncate", "tty", "uname", "uniq", "unlink", "wc", "which", "whoami", "xargs", "yes"]

/-- The directories that every machine has. -/
def standardDirectories : List Place :=
  [[], ["bin"], ["dev"], ["dev", "fd"], ["etc"], ["home"], ["lib"], ["media"], ["mnt"], ["opt"],
    ["proc"], ["root"], ["run"], ["sbin"], ["srv"], ["sys"], ["usr"], ["usr", "bin"], ["usr", "lib"],
    ["usr", "local"], ["usr", "local", "bin"], ["usr", "sbin"], ["var"], ["var", "log"]]

/-- The directories that every machine has for everyone to write to. -/
def sharedDirectories : List Place :=
  [["tmp"], ["var", "tmp"], ["dev", "shm"]]

/-- Bytes that nobody can foretell, or so it seems. -/
def noise : List UInt8 :=
  (List.range 251).map fun n => UInt8.ofNat (n * n * 7 + n * 31 + 113)

/-- What every machine has at a place. -/
def standard (place : Place) : Option Item :=
  if standardDirectories.contains place then some (.directory 0o555)
  else if sharedDirectories.contains place then some (.directory 0o777)
  else
    match place with
    | ["dev", "null"] | ["dev", "stdin"] | ["dev", "stdout"] | ["dev", "stderr"] => some .sink
    | ["dev", "zero"] => some (.endless [0])
    | ["dev", "random"] | ["dev", "urandom"] => some (.endless noise)
    | ["etc", "passwd"] => some (.file (ByteText.toBytes "root:x:0:0:root:/root:/bin/bash\n") 0o444)
    | ["etc", "group"] => some (.file (ByteText.toBytes "root:x:0:\n") 0o444)
    | ["bin", name] | ["usr", "bin", name] =>
      if programs.contains name then some (.file (programImage name) 0o555) else none
    | _ => none

/-- The files and directories of a machine, besides the standard ones. -/
structure Files where
  items : List (Place × Item) := []
  deriving DecidableEq, Repr, Inhabited

namespace Files

/-- What is at a place. -/
def get? (files : Files) (place : Place) : Option Item :=
  match files.items.lookup place with
  | some item => some item
  | none => standard place

/-- Whether there is a directory at a place. -/
def isDirectory (files : Files) (place : Place) : Bool :=
  (files.get? place).any Item.isDirectory

/-- Puts something at a place. -/
def set (files : Files) (place : Place) (item : Item) : Files :=
  if files.items.any fun entry => entry.1 == place then
    ⟨files.items.map fun entry => if entry.1 == place then (place, item) else entry⟩
  else ⟨files.items ++ [(place, item)]⟩

/-- Takes away what is at a place, with all inside it. -/
def erase (files : Files) (place : Place) : Files :=
  ⟨files.items.filter fun entry => !place.isPrefixOf entry.1⟩

/-- What is directly inside a directory, by name in ascending order. -/
def inside (files : Files) (place : Place) : List (String × Item) :=
  let entries := files.items.filterMap fun (other, item) =>
    if place.isPrefixOf other then
      match other.drop place.length with
      | [name] => some (name, item)
      | _ => none
    else none
  entries.mergeSort fun a b => decide (a.1 ≤ b.1)

/-- The names directly inside a directory, in ascending order. -/
def names (files : Files) (place : Place) : List String :=
  (files.inside place).map Prod.fst

/-- The names in a directory, if they may be read. -/
def listing (files : Files) (place : Place) : Except OsError (List String) :=
  match files.get? place with
  | some (.directory mode) =>
    if (Item.directory mode).allows readable then .ok (files.names place) else .error .permissionDenied
  | some _ => .error .notADirectory
  | none => .error .notFound

/-! ## Paths -/

/-- The names in a path. -/
def namesOf (path : String) : List String :=
  (path.splitOn "/").filter (!·.isEmpty)

/-- Where following names leads. -/
inductive Walk where
  | arrived (place : Place)
  /-- There is a link, in a directory and with names still to be followed behind it. -/
  | link (directory : Place) (path : String) (rest : List String)
  deriving Repr

/-- Follows names from a directory up to their end or to a link. All places on the way have to be
directories that may be searched; what the last name leads to may be missing. Whether a link under the
last name counts is left open. -/
def walk (files : Files) (lastToo : Bool) : Place → List String → Except OsError Walk
  | place, [] => .ok (.arrived place)
  | place, name :: rest =>
    match files.get? place with
    | none => .error .notFound
    | some (.directory mode) =>
      if !(Item.directory mode).allows executable then .error .permissionDenied
      else if name == "." then files.walk lastToo place rest
      else if name == ".." then files.walk lastToo place.dropLast rest
      else if name.length > 255 then .error .nameTooLong
      else
        match files.get? (place ++ [name]) with
        | some (.link path) =>
          if rest.isEmpty && !lastToo then .ok (.arrived (place ++ [name]))
          else .ok (.link place path rest)
        | _ => files.walk lastToo (place ++ [name]) rest
    | some _ => .error .notADirectory

/-- Follows names from a directory, and the links on the way. The number bounds how many those are. -/
def follow (files : Files) (lastToo : Bool) : Nat → Place → List String → Except OsError Place
  | 0, _, _ => .error .tooManyLinks
  | n + 1, place, names => do
    match ← files.walk lastToo place names with
    | .arrived place => .ok place
    | .link directory path rest =>
      files.follow lastToo n (if path.startsWith "/" then [] else directory) (namesOf path ++ rest)

/-- How many links are followed. -/
def linkLimit : Nat := 40

/-- Whether a path asks for a directory. -/
def asksForDirectory (path : String) : Bool :=
  path.endsWith "/" || path.endsWith "/." || path == "." || path.endsWith "/.." || path == ".."

/-- The place of a path, for a process that works in `directory`. What is there may be missing. -/
def place (files : Files) (directory : Place) (path : String) (lastToo : Bool) : Except OsError Place :=
  if path.isEmpty then .error .notFound
  else if path.toList.contains '\x00' then .error .nulInPath
  else if path.length ≥ 4096 then .error .nameTooLong
  else
    let start := if path.startsWith "/" then [] else directory
    files.follow lastToo (linkLimit + 1) start (namesOf path)

/-- The place that a path leads to. -/
def locate (files : Files) (directory : Place) (path : String) : Except OsError Place :=
  files.place directory path true

/-- The place of a path. If there is a link, this is the place of the link. -/
def locateEntry (files : Files) (directory : Place) (path : String) : Except OsError Place :=
  files.place directory path (asksForDirectory path)

/-- What is at the place of a path. -/
def present (files : Files) (path : String) (place : Place) : Except OsError (Place × Item) :=
  match files.get? place with
  | none => .error .notFound
  | some item =>
    if asksForDirectory path && !item.isDirectory then .error .notADirectory else .ok (place, item)

/-- The place that a path leads to and what is there. -/
def find (files : Files) (directory : Place) (path : String) : Except OsError (Place × Item) := do
  files.present path (← files.locate directory path)

/-- The place of a path and what is there, which may be a link. -/
def findEntry (files : Files) (directory : Place) (path : String) : Except OsError (Place × Item) := do
  files.present path (← files.locateEntry directory path)

/-- Whether a path leads to something. -/
def pathExists (files : Files) (directory : Place) (path : String) : Bool :=
  (files.find directory path).toOption.isSome

/-- Whether a path leads to a directory. -/
def isDirectoryAt (files : Files) (directory : Place) (path : String) : Bool :=
  match files.find directory path with
  | .ok (_, item) => item.isDirectory
  | .error _ => false

/-- Asks for the right to change which names the directory around a place has. -/
def demandChange (files : Files) (place : Place) : Except OsError Unit :=
  match files.get? place.dropLast with
  | some (.directory mode) =>
    if (Item.directory mode).allows writable then .ok () else .error .permissionDenied
  | some _ => .error .notADirectory
  | none => .error .notFound

/-! ## Operations -/

/-- What a file holds. Of a device without end, this is what comes again and again. -/
def read (files : Files) (directory : Place) (path : String) : Except OsError (List UInt8) := do
  let (_, item) ← files.find directory path
  if !item.allows readable then .error .permissionDenied
  else
    match item with
    | .file content _ | .queue content _ | .endless content => .ok content
    | .directory _ => .error .isADirectory
    | .sink | .link _ => .ok []

/-- Finds where to write: an existing file or device, or a new file. -/
def target (files : Files) (directory : Place) (path : String) :
    Except OsError (Place × Option Item) := do
  let place ← files.locate directory path
  match files.get? place with
  | some (.directory _) => .error .isADirectory
  | some item =>
    if asksForDirectory path then .error .notADirectory
    else if item.allows writable then .ok (place, some item)
    else .error .permissionDenied
  | none =>
    if asksForDirectory path then .error .isADirectory
    else
      files.demandChange place
      .ok (place, none)

/-- Replaces the content of a file, and makes it if it is missing. An existing file keeps its mode.
-/
def write (files : Files) (directory : Place) (path : String) (content : List UInt8) (mode : Nat) :
    Except OsError Files := do
  match ← files.target directory path with
  | (place, none) => .ok (files.set place (.file content mode))
  | (place, some (.file _ old)) => .ok (files.set place (.file content old))
  | (place, some (.queue before old)) => .ok (files.set place (.queue (before ++ content) old))
  | (_, some _) => .ok files

/-- Adds to the end of the file at a place. -/
def append (files : Files) (place : Place) (content : List UInt8) : Files :=
  match files.get? place with
  | some (.file old mode) => files.set place (.file (old ++ content) mode)
  | some (.queue old mode) => files.set place (.queue (old ++ content) mode)
  | _ => files

/-- Copies a file with its mode. A file that is copied to itself loses its content. -/
def copy (files : Files) (directory : Place) (source destination : String) :
    Except OsError Files := do
  let (origin, item) ← files.find directory source
  if !item.allows readable then .error .permissionDenied
  else
    match item with
    | .file content mode =>
      match ← files.target directory destination with
      | (place, none) | (place, some (.file _ _)) =>
        .ok (files.set place (.file (if place == origin then [] else content) mode))
      | (_, some _) => .ok files
    | _ => .error .notAFile

/-- Removes a file or a link. -/
def remove (files : Files) (directory : Place) (path : String) : Except OsError Files := do
  let (place, item) ← files.findEntry directory path
  files.demandChange place
  if item.isDirectory then .error .isADirectory else .ok (files.erase place)

/-- Whether all inside a directory may be removed. -/
def isClearable (files : Files) (place : Place) : Bool :=
  files.items.all fun (other, item) =>
    match item with
    | .directory _ =>
      !place.isPrefixOf other
        || item.allows readable
          && (item.allows writable && item.allows executable || (files.inside other).isEmpty)
    | _ => true

/-- Removes a directory with all inside it, or a link. -/
def removeTree (files : Files) (directory : Place) (path : String) : Except OsError Files := do
  match ← files.findEntry directory path with
  | (place, .directory _) =>
    files.demandChange place
    if files.isClearable place then .ok (files.erase place) else .error .permissionDenied
  | (_, .link _) => files.remove directory path
  | _ => .error .notADirectory

/-- Removes an empty directory. -/
def removeDirectory (files : Files) (directory : Place) (path : String) : Except OsError Files := do
  match ← files.findEntry directory path with
  | (place, .directory _) =>
    files.demandChange place
    if path == "." || path.endsWith "/." then .error .invalidArgument
    else if (files.names place).isEmpty then .ok (files.erase place)
    else .error .directoryNotEmpty
  | _ => .error .notADirectory

/-- Puts something new at the place of a path. -/
def put (files : Files) (directory : Place) (path : String) (item : Item) : Except OsError Files := do
  let place ← files.locateEntry directory path
  if (files.get? place).isSome then .error .alreadyExists
  else
    files.demandChange place
    .ok (files.set place item)

/-- Makes a directory. -/
def makeDirectory (files : Files) (directory : Place) (path : String) (mode : Nat) :
    Except OsError Files :=
  files.put directory path (.directory mode)

/-- The path without its last name. Slashes and `.` at its end count for nothing. The root has no such
path. -/
def parent? (path : String) : Option String :=
  let rec trim : List String → List String
    | part :: rest => if part == "" || part == "." && !rest.isEmpty then trim rest else part :: rest
    | [] => []
  match trim (path.splitOn "/").reverse with
  | [] => none
  | _ :: rest =>
    match trim rest with
    | [] => some (if path.startsWith "/" then "/" else "")
    | parts => some ("/".intercalate parts.reverse)

/-- Makes a directory, and those around it that are missing. The number bounds how many those are. -/
def makeDirectoriesUpTo (directory : Place) (mode : Nat) :
    Nat → String → Files → Except OsError Unit × Files
  | 0, _, files => (.ok (), files)
  | n + 1, path, files =>
    if path.isEmpty then (.ok (), files)
    else
      let settle (files : Files) : Except OsError Unit × Files :=
        match files.makeDirectory directory path mode with
        | .ok made => (.ok (), made)
        | .error e =>
          match files.find directory path with
          | .ok (_, .directory _) => (.ok (), files)
          | _ => (.error e, files)
      match files.makeDirectory directory path mode, parent? path with
      | .error .notFound, some outer =>
        match makeDirectoriesUpTo directory mode n outer files with
        | (.ok (), files) => settle files
        | failure => failure
      | _, _ => settle files

/-- Makes a directory, and those around it that are missing. A directory that is there already is
good. What was made before a failure stays. -/
def makeDirectories (directory : Place) (path : String) (mode : Nat) (files : Files) :
    Except OsError Unit × Files :=
  makeDirectoriesUpTo directory mode (path.length + 1) path files

/-- Puts something at a place whatever is there, with the directories around it. The user owns all of them.
-/
def plant (files : Files) (place : Place) (item : Item) : Files :=
  let around := (List.range place.length).map place.take
  let files := around.foldl
    (fun files outer => if (files.items.lookup outer).isSome then files else files.set outer (.directory openMode))
    files
  files.set place item

/-- Changes the mode of a file or a directory, which the user has to own. -/
def changeMode (files : Files) (directory : Place) (path : String) (change : Nat → Nat) :
    Except OsError Files := do
  let (place, item) ← files.find directory path
  if (files.items.lookup place).isNone then .error .notPermitted
  else .ok (files.set place (item.withMode (change item.mode)))

/-- Moves a file or a directory to another place, whatever is there. -/
def relocate (files : Files) (source destination : Place) : Files :=
  let moved := files.items.filterMap fun (place, item) =>
    if source.isPrefixOf place then some (destination ++ place.drop source.length, item) else none
  ⟨((files.erase source).erase destination).items ++ moved⟩

/-- Moves a file or a directory. What is there already is replaced, if it is of the same kind. -/
def move (files : Files) (directory : Place) (source destination : String) : Except OsError Files := do
  let (origin, item) ← files.findEntry directory source
  let goal ← files.locateEntry directory destination
  files.demandChange origin
  files.demandChange goal
  if origin == goal then .ok files
  else if origin.isPrefixOf goal then .error .invalidArgument
  else
    match item.isDirectory, files.get? goal with
    | true, some (.directory _) =>
      if (files.names goal).isEmpty then .ok (files.relocate origin goal) else .error .directoryNotEmpty
    | true, some _ => .error .notADirectory
    | false, some (.directory _) => .error .isADirectory
    | false, none =>
      if asksForDirectory destination then .error .notADirectory else .ok (files.relocate origin goal)
    | _, _ => .ok (files.relocate origin goal)

end Files

/-- The path of a place. -/
def Place.path (place : Place) : String :=
  "/" ++ "/".intercalate place

end MutantHunt.Sandbox
