import MutantHunt.Sandbox.Shell.Builtin
import MutantHunt.Sandbox.Shell.Script

/-!
# Redirections

Where the file descriptors of a command lead. `withRedirects` does something with redirected file
descriptors, which lead where they led before afterwards. What cannot be carried out has a cause
(`RedirectFault`).
-/

namespace MutantHunt.Sandbox.Shell

/-- Gives what a script prints, for words with commands in them. -/
def capture (run : Runner) : Capture :=
  captureOutput run

/-- The number of the file descriptor that a path stands for. -/
def descriptorOf? (path : String) : Option Nat :=
  match path with
  | "/dev/stdin" => some 0
  | "/dev/stdout" => some 1
  | "/dev/stderr" => some 2
  | _ =>
    if path.startsWith "/dev/fd/" then (path.drop 8).toString.toNat?
    else if path.startsWith "/proc/self/fd/" then (path.drop 14).toString.toNat? else none

/-- Why a redirection cannot be carried out. -/
inductive RedirectFault where
  | unreadable (path : String) (reason : OsError)
  | unwritable (path : String) (reason : OsError)
  /-- The file is there already, and may not be written over. -/
  | occupied (path : String)
  | closed (descriptor : String)
  /-- A text is no file descriptor. -/
  | noDescriptor (text : String)
  /-- A word does not become exactly one path. -/
  | ambiguous (word : String)
  deriving DecidableEq, Repr

/-- A fault in the words of one of the shells. -/
def RedirectFault.plainWording : RedirectFault → String
  | unreadable path reason =>
    "cannot open " ++ path ++ ": " ++ if isMissing reason then "No such file" else reason.wording
  | unwritable path reason =>
    "cannot create " ++ path ++ ": " ++ if isMissing reason then "Directory nonexistent" else reason.wording
  | occupied path => "cannot create " ++ path ++ ": " ++ OsError.alreadyExists.wording
  | closed descriptor => descriptor ++ ": Bad file descriptor"
  | noDescriptor _ | ambiguous _ => "Syntax error: Bad fd number"
where
  /-- Whether a path leads nowhere. -/
  isMissing (reason : OsError) : Bool := reason == .notFound || reason == .notADirectory

/-- A fault in the words of the other shell. -/
def RedirectFault.richWording : RedirectFault → String
  | unreadable path reason | unwritable path reason => path ++ ": " ++ reason.wording
  | occupied path => path ++ ": cannot overwrite existing file"
  | closed descriptor => descriptor ++ ": Bad file descriptor"
  | noDescriptor text | ambiguous text => text ++ ": ambiguous redirect"

/-- What is opened, or why it cannot be. -/
abbrev Opened := Except RedirectFault

/-- Lets a file descriptor lead where another one does. -/
def copyDescriptor (descriptor source : Nat) (sh : Shell) : Opened Shell :=
  match sh.process.channel? source with
  | some channel => .ok { sh with process := sh.process.redirect descriptor channel }
  | none => .error (.closed source.repr)

/-- The file descriptor that is open and that a path stands for. -/
def openDescriptor? (path : String) (sh : Shell) : Option Nat :=
  (descriptorOf? path).filter fun source => (sh.process.channel? source).isSome

/-- Opens a file for writing. What is in it goes away, unless text is added to it. -/
def openOutput (descriptor : Nat) (path : String) (appends forced : Bool) (sh : Shell) : Opened Shell :=
  match openDescriptor? path sh with
  | some source => copyDescriptor descriptor source sh
  | none =>
    match sh.machine.files.target sh.process.directory path with
    | .error e => .error (.unwritable path e)
    | .ok (place, item) =>
      let opened (machine : Machine) (channel : Channel) : Opened Shell :=
        .ok { sh with machine, process := sh.process.redirect descriptor channel }
      let empty (mode : Nat) : Opened Shell :=
        opened (sh.machine.change fun files => files.set place (.file [] mode)) (.file place)
      match item with
      | none => empty sh.process.fileMode
      | some (.file _ mode) =>
        if appends then opened sh.machine (.file place)
        else if sh.options.contains 'C' && !forced then .error (.occupied path)
        else empty mode
      | some (.queue _ _) => opened sh.machine (.file place)
      | some _ => opened sh.machine .sink

/-- Opens a file for reading. -/
def openSource (descriptor : Nat) (path : String) (sh : Shell) : Opened Shell :=
  match openDescriptor? path sh with
  | some source => copyDescriptor descriptor source sh
  | none =>
    match sh.machine.files.find sh.process.directory path with
    | .error e => .error (.unreadable path e)
    | .ok (_, item) =>
      if !item.allows readable then .error (.unreadable path .permissionDenied)
      else
        let input : Input :=
          match item with
          | .file bytes _ => { bytes, isFile := true }
          | .queue bytes _ => { bytes }
          | .endless endless => { bytes := [], endless }
          | _ => { bytes := [] }
        let (channel, machine) := sh.machine.openInput input
        .ok { sh with machine, process := sh.process.redirect descriptor channel }

/-- Lets a file descriptor read a text. -/
def openText (descriptor : Nat) (text : String) (sh : Shell) : Shell :=
  let (channel, machine) := sh.machine.openInput { bytes := ByteText.toBytes text, isFile := true }
  { sh with machine, process := sh.process.redirect descriptor channel }

section

variable (run : Runner)

/-- The path that a redirection leads to. One of the shells takes it as a word like any other, which has to
become one field. -/
def redirectPath (word : Word) (sh : Shell) : Opened String × Shell :=
  if sh.isBash then
    match fields (capture run) [word] sh with
    | ([path], sh) => (.ok path, sh)
    | (_, sh) => (.error (.ambiguous word.written), sh)
  else
    let (path, sh) := joinedText (capture run) word sh
    (.ok path, sh)

/-- Lets a file descriptor lead where the one that a text names does, or closes it. -/
def redirectLike (descriptor : Nat) (text : String) (sh : Shell) : Opened Shell :=
  if text == "-" then .ok { sh with process := sh.process.close descriptor }
  else
    match text.toNat?.filter fun _ => sh.isBash || text.length = 1 with
    | some source => copyDescriptor descriptor source sh
    | none =>
      let source? := (String.ofList text.toList.dropLast).toNat?.filter fun _ => text.endsWith "-"
      match sh.dialect, source? with
      | .bash, some source => do
        let sh ← copyDescriptor descriptor source sh
        .ok { sh with process := sh.process.close source }
      | .bash, none =>
        if descriptor = 1 then (openOutput 1 text false false sh).bind (copyDescriptor 2 1)
        else .error (.noDescriptor text)
      | .dash, _ => .error (.noDescriptor text)

/-- Carries out one redirection. -/
def redirectOne (redirect : Redirect) (sh : Shell) : Opened Unit × Shell :=
  let opened (word : Word) (body : String → Shell → Opened Shell) : Opened Unit × Shell :=
    match redirectPath run word sh with
    | (.ok path, sh) =>
      if !sh.goesOn then (.ok (), sh)
      else
        match body path sh with
        | .ok after => (.ok (), after)
        | .error fault => (.error fault, sh)
    | (.error fault, sh) => (.error fault, sh)
  match redirect.target with
  | .input path => opened path (openSource redirect.descriptor)
  | .output path forced => opened path fun path => openOutput redirect.descriptor path false forced
  | .appending path => opened path fun path => openOutput redirect.descriptor path true true
  | .created path =>
    opened path fun path sh =>
      if sh.machine.files.pathExists sh.process.directory path then openSource redirect.descriptor path sh
      else (openOutput redirect.descriptor path true true sh).bind (openSource redirect.descriptor path)
  | .copyOf word => opened word (redirectLike redirect.descriptor)
  | .document word =>
    let (glyphs, sh) := joined (capture run) word sh
    (.ok (), openText redirect.descriptor (Glyph.text glyphs) sh)
  | .line word =>
    let (text, sh) := joinedText (capture run) word sh
    (.ok (), openText redirect.descriptor (text ++ "\n") sh)

/-- Carries out redirections. The flag tells whether all of them worked. -/
def redirectAll : List Redirect → Shell → Bool × Shell
  | [], sh => (true, sh)
  | redirect :: rest, sh =>
    match redirectOne run redirect sh with
    | (.ok (), sh) => if sh.goesOn then redirectAll rest sh else (false, sh)
    | (.error fault, sh) =>
      if sh.goesOn then
        let wording := sh.wording fault.plainWording fault.richWording
        (false, (sh.complain wording).withStatus (if sh.isBash then 1 else 2))
      else (false, sh)

/-- The file descriptors that a redirection is about. -/
def Redirect.descriptors (redirect : Redirect) : List Nat :=
  match redirect.target with
  | .copyOf _ => [redirect.descriptor, 2]
  | _ => [redirect.descriptor]

/-- Lets redirected file descriptors lead where they led before. -/
def restoreChannels (redirects : List Redirect) (before after : Shell) : Shell :=
  let descriptors := redirects.flatMap Redirect.descriptors
  let process := descriptors.foldl
    (fun process descriptor =>
      match before.process.channel? descriptor with
      | some channel => process.redirect descriptor channel
      | none => process.close descriptor)
    after.process
  { after with process }

/-- Does something with redirected file descriptors, which lead where they led before afterwards. -/
def withRedirects (redirects : List Redirect) (body : Shell → Shell) (sh : Shell) : Shell :=
  if redirects.isEmpty then body sh
  else
    let (good, after) := redirectAll run redirects sh
    restoreChannels redirects sh (if good then body after else after)

end

end MutantHunt.Sandbox.Shell
