import MutantHunt.Sandbox.Machine

/-!
# What the tools of a sandbox share

A *tool* is one of the small programs that every machine has. It reads its arguments, its input and
the files, and gives a status with the machine it leaves. This module holds what most of them do first:
taking options from their arguments (`Options.read`) and reading what their operands name
(`source`).
-/

namespace MutantHunt.Sandbox

/-- A small program: what a process that runs it does, and the status it ends with. -/
abbrev Tool := Process → Machine → Nat × Machine

/-- Arguments, split into options with their values and operands. -/
structure Options where
  given : List (Char × String) := []
  operands : List String := []
  deriving Repr

namespace Options

/-- Splits letters behind a dash. A letter in `valued` takes what follows it, or the next argument. -/
def readLetters (valued : List Char) (next : List String) :
    List Char → List (Char × String) × List String
  | [] => ([], next)
  | c :: rest =>
    if valued.contains c then
      match rest, next with
      | [], value :: next => ([(c, value)], next)
      | [], [] => ([(c, "")], [])
      | rest, next => ([(c, String.ofList rest)], next)
    else
      let (more, next) := readLetters valued next rest
      ((c, "") :: more, next)

/-- Splits arguments. `long` gives the letters of long options. The number bounds how many arguments are
left. -/
def readUpTo (valued : List Char) (long : List (String × Char)) : Nat → List String → Options
  | 0, _ => {}
  | _ + 1, [] => {}
  | n + 1, argument :: rest =>
    if argument == "--" then { operands := rest }
    else if argument.startsWith "--" then
      let parts := ((argument.drop 2).toString).splitOn "="
      let name := parts.headD ""
      let letter := (long.lookup name).getD '?'
      match parts.drop 1 with
      | [] =>
        if valued.contains letter then
          let more := readUpTo valued long n (rest.drop 1)
          { more with given := (letter, rest.headD "") :: more.given }
        else
          let more := readUpTo valued long n rest
          { more with given := (letter, "") :: more.given }
      | value =>
        let more := readUpTo valued long n rest
        { more with given := (letter, "=".intercalate value) :: more.given }
    else if argument.startsWith "-" && argument.length > 1 then
      let (letters, rest) := readLetters valued rest (argument.toList.drop 1)
      let more := readUpTo valued long n rest
      { more with given := letters ++ more.given }
    else
      let more := readUpTo valued long n rest
      { more with operands := argument :: more.operands }

/-- Splits arguments. -/
def read (valued : List Char) (long : List (String × Char)) (arguments : List String) : Options :=
  readUpTo valued long (arguments.length + 1) arguments

/-- Whether an option is given. -/
def has (options : Options) (letter : Char) : Bool :=
  options.given.any fun entry => entry.1 == letter

/-- The value of an option, where it is given several times the last one. -/
def value? (options : Options) (letter : Char) : Option String :=
  options.given.reverse.lookup letter

end Options

/-- The lines of bytes. A line break at the end does not start another line. -/
def linesOf (bytes : List UInt8) : List (List Char) :=
  let lines := (ByteText.ofBytes bytes).splitOn "\n"
  let lines := if lines.getLast? == some "" then lines.dropLast else lines
  lines.map String.toList

/-- Lines, each with a line break behind it. -/
def unlines (lines : List (List Char)) : String :=
  String.join (lines.map fun line => String.ofList line ++ "\n")

/-- Lines, each with a line break behind it. Behind the last one it is missing if it is missing at the end of the
bytes that they were made of. -/
def unlinesLike (bytes : List UInt8) (lines : List (List Char)) : String :=
  let text := unlines lines
  if bytes.getLast? == some 10 then text else (text.dropEnd 1).toString

/-- Prints text. -/
def say (process : Process) (machine : Machine) (text : String) : Machine :=
  (machine.print process 1 text).2

/-- Ends with a message. -/
def fail (process : Process) (machine : Machine) (status : Nat) (message : String) : Nat × Machine :=
  (status, machine.complain process (process.name ++ ": " ++ message))

/-- Ends with a message about the arguments. -/
def misuse (process : Process) (machine : Machine) (status : Nat) (message : String) : Nat × Machine :=
  fail process machine status
    (message ++ "\nTry \x27" ++ process.name ++ " --help\x27 for more information.")

/-- A path as messages show it. -/
def quoted (path : String) : String :=
  if path.contains '\x27' then "\"" ++ path ++ "\"" else "\x27" ++ path ++ "\x27"

/-- What an operand names: a file, or the input of the process. -/
def source (process : Process) (machine : Machine) (operand : String) :
    Except OsError Input × Machine :=
  if operand == "-" then
    let (input, machine) := machine.readAll process 0
    (.ok input, machine)
  else
    match operand, machine.files.read process.directory operand with
    | "/dev/stdin", _ | "/dev/fd/0", _ =>
      let (input, machine) := machine.readAll process 0
      (.ok input, machine)
    | _, .error e => (.error e, machine)
    | _, .ok bytes =>
      match machine.files.find process.directory operand with
      | .ok (_, .endless bytes) => (.ok { bytes := [], endless := bytes }, machine)
      | _ => (.ok { bytes }, machine)

/-- Does something to the files. If that fails, it is complained about and makes the status what is said. -/
def alter (process : Process) (machine : Machine) (failure : Nat) (about : String)
    (change : Files → Except OsError Files) : Nat × Machine :=
  match machine.attempt change with
  | (.ok (), machine) => (0, machine)
  | (.error e, machine) => fail process machine failure (about ++ ": " ++ e.wording)

/-- Does something to the files for each operand in turn, and prints what is to be said of it, which may depend on
the files before. What goes wrong is complained about, and makes the status one. -/
def forEach (operands : List String) (report : String → Files → String)
    (step : String → Files → Except String Files) : Tool := fun process machine =>
  operands.foldl
    (fun (status, machine) operand =>
      let said := report operand machine.files
      match machine.attempt (step operand) with
      | (.ok (), machine) => (status, if said.isEmpty then machine else say process machine said)
      | (.error message, machine) => fail process machine 1 message)
    (0, machine)

/-- Says what goes wrong with a path. -/
def explained {α : Type} (what : String) (path : String) (result : Except OsError α) : Except String α :=
  result.mapError fun e => what ++ " " ++ quoted path ++ ": " ++ e.wording

/-- Writes a file. -/
def store (process : Process) (machine : Machine) (failure : Nat) (path : String) (bytes : List UInt8) :
    Nat × Machine :=
  alter process machine failure path fun files =>
    files.write process.directory path bytes process.fileMode

/-- What a tool says of a path that it cannot read. -/
def unreadable (tool path : String) (e : OsError) : String :=
  if e == .isADirectory then
    match tool with
    | "head" | "tail" => "error reading " ++ quoted path ++ ": " ++ e.wording
    | "sort" => "read failed: " ++ path ++ ": " ++ e.wording
    | "tac" => path ++ ": read error: " ++ e.wording
    | _ => path ++ ": " ++ e.wording
  else
    match tool with
    | "head" | "tail" | "split" => "cannot open " ++ quoted path ++ " for reading: " ++ e.wording
    | "tac" => "failed to open " ++ quoted path ++ " for reading: " ++ e.wording
    | "sort" => "cannot read: " ++ path ++ ": " ++ e.wording
    | "rev" => "cannot open " ++ path ++ ": " ++ e.wording
    | _ => path ++ ": " ++ e.wording

/-- Reads what each operand names, or the input if there is none. What cannot be read is complained
about, and makes the flag false. -/
def sources (process : Process) (machine : Machine) (operands : List String) :
    List (String × Input) × Bool × Machine :=
  let operands := if operands.isEmpty then ["-"] else operands
  operands.foldl
    (fun (found, good, machine) operand =>
      match source process machine operand with
      | (.ok input, machine) => (found ++ [(operand, input)], good, machine)
      | (.error e, machine) =>
        let tool := (Files.namesOf process.name).getLastD ""
        (found, false, (fail process machine 1 (unreadable tool operand e)).2))
    ([], true, machine)

/-- Reads what each operand names, for a tool that says nothing before all is read. If there is no end to it,
the tool goes on reading for ever. -/
def wholeSources (process : Process) (machine : Machine) (operands : List String) :
    List (String × Input) × Bool × Machine :=
  let (inputs, good, machine) := sources process machine operands
  (inputs, good,
    if inputs.any fun entry => !entry.2.endless.isEmpty then machine.elapse Machine.never else machine)

/-- Puts back what was read from the input of the process, if an operand stands for that. -/
def unread (process : Process) (machine : Machine) (operand : String) (bytes : List UInt8) : Machine :=
  if operand == "-" && !bytes.isEmpty then machine.giveBack process 0 bytes else machine

/-- The first bytes of an input. -/
def Input.take (input : Input) (count : Nat) : List UInt8 :=
  let finite := input.bytes.take count
  let missing := count - finite.length
  if missing = 0 || input.endless.isEmpty then finite
  else
    let rounds := missing / input.endless.length + 1
    finite ++ ((List.replicate rounds input.endless).flatten).take missing

/-- An input that goes on for a while if there is no end to it. -/
def Input.start (input : Input) : List UInt8 :=
  input.take (input.bytes.length + 4096 * input.endless.length)

/-- Passes an input on. -/
def pass (process : Process) (machine : Machine) (input : Input) : Machine :=
  match process.channel? 1 with
  | none => machine
  | some channel =>
    let machine := machine.write channel input.bytes
    if input.endless.isEmpty then machine else machine.writeEndless channel input.endless

/-- The number at the beginning of a text of digits, with the factors that letters behind it stand for.
-/
def sizeOf? (text : String) : Option Nat := do
  let digits := text.toList.takeWhile Char.isDigit
  let n ← (String.ofList digits).toNat?
  match String.ofList (text.toList.drop digits.length) with
  | "" | "c" => some n
  | "w" => some (n * 2)
  | "b" => some (n * 512)
  | "k" | "K" | "KiB" => some (n * 1024)
  | "kB" | "KB" => some (n * 1000)
  | "M" | "MiB" => some (n * 1048576)
  | "MB" => some (n * 1000000)
  | "G" | "GiB" => some (n * 1073741824)
  | _ => none

end MutantHunt.Sandbox
