import MutantHunt.Sandbox.Tools.Disk
import MutantHunt.Sandbox.Tools.Dump

/-!
# Tools that tell about the system

Tools that tell the time, who the user is, what the machine is, and what is known of a file, and the tool that
makes files with new names.
-/

namespace MutantHunt.Sandbox.Tools

/-! ## Time -/

/-- When a machine was started, in seconds since the beginning of 1970. -/
def startOfTime : Nat := 1700000000

/-- A day of the calendar. -/
structure Day where
  year : Int
  month : Nat
  day : Nat
  deriving DecidableEq, Repr

/-- The day that is so many days after the first of January 1970. -/
def Day.ofNumber (days : Int) : Day :=
  let shifted := days + 719468
  let era := shifted.fdiv 146097
  let ofEra := (shifted - era * 146097).toNat
  let yearOfEra := (ofEra - ofEra / 1460 + ofEra / 36524 - ofEra / 146096) / 365
  let ofYear := ofEra - (365 * yearOfEra + yearOfEra / 4 - yearOfEra / 100)
  let part := (5 * ofYear + 2) / 153
  let month := if part < 10 then part + 3 else part - 9
  { year := (yearOfEra : Int) + era * 400 + (if month ≤ 2 then 1 else 0)
    month
    day := ofYear - (153 * part + 2) / 5 + 1 }

/-- How many days after the first of January 1970 a day is. -/
def Day.toNumber (day : Day) : Int :=
  let year := if day.month ≤ 2 then day.year - 1 else day.year
  let era := year.fdiv 400
  let yearOfEra := (year - era * 400).toNat
  let part := if 2 < day.month then day.month - 3 else day.month + 9
  let ofYear := (153 * part + 2) / 5 + day.day - 1
  let ofEra := yearOfEra * 365 + yearOfEra / 4 - yearOfEra / 100 + ofYear
  era * 146097 + ofEra - 719468

/-- The names of the months. -/
def months : List String :=
  ["January", "February", "March", "April", "May", "June", "July", "August", "September", "October",
    "November", "December"]

/-- The names of the days of the week. -/
def weekdays : List String :=
  ["Sunday", "Monday", "Tuesday", "Wednesday", "Thursday", "Friday", "Saturday"]

/-- A time in the form that a format asks for. The time is in seconds since the beginning of 1970. -/
def timeText (seconds : Int) (nanoseconds : Nat) : Nat → List Char → String
  | 0, _ => ""
  | _ + 1, [] => ""
  | n + 1, '%' :: c :: rest =>
    let number := seconds.fdiv 86400
    let inDay := (seconds - number * 86400).toNat
    let day := Day.ofNumber number
    let two (n : Nat) : String := padLeft '0' 2 n.repr
    let weekday := ((number + 4).fmod 7).toNat
    let hour := inDay / 3600
    let minute := inDay / 60 % 60
    let second := inDay % 60
    let clock := two hour ++ ":" ++ two minute ++ ":" ++ two second
    let short (text : String) : String := (text.take 3).toString
    let month := months.getD (day.month - 1) ""
    let name := weekdays.getD weekday ""
    let twelve := if hour % 12 = 0 then 12 else hour % 12
    let shown :=
      match c with
      | 'Y' => toString day.year
      | 'm' => two day.month
      | 'd' => two day.day
      | 'e' => padLeft ' ' 2 day.day.repr
      | 'H' => two hour
      | 'I' => two twelve
      | 'M' => two minute
      | 'S' => two second
      | 's' => toString seconds
      | 'N' => padLeft '0' 9 nanoseconds.repr
      | 'F' => toString day.year ++ "-" ++ two day.month ++ "-" ++ two day.day
      | 'T' | 'X' => clock
      | 'R' => two hour ++ ":" ++ two minute
      | 'D' | 'x' => two day.month ++ "/" ++ two day.day ++ "/" ++ two (day.year.fmod 100).toNat
      | 'y' => two (day.year.fmod 100).toNat
      | 'j' => padLeft '0' 3 (number - (Day.mk day.year 1 1).toNumber + 1).toNat.repr
      | 'u' => (if weekday = 0 then 7 else weekday).repr
      | 'w' => weekday.repr
      | 'a' => short name
      | 'A' => name
      | 'b' | 'h' => short month
      | 'B' => month
      | 'p' => if hour < 12 then "AM" else "PM"
      | 'Z' => "UTC"
      | 'z' => "+0000"
      | 'n' => "\n"
      | 't' => "\t"
      | '%' => "%"
      | 'c' => short name ++ " " ++ short month ++ " " ++ padLeft ' ' 2 day.day.repr ++ " " ++ clock ++ " "
          ++ toString day.year
      | other => "%" ++ other.toString
    shown ++ timeText seconds nanoseconds n rest
  | n + 1, c :: rest => c.toString ++ timeText seconds nanoseconds n rest

/-- The time that a text names: a number of seconds behind an `@`, or a day with a time. -/
def timeOf? (text : String) : Option Int :=
  match text.toList with
  | '@' :: rest => (String.ofList rest).toInt?
  | _ =>
    let parts := (text.map fun c => if c == 'T' then ' ' else c).splitOn " "
    match ((parts.headD "").splitOn "-").mapM String.toNat? with
    | some [year, month, day] =>
      let days := (Day.mk year month day).toNumber
      let clock := ((parts.getD 1 "0:0:0").splitOn ":").mapM String.toNat?
      match clock with
      | some [hour, minute] => some (days * 86400 + hour * 3600 + minute * 60)
      | some [hour, minute, second] => some (days * 86400 + hour * 3600 + minute * 60 + second)
      | _ => none
    | _ => none

/-- Prints a time. -/
def date : Tool := fun process machine =>
  let options := Options.read ['d', 'r', 'I'] [("date", 'd'), ("utc", 'u'), ("universal", 'u')] process.arguments
  let now : Int := startOfTime + machine.clock / 1000000
  let time? :=
    match options.value? 'd' with
    | some text => if text == "now" then some now else timeOf? text
    | none => some now
  match time? with
  | none => fail process machine 1 ("invalid date " ++ quoted ((options.value? 'd').getD ""))
  | some time =>
    let format := ((options.operands.find? fun a => a.startsWith "+").map fun a => (a.drop 1).toString).getD
      "%a %b %e %H:%M:%S %Z %Y"
    let nanoseconds := if (options.value? 'd').isSome then 0 else machine.clock % 1000000 * 1000
    (0, say process machine (timeText time nanoseconds (format.length + 1) format.toList ++ "\n"))

/-! ## The machine and its user -/

/-- Prints the name of the user. -/
def whoami : Tool := fun process machine =>
  (0, say process machine "user\n")

/-- Prints who the user is. -/
def id : Tool := fun process machine =>
  let options := Options.read [] [("user", 'u'), ("group", 'g'), ("name", 'n'), ("groups", 'G')] process.arguments
  let text :=
    if options.has 'u' || options.has 'g' || options.has 'G' then
      if options.has 'n' then "user" else "1000"
    else "uid=1000(user) gid=1000(user) groups=1000(user)"
  (0, say process machine (text ++ "\n"))

/-- Prints what the machine is. -/
def uname : Tool := fun process machine =>
  let options := Options.read [] [("all", 'a'), ("machine", 'm'), ("nodename", 'n'), ("kernel-name", 's')]
    process.arguments
  let parts :=
    [('s', "Linux"), ('n', "localhost"), ('r', "6.0.0"), ('v', "#1 SMP"), ('m', "x86_64"), ('o', "GNU/Linux")]
  let wanted := parts.filter fun part =>
    options.has part.1 || options.has 'a' || options.given.isEmpty && part.1 == 's'
  (0, say process machine (" ".intercalate (wanted.map Prod.snd) ++ "\n"))

/-- Tells that the input is no terminal. -/
def tty : Tool := fun process machine =>
  let options := Options.read [] [("silent", 's'), ("quiet", 's')] process.arguments
  (1, if options.has 's' then machine else say process machine "not a tty\n")

/-! ## Files -/

/-- What is known of a file, in the form that a format asks for. -/
def fileText (name : String) (item : Item) : Nat → List Char → String
  | 0, _ => ""
  | _ + 1, [] => ""
  | n + 1, '%' :: c :: rest =>
    let kind :=
      match item with
      | .directory _ => "directory"
      | .link _ => "symbolic link"
      | .queue _ _ => "fifo"
      | .sink | .endless _ => "character special file"
      | .file content _ => if content.isEmpty then "regular empty file" else "regular file"
    let shown :=
      match c with
      | 'n' => name
      | 'N' =>
        match item with
        | .link target => "'" ++ name ++ "' -> '" ++ target ++ "'"
        | _ => "'" ++ name ++ "'"
      | 's' => item.size.repr
      | 'a' => String.ofList (Nat.toDigits 8 (item.mode &&& 0o7777))
      | 'A' => modeLetters item
      | 'F' => kind
      | 'h' => "1"
      | 'u' | 'g' => "1000"
      | 'U' | 'G' => "user"
      | 'Y' | 'X' | 'Z' | 'W' => startOfTime.repr
      | '%' => "%"
      | other => "?" ++ other.toString
    shown ++ fileText name item n rest
  | n + 1, c :: rest => c.toString ++ fileText name item n rest

/-- Prints what is known of files. -/
def stat : Tool := fun process machine =>
  let options := Options.read ['c', 'P'] [("format", 'c'), ("printf", 'P'), ("dereference", 'L')]
    process.arguments
  let (format, escaped) : String × Bool :=
    match options.value? 'P', options.value? 'c' with
    | some format, _ => ((Shell.Format.unescape ⟨true, true, true⟩ format).1, true)
    | none, some format => (format, false)
    | none, none => ("  File: %n\n  Size: %s\t%F", false)
  if options.operands.isEmpty then misuse process machine 1 "missing operand"
  else
    options.operands.foldl
      (fun (status, machine) operand =>
        let files := machine.files
        let found :=
          if options.has 'L' then files.find process.directory operand
          else files.findEntry process.directory operand
        match found with
        | .ok (_, item) =>
          let text := fileText operand item (format.length + 1) format.toList
          (status, say process machine (text ++ if escaped then "" else "\n"))
        | .error e => fail process machine 1 ("cannot statx " ++ quoted operand ++ ": " ++ e.wording))
      (0, machine)

/-- A letter for a name that nobody can foretell, or so it seems. -/
def letterFor (seed place : Nat) : Char :=
  let letters := "ABCDEFGHIJKLMNOPQRSTUVWXYZabcdefghijklmnopqrstuvwxyz0123456789".toList
  letters.getD ((seed / Nat.pow 7 place + seed * 31 + place * place * 17) % letters.length) 'A'

/-- Makes a file or a directory with a new name. -/
def mktemp : Tool := fun process machine =>
  let options := Options.read ['p', 's'] [("directory", 'd'), ("dry-run", 'u'), ("tmpdir", 'p'), ("quiet", 'q'),
    ("suffix", 's')] process.arguments
  let given := options.operands.head?
  let root := ((process.valueOf? "TMPDIR").filter fun d => !d.isEmpty).getD "/tmp"
  let template := given.getD "tmp.XXXXXXXXXX"
  let ending := (options.value? 's').getD ""
  let chars := template.toList.reverse
  let tail := chars.takeWhile (· != 'X')
  let marks := (chars.drop tail.length).takeWhile (· == 'X')
  let name (seed : Nat) : String :=
    let start := (chars.drop (tail.length + marks.length)).reverse
    let middle := (List.range marks.length).map (letterFor seed)
    let path := String.ofList (start ++ middle ++ tail.reverse) ++ ending
    if options.has 't' || options.has 'p' || given.isNone then
      (match options.value? 'p' with
        | some directory => if directory.isEmpty then root else directory
        | none => root) ++ "/" ++ path
    else path
  let seed := machine.clock + machine.lastProcess * 7919 + machine.files.items.length
  let path := ((List.range (machine.files.items.length + 1)).map fun i => name (seed + i * 104729)).find? fun path =>
    !machine.files.pathExists process.directory path
  match path with
  | none => fail process machine 1 "failed to create file"
  | some path =>
    if marks.length < 3 then fail process machine 1 ("too few X\x27s in template " ++ quoted template)
    else
      let make (files : Files) : Except OsError Files :=
        if options.has 'u' then .ok files
        else if options.has 'd' then files.makeDirectory process.directory path 0o700
        else files.write process.directory path [] 0o600
      match alter process machine 1 path make with
      | (0, machine) => (0, say process machine (path ++ "\n"))
      | failure => failure

end MutantHunt.Sandbox.Tools
