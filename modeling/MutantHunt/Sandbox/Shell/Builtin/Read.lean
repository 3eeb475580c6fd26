import MutantHunt.Sandbox.Shell.Builtin.Variable

/-!
# Commands that read

The commands `read` and `mapfile`, which read the input into variables, and `getopts`, which reads the options
of a script.
-/

namespace MutantHunt.Sandbox.Shell.Builtin

/-- Splits a line at separators for a number of variables; the last one gets the rest. A glyph that was
protected by a backslash separates nothing. -/
def shareOut (separators : List Char) : Nat → List Glyph → List String
  | 0, _ => []
  | 1, line =>
    let separates (g : Glyph) : Bool := !g.quoted && separators.contains g.char
    let blank (g : Glyph) : Bool := separates g && g.char.isWhitespace
    let line := line.dropWhile blank
    let trimmed := (line.reverse.dropWhile blank).reverse
    let field := trimmed.takeWhile (!separates ·)
    let behind := trimmed.drop field.length
    let single := behind.length = 1 && !behind.any fun g => g.char.isWhitespace
    [Glyph.text (if single then field else trimmed)]
  | n + 1, line =>
    let separates (g : Glyph) : Bool := !g.quoted && separators.contains g.char
    let blank (g : Glyph) : Bool := separates g && g.char.isWhitespace
    let line := line.dropWhile blank
    let word := line.takeWhile (!separates ·)
    let rest := (line.drop word.length).dropWhile blank
    let rest :=
      match rest with
      | g :: more => if separates g then more else rest
      | [] => []
    Glyph.text word :: shareOut separators n rest

/-- How a line is read. -/
structure LineReading where
  raw : Bool := false
  delimiter : Char := '\n'
  /-- How many characters at most. -/
  most : Option Nat := none

/-- Joins lines that end with a backslash, and drops other backslashes. Gives the first line, the rest,
and whether the line was complete. The number bounds how many characters are left. -/
def takeLine (how : LineReading) : Nat → Nat → List Char → List Glyph × List Char × Bool
  | 0, _, rest => ([], rest, false)
  | _ + 1, _, [] => ([], [], false)
  | n + 1, taken, c :: rest =>
    if how.most == some taken then ([], c :: rest, true)
    else if c == how.delimiter then ([], rest, true)
    else if c == '\\' && !how.raw then
      match rest with
      | '\n' :: rest => takeLine how n taken rest
      | d :: rest =>
        let (line, rest, complete) := takeLine how n (taken + 1) rest
        (⟨d, true⟩ :: line, rest, complete)
      | [] => ([], [], false)
    else
      let (line, rest, complete) := takeLine how n (taken + 1) rest
      (⟨c, false⟩ :: line, rest, complete)

/-- What `read` was asked for. -/
structure ReadRequest where
  how : LineReading := {}
  descriptor : Nat := 0
  array : Option String := none
  names : List String := []

/-- Reads what `read` was asked for. The number bounds how many arguments are left. -/
def readRequest (bash : Bool) : Nat → List String → ReadRequest → ReadRequest
  | 0, _, request => request
  | _ + 1, [], request => request
  | n + 1, argument :: rest, request =>
    match argument.toList with
    | ['-', '-'] => { request with names := rest }
    | '-' :: c :: more =>
      let value := if more.isEmpty then rest.headD "" else String.ofList more
      let after := if more.isEmpty then rest.drop 1 else rest
      let next := if more.isEmpty then rest else String.ofList ('-' :: more) :: rest
      let how := request.how
      if c == 'r' then readRequest bash n next { request with how := { how with raw := true } }
      else if c == 'p' then readRequest bash n after request
      else
        match c with
        | 's' | 'e' => readRequest bash n next request
        | 'd' =>
          readRequest bash n after { request with how := { how with delimiter := (value.toList.head?).getD '\x00' } }
        | 'n' | 'N' => readRequest bash n after { request with how := { how with most := value.toNat? } }
        | 'u' => readRequest bash n after { request with descriptor := value.toNat?.getD 0 }
        | 'a' => readRequest bash n after { request with array := some value }
        | _ => readRequest bash n after request
    | _ => { request with names := argument :: rest }

/-- Reads a line into the variables that were asked for. -/
def readInto (request : ReadRequest) (sh : Shell) : Shell :=
  let plain := request.names.isEmpty && request.array.isNone
  let names := if plain then ["REPLY"] else request.names
  let input := sh.machine.pending sh.process request.descriptor
  let text := input.bytes ++ input.endless
  let chars := (ByteText.ofBytes text).toList
  let (line, rest, complete) := takeLine request.how (chars.length + 1) 0 chars
  let line := line.filter fun g => g.char != '\x00'
  let remaining : Input := { input with bytes := ByteText.toBytes (String.ofList rest) }
  let sh := { sh with machine := sh.machine.leave sh.process request.descriptor remaining }
  let sh := sh.settle 0
  if !sh.goesOn then sh
  else
    let sh :=
      match request.array with
      | some array =>
        let words := (splitChunks sh.separators [.split (Glyph.text line)]).map Glyph.text
        sh.store array (Value.ofList words)
      | none =>
        let values := if plain then [Glyph.text line] else shareOut sh.separators names.length line
        (names.zip values).foldl
          (fun sh (name, value) => if sh.goesOn then assignArgument name false value sh else sh) sh
    if sh.goesOn then sh.withStatus (if complete then 0 else 1) else sh

/-- Reads a line into variables. Fails at the end of the input. -/
def read : Builtin := fun arguments sh =>
  let request := readRequest sh.isBash (2 * (String.join arguments).length + arguments.length + 1) arguments {}
  match request.names.find? fun name => !isName ((name.splitOn "[").headD "") with
  | some name => refuseName name name sh
  | none =>
    if !sh.isBash && request.names.isEmpty then sh.reject "arg count" ""
    else if sh.isBash && (sh.process.channel? request.descriptor).isNone then
      let number := request.descriptor.repr
      let message := if request.descriptor = 0 then "read error: 0: " else number ++ ": invalid file descriptor: "
      (sh.object "" (message ++ "Bad file descriptor")).withStatus 1
    else readInto request sh

/-- Reads all lines of the input into an array. -/
def mapfile : Builtin := fun arguments sh =>
  let name := (arguments.filter fun a => !a.startsWith "-").getLastD "MAPFILE"
  let (input, machine) := sh.machine.readAll sh.process 0
  let lines := (ByteText.ofBytes input.bytes).splitOn "\n"
  let complete := lines.dropLast.map fun line => if arguments.contains "-t" then line else line ++ "\n"
  let last := (lines.getLast?.filter (!·.isEmpty)).toList
  if !isName name then refuseName name name sh
  else { sh with machine }.store name (Value.ofList (complete ++ last)) |>.withStatus 0

/-- Complains about an option of the script in the words of each shell, unless that is not wanted. -/
def mutterOption (dash bash : String) (sh : Shell) : Shell :=
  if sh.isBash && (sh.value? "OPTERR") == some "0" then sh
  else sh.mutter (if sh.isBash then sh.process.name ++ ": " ++ bash else dash)

/-- Takes an option of the script from its parameters. The letters of a word that are done already are
kept in a variable that no script can name. -/
def takeOption (spec name : String) (words : List String) (sh : Shell) : Shell :=
  let index := ((sh.value? "OPTIND").bind String.toNat?).getD 1
  let place := ((sh.stored? "getopts ").map Value.toText).getD ""
  let done :=
    match place.splitOn " " with
    | [i, d] => if i == index.repr then (d.toNat?).getD 0 else 0
    | _ => 0
  let silent := spec.startsWith ":"
  let leave (option : String) (argument : Option String) (index done : Nat) (status : Nat) (sh : Shell) : Shell :=
    let sh := sh.storeText name option
    let sh :=
      match argument with
      | some text => sh.storeText "OPTARG" text
      | none => sh.forget "OPTARG"
    let sh := sh.storeText "OPTIND" index.repr
    let sh := sh.restore "getopts " (.text (index.repr ++ " " ++ done.repr))
    if sh.goesOn then sh.withStatus status else sh
  match words[index - 1]? with
  | none => leave "?" none index 0 1 sh
  | some word =>
    let letters := word.toList.drop 1
    if !word.startsWith "-" || letters.isEmpty then leave "?" none index 0 1 sh
    else if word == "--" then leave "?" none (index + 1) 0 1 sh
    else
      match letters.drop done with
      | [] => leave "?" none (index + 1) 0 1 sh
      | c :: attached =>
        let letter := c.toString
        let onward (option : String) (argument : Option String) (sh : Shell) : Shell :=
          if attached.isEmpty then leave option argument (index + 1) 0 0 sh
          else leave option argument index (done + 1) 0 sh
        let behind := (spec.toList.dropWhile (· != c)).drop 1
        if c == ':' || !spec.toList.contains c then
          if silent then onward "?" (some letter) sh
          else onward "?" none (mutterOption ("Illegal option -" ++ letter) ("illegal option -- " ++ letter) sh)
        else if behind.head? == some ':' then
          if !attached.isEmpty then leave letter (some (String.ofList attached)) (index + 1) 0 0 sh
          else
            match words[index]? with
            | some value => leave letter (some value) (index + 2) 0 0 sh
            | none =>
              if silent then leave ":" (some letter) (index + 1) 0 0 sh
              else
                leave "?" none (index + 1) 0 0
                  (mutterOption ("No arg for -" ++ letter ++ " option")
                    ("option requires an argument -- " ++ letter) sh)
        else onward letter none sh

/-- Takes the next option of the script. -/
def getopts : Builtin := fun arguments sh =>
  match arguments with
  | spec :: name :: given =>
    if !isName name then refuseName name name sh
    else takeOption spec name (if given.isEmpty then sh.parameters else given) sh
  | _ =>
    if sh.isBash then Usage.explain sh else sh.reject "Usage: getopts optstring var [arg...]" ""

end MutantHunt.Sandbox.Shell.Builtin
