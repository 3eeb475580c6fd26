import MutantHunt.Sandbox.Shell.Expand
import MutantHunt.Sandbox.Shell.Usage

/-!
# Commands about variables

Commands that set, declare, pass on and take away variables, compute with them, and drop parameters.
-/

namespace MutantHunt.Sandbox.Shell.Builtin

/-- A name with a value behind it, as arguments give them, and whether the value is to be added. -/
def splitSetting (argument : String) : String × Bool × Option String :=
  match argument.splitOn "=" with
  | [] => (argument, false, none)
  | [name] => (name, false, none)
  | name :: value =>
    let adds := name.endsWith "+"
    (if adds then String.ofList name.toList.dropLast else name, adds, some ("=".intercalate value))

/-- Sets a variable or an element to a text, which is an expression for variables that are numbers. -/
def assign (name : String) (key : Option String) (adds : Bool) (text : String) (sh : Shell) : Shell :=
  let old :=
    match key, sh.stored? name with
    | some key, some (.table elements) => elements.lookup key
    | some key, some value => key.toNat?.bind fun n => value.numbered.lookup n
    | some _, none => none
    | none, _ => sh.value? name
  let put (text : String) (sh : Shell) : Shell :=
    match key with
    | some key => storeElement sh name key text
    | none => sh.storeText name text
  if sh.isMarked 'i' name then
    let (text, sh) := compute (if adds then old.getD "0" ++ "+(" ++ text ++ ")" else text) sh
    if sh.goesOn then put text sh else sh
  else put (if adds then old.getD "" ++ text else text) sh

/-- Sets what an argument says. -/
def assignArgument (name : String) (adds : Bool) (text : String) (sh : Shell) : Shell :=
  match name.splitOn "[" with
  | [name, index] => assign name (some (String.ofList index.toList.dropLast)) adds text sh
  | _ => assign name none adds text sh

/-- Complains about an argument that names no variable. -/
def refuseName (name argument : String) (sh : Shell) : Shell :=
  if sh.isBash then (sh.object "" ("\x60" ++ argument ++ "\x27: not a valid identifier")).withStatus 1
  else sh.reject (name ++ ": bad variable name") ""

/-- Does something with the names of variables, and sets them. What is done comes before or after they are
set. -/
def declareEach (before after : Shell → String → Shell) (settings : List String) (sh : Shell) : Shell :=
  settings.foldl
    (fun sh argument =>
      if !sh.goesOn then sh
      else
        let (name, adds, value) := splitSetting argument
        let plain := (name.splitOn "[").headD ""
        if !isName plain then refuseName name argument sh
        else
          let sh := before sh plain
          match value with
          | some value => if sh.goesOn then after (assignArgument name adds value sh) plain else sh
          | none => if sh.goesOn then after sh plain else sh)
    (sh.withStatus 0)

/-- Prints variables that were passed on or made constant. -/
def printMarked (command : String) (names : List String) (sh : Shell) : Shell :=
  let sorted := names.mergeSort fun a b => decide (a ≤ b)
  sh.print (String.join (sorted.map fun name =>
    command ++ " " ++ name
      ++ (match sh.value? name with
        | some value => "=" ++ if sh.isBash then "\"" ++ value ++ "\"" else sh.quote value
        | none => "") ++ "\n"))

/-- Passes variables on to other programs. -/
def «export» : Builtin := fun arguments sh =>
  let settings := arguments.filter fun a => !a.startsWith "-"
  if settings.isEmpty then
    printMarked (if sh.isBash then "declare -x" else "export") sh.exported sh
  else if arguments.contains "-n" then
    { sh with exported := sh.exported.filter (!settings.contains ·), status := 0 }
  else declareEach (fun sh _ => sh) Shell.export settings sh

/-- Makes variables constant. -/
def readonly : Builtin := fun arguments sh =>
  let settings := arguments.filter fun a => !a.startsWith "-"
  if settings.isEmpty then
    printMarked (if sh.isBash then "declare -r" else "readonly")
      ((sh.marks.filter (·.1 == 'r')).map Prod.snd) sh
  else declareEach (fun sh _ => sh) (fun sh name => sh.mark 'r' name) settings sh

/-- Makes a variable an array or a table, where it is none. -/
def makeArray (table : Bool) (name : String) (sh : Shell) : Shell :=
  match sh.stored? name with
  | some (.array _) | some (.table _) => sh
  | some (.text text) => sh.restore name (if table then .table [("0", text)] else .array [(0, text)])
  | none => sh.restore name (if table then .table [] else .array [])

/-- How a variable would be declared. -/
def declaration (sh : Shell) (name : String) : String :=
  let flags := String.ofList ("irlu".toList.filter fun c => sh.isMarked c name)
    ++ if sh.exported.contains name then "x" else ""
  let entry (key text : String) : String := "[" ++ key ++ "]=\"" ++ text ++ "\""
  match sh.stored? name with
  | some (.text text) =>
    "declare -" ++ (if flags.isEmpty then "-" else flags) ++ " " ++ name ++ "=\"" ++ text ++ "\"\n"
  | some (.array elements) =>
    let entries := elements.map fun (n, text) => entry n.repr text
    "declare -a" ++ flags ++ " " ++ name ++ "=(" ++ " ".intercalate entries ++ ")\n"
  | some (.table elements) =>
    let entries := elements.map fun (key, text) => entry key text ++ " "
    "declare -A" ++ flags ++ " " ++ name ++ "=(" ++ String.join entries ++ ")\n"
  | none => "declare -- " ++ name ++ "\n"

/-- Prints what is known under each name. What is not known is complained about. -/
def printKnown (names : List String) (known : Shell → String → Option String) (sh : Shell) : Shell :=
  names.foldl
    (fun sh name =>
      match known sh name with
      | some text =>
        let status := sh.status
        (sh.print text).withStatus status
      | none => (sh.object "" (name ++ ": not found")).withStatus 1)
    (sh.withStatus 0)

/-- Declares variables. Inside a function they belong to it, if `inner` is set. -/
def declareWith (inner : Bool) : Builtin := fun arguments sh =>
  let options := arguments.takeWhile fun a => (a.startsWith "-" || a.startsWith "+") && a.length > 1
  let settings := arguments.drop options.length
  let on := (options.filter fun a => a.startsWith "-").flatMap fun a => a.toList.drop 1
  let off := (options.filter fun a => a.startsWith "+").flatMap fun a => a.toList.drop 1
  if on.contains 'p' then
    printKnown settings (fun sh name => (sh.stored? name).map fun _ => declaration sh name) sh
  else if on.contains 'f' || on.contains 'F' then
    let known := settings.filter fun name => (sh.functions.lookup name).isSome
    (if on.contains 'F' then sh.print (String.join (known.map (· ++ "\n"))) else sh).withStatus
      (if known.length = settings.length then 0 else 1)
  else
    let before (sh : Shell) (name : String) : Shell :=
      let sh := if inner && sh.locals.isSome && !on.contains 'g' then sh.makeLocal name else sh
      let sh := off.foldl (fun sh c => sh.unmark c name) sh
      let sh := (on.filter fun c => "ilu".toList.contains c).foldl (fun sh c => sh.mark c name) sh
      if on.contains 'A' then makeArray true name sh
      else if on.contains 'a' then makeArray false name sh else sh
    let after (sh : Shell) (name : String) : Shell :=
      let sh := if on.contains 'r' then sh.mark 'r' name else sh
      if on.contains 'x' then sh.export name else sh
    declareEach before after settings sh

/-- Declares variables. -/
def declare : Builtin := declareWith true

/-- Declares variables of the running function. -/
def «local» : Builtin := fun arguments sh =>
  if sh.locals.isNone then
    if sh.isBash then (sh.object "" "can only be used in a function").withStatus 1
    else sh.reject "not in a function" ""
  else if sh.isBash then declareWith true arguments sh
  else declareEach Shell.makeLocal (fun sh _ => sh) arguments sh

/-- Takes an element of an array away. -/
def forgetElement (array key : String) (sh : Shell) : Shell :=
  match sh.stored? array with
  | some (.array elements) => sh.store array (.array (elements.filter fun entry => entry.1.repr != key))
  | some (.table elements) => sh.store array (.table (elements.filter fun entry => entry.1 != key))
  | _ => sh

/-- Takes variables, elements or functions away. -/
def unset : Builtin := fun arguments sh =>
  let functions := arguments.contains "-f"
  let names := arguments.filter fun a => !a.startsWith "-"
  names.foldl
    (fun sh name =>
      let plain := (name.splitOn "[").headD ""
      if !sh.goesOn then sh
      else if functions then { sh with functions := sh.functions.filter fun entry => entry.1 != name }
      else if sh.isMarked 'r' name then
        if sh.isBash then (sh.object "" (name ++ ": cannot unset: readonly variable")).withStatus 1
        else sh.reject (name ++ ": is read only") ""
      else if !isName plain then
        if sh.isBash && !arguments.contains "-v" then sh else refuseName name name sh
      else if plain != name then forgetElement plain (String.ofList (name.toList.drop (plain.length + 1)).dropLast) sh
      else if (sh.stored? name).isNone && sh.isBash then
        { sh with functions := sh.functions.filter fun entry => entry.1 != name }
      else sh.forget name)
    (sh.withStatus 0)

/-- Computes expressions. Fails if the last one is zero. -/
def «let» : Builtin := fun arguments sh =>
  if arguments.isEmpty then (sh.object "" "expression expected").withStatus 1
  else
    arguments.foldl
      (fun sh text =>
        if !sh.goesOn then sh
        else
          match compute? text sh with
          | (some value, sh) => sh.withStatus (if value = 0 then 1 else 0)
          | (none, sh) => sh)
      (sh.withStatus 1)

/-- The number that an argument gives, or nothing if it is none. -/
def number? (sh : Shell) (text : String) : Option Int :=
  let value := text.toInt?
  if sh.isBash then value else value.filter (0 ≤ ·)

/-- Drops the first parameters. -/
def shift : Builtin := fun arguments sh =>
  let given := arguments.headD "1"
  match number? sh given with
  | none =>
    if sh.isBash then (sh.object "" (given ++ ": numeric argument required")).withStatus 1
    else sh.reject ("Illegal number: " ++ given) ""
  | some count =>
    if count < 0 then (sh.object "" (given ++ ": shift count out of range")).withStatus 1
    else if (sh.parameters.length : Int) < count then
      if sh.isBash then sh.withStatus 1 else sh.reject "can\x27t shift that many" ""
    else (sh.withParameters (sh.parameters.drop count.toNat)).withStatus 0

end MutantHunt.Sandbox.Shell.Builtin
