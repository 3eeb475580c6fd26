import MutantHunt.Sandbox.Condition
import MutantHunt.Sandbox.Shell.Arithmetic
import MutantHunt.Sandbox.Tools.Characters
import MutantHunt.Sandbox.Tools.Compare
import MutantHunt.Sandbox.Tools.Edit
import MutantHunt.Sandbox.Tools.Find
import MutantHunt.Sandbox.Tools.Lines
import MutantHunt.Sandbox.Tools.Listing
import MutantHunt.Sandbox.Tools.Search
import MutantHunt.Sandbox.Tools.System
import MutantHunt.Sandbox.Tools.Transfer

/-!
# The tools of a sandbox

`tool?` finds the tool of a name among the programs that every machine has, except for those that start
other programs; what these do is up to whoever starts programs.
-/

namespace MutantHunt.Sandbox

namespace Tools

/-- Waits for a sum of times, in seconds unless a letter says otherwise. -/
def sleep : Tool := fun process machine =>
  let isTime (text : String) : Bool := (microseconds? text).isSome
  match process.arguments.mapM microseconds? with
  | some [] => misuse process machine 1 "missing operand"
  | some times => (0, machine.elapse (times.foldl (· + ·) 0))
  | none =>
    let wrong := (process.arguments.filter fun text => !isTime text).headD ""
    misuse process machine 1 ("invalid time interval " ++ quoted wrong)
where
  /-- The microseconds that a text such as `0.5` or `2m` gives. -/
  microseconds? (text : String) : Option Nat :=
    let number := text.toList.takeWhile fun c => c.isDigit || c == '.'
    let factor? :=
      match String.ofList (text.toList.drop number.length) with
      | "" | "s" => some 1000000
      | "m" => some 60000000
      | "h" => some 3600000000
      | "d" => some 86400000000
      | _ => none
    match factor?, (String.ofList number).splitOn "." with
    | some factor, [whole] => whole.toNat?.map (· * factor)
    | some factor, [whole, fraction] =>
      if whole.isEmpty && fraction.isEmpty then none
      else
        match (if whole.isEmpty then some 0 else whole.toNat?),
            (if fraction.isEmpty then some 0 else fraction.toNat?) with
        | some w, some f => some (w * factor + f * factor / Nat.pow 10 fraction.length)
        | _, _ => none
    | _, _ => if text == "inf" || text == "infinity" then some Machine.never else none

/-- The escapes that tools know in what they print. -/
def escapes : Shell.Format.Escapes :=
  { bare := true, rich := true, quotes := true }

/-- Prints its arguments. -/
def echo : Tool := fun process machine =>
  let letters := process.arguments.takeWhile fun a =>
    a.startsWith "-" && a.length > 1 && (a.toList.drop 1).all fun c => "neE".toList.contains c
  let flags := letters.flatMap fun a => a.toList.drop 1
  let wanted := (flags.filter (· != 'n')).getLast? == some 'e'
  (0, say process machine
    (Shell.Format.echo (if wanted then some escapes else none) (!flags.contains 'n')
      (process.arguments.drop letters.length)))

/-- Prints its arguments after a format. -/
def printf : Tool := fun process machine =>
  match process.arguments with
  | format :: arguments =>
    let pieces := Shell.Format.printf escapes format arguments
    (if (Shell.Format.faultsOf pieces).isEmpty then 0 else 1, say process machine (Shell.Format.textOf pieces))
  | [] => misuse process machine 1 "missing operand"

/-- Decides a condition. -/
def test : Tool := fun process machine =>
  let words := process.arguments
  let bracketed := lastName process.name == "["
  let closed := !bracketed || words.getLast? == some "]"
  let words := if bracketed then words.dropLast else words
  if !closed then fail process machine 2 "missing \x27]\x27"
  else
    match Condition.holds { files := machine.files, directory := process.directory } words with
    | .ok true => (0, machine)
    | .ok false => (1, machine)
    | .error fault => fail process machine 2 (fault.richWording words)

/-- What `expr` takes for false. -/
def isNull (text : String) : Bool :=
  text.isEmpty || text.toInt? == some 0

/-- How an expression matches the beginning of a text: the part in its first group, or the length. -/
def matchedPart (text pattern : String) : String :=
  match ((Regex.ofText false pattern).ends { rest := text.toList }).head? with
  | some point =>
    if pattern.contains '(' && (pattern.splitOn "\\(").length > 1 then
      String.ofList ((point.groups.lookup 1).getD [])
    else (text.length - point.rest.length).repr
  | none => if (pattern.splitOn "\\(").length > 1 then "" else "0"

/-- Applies an operator of `expr` to two texts. -/
def applyOperator (operator a b : String) : Option String :=
  let truth (b : Bool) : Option String := some (if b then "1" else "0")
  let compare (numbers : Int → Int → Bool) (texts : String → String → Bool) : Option String :=
    match a.toInt?, b.toInt? with
    | some x, some y => truth (numbers x y)
    | _, _ => truth (texts a b)
  match operator with
  | "=" | "==" => compare (· == ·) (· == ·)
  | "!=" => compare (· != ·) (· != ·)
  | "<" => compare (fun x y => x < y) (fun x y => x < y)
  | ">" => compare (fun x y => y < x) (fun x y => y < x)
  | "<=" => compare (fun x y => x ≤ y) (fun x y => x ≤ y)
  | ">=" => compare (fun x y => y ≤ x) (fun x y => y ≤ x)
  | "|" => some (if !isNull a then a else if isNull b then "0" else b)
  | "&" => some (if isNull a || isNull b then "0" else a)
  | ":" => some (matchedPart a b)
  | _ => do
    let x ← a.toInt?
    let y ← b.toInt?
    match operator with
    | "+" => some (toString (x + y))
    | "-" => some (toString (x - y))
    | "*" => some (toString (x * y))
    | "/" => if y = 0 then none else some (toString (x.tdiv y))
    | "%" => if y = 0 then none else some (toString (x.tmod y))
    | _ => none

/-- The operators of `expr`, those that bind least first. -/
def operatorLevels : List (List String) :=
  [["|"], ["&"], ["=", "==", "!=", "<", ">", "<=", ">="], ["+", "-"], ["*", "/", "%"], [":"]]

mutual

/-- Reads an expression of the given levels of operators. -/
def readExpr : Nat → List (List String) → List String → Option (String × List String)
  | 0, _, _ => none
  | n + 1, [], words => readOperand n words
  | n + 1, level :: inner, words => do
    let (first, rest) ← readExpr n inner words
    readFurther n level inner first rest

/-- Reads further operands of one level of operators. -/
def readFurther : Nat → List String → List (List String) → String → List String → Option (String × List String)
  | 0, _, _, _, _ => none
  | n + 1, level, inner, first, words =>
    match words with
    | operator :: rest =>
      if level.contains operator then do
        let (second, rest) ← readExpr n inner rest
        readFurther n level inner (← applyOperator operator first second) rest
      else some (first, words)
    | [] => some (first, [])

/-- Reads an operand: a word, an expression in parentheses, or something computed from words. -/
def readOperand : Nat → List String → Option (String × List String)
  | 0, _ => none
  | n + 1, words =>
    match words with
    | "+" :: word :: rest => some (word, rest)
    | "(" :: rest => do
      match ← readExpr n operatorLevels rest with
      | (value, ")" :: rest) => some (value, rest)
      | _ => none
    | "length" :: rest@(_ :: _) => do
      let (text, rest) ← readOperand n rest
      some (text.length.repr, rest)
    | "match" :: rest@(_ :: _) => do
      let (text, rest) ← readOperand n rest
      let (pattern, rest) ← readOperand n rest
      some (matchedPart text pattern, rest)
    | "index" :: rest@(_ :: _) => do
      let (text, rest) ← readOperand n rest
      let (chars, rest) ← readOperand n rest
      let before := text.toList.takeWhile fun c => !chars.toList.contains c
      some ((if before.length = text.length then 0 else before.length + 1).repr, rest)
    | "substr" :: rest@(_ :: _) => do
      let (text, rest) ← readOperand n rest
      let (start, rest) ← readOperand n rest
      let (size, rest) ← readOperand n rest
      match start.toNat?, size.toNat? with
      | some (start + 1), some size => some (((text.drop start).take size).toString, rest)
      | _, _ => some ("", rest)
    | ")" :: _ => none
    | word :: rest => some (word, rest)
    | [] => none

end

/-- Computes with its arguments. -/
def expr : Tool := fun process machine =>
  let words := if process.arguments.head? == some "--" then process.arguments.drop 1 else process.arguments
  match readExpr (16 * words.length + 16) operatorLevels words with
  | some (text, []) => (if isNull text then 1 else 0, say process machine (text ++ "\n"))
  | _ => fail process machine 2 "syntax error"

/-- Prints variables of the environment, or all of it. -/
def printenv : Tool := fun process machine =>
  match process.arguments with
  | [] =>
    (0, say process machine
      (String.join (process.environment.map fun (name, value) => name ++ "=" ++ value ++ "\n")))
  | names =>
    let values := names.filterMap process.valueOf?
    (if values.length = names.length then 0 else 1,
      say process machine (String.join (values.map (· ++ "\n"))))

/-- Copies blocks of bytes. -/
def dd : Tool := fun process machine =>
  let setting (name : String) : Option String :=
    (process.arguments.filter fun a => a.startsWith (name ++ "=")).getLast?.map fun a =>
      (a.drop (name.length + 1)).toString
  let block := ((setting "bs").bind sizeOf?).getD 512
  let path := (setting "if").getD "-"
  match source process machine path with
  | (.error e, machine) => fail process machine 1 ("failed to open " ++ quoted path ++ ": " ++ e.wording)
  | (.ok input, machine) =>
    let input := { input with bytes := input.bytes.drop (((setting "skip").bind sizeOf?).getD 0 * block) }
    let input : Input :=
      match (setting "count").bind sizeOf? with
      | some count => { bytes := input.take (count * block) }
      | none => input
    let conversions := ((setting "conv").getD "").splitOn ","
    let change (bytes : List UInt8) : List UInt8 :=
      let recased (f : Char → Char) : List UInt8 := bytes.map fun b => UInt8.ofNat (f (Char.ofNat b.toNat)).toNat
      if conversions.contains "ucase" then recased Char.toUpper
      else if conversions.contains "lcase" then recased Char.toLower else bytes
    let input := { input with bytes := change input.bytes, endless := change input.endless }
    match setting "of" with
    | none => (0, pass process machine input)
    | some path => store process machine 1 path input.bytes

/-- Prints where programs are found. -/
def which : Tool := fun process machine =>
  let directories := ((process.valueOf? "PATH").getD "").splitOn ":"
  let isProgram (path : String) : Bool :=
    match machine.files.find process.directory path with
    | .ok (_, .file _ mode) => (Item.file [] mode).allows executable
    | _ => false
  let find (name : String) : Option String :=
    if name.toList.contains '/' then some name |>.filter isProgram
    else (directories.map fun directory => directory ++ "/" ++ name).find? isProgram
  let found := process.arguments.filterMap find
  (if found.length = process.arguments.length then 0 else 1,
    say process machine (String.join (found.map (· ++ "\n"))))

/-- Prints each line backwards. -/
def rev : Tool := fun process machine =>
  let (inputs, good, machine) := wholeSources process machine process.arguments
  (if good then 0 else 1, inputs.foldl
    (fun machine entry =>
      say process machine
        (unlinesLike entry.2.bytes ((linesOf entry.2.bytes).map List.reverse)))
    machine)

/-- Prints the last line first. A line break that is missing at the end is then missing behind the first line.
-/
def tac : Tool := fun process machine =>
  let (inputs, good, machine) := wholeSources process machine process.arguments
  let turned (bytes : List UInt8) : String :=
    match (linesOf bytes).reverse with
    | [] => ""
    | last :: others =>
      String.ofList last ++ (if bytes.getLast? == some 10 then "\n" else "") ++ unlines others
  (if good then 0 else 1, inputs.foldl (fun machine entry => say process machine (turned entry.2.bytes)) machine)

end Tools

open Tools in
/-- The tools by name. -/
def tools : List (String × Tool) :=
  [("[", test), ("arch", fun process machine => (0, say process machine "x86_64\n")), ("base64", base64),
    ("basename", basename), ("cat", cat), ("chmod", chmod), ("cksum", cksum), ("cmp", cmp), ("comm", comm),
    ("cp", cp), ("cut", cut), ("date", date), ("dd", dd), ("diff", diff), ("dirname", dirname), ("echo", echo),
    ("egrep", fun process => grep { process with arguments := "-E" :: process.arguments }),
    ("expand", expand), ("expr", expr), ("factor", factor), ("false", fun _ machine => (1, machine)),
    ("fgrep", fun process => grep { process with arguments := "-F" :: process.arguments }), ("fold", fold),
    ("grep", grep), ("head", head),
    ("hostname", fun process machine => (0, say process machine "localhost\n")), ("id", id),
    ("install", install), ("join", join), ("ln", ln), ("ls", ls), ("md5sum", digests digestOfFour),
    ("mkdir", mkdir), ("mkfifo", mkfifo), ("mktemp", mktemp), ("mv", mv), ("nl", nl),
    ("nproc", fun process machine => (0, say process machine "4\n")), ("od", od), ("paste", paste),
    ("printenv", printenv), ("printf", printf), ("pwd", pwd), ("readlink", readlink),
    ("realpath", realpath), ("rev", rev), ("rm", rm), ("rmdir", rmdir), ("sed", sed), ("seq", seq),
    ("sha1sum", digests digestOfFive), ("sha256sum", digests Digest.fingerprint), ("sleep", sleep),
    ("sort", sort), ("split", split), ("stat", stat), ("sync", fun _ machine => (0, machine)), ("tac", tac),
    ("tail", tail), ("tee", tee), ("test", test), ("touch", touch), ("tr", tr),
    ("true", fun _ machine => (0, machine)), ("truncate", truncate), ("tty", tty), ("uname", uname),
    ("uniq", uniq), ("unlink", unlink), ("wc", wc), ("which", which), ("whoami", whoami), ("yes", yes)]

/-- The tool of a name. -/
def tool? (name : String) : Option Tool :=
  tools.lookup name

end MutantHunt.Sandbox
