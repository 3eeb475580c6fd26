import MutantHunt.Sandbox.Machine
import MutantHunt.Sandbox.Shell.Format

/-!
# Conditions

What `test` and `[` decide: whether files exist, how texts and numbers compare, and what follows from
that with `!`, `-a`, `-o` and parentheses. If the words are no condition, `holds` tells why (`Fault`).
-/

namespace MutantHunt.Sandbox.Condition

/-- What a condition can look at. -/
structure World where
  files : Files
  directory : Place
  /-- Whether two equality signs are an operator. -/
  doubled : Bool := true
  /-- Whether there is a variable of a name, where one may ask for that. -/
  isSet : Option (String → Bool) := none
  /-- The paths that stand for pipes which are open. -/
  pipes : List String := []

/-- Why words are no condition. -/
inductive Fault where
  | noNumber (word : String)
  /-- Nothing is behind an operator. -/
  | noOperand (operator : String)
  /-- Words are left behind a condition that ends with a word. -/
  | leftover (last : String)
  | unclosed
  deriving DecidableEq, Repr, Inhabited

/-- A fault in the words of one of the shells. -/
def Fault.plainWording : Fault → String
  | noNumber word => "Illegal number: " ++ word
  | noOperand operator => operator ++ ": argument expected"
  | leftover last => last ++ ": unexpected operator"
  | unclosed => "closing paren expected"

/-- A fault of a condition in the words of the other shell, which look at how many words it has. -/
def Fault.richWording (fault : Fault) (words : List String) : String :=
  match fault, if words.head? == some "!" && words.length < 5 then words.drop 1 else words with
  | noNumber word, _ => word ++ ": integer expression expected"
  | _, [operator, _] => operator ++ ": unary operator expected"
  | _, [_, operator, _] => operator ++ ": binary operator expected"
  | noOperand _, _ => "argument expected"
  | leftover _, _ => "too many arguments"
  | unclosed, _ => "\x60)\x27 expected"

/-- What is read from words, or why they are no condition. -/
abbrev Attempt := Except Fault

/-- The number a word writes, if it does and the number is not too large. -/
def number? (word : String) : Option Int :=
  let text := word.trimAscii.toString
  let (value, good) := Shell.Format.leadingNumber (String.ofList (text.toList.dropWhile (· == '0')))
  if text.toList.all (· == '0') && !text.isEmpty then some 0
  else if good && value.natAbs < 9223372036854775808 then some value else none

/-- A condition on one word. -/
def unary? (world : World) (operator word : String) : Option Bool :=
  let item := (world.files.find world.directory word).toOption.map Prod.snd
  let entry := (world.files.findEntry world.directory word).toOption
  match operator with
  | "-n" => some (!word.isEmpty)
  | "-z" => some word.isEmpty
  | "-e" => some item.isSome
  | "-f" => some (item.any Item.isFile)
  | "-d" => some (item.any Item.isDirectory)
  | "-r" => some (item.any fun i => i.allows readable)
  | "-w" => some (item.any fun i => i.allows writable)
  | "-x" => some (item.any fun i => i.allows executable)
  | "-s" =>
    some (item.any fun i =>
      match i with
      | .file content _ => !content.isEmpty
      | .directory _ => true
      | _ => false)
  | "-c" => some (item.any fun i => match i with | .sink | .endless _ => true | _ => false)
  | "-p" =>
    some (world.pipes.contains word || item.any fun i => match i with | .queue _ _ => true | _ => false)
  | "-h" | "-L" => some (entry.any fun e => match e.2 with | .link _ => true | _ => false)
  | "-u" => some (item.any fun i => i.allows 0o4000)
  | "-g" => some (item.any fun i => i.allows 0o2000)
  | "-k" => some (item.any fun i => i.allows 0o1000)
  | "-b" | "-S" | "-t" => some false
  | "-O" | "-G" =>
    some (((world.files.find world.directory word).toOption).any fun found =>
      (world.files.items.lookup found.1).isSome)
  | "-v" => world.isSet.map fun isSet => isSet word
  | _ => none

/-- Compares two words that write numbers. -/
def compare (test : Int → Int → Bool) (left right : String) : Attempt Bool :=
  match number? left, number? right with
  | some a, some b => .ok (test a b)
  | none, _ => .error (.noNumber left)
  | _, none => .error (.noNumber right)

/-- A condition on two words. -/
def binary (world : World) (left operator right : String) : Attempt Bool :=
  match operator with
  | "=" | "==" => .ok (left == right)
  | "!=" => .ok (left != right)
  | "<" => .ok (decide (left < right))
  | ">" => .ok (decide (right < left))
  | "-eq" => compare (fun a b => a == b) left right
  | "-ne" => compare (fun a b => a != b) left right
  | "-lt" => compare (fun a b => a < b) left right
  | "-le" => compare (fun a b => a ≤ b) left right
  | "-gt" => compare (fun a b => b < a) left right
  | "-ge" => compare (fun a b => b ≤ a) left right
  | "-ef" =>
    let place (path : String) : Option Place :=
      (world.files.find world.directory path).toOption.map Prod.fst
    .ok ((place left).isSome && place left == place right)
  | "-nt" =>
    .ok (world.files.pathExists world.directory left
      && !world.files.pathExists world.directory right)
  | "-ot" =>
    .ok (world.files.pathExists world.directory right
      && !world.files.pathExists world.directory left)
  | _ => .error (.leftover left)

/-- Whether a word is an operator between two words. -/
def isBinary (world : World) (word : String) : Bool :=
  (word == "==" && world.doubled)
    || ["=", "!=", "<", ">", "-eq", "-ne", "-lt", "-le", "-gt", "-ge", "-ef", "-nt", "-ot"].contains word

/-- Nothing is behind an operator. One of the shells takes that for what does not hold. -/
def withoutOperand (world : World) (operator : String) : Attempt (Bool × List String) :=
  if world.doubled then .error (.noOperand operator) else .ok (false, [])

mutual

/-- Reads conditions joined by `-o`. -/
def readOr (world : World) : Nat → List String → Attempt (Bool × List String)
  | 0, _ => .error .unclosed
  | n + 1, words => do
    let (a, rest) ← readAnd world n words
    match rest with
    | "-o" :: rest =>
      let (b, rest) ← if rest.isEmpty then withoutOperand world "-o" else readOr world n rest
      .ok (a || b, rest)
    | _ => .ok (a, rest)

/-- Reads conditions joined by `-a`. -/
def readAnd (world : World) : Nat → List String → Attempt (Bool × List String)
  | 0, _ => .error .unclosed
  | n + 1, words => do
    let (a, rest) ← readOne world n words
    match rest with
    | "-a" :: rest =>
      let (b, rest) ← if rest.isEmpty then withoutOperand world "-a" else readAnd world n rest
      .ok (a && b, rest)
    | _ => .ok (a, rest)

/-- Reads one condition. -/
def readOne (world : World) : Nat → List String → Attempt (Bool × List String)
  | 0, _ => .error .unclosed
  | n + 1, words =>
    match words with
    | left :: operator :: right :: rest =>
      if isBinary world operator then (binary world left operator right).map (·, rest)
      else readPlain world n words
    | _ => readPlain world n words

/-- Reads a condition that does not start with an operator between two words. -/
def readPlain (world : World) : Nat → List String → Attempt (Bool × List String)
  | 0, _ => .error .unclosed
  | n + 1, words =>
    match words with
    | "!" :: word :: rest => do
      let (a, rest) ← readOne world n (word :: rest)
      .ok (!a, rest)
    | "(" :: word :: rest => do
      let (a, rest) ← readOr world n (word :: rest)
      match rest with
      | ")" :: rest => .ok (a, rest)
      | _ => .error .unclosed
    | operator :: word :: rest =>
      match unary? world operator word with
      | some a => .ok (a, rest)
      | none => .ok (!operator.isEmpty, word :: rest)
    | [word] => .ok (!word.isEmpty, [])
    | [] => .ok (false, [])

end

/-- Whether a condition on two words holds. -/
def holdsOfTwo (world : World) (operator word : String) : Attempt Bool :=
  match unary? world operator word with
  | some a => .ok a
  | none =>
    if operator == "(" then .error .unclosed
    else if isBinary world word then .error (.noOperand word)
    else if word == "-a" || word == "-o" then (withoutOperand world word).map Prod.fst
    else .error (.leftover operator)

/-- Whether a condition holds. Few words are told apart by their number alone. -/
def holds (world : World) (words : List String) : Attempt Bool :=
  match words with
  | [] => .ok false
  | [word] => .ok (!word.isEmpty)
  | ["!", word] => .ok word.isEmpty
  | [operator, word] => holdsOfTwo world operator word
  | _ => do
    let (a, rest) ← readOr world (4 * words.length + 4) words
    if rest.isEmpty then .ok a
    else .error (.leftover ((words.take (words.length - rest.length)).getLastD ""))

end MutantHunt.Sandbox.Condition
