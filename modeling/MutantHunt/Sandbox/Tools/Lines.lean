import MutantHunt.Sandbox.Tools.Dump
import MutantHunt.Sandbox.Tools.Text

/-!
# Tools that arrange lines

Tools that number lines, put them beside each other, compare sorted lines, break long lines, and cut files
into pieces.
-/

namespace MutantHunt.Sandbox.Tools

/-- Numbers lines. -/
def nl : Tool := fun process machine =>
  let options := Options.read ['b', 'w', 's', 'n', 'v', 'i', 'f', 'h', 'd', 'l'] [("body-numbering", 'b'),
    ("number-width", 'w'), ("number-separator", 's'), ("number-format", 'n'), ("starting-line-number", 'v'),
    ("line-increment", 'i')] process.arguments
  let (inputs, good, machine) := wholeSources process machine options.operands
  let width := ((options.value? 'w').bind String.toNat?).getD 6
  let separator := (options.value? 's').getD "\t"
  let start := ((options.value? 'v').bind String.toInt?).getD 1
  let increment := ((options.value? 'i').bind String.toInt?).getD 1
  let style := (options.value? 'b').getD "t"
  let shownNumber (n : Int) : String :=
    match options.value? 'n' with
    | some "ln" => toString n ++ String.ofList (List.replicate (width - (toString n).length) ' ')
    | some "rz" => padLeft '0' width (toString n)
    | _ => padLeft ' ' width (toString n)
  let lines := inputs.flatMap fun entry => linesOf entry.2.bytes
  let (shown, _) := lines.foldl
    (fun (shown, n) line =>
      let counted := style == "a" || style == "t" && !line.isEmpty
      if counted then (shown ++ [(shownNumber n ++ separator).toList ++ line], n + increment)
      else (shown ++ [List.replicate (width + separator.length) ' ' ++ line], n))
    (([] : List (List Char)), start)
  (if good then 0 else 1, say process machine (unlines shown))

/-- The separators that a text lists, with escapes. -/
def separatorsOf : List Char → List String
  | '\\' :: c :: rest =>
    (match c with
      | 'n' => "\n"
      | 't' => "\t"
      | '0' => ""
      | _ => c.toString) :: separatorsOf rest
  | c :: rest => c.toString :: separatorsOf rest
  | [] => []

/-- Joins texts with separators in turn. -/
def joinInTurn (separators : List String) : Nat → List (List Char) → List Char
  | _, [] => []
  | _, [text] => text
  | i, text :: rest =>
    text ++ (separators.getD (i % max 1 separators.length) "").toList ++ joinInTurn separators (i + 1) rest

/-- The lines of the sources that operands name. All that stand for the input share its lines. -/
def columnsOf (operands : List String) (inputs : List (String × Input)) : List (List (List Char)) :=
  let shared := (operands.filter (· == "-")).length
  let whole := (inputs.find? fun entry => entry.1 == "-").elim [] fun entry => linesOf entry.2.bytes
  (operands.foldl
    (fun (columns, taken) operand =>
      if operand == "-" then
        let mine := whole.zipIdx.filterMap fun (line, i) => if i % max 1 shared = taken then some line else none
        (columns ++ [mine], taken + 1)
      else
        let lines := (inputs.find? fun entry => entry.1 == operand).elim [] fun entry => linesOf entry.2.bytes
        (columns ++ [lines], taken))
    (([] : List (List (List Char))), 0)).1

/-- Puts lines beside each other. -/
def paste : Tool := fun process machine =>
  let options := Options.read ['d'] [("delimiters", 'd'), ("serial", 's')] process.arguments
  let operands := if options.operands.isEmpty then ["-"] else options.operands
  let (inputs, good, machine) := wholeSources process machine operands.eraseDups
  let separators := separatorsOf ((options.value? 'd').getD "\t").toList
  if !good then (1, machine)
  else if options.has 's' then
    let rows := operands.map fun operand =>
      joinInTurn separators 0
        ((inputs.find? fun entry => entry.1 == operand).elim [] fun entry => linesOf entry.2.bytes)
    (0, say process machine (unlines rows))
  else
    let columns := columnsOf operands inputs
    let height := columns.foldl (fun height column => max height column.length) 0
    let rows := (List.range height).map fun i =>
      joinInTurn separators 0 (columns.map fun column => column.getD i [])
    (0, say process machine (unlines rows))

/-- A line of two that are compared, with which of them it is in. -/
inductive Side where
  | first
  | second
  | both
  deriving DecidableEq, Repr

/-- Compares sorted lines. The number bounds how many there are. -/
def mergeSides : Nat → List String → List String → List (Side × String)
  | 0, _, _ => []
  | _ + 1, [], [] => []
  | n + 1, a :: as, [] => (.first, a) :: mergeSides n as []
  | n + 1, [], b :: bs => (.second, b) :: mergeSides n [] bs
  | n + 1, a :: as, b :: bs =>
    if a == b then (.both, a) :: mergeSides n as bs
    else if decide (a < b) then (.first, a) :: mergeSides n as (b :: bs)
    else (.second, b) :: mergeSides n (a :: as) bs

/-- Tells which lines two sorted files have in common. -/
def comm : Tool := fun process machine =>
  let options := Options.read [] [] process.arguments
  match options.operands with
  | [a, b] =>
    let (left, machine) := source process machine a
    let (right, machine) := source process machine b
    match left, right with
    | .ok left, .ok right =>
      let text (input : Input) : List String := (linesOf input.bytes).map String.ofList
      let (first, second) := (text left, text right)
      let merged := mergeSides (first.length + second.length + 1) first second
      let tab (shown : Bool) : String := if shown then "\t" else ""
      let lines := merged.filterMap fun (side, line) =>
        match side with
        | .first => if options.has '1' then none else some line
        | .second => if options.has '2' then none else some (tab (!options.has '1') ++ line)
        | .both =>
          if options.has '3' then none else some (tab (!options.has '1') ++ tab (!options.has '2') ++ line)
      (0, say process machine (String.join (lines.map (· ++ "\n"))))
    | _, _ => fail process machine 1 "No such file or directory"
  | _ => fail process machine 1 "missing operand"

/-- Joins lines of two files that have a field in common. -/
def join : Tool := fun process machine =>
  let options := Options.read ['t', '1', '2', 'j', 'a', 'v', 'o', 'e'] [] process.arguments
  match options.operands with
  | [a, b] =>
    let (left, machine) := source process machine a
    let (right, machine) := source process machine b
    match left, right with
    | .ok left, .ok right =>
      let separator := (options.value? 't').getD " "
      let fields (line : List Char) : List String :=
        match options.value? 't' with
        | some separator => (String.ofList line).splitOn separator
        | none =>
          (((String.ofList line).map fun c => if c == '\t' then ' ' else c).splitOn " ").filter (!·.isEmpty)
      let number (letter : Char) : Nat :=
        (((options.value? letter).orElse fun _ => options.value? 'j').bind String.toNat?).getD 1
      let keyed (n : Nat) (input : Input) : List (String × List String) :=
        (linesOf input.bytes).map fun line =>
          let all := fields line
          (all.getD (n - 1) "", all.take (n - 1) ++ all.drop n)
      let first := keyed (number '1') left
      let second := keyed (number '2') right
      let only := options.value? 'v'
      let extra := (options.given.filter fun entry => entry.1 == 'a' || entry.1 == 'v').map Prod.snd
      let line (parts : List String) : String := separator.intercalate parts ++ "\n"
      let matched := first.flatMap fun (key, rest) =>
        let hits := second.filter fun entry => entry.1 == key
        if hits.isEmpty then if extra.contains "1" then [(key, line (key :: rest))] else []
        else if only.isSome then []
        else hits.map fun entry => (key, line (key :: rest ++ entry.2))
      let alone := second.filterMap fun (key, rest) =>
        if extra.contains "2" && !(first.any fun entry => entry.1 == key) then some (key, line (key :: rest))
        else none
      let all := (matched ++ alone).mergeSort fun x y => decide (x.1 ≤ y.1)
      (0, say process machine (String.join (all.map Prod.snd)))
    | _, _ => fail process machine 1 "No such file or directory"
  | _ => fail process machine 1 "missing operand"

/-- Breaks a line after so many characters, or behind the last blank before that. The number bounds how many
pieces there are. -/
def foldLine (width : Nat) (atBlanks : Bool) : Nat → List Char → List (List Char)
  | 0, line => [line]
  | n + 1, line =>
    if line.length ≤ width then [line]
    else
      let piece := line.take width
      let kept := (piece.reverse.dropWhile (· != ' ')).reverse
      let piece := if atBlanks && !kept.isEmpty then kept else piece
      piece :: foldLine width atBlanks n (line.drop (max 1 piece.length))

/-- Breaks long lines. -/
def fold : Tool := fun process machine =>
  let modern := process.arguments.map fun a =>
    if a.startsWith "-" && a.length > 1 && (a.toList.drop 1).all Char.isDigit then "-w" ++ (a.drop 1).toString else a
  let options := Options.read ['w'] [("width", 'w'), ("spaces", 's'), ("bytes", 'b')] modern
  let (inputs, good, machine) := wholeSources process machine options.operands
  let width := max 1 (((options.value? 'w').bind String.toNat?).getD 80)
  let text := String.join (inputs.map fun entry =>
    let lines := (linesOf entry.2.bytes).flatMap fun line => foldLine width (options.has 's') line.length line
    unlinesLike entry.2.bytes lines)
  (if good then 0 else 1, say process machine text)

/-- Puts blanks in the place of tabs. -/
def expandTabs (width : Nat) : Nat → List Char → List Char
  | _, [] => []
  | column, '\t' :: rest =>
    let missing := width - column % width
    List.replicate missing ' ' ++ expandTabs width (column + missing) rest
  | column, c :: rest => c :: expandTabs width (if c == '\n' then 0 else column + 1) rest

/-- Prints text with blanks in the place of tabs. -/
def expand : Tool := fun process machine =>
  let options := Options.read ['t'] [("tabs", 't'), ("initial", 'i')] process.arguments
  let (inputs, good, machine) := wholeSources process machine options.operands
  let width := max 1 (((options.value? 't').bind String.toNat?).getD 8)
  let text := (ByteText.ofBytes (inputs.flatMap fun entry => entry.2.bytes)).toList
  (if good then 0 else 1, say process machine (String.ofList (expandTabs width 0 text)))

/-! ## Pieces -/

/-- The ending of the file for a piece. -/
def pieceEnding (digits : Bool) (length n : Nat) : String :=
  let base := if digits then 10 else 26
  let start := if digits then 48 else 97
  String.ofList ((List.range length).reverse.map fun place =>
    Char.ofNat (start + n / Nat.pow base place % base))

/-- Cuts a list into pieces of the same length. The number bounds how many there are. -/
def piecesOfList {α : Type} (size : Nat) : Nat → List α → List (List α)
  | 0, _ => []
  | n + 1, items => if items.isEmpty then [] else items.take size :: piecesOfList size n (items.drop size)

/-- Cuts a file into pieces. -/
def split : Tool := fun process machine =>
  let options := Options.read ['l', 'b', 'a', 'n'] [("lines", 'l'), ("bytes", 'b'), ("suffix-length", 'a'),
    ("numeric-suffixes", 'd')] process.arguments
  let (inputs, good, machine) := wholeSources process machine (options.operands.take 1)
  let bytes := inputs.flatMap fun entry => entry.2.bytes
  let pieces : List (List UInt8) :=
    match (options.value? 'b').bind sizeOf? with
    | some size => piecesOfList (max 1 size) (bytes.length + 1) bytes
    | none =>
      let size := max 1 (((options.value? 'l').bind String.toNat?).getD 1000)
      let lines := linesOf bytes
      let texts := (piecesOfList size (lines.length + 1) lines).map fun piece => ByteText.toBytes (unlines piece)
      if bytes.getLast? == some 10 || bytes.isEmpty then texts
      else texts.dropLast ++ (texts.getLast?.map List.dropLast).toList
  let start := options.operands.getD 1 "x"
  let length := ((options.value? 'a').bind String.toNat?).getD 2
  if !good then (1, machine)
  else
    pieces.zipIdx.foldl
      (fun (status, machine) (piece, i) =>
        let (failed, machine) := store process machine 1 (start ++ pieceEnding (options.has 'd') length i) piece
        (max status failed, machine))
      (0, machine)

/-! ## Numbers -/

/-- The prime factors of a number from a candidate on. The first number bounds how many candidates are left. -/
def factorsFrom : Nat → Nat → Nat → List Nat
  | 0, _, n => if 1 < n then [n] else []
  | fuel + 1, candidate, n =>
    if n < candidate * candidate then if 1 < n then [n] else []
    else if n % candidate = 0 then candidate :: factorsFrom fuel candidate (n / candidate)
    else factorsFrom fuel (candidate + 1) n

/-- Prints prime factors. -/
def factor : Tool := fun process machine =>
  let (words, machine) :=
    if process.arguments.isEmpty then
      let (input, machine) := machine.readAll process 0
      ((((ByteText.ofBytes input.bytes).map fun c => if c.isWhitespace then ' ' else c).splitOn " ").filter
        (!·.isEmpty), machine)
    else (process.arguments, machine)
  words.foldl
    (fun (status, machine) word =>
      match word.toNat? with
      | some n =>
        let factors := factorsFrom 5000000 2 n
        (status, say process machine (n.repr ++ ":" ++ String.join (factors.map fun f => " " ++ f.repr) ++ "\n"))
      | none => fail process machine 1 ("'" ++ word ++ "' is not a valid positive integer"))
    (0, machine)

end MutantHunt.Sandbox.Tools
