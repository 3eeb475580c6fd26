import MutantHunt.Sandbox.Tools.Basic
import MutantHunt.Sandbox.Shell.Format

/-!
# Tools that pass text on

Tools that print what they read, parts of it, or something counted or computed from it, and tools that
put lines in order.
-/

namespace MutantHunt.Sandbox.Tools

/-- A character as one that can be seen, unless it is a tab or a line break. -/
def visible (c : Char) : List Char :=
  let low (n : Nat) : List Char :=
    if n < 32 then ['^', Char.ofNat (n + 64)] else if n = 127 then ['^', '?'] else [Char.ofNat n]
  if c == '\t' || c == '\n' then [c]
  else if c.toNat < 128 then low c.toNat else 'M' :: '-' :: low (c.toNat - 128)

/-- How `cat` changes what it prints. -/
structure CatForm where
  /-- Whether lines are numbered, and whether the empty ones are left out of that. -/
  numbered : Bool
  skipsEmpty : Bool
  /-- Whether of empty lines that follow each other only one is printed. -/
  squeezed : Bool
  /-- Whether the ends of lines, tabs and all else that cannot be seen are marked. -/
  marksEnds : Bool
  marksTabs : Bool
  marksOthers : Bool

/-- What options of `cat` ask for, if they ask for something. -/
def CatForm.ofOptions? (options : Options) : Option CatForm :=
  let any (letters : String) : Bool := letters.toList.any options.has
  if any "nbsEeTtvA" then
    some ⟨any "nb", any "b", any "s", any "EeA", any "TtA", any "vetA"⟩
  else none

/-- A line as `cat` prints it, without its number. -/
def CatForm.shown (form : CatForm) (line : List Char) : List Char :=
  let others := if form.marksOthers then line.flatMap visible else line
  let tabs := if form.marksTabs then others.flatMap fun c => if c == '\t' then ['^', 'I'] else [c] else others
  if form.marksEnds then tabs ++ ['$'] else tabs

/-- Lines as `cat` prints them, with the number that the next one gets. -/
def CatForm.lines (form : CatForm) : (number : Nat) → (wasEmpty : Bool) → List (List Char) → List (List Char)
  | _, _, [] => []
  | number, wasEmpty, line :: rest =>
    if form.squeezed && wasEmpty && line.isEmpty then form.lines number true rest
    else if form.numbered && !(form.skipsEmpty && line.isEmpty) then
      let digits := number.repr
      (List.replicate (6 - digits.length) ' ' ++ digits.toList ++ '\t' :: form.shown line)
        :: form.lines (number + 1) line.isEmpty rest
    else form.shown line :: form.lines number line.isEmpty rest

/-- Prints what its operands hold, one after the other. -/
def cat : Tool := fun process machine =>
  let options := Options.read [] [("number", 'n'), ("number-nonblank", 'b'), ("squeeze-blank", 's'),
    ("show-ends", 'E'), ("show-tabs", 'T'), ("show-nonprinting", 'v'), ("show-all", 'A')] process.arguments
  let (inputs, good, machine) := sources process machine options.operands
  let machine :=
    match CatForm.ofOptions? options with
    | none => inputs.foldl (fun machine entry => pass process machine entry.2) machine
    | some form =>
      let bytes := inputs.flatMap fun entry => entry.2.start
      let text := form.lines 1 false (linesOf bytes)
      let text := if form.marksEnds && bytes.getLast?.any (· != 10) then
          text.dropLast ++ text.getLast?.toList.map List.dropLast
        else text
      pass process machine
        { bytes := ByteText.toBytes (unlinesLike bytes text)
          endless := inputs.flatMap fun entry => entry.2.endless }
  (if good then 0 else 1, machine)

/-- An old spelling of a count: `-3` for `-n 3`. -/
def modernCount (arguments : List String) : List String :=
  match arguments with
  | first :: rest =>
    let digits := first.toList.drop 1
    if first.startsWith "-" && !digits.isEmpty && digits.all Char.isDigit then
      "-n" :: String.ofList digits :: rest
    else arguments
  | [] => []

/-- What is printed above what an operand holds. -/
def headingOf (number : Nat) (name : String) : String :=
  (if number = 0 then "" else "\n") ++ "==> " ++ (if name == "-" then "standard input" else name) ++ " <==\n"

/-- Prints the beginning of its operands. -/
def head : Tool := fun process machine =>
  let options :=
    Options.read ['n', 'c'] [("lines", 'n'), ("bytes", 'c'), ("quiet", 'q'), ("verbose", 'v')]
      (modernCount process.arguments)
  let (inputs, good, machine) := sources process machine options.operands
  let several := inputs.length > 1 && !options.has 'q' || options.has 'v'
  let cut (input : Input) : List UInt8 :=
    match options.value? 'c' with
    | some size =>
      if size.startsWith "-" then
        input.bytes.take (input.bytes.length - (sizeOf? (size.drop 1).toString).getD 0)
      else input.take ((sizeOf? size).getD 0)
    | none =>
      let wanted := (options.value? 'n').getD "10"
      let count := (sizeOf? wanted).getD 0
      let text :=
        if input.endless.isEmpty then input.bytes
        else input.take (input.bytes.length + (count + 1) * (input.endless.length + 1))
      let lines := linesOf text
      if wanted.startsWith "-" then
        let less := (sizeOf? (wanted.drop 1).toString).getD 0
        ByteText.toBytes (unlines (lines.take (lines.length - less)))
      else if lines.length ≤ count && input.endless.isEmpty then input.bytes
      else ByteText.toBytes (unlines (lines.take count))
  let machine := inputs.zipIdx.foldl
    (fun machine ((name, input), i) =>
      let machine :=
        if several then say process machine (headingOf i name) else machine
      let shown := cut input
      unread process (pass process machine { bytes := shown }) name (input.bytes.drop shown.length))
    machine
  (if good then 0 else 1, machine)

/-- Prints the end of its operands. -/
def tail : Tool := fun process machine =>
  let options :=
    Options.read ['n', 'c', 's'] [("lines", 'n'), ("bytes", 'c'), ("quiet", 'q'), ("verbose", 'v'),
      ("follow", 'f')] (modernCount (process.arguments.map fun a => if a == "-F" then "-f" else a))
  let (inputs, good, machine) := wholeSources process machine options.operands
  let count (wanted : String) : Bool × Nat :=
    if wanted.startsWith "+" then (true, (sizeOf? (wanted.drop 1).toString).getD 0 - 1)
    else if wanted.startsWith "-" then (false, (sizeOf? (wanted.drop 1).toString).getD 0)
    else (false, (sizeOf? wanted).getD 0)
  let cut (bytes : List UInt8) : List UInt8 :=
    match options.value? 'c' with
    | some size =>
      let (fromStart, n) := count size
      bytes.drop (if fromStart then n else bytes.length - n)
    | none =>
      let (fromStart, n) := count ((options.value? 'n').getD "10")
      let lines := linesOf bytes
      let kept := lines.drop (if fromStart then n else lines.length - n)
      let text := ByteText.toBytes (unlines kept)
      if bytes.getLast? == some 10 then text else text.dropLast
  let several := inputs.length > 1 && !options.has 'q' || options.has 'v'
  let machine := inputs.zipIdx.foldl
    (fun machine ((name, input), i) =>
      let machine := if several then say process machine (headingOf i name) else machine
      pass process machine { bytes := cut input.bytes })
    machine
  (if good then 0 else 1, if options.has 'f' then machine.elapse Machine.never else machine)

/-- The number of words in characters. -/
def wordCount (chars : List Char) : Nat :=
  (chars.foldl
    (fun (count, inside) c =>
      if c.isWhitespace || c == '\x0b' || c == '\x0c' then (count, false)
      else if inside then (count, true) else (count + 1, true))
    (0, false)).1

/-- How many columns a line takes. -/
def lineWidth (line : List Char) : Nat :=
  line.foldl (fun column c => if c == '\t' then column + (8 - column % 8) else column + 1) 0

/-- Counts lines, words and bytes. A single count stands alone, several stand in columns. -/
def wc : Tool := fun process machine =>
  let options :=
    Options.read [] [("lines", 'l'), ("words", 'w'), ("bytes", 'c'), ("chars", 'm'), ("max-line-length", 'L')] process.arguments
  let (inputs, good, machine) := wholeSources process machine options.operands
  let kinds := ['l', 'w', 'm', 'c', 'L'].filter fun c =>
    options.has c || options.given.isEmpty && c != 'm' && c != 'L'
  let count (bytes : List UInt8) (kind : Char) : Nat :=
    match kind with
    | 'l' => bytes.count 10
    | 'w' => wordCount (ByteText.ofBytes bytes).toList
    | 'L' => (linesOf bytes).foldl (fun width line => max width (lineWidth line)) 0
    | _ => bytes.length
  let rows := inputs.map fun (name, input) => (name, kinds.map (count input.bytes))
  let rows :=
    if inputs.length > 1 then
      let all := inputs.map fun entry => kinds.map (count entry.2.bytes)
      rows ++ [("total", kinds.zipIdx.map fun (kind, i) =>
        all.foldl (fun n row => if kind == 'L' then max n (row.getD i 0) else n + row.getD i 0) 0)]
    else rows
  let size := inputs.foldl (fun n entry => n + entry.2.bytes.length) 0
  let width :=
    if rows.length = 1 && kinds.length = 1 then 0
    else if options.operands.isEmpty || options.operands.contains "-" then 7
    else size.repr.length
  let pad (n : Nat) : String :=
    String.ofList (List.replicate (width - n.repr.length) ' ') ++ n.repr
  let shown := rows.map fun (name, counts) =>
    " ".intercalate (counts.map pad) ++ (if options.operands.isEmpty then "" else " " ++ name)
  (if good then 0 else 1, say process machine (String.join (shown.map (· ++ "\n"))))

/-! ## Lines -/

/-- What lines are ordered by: where it starts and ends in a line, as the numbers of a field and of a
character in it, and how it is compared. -/
structure SortKey where
  startField : Nat := 1
  startChar : Nat := 1
  endField : Option Nat := none
  endChar : Nat := 0
  letters : List Char := []

/-- Reads a field number with a character number and letters behind it. -/
def readKeyPosition (text : String) : Nat × Option Nat × List Char :=
  let chars := text.toList
  let field := chars.takeWhile Char.isDigit
  let rest := chars.drop field.length
  let n := ((String.ofList field).toNat?).getD 1
  match rest with
  | '.' :: rest =>
    let char := rest.takeWhile Char.isDigit
    (n, (String.ofList char).toNat?, rest.drop char.length)
  | _ => (n, none, rest)

/-- Reads what lines are ordered by. -/
def SortKey.ofText (text : String) : SortKey :=
  let parts := text.splitOn ","
  let (startField, startChar, letters) := readKeyPosition (parts.headD "")
  match parts.drop 1 with
  | [] => { startField, startChar := startChar.getD 1, letters }
  | last :: _ =>
    let (endField, endChar, more) := readKeyPosition last
    { startField, startChar := startChar.getD 1, endField := some endField, endChar := endChar.getD 0
      letters := letters ++ more }

/-- The fields of a line. Without a separator, a field starts with the blanks in front of it. -/
def sortFields (separator : Option Char) (line : List Char) : List (List Char) :=
  match separator with
  | some c => ((String.ofList line).splitOn c.toString).map String.toList
  | none =>
    let isBlank (c : Char) : Bool := c == ' ' || c == '\t'
    line.foldr
      (fun c (fields : List (List Char)) =>
        match fields with
        | [] => [[c]]
        | field :: rest =>
          if isBlank c || !(field.head?.any isBlank) then (c :: field) :: rest else [c] :: field :: rest)
      []

/-- The part of a line that it is ordered by. -/
def SortKey.part (key : SortKey) (separator : Option Char) (line : List Char) : List Char :=
  let fields := sortFields separator line
  let between := separator.toList
  let kept :=
    match key.endField with
    | none => fields
    | some n => fields.take n
  let kept :=
    match key.endField with
    | some n =>
      if key.endChar = 0 || kept.length < n then kept
      else kept.dropLast ++ [(kept.getLastD []).take key.endChar]
    | none => kept
  (between.intercalate (kept.drop (key.startField - 1))).drop (key.startChar - 1)

/-- The number at the beginning of a line, as its sign and the digits before and behind the point, and what
stands behind it. -/
def leadingDecimal (line : List Char) : Bool × List Char × List Char × List Char :=
  let line := line.dropWhile fun c => c == ' ' || c == '\t'
  let negative := line.head? == some '-'
  let line := if negative then line.drop 1 else line
  let whole := line.takeWhile Char.isDigit
  match line.drop whole.length with
  | '.' :: rest => (negative, whole, rest.takeWhile Char.isDigit, rest.dropWhile Char.isDigit)
  | rest => (negative, whole, [], rest)

/-- Compares the numbers at the beginning of two lines. With sizes, a letter behind the number counts more than
the number. -/
def compareDecimals (sizes : Bool) (a b : List Char) : Ordering :=
  let (negative, whole, fraction, rest) := leadingDecimal a
  let (otherNegative, otherWhole, otherFraction, otherRest) := leadingDecimal b
  let places := max fraction.length otherFraction.length
  let value (negative : Bool) (whole fraction : List Char) : Int :=
    let digits := whole ++ fraction ++ List.replicate (places - fraction.length) '0'
    let n := ((String.ofList digits).toNat?).getD 0
    if negative then -(n : Int) else n
  let size (negative : Bool) (rest : List Char) : Int :=
    let n := ((rest.head?.bind fun c => "KMGTPEZY".toList.idxOf? c.toUpper).elim 0 (· + 1) : Nat)
    if negative then -(n : Int) else n
  let x := value negative whole fraction
  let y := value otherNegative otherWhole otherFraction
  if sizes then
    let sizeOf (value : Int) (negative : Bool) (rest : List Char) : Int := if value = 0 then 0 else size negative rest
    (compare (sizeOf x negative rest) (sizeOf y otherNegative otherRest)).then (compare x y)
  else compare x y

/-- The place of a character in the order of versions: a tilde comes first, then the end, then letters. -/
def versionRank (c : Option Char) : Int :=
  match c with
  | none => 0
  | some c => if c == '~' then -1 else if c.isDigit then 0 else if c.isAlpha then c.toNat else c.toNat + 256

/-- Compares two versions: numbers in them count as numbers. The first number bounds how many characters are left.
-/
def compareVersions : Nat → List Char → List Char → Ordering
  | 0, _, _ => .eq
  | _ + 1, [], [] => .eq
  | n + 1, a, b =>
    let isOther (line : List Char) : Bool := line.head?.any fun c => !c.isDigit
    if isOther a || isOther b then
      (compare (versionRank a.head?) (versionRank b.head?)).then (compareVersions n (a.drop 1) (b.drop 1))
    else
      let number (line : List Char) : Nat := ((String.ofList (line.takeWhile Char.isDigit)).toNat?).getD 0
      (compare (number a) (number b)).then
        (compareVersions n (a.dropWhile Char.isDigit) (b.dropWhile Char.isDigit))

/-- Compares two texts in the way that letters say. -/
def sortCompare (letters : List Char) (a b : List Char) : Ordering :=
  let change (line : List Char) : List Char :=
    let line := if letters.contains 'b' then line.dropWhile Char.isWhitespace else line
    let line := if letters.contains 'f' then line.map Char.toUpper else line
    if letters.contains 'd' then line.filter fun c => c.isAlphanum || c.isWhitespace else line
  let order :=
    if letters.contains 'n' || letters.contains 'g' then compareDecimals false a b
    else if letters.contains 'h' then compareDecimals true a b
    else if letters.contains 'V' then compareVersions (a.length + b.length + 1) a b
    else compare (String.ofList (change a)) (String.ofList (change b))
  if letters.contains 'r' then order.swap else order

/-- Prints lines in order. -/
def sort : Tool := fun process machine =>
  let options := Options.read ['k', 't', 'o', 'S', 'T'] [("numeric-sort", 'n'), ("reverse", 'r'),
    ("unique", 'u'), ("key", 'k'), ("field-separator", 't'), ("output", 'o'), ("ignore-case", 'f'),
    ("stable", 's'), ("check", 'c'), ("ignore-leading-blanks", 'b'), ("dictionary-order", 'd'),
    ("human-numeric-sort", 'h'), ("version-sort", 'V'), ("general-numeric-sort", 'g')] process.arguments
  let (inputs, good, machine) := wholeSources process machine options.operands
  let common := ['n', 'g', 'h', 'V', 'r', 'f', 'b', 'd'].filter options.has
  let separator := (options.value? 't').bind fun text => text.toList.head?
  let keys := (options.given.filter fun entry => entry.1 == 'k').map fun entry =>
    let key := SortKey.ofText entry.2
    if key.letters.isEmpty then { key with letters := common } else key
  let keys := if keys.isEmpty then [{ letters := common : SortKey }] else keys
  let byKeys (a b : List Char) : Ordering :=
    keys.foldl (fun order key =>
      order.then (sortCompare key.letters (key.part separator a) (key.part separator b))) .eq
  let order (a b : List Char) : Ordering :=
    let last := if options.has 's' || options.has 'u' then .eq else compare (String.ofList a) (String.ofList b)
    (byKeys a b).then (if options.has 'r' then last.swap else last)
  let lines := inputs.flatMap fun entry => linesOf entry.2.bytes
  let sorted := lines.mergeSort fun a b => (order a b).isLE
  if options.has 'c' then
    let pairs := lines.zip (lines.drop 1)
    let isSorted := pairs.all fun (a, b) => (order a b).isLE && !(options.has 'u' && byKeys a b == .eq)
    if isSorted then (0, machine) else fail process machine 1 "disorder"
  else
    let sorted :=
      if options.has 'u' then
        sorted.foldr
          (fun line (kept : List (List Char)) =>
            match kept with
            | next :: rest => if byKeys line next == .eq then line :: rest else line :: kept
            | [] => [line])
          []
      else sorted
    let text := unlines sorted
    if !good then (2, machine)
    else
      match options.value? 'o' with
      | none => (0, say process machine text)
      | some path => store process machine 2 path (ByteText.toBytes text)

/-- Groups equal lines that follow each other, with their number. -/
def runs (key : List Char → List Char) : List (List Char) → List (Nat × List Char)
  | [] => []
  | line :: rest =>
    match runs key rest with
    | (n, other) :: more =>
      if key other == key line then (n + 1, line) :: more else (1, line) :: (n, other) :: more
    | [] => [(1, line)]

/-- Prints one of each run of equal lines. -/
def uniq : Tool := fun process machine =>
  let options := Options.read ['f', 's', 'w'] [("count", 'c'), ("repeated", 'd'), ("unique", 'u'),
    ("ignore-case", 'i'), ("skip-fields", 'f'), ("skip-chars", 's'), ("check-chars", 'w')] process.arguments
  let (inputs, good, machine) := wholeSources process machine (options.operands.take 1)
  let number (letter : Char) : Option Nat := (options.value? letter).bind String.toNat?
  let key (line : List Char) : List Char :=
    let fields := sortFields none line
    let line := (fields.drop ((number 'f').getD 0)).flatten.drop ((number 's').getD 0)
    let line := (number 'w').elim line line.take
    if options.has 'i' then line.map Char.toLower else line
  let groups := (runs key (inputs.flatMap fun entry => linesOf entry.2.bytes)).filter fun group =>
    (!options.has 'd' || group.1 > 1) && (!options.has 'u' || group.1 = 1)
  let shown := groups.map fun (n, line) =>
    if options.has 'c' then
      List.replicate (7 - n.repr.length) ' ' ++ n.repr.toList ++ ' ' :: line
    else line
  let text := unlines shown
  if !good then (1, machine)
  else
    match options.operands[1]? with
    | some path => store process machine 1 path (ByteText.toBytes text)
    | none => (0, say process machine text)

/-- Passes its input on, and writes it to files as well. -/
def tee : Tool := fun process machine =>
  let options := Options.read [] [("append", 'a')] process.arguments
  let (input, machine) := machine.readAll process 0
  let machine := pass process machine input
  options.operands.foldl
    (fun (status, machine) path =>
      let old := if options.has 'a' then (machine.files.read process.directory path).toOption.getD [] else []
      let (failed, machine) := store process machine 1 path (old ++ input.bytes)
      (max status failed, machine))
    (0, machine)

/-- A decimal number as a whole number of the units of its last place, and how many places it has. -/
def decimal? (text : String) : Option (Int × Nat) :=
  let (negative, chars) :=
    match text.toList with
    | '-' :: rest => (true, rest)
    | '+' :: rest => (false, rest)
    | chars => (false, chars)
  let whole := chars.takeWhile Char.isDigit
  let (fraction, rest) :=
    match chars.drop whole.length with
    | '.' :: rest => (rest.takeWhile Char.isDigit, rest.dropWhile Char.isDigit)
    | rest => ([], rest)
  let (shift, rest) :=
    match rest with
    | 'e' :: digits | 'E' :: digits =>
      let digits := if digits.head? == some '+' then digits.drop 1 else digits
      (((String.ofList (digits.takeWhile Char.isDigit)).toNat?).getD 0, digits.dropWhile Char.isDigit)
    | rest => (0, rest)
  if whole.isEmpty && fraction.isEmpty || !rest.isEmpty then none
  else
    ((String.ofList (whole ++ fraction)).toNat?).map fun n =>
      let n := n * Nat.pow 10 (shift - fraction.length)
      (if negative then -(n : Int) else n, fraction.length - shift)

/-- A whole number of the units of a last place, as a decimal number. -/
def decimalText (places : Nat) (value : Int) : String :=
  let digits := value.natAbs.repr
  let digits := String.ofList (List.replicate (places + 1 - digits.length) '0') ++ digits
  let whole := (digits.dropEnd places).toString
  (if value < 0 then "-" else "")
    ++ (if places = 0 then whole else whole ++ "." ++ (digits.drop whole.length).toString)

/-- Prints numbers in a row. An argument that is a number is no option, even if it is negative. -/
def seq : Tool := fun process machine =>
  let isNumber (argument : String) : Bool := (decimal? argument).isSome
  let before := process.arguments.takeWhile fun argument => !isNumber argument
  let numerals := process.arguments.drop before.length
  let (before, numerals) :=
    if before.getLast? == some "-s" || before.getLast? == some "-f" then
      (before ++ numerals.take 1, numerals.drop 1)
    else (before, numerals)
  let options := Options.read ['s', 'f'] [("separator", 's'), ("format", 'f'), ("equal-width", 'w')]
    (before ++ "--" :: numerals)
  let numbers := options.operands.filterMap decimal?
  let (first, step, last) : (Int × Nat) × (Int × Nat) × (Int × Nat) :=
    match numbers with
    | [last] => ((1, 0), (1, 0), last)
    | [first, last] => (first, (1, 0), last)
    | [first, step, last] => (first, step, last)
    | _ => ((1, 0), (1, 0), (0, 0))
  if options.operands.isEmpty then misuse process machine 1 "missing operand"
  else if numbers.length != options.operands.length then
    let wrong := (options.operands.filter fun text => (decimal? text).isNone).headD ""
    misuse process machine 1 ("invalid floating point argument: " ++ quoted wrong)
  else if 3 < numbers.length then misuse process machine 1 ("extra operand " ++ quoted (options.operands.getD 3 ""))
  else if step.1 = 0 then
    misuse process machine 1 ("invalid Zero increment value: " ++ quoted (options.operands.getD 1 ""))
  else
    let places := max first.2 step.2
    let scale := max places last.2
    let scaled (number : Int × Nat) : Int := number.1 * (Nat.pow 10 (scale - number.2) : Nat)
    let (first, step, last) := (scaled first, scaled step, scaled last)
    let count := if 0 < step then (last - first).fdiv step + 1 else (first - last).fdiv (-step) + 1
    let shown := (List.range count.toNat).map fun (i : Nat) =>
      decimalText places ((first + step * (i : Int)).fdiv (Nat.pow 10 (scale - places) : Nat))
    let width := shown.foldl (fun width text => max width text.length) 0
    let shown :=
      if options.has 'w' then
        shown.map fun text =>
          let zeros := String.ofList (List.replicate (width - text.length) '0')
          if text.startsWith "-" then "-" ++ zeros ++ (text.drop 1).toString else zeros ++ text
      else shown
    let shown :=
      match options.value? 'f' with
      | some format =>
        shown.map fun text => Shell.Format.textOf (Shell.Format.printf ⟨true, true, false⟩ format [text])
      | none => shown
    let separator := (options.value? 's').getD "\n"
    (0, if shown.isEmpty then machine else say process machine (separator.intercalate shown ++ "\n"))

/-- Prints a line without end. -/
def yes : Tool := fun process machine =>
  let line := if process.arguments.isEmpty then "y" else " ".intercalate process.arguments
  let bytes := ByteText.toBytes (line ++ "\n")
  match process.channel? 1 with
  | some channel => (141, machine.writeEndless channel bytes)
  | none => (1, machine)

end MutantHunt.Sandbox.Tools
