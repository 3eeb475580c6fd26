import MutantHunt.Sandbox.Regex
import MutantHunt.Sandbox.Tools.Basic

/-!
# Searching for lines

`grep` prints the lines of its operands that match an expression, or tells only whether there are any.
What several expressions search for is one expression again, so `Search.isWanted` is all that decides
about a line; the rest of this module is about what is shown of the lines that are wanted.
-/

namespace MutantHunt.Sandbox.Tools

/-- A line of a text. -/
structure TextLine where
  text : List Char
  /-- Counts from one. -/
  number : Nat
  /-- How many bytes stand before it. -/
  offset : Nat
  deriving Repr

/-- The lines of bytes, with where they stand. -/
def TextLine.ofBytes (bytes : List UInt8) : List TextLine :=
  let placed := (linesOf bytes).foldl
    (fun (lines, number, offset) text =>
      ((⟨text, number, offset⟩ : TextLine) :: lines, number + 1, offset + text.length + 1))
    (([] : List TextLine), 1, 0)
  placed.1.reverse

/-- What lines are searched for. -/
structure Search where
  regex : Regex
  /-- Whether the lines without a match are searched for. -/
  inverted : Bool := false
  /-- How many lines are searched for at most. -/
  most : Option Nat := none
  /-- How many lines before and behind are shown as well. -/
  before : Nat := 0
  behind : Nat := 0

namespace Search

/-- Whether a line is searched for. -/
def isWanted (search : Search) (line : TextLine) : Bool :=
  search.regex.occurs line.text != search.inverted

/-- The lines that are searched for. -/
def wanted (search : Search) (lines : List TextLine) : List TextLine :=
  let found := lines.filter search.isWanted
  search.most.elim found found.take

/-- Whether lines around those that are searched for are shown as well. -/
def hasContext (search : Search) : Bool :=
  0 < search.before || 0 < search.behind

/-- The lines that are shown, each with whether it is searched for. -/
def shown (search : Search) (lines : List TextLine) : List (TextLine × Bool) :=
  let found := search.wanted lines
  if search.hasContext then
    lines.filterMap fun line =>
      if found.any fun other => other.number == line.number then some (line, true)
      else if found.any fun other =>
          other.number ≤ line.number + search.before && line.number ≤ other.number + search.behind then
        some (line, false)
      else none
  else found.map fun line => (line, true)

/-- The expression of options, for texts that each hold one expression or several under each other. -/
def regexOf (options : Options) (texts : List String) : Regex :=
  let spelled (text : String) : Regex :=
    if options.has 'F' then text.toList.foldr (fun c regex => .seq (.exactly c) regex) .nothing
    else if options.has 'P' then Regex.ofText true (text.replace "\\d" "[0-9]")
    else Regex.ofText (options.has 'E') text
  let regex :=
    match (texts.flatMap fun text => text.splitOn "\n").map spelled with
    | [] => .set false []
    | leading :: others => others.foldl .alt leading
  let regex := if options.has 'i' || options.has 'y' then regex.inAnyCase else regex
  if options.has 'x' then .seq .first (.seq regex .last)
  else if options.has 'w' then .seq (.edge .openLeft) (.seq regex (.edge .openRight))
  else regex

/-- What options ask for, and expressions search for. -/
def ofOptions (options : Options) (texts : List String) : Search :=
  let number (letter : Char) : Option Nat := (options.value? letter).bind String.toNat?
  let around := (number 'C').getD 0
  { regex := regexOf options texts, inverted := options.has 'v', most := number 'm'
    before := (number 'B').getD around, behind := (number 'A').getD around }

end Search

/-- The options of `grep` that have long names. -/
def grepOptions : List (String × Char) :=
  [("quiet", 'q'), ("silent", 'q'), ("count", 'c'), ("invert-match", 'v'), ("ignore-case", 'i'),
    ("line-number", 'n'), ("extended-regexp", 'E'), ("fixed-strings", 'F'), ("perl-regexp", 'P'),
    ("line-regexp", 'x'), ("word-regexp", 'w'), ("files-with-matches", 'l'), ("files-without-match", 'L'),
    ("only-matching", 'o'), ("regexp", 'e'), ("file", 'f'), ("no-messages", 's'), ("no-filename", 'h'),
    ("with-filename", 'H'), ("max-count", 'm'), ("byte-offset", 'b'), ("recursive", 'r'), ("text", 'a'),
    ("after-context", 'A'), ("before-context", 'B'), ("context", 'C'), ("include", 'N'), ("exclude", 'X')]

/-- What stands before a line, or a part of it, in what is printed. -/
def lineLead (options : Options) (name : Option String) (mark : String) (number offset : Nat) : String :=
  (name.elim "" (· ++ mark)) ++ (if options.has 'n' then number.repr ++ mark else "")
    ++ (if options.has 'b' then offset.repr ++ mark else "")

/-- What is printed of a line. -/
def lineText (options : Options) (search : Search) (name : Option String) (line : TextLine)
    (isWanted : Bool) : String :=
  let mark := if isWanted then ":" else "-"
  if options.has 'o' then
    if search.inverted || !isWanted then ""
    else
      let (pieces, _) := (search.regex.hits line.text).foldl
        (fun (pieces, offset) hit =>
          let offset := offset + hit.before.length
          let piece :=
            if hit.text.isEmpty then ""
            else lineLead options name mark line.number offset ++ String.ofList hit.text ++ "\n"
          (pieces ++ [piece], offset + hit.text.length))
        (([] : List String), line.offset)
      String.join pieces
  else lineLead options name mark line.number line.offset ++ String.ofList line.text ++ "\n"

/-- What is printed of lines. A mark stands between lines that do not follow each other, if lines around those
that are searched for are shown. -/
def linesText (options : Options) (search : Search) (name : Option String) (lines : List (TextLine × Bool)) :
    String :=
  let (texts, _) := lines.foldl
    (fun (texts, next) (line, isWanted) =>
      let gap := if search.hasContext && next != some line.number && next.isSome then "--\n" else ""
      (texts ++ [gap ++ lineText options search name line isWanted], some (line.number + 1)))
    (([] : List String), (none : Option Nat))
  String.join texts

/-- What is printed about a file. -/
def findingsText (options : Options) (search : Search) (named : Bool) (name : String) (input : Input) : String :=
  let title := if name == "-" then "(standard input)" else name
  let lines := TextLine.ofBytes input.bytes
  let isHit := !(search.wanted lines).isEmpty
  if options.has 'q' then ""
  else if options.has 'l' then if isHit then title ++ "\n" else ""
  else if options.has 'L' then if isHit then "" else title ++ "\n"
  else if options.has 'c' then (if named then title ++ ":" else "") ++ (search.wanted lines).length.repr ++ "\n"
  else if input.bytes.contains 0 && !options.has 'a' then ""
  else linesText options search (if named then some title else none) (search.shown lines)

/-- The paths of the files at a path and in the directories below it. The number bounds how deep these are. -/
def filesBelow (files : Files) (directory : Place) : Nat → String → List String
  | 0, path => [path]
  | n + 1, path =>
    match files.find directory (if path.isEmpty then "." else path) with
    | .ok (place, .directory _) =>
      (files.inside place).flatMap fun (name, item) =>
        match item with
        | .link _ => []
        | _ => filesBelow files directory n (if path.isEmpty || path.endsWith "/" then path ++ name else path ++ "/" ++ name)
    | _ => [path]

/-- Whether the options include a file that was found in a directory. -/
def isIncluded (options : Options) (path : String) : Bool :=
  let fits (letter : Char) : Option Bool :=
    let patterns := (options.given.filter fun entry => entry.1 == letter).map Prod.snd
    if patterns.isEmpty then none
    else some (patterns.any fun pattern =>
      Shell.patternFits false (Shell.Glyph.ofPattern pattern) ((path.splitOn "/").getLastD ""))
  (fits 'N').getD true && !(fits 'X').getD false

/-- Prints the lines that match an expression. The status tells whether there are any. -/
def grep : Tool := fun process machine =>
  let options := Options.read ['e', 'f', 'm', 'A', 'B', 'C', 'N', 'X'] grepOptions
    (process.arguments.map fun a =>
      if a.startsWith "-" && a.length > 1 && (a.toList.drop 1).all Char.isDigit then
        "-C" ++ (a.drop 1).toString
      else a)
  let lists := (options.given.filter fun entry => entry.1 == 'f').map Prod.snd
  let explicit := options.has 'e' || options.has 'f'
  let given := (options.given.filter fun entry => entry.1 == 'e').map Prod.snd
  let (read, listed, machine) := sources process machine (if lists.isEmpty then ["/dev/null"] else lists)
  let fromLists := read.flatMap fun entry => (linesOf entry.2.bytes).map String.ofList
  let texts := if explicit then given ++ fromLists else options.operands.take 1
  let operands := if explicit then options.operands else options.operands.drop 1
  if !explicit && texts.isEmpty then
    (2, machine.complain process "Usage: grep [OPTION]... PATTERNS [FILE]...\nTry \x27grep --help\x27 for more information.")
  else if !listed then (2, machine)
  else
    let search := Search.ofOptions options texts
    let deep := options.has 'r' || options.has 'R'
    let directory := process.directory
    let paths :=
      if deep then
        (if operands.isEmpty then [""] else operands).flatMap fun path =>
          let inside := filesBelow machine.files directory machine.files.items.length path
          if inside == [path] then inside else inside.filter (isIncluded options)
      else if operands.isEmpty then ["-"] else operands
    let named := !options.has 'h' && (options.has 'H' || paths.length > 1 && !deep || operands.length > 1
      || deep && paths != operands)
    let (hit, good, machine) := paths.foldl
      (fun (hit, good, machine) path =>
        match source process machine path with
        | (.error e, machine) =>
          (hit, false,
            if options.has 's' then machine
            else
              machine.complain process (process.name ++ ": " ++ path ++ ": " ++ e.wording))
        | (.ok input, machine) =>
          let known : Input := { input with bytes := input.start }
          let found := search.wanted (TextLine.ofBytes known.bytes)
          let text := findingsText options search named path known
          let machine := if text.isEmpty then machine else say process machine text
          let isEnough := options.has 'q' || options.has 'l' || search.most.any (· ≤ found.length)
          (hit || !found.isEmpty, good,
            if input.endless.isEmpty || isEnough && !found.isEmpty then machine
            else if text.isEmpty then machine.elapse Machine.never
            else pass process machine { bytes := [], endless := input.endless }))
      (false, true, machine)
    let machine :=
      if hit && (options.has 'q' || search.most.isSome) then machine.giveBack process 0 [] else machine
    (if hit && (good || options.has 'q') then 0 else if good then 1 else 2, machine)

end MutantHunt.Sandbox.Tools
