import MutantHunt.Sandbox.Tools.Lines

/-!
# Tools that compare files

`cmp` tells where two files differ first, and `diff` tells how to make one of them from the other, line by
line. The lines that stay are a longest common subsequence of both (`commonLengths`).
-/

namespace MutantHunt.Sandbox.Tools

/-- Where two sequences of bytes differ first, as the number of a byte and of a line. -/
def firstDifference (byte line : Nat) : List UInt8 → List UInt8 → Option (Nat × Nat)
  | a :: as, b :: bs =>
    if a == b then firstDifference (byte + 1) (if a == 10 then line + 1 else line) as bs
    else some (byte, line)
  | _, _ => none

/-- Compares two files byte by byte. -/
def cmp : Tool := fun process machine =>
  let options := Options.read ['n', 'i'] [("silent", 's'), ("quiet", 's'), ("bytes", 'n')] process.arguments
  match options.operands with
  | a :: others =>
    let b := others.headD "-"
    match sources process machine [a, b] with
    | ([(_, first), (_, second)], _, machine) =>
      let cut (bytes : List UInt8) : List UInt8 :=
        ((options.value? 'n').bind sizeOf?).elim bytes bytes.take
      let (first, second) := (cut first.bytes, cut second.bytes)
      if first == second then (0, machine)
      else if options.has 's' then (1, machine)
      else
        match firstDifference 1 1 first second with
        | some (byte, line) =>
          (1, say process machine
            (a ++ " " ++ b ++ " differ: char " ++ byte.repr ++ ", line " ++ line.repr ++ "\n"))
        | none => fail process machine 1 ("EOF on " ++ if first.length < second.length then a else b)
    | (_, _, machine) => (2, machine)
  | [] => fail process machine 2 "missing operand"

/-! ## Differences between lines -/

/-- The lengths of the longest common subsequences of what is left of two lists: one row for each rest of the
first list, one number for each rest of the second one. -/
def commonLengths {α : Type} [BEq α] : List α → List α → List (List Nat)
  | [], second => [List.replicate (second.length + 1) 0]
  | a :: first, second =>
    let rows := commonLengths first second
    let below := rows.headD []
    let rec row : List α → List Nat → List Nat
      | b :: rest, diagonal :: more =>
        let right := row rest more
        let here := if a == b then more.headD 0 + 1 else max diagonal (right.headD 0)
        here :: right
      | _, _ => [0]
    row second below :: rows

/-- What happens to a line. -/
inductive Change where
  | keep
  | remove
  | add
  deriving DecidableEq, Repr

/-- How to get from one list to another. The number bounds how many steps there are. -/
def editScript {α : Type} [BEq α] : Nat → List (List Nat) → List α → List α → List (Change × α)
  | 0, _, _, _ => []
  | _ + 1, _, [], second => second.map fun b => (.add, b)
  | _ + 1, _, first, [] => first.map fun a => (.remove, a)
  | n + 1, rows, a :: first, b :: second =>
    if a == b then
      (.keep, a) :: editScript n ((rows.drop 1).map fun row => row.drop 1) first second
    else
      let here := rows.headD []
      let below := (rows.drop 1).headD []
      if here.getD 1 0 ≤ below.getD 0 0 then
        (.remove, a) :: editScript n (rows.drop 1) first (b :: second)
      else (.add, b) :: editScript n (rows.map fun row => row.drop 1) (a :: first) second

/-- A stretch of lines that differ, with where it starts in both files. -/
structure Hunk where
  start : Nat
  removed : List String
  newStart : Nat
  added : List String
  deriving Repr

/-- The stretches of lines that differ. -/
def hunksOf (steps : List (Change × String)) : List Hunk :=
  let finish (hunks : List Hunk) (current : Option Hunk) : List Hunk := current.toList ++ hunks
  let (hunks, current, _, _) := steps.foldl
    (fun (hunks, (current : Option Hunk), i, j) (kind, line) =>
      let hunk := current.getD ⟨i, [], j, []⟩
      match kind with
      | .keep => (finish hunks current, none, i + 1, j + 1)
      | .remove => (hunks, some { hunk with removed := hunk.removed ++ [line] }, i + 1, j)
      | .add => (hunks, some { hunk with added := hunk.added ++ [line] }, i, j + 1))
    (([] : List Hunk), none, 1, 1)
  (finish hunks current).reverse

/-- The numbers of the lines of a stretch. Where it is empty, this is the line before it. -/
def rangeText (start count : Nat) : String :=
  if count = 0 then (start - 1).repr
  else if count = 1 then start.repr
  else start.repr ++ "," ++ (start + count - 1).repr

/-- A line with a mark in front of it. -/
def markedLine (mark line : String) : String :=
  mark ++ line ++ "\n"

/-- A stretch of lines that differ, as it is shown. -/
def Hunk.shown (hunk : Hunk) : String :=
  let letter := if hunk.removed.isEmpty then "a" else if hunk.added.isEmpty then "d" else "c"
  rangeText hunk.start hunk.removed.length ++ letter ++ rangeText hunk.newStart hunk.added.length ++ "\n"
    ++ String.join (hunk.removed.map (markedLine "< "))
    ++ (if letter == "c" then "---\n" else "")
    ++ String.join (hunk.added.map (markedLine "> "))

/-- Groups steps so that the lines that stay between two groups are more than twice the context. Each group
has its context around it, and where it starts in both files. -/
def groupsOf (context : Nat) (steps : List (Change × String)) :
    List (Nat × Nat × List (Change × String)) :=
  let numbered := steps.foldl
    (fun (rows, i, j) (kind, line) =>
      (rows ++ [(i, j, kind, line)], if kind == .add then i else i + 1, if kind == .remove then j else j + 1))
    (([] : List (Nat × Nat × Change × String)), 1, 1)
  let rows := numbered.1.zipIdx
  let changed := (rows.filter fun row => row.1.2.2.1 != .keep).map Prod.snd
  let wanted := rows.filter fun row =>
    changed.any fun n => n ≤ row.2 + context && row.2 ≤ n + context
  let groups := wanted.foldl
    (fun (groups : List (List ((Nat × Nat × Change × String) × Nat))) row =>
      match groups with
      | (last :: group) :: rest =>
        if last.2 + 1 = row.2 then (row :: last :: group) :: rest else [row] :: groups
      | _ => [row] :: groups)
    []
  groups.reverse.map fun group =>
    let group := group.reverse
    let (i, j) := (group.head?.map fun row => (row.1.1, row.1.2.1)).getD (1, 1)
    (i, j, group.map fun row => row.1.2.2)

/-- Where a group of steps is, as it is shown. -/
def unifiedRange (start count : Nat) : String :=
  if count = 1 then start.repr
  else if count = 0 then (start - 1).repr ++ ",0"
  else start.repr ++ "," ++ count.repr

/-- All groups of steps with the lines around them, as they are shown. -/
def unified (context : Nat) (steps : List (Change × String)) : String :=
  String.join ((groupsOf context steps).map fun (i, j, group) =>
    let old := (group.filter fun step => step.1 != .add).length
    let new := (group.filter fun step => step.1 != .remove).length
    "@@ -" ++ unifiedRange i old ++ " +" ++ unifiedRange j new ++ " @@\n"
      ++ String.join (group.map fun (kind, line) =>
        markedLine (match kind with | .keep => " " | .remove => "-" | .add => "+") line))

/-- Lines, where the last one is marked if it does not end. -/
def markedLines (bytes : List UInt8) : List String :=
  let lines := (linesOf bytes).map String.ofList
  if bytes.isEmpty || bytes.getLast? == some 10 then lines
  else lines.dropLast ++ (lines.getLast?.map (· ++ "\n\\ No newline at end of file")).toList

/-- A line as it is compared. -/
def comparedLine (options : Options) (line : String) : String :=
  let line := if options.has 'i' then line.map Char.toLower else line
  let line := if options.has 'w' then String.ofList (line.toList.filter fun c => !c.isWhitespace) else line
  if options.has 'b' then
    " ".intercalate ((line.map fun c => if c == '\t' then ' ' else c).splitOn " " |>.filter (!·.isEmpty))
  else line

/-- Tells how two files differ. -/
def diff : Tool := fun process machine =>
  let modern := process.arguments.map fun a =>
    if a == "--strip-trailing-cr" || a.startsWith "--color" then "--text" else a
  let options := Options.read ['U', 'C', 'L'] [("unified", 'u'), ("brief", 'q'), ("report-identical-files", 's'),
    ("ignore-case", 'i'), ("ignore-all-space", 'w'), ("ignore-space-change", 'b'), ("recursive", 'r'),
    ("label", 'L'), ("text", 'a'), ("new-file", 'N')] modern
  match options.operands with
  | [a, b] =>
    let inside (directory other : String) : String :=
      match machine.files.find process.directory directory with
      | .ok (_, .directory _) => if other == "-" then directory else directory ++ "/" ++ lastNameOf other
      | _ => directory
    let (a, b) :=
      if (machine.files.isDirectoryAt process.directory a) && machine.files.isDirectoryAt process.directory b then
        (a, b)
      else (inside a b, inside b a)
    let (left, machine) := source process machine a
    let (right, machine) := source process machine b
    match left, right with
    | .ok left, .ok right =>
      let first := markedLines left.bytes
      let second := markedLines right.bytes
      let keys (lines : List String) : List String := lines.map (comparedLine options)
      if keys first == keys second then
        (0, if options.has 's' then say process machine ("Files " ++ a ++ " and " ++ b ++ " are identical\n")
          else machine)
      else if options.has 'q' then (1, say process machine ("Files " ++ a ++ " and " ++ b ++ " differ\n"))
      else
        let rows := commonLengths (keys first) (keys second)
        let steps := editScript (first.length + second.length + 1) rows (keys first) (keys second)
        let labels := (options.given.filter fun entry => entry.1 == 'L').map Prod.snd
        if options.has 'u' || options.has 'U' then
          let context := ((options.value? 'U').bind String.toNat?).getD 3
          (1, say process machine ("--- " ++ labels.getD 0 a ++ "\n+++ " ++ labels.getD 1 b ++ "\n"
            ++ unified context steps))
        else (1, say process machine (String.join ((hunksOf steps).map Hunk.shown)))
    | .error e, _ => fail process machine 2 (a ++ ": " ++ e.wording)
    | _, .error e => fail process machine 2 (b ++ ": " ++ e.wording)
  | _ => fail process machine 2 "missing operand"
where
  /-- The last name of a path. -/
  lastNameOf (path : String) : String :=
    (Files.namesOf path).getLastD path

end MutantHunt.Sandbox.Tools
