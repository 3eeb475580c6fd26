import MutantHunt.Sandbox.Shell.Word

/-!
# Braces in words

Braces around texts with commas between them stand for each of the texts in turn, and braces around two
numbers or letters with two points between them stand for all from the one to the other:
`a{b,c}d{1..2}` is `abd1 abd2 acd1 acd2`. Braces that hold neither stand for themselves.
`Word.withoutBraces` gives all the words that a word stands for.
-/

namespace MutantHunt.Sandbox.Shell

/-- A character of a word, or a part that is no text without quotes. -/
inductive Atom where
  | char (c : Char)
  | part (part : WordPart)
  deriving DecidableEq, Repr

namespace Atom

/-- The atoms of a word. -/
def ofWord (word : Word) : List Atom :=
  word.flatMap fun piece =>
    match piece with
    | .text text false => text.toList.map .char
    | piece => [.part piece]

/-- The word of atoms. -/
def toWord (atoms : List Atom) : Word :=
  atoms.foldr
    (fun atom word =>
      match atom with
      | char c => addChar c false word
      | part piece => piece :: word)
    []

/-- Splits what stands in braces at commas. Gives the pieces and what is behind the brace that closes them.
The number bounds how many atoms are left. -/
def splitPieces : Nat → (depth : Nat) → List Atom → List Atom → Option (List (List Atom) × List Atom)
  | 0, _, _, _ => none
  | _ + 1, _, _, [] => none
  | n + 1, depth, current, atom :: rest =>
    match atom with
    | char '\x7b' => splitPieces n (depth + 1) (atom :: current) rest
    | char '\x7d' =>
      if depth = 0 then some ([current.reverse], rest) else splitPieces n (depth - 1) (atom :: current) rest
    | char ',' =>
      if depth = 0 then
        (splitPieces n 0 [] rest).map fun (pieces, rest) => (current.reverse :: pieces, rest)
      else splitPieces n depth (atom :: current) rest
    | _ => splitPieces n depth (atom :: current) rest

/-- The text of atoms that are all characters. -/
def text? (atoms : List Atom) : Option String :=
  (atoms.mapM fun atom => match atom with | char c => some c | part _ => none).map String.ofList

/-- A number with zeros in front up to a width. -/
def padded (width : Nat) (n : Int) : String :=
  let digits := n.natAbs.repr
  let sign := if n < 0 then "-" else ""
  sign ++ String.ofList (List.replicate (width - sign.length - digits.length) '0') ++ digits

/-- The numbers from one to another. -/
def steps (first last step : Int) : List Int :=
  let size := max 1 step.natAbs
  (List.range ((last - first).natAbs / size + 1)).map fun (k : Nat) =>
    let way : Int := (k * size : Nat)
    if first ≤ last then first + way else first - way

/-- Whether a number is written with zeros in front. -/
def hasZeros (text : String) : Bool :=
  match text.toList with
  | '0' :: _ :: _ | '-' :: '0' :: _ :: _ => true
  | _ => false

/-- The texts from one to another. -/
def range? (text : String) : Option (List String) := do
  let (first, last, step) ←
    match text.splitOn ".." with
    | [first, last] => some (first, last, 1)
    | [first, last, step] => step.toInt?.map fun step => (first, last, step)
    | _ => none
  match first.toInt?, last.toInt?, first.toList, last.toList with
  | some a, some b, _, _ =>
    let width := if hasZeros first || hasZeros last then max first.length last.length else 0
    some ((steps a b step).map (padded width))
  | none, none, [a], [b] =>
    if a.isAlpha && b.isAlpha then
      some ((steps a.toNat b.toNat step).map fun code => (Char.ofNat code.toNat).toString)
    else none
  | _, _, _, _ => none

/-- All that atoms stand for. The number bounds how many atoms and braces there are. -/
def expand : Nat → List Atom → List (List Atom)
  | 0, atoms => [atoms]
  | _ + 1, [] => [[]]
  | n + 1, atom :: rest =>
    let plain : List (List Atom) := (expand n rest).map (atom :: ·)
    match atom with
    | char '\x7b' =>
      match splitPieces (rest.length + 1) 0 [] rest with
      | some ([piece], behind) =>
        match (text? piece).bind range? with
        | some texts =>
          let after := expand n behind
          texts.flatMap fun text => after.map fun more => text.toList.map Atom.char ++ more
        | none => plain
      | some (pieces, behind) =>
        let after := expand n behind
        pieces.flatMap fun piece => (expand n piece).flatMap fun front => after.map fun more => front ++ more
      | none => plain
    | _ => plain

end Atom

/-- The words that a word stands for. -/
def Word.withoutBraces (word : Word) : List Word :=
  let hasBrace := word.any fun part =>
    match part with
    | .text text false => text.contains '\x7b'
    | _ => false
  if hasBrace then
    let atoms := Atom.ofWord word
    (Atom.expand (atoms.length + 1) atoms).map Atom.toWord
  else [word]

end MutantHunt.Sandbox.Shell
