import MutantHunt.Sandbox.Shell.Pattern

/-!
# Regular expressions

The expressions that `grep` and `sed` search for, in the basic and the extended spelling. `Regex.ends`
gives every way in which an expression can match at the beginning of a text, the preferred one first:
a repetition prefers more over less, an alternative the left over the right. `Regex.search` finds the
match that starts first, and of those the longest.
-/

namespace MutantHunt.Sandbox

/-- A place between two characters, seen from the words around it. -/
inductive WordEdge where
  | start
  | finish
  | either
  | neither
  /-- No word goes on to the left. -/
  | openLeft
  /-- No word goes on to the right. -/
  | openRight
  deriving DecidableEq, Repr

/-- A regular expression. -/
inductive Regex where
  | nothing
  /-- One of the characters in the ranges, or one that is in none of them. -/
  | set (negated : Bool) (ranges : List (Char × Char))
  /-- The beginning of a line. -/
  | first
  /-- The end of a line. -/
  | last
  | seq (a b : Regex)
  | alt (a b : Regex)
  /-- At least and at most so many times. -/
  | many (least : Nat) (most : Option Nat) (a : Regex)
  | group (number : Nat) (a : Regex)
  /-- What a group matched, once more. -/
  | same (number : Nat)
  /-- Nothing, at a place of this kind. -/
  | edge (kind : WordEdge)
  deriving Repr, Inhabited

namespace Regex

/-! ## Reading -/

/-- The next piece of the spelling of an expression: a character with or without a backslash. -/
def piece? : List Char → Option (Char × Bool × List Char)
  | '\\' :: c :: rest => some (c, true, rest)
  | c :: rest => some (c, false, rest)
  | [] => none

/-- Whether a piece is an operator: in the extended spelling without a backslash, in the basic one with
it. -/
def isOperator (extended escaped : Bool) : Bool :=
  extended != escaped

/-- Reads a count. -/
def count (chars : List Char) : Option Nat × List Char :=
  ((String.ofList (chars.takeWhile Char.isDigit)).toNat?, chars.dropWhile Char.isDigit)

/-- Reads the bounds of a repetition behind its brace. -/
def bounds? (extended : Bool) (chars : List Char) : Option (Nat × Option Nat × List Char) :=
  let (least, rest) := count chars
  let (most, rest) :=
    match rest with
    | ',' :: rest => count rest
    | _ => (least, rest)
  match piece? rest with
  | some ('\x7d', escaped, rest) =>
    if isOperator extended escaped then some (least.getD 0, most, rest) else none
  | _ => none

/-- Reads the operators behind an atom that repeat it. The number bounds how many characters are left.
-/
def repeated (extended : Bool) : Nat → Regex → List Char → Regex × List Char
  | 0, atom, chars => (atom, chars)
  | n + 1, atom, chars =>
    match piece? chars with
    | some ('*', false, rest) => repeated extended n (.many 0 none atom) rest
    | some (c, escaped, rest) =>
      if !isOperator extended escaped then (atom, chars)
      else if c == '+' then repeated extended n (.many 1 none atom) rest
      else if c == '?' then repeated extended n (.many 0 (some 1) atom) rest
      else if c == '\x7b' then
        match bounds? extended rest with
        | some (least, most, rest) => repeated extended n (.many least most atom) rest
        | none => (atom, chars)
      else (atom, chars)
    | none => (atom, chars)

/-- A set of characters, read behind its opening bracket. -/
def bracket? (chars : List Char) : Option (Regex × List Char) :=
  match Shell.PatternPart.readSet? (chars.map fun char => { char, quoted := false }) with
  | some (.oneOf negated ranges, rest) => some (.set negated ranges, rest.map Shell.Glyph.char)
  | _ => none

/-- The sets that a letter behind a backslash stands for. -/
def letterSet? (c : Char) : Option Regex :=
  let word := Shell.PatternPart.classRanges "alnum" ++ [('_', '_')]
  match c with
  | 'w' => some (.set false word)
  | 'W' => some (.set true word)
  | 's' => some (.set false (Shell.PatternPart.classRanges "space"))
  | 'S' => some (.set true (Shell.PatternPart.classRanges "space"))
  | _ => none

/-- The places that a character behind a backslash stands for. -/
def letterEdge? (c : Char) : Option Regex :=
  match c with
  | '<' => some (.edge .start)
  | '>' => some (.edge .finish)
  | 'b' => some (.edge .either)
  | 'B' => some (.edge .neither)
  | '\x60' => some .first
  | '\x27' => some .last
  | _ => none

/-- Exactly one character. -/
def exactly (c : Char) : Regex :=
  .set false [(c, c)]

mutual

/-- Reads alternatives. `groups` counts the groups so far. -/
def readAlternatives (extended : Bool) : Nat → Nat → List Char → Regex × Nat × List Char
  | 0, groups, chars => (.nothing, groups, chars)
  | n + 1, groups, chars =>
    let (left, groups, rest) := readSequence extended n groups true chars
    match piece? rest with
    | some ('|', escaped, more) =>
      if isOperator extended escaped then
        let (right, groups, rest) := readAlternatives extended n groups more
        (.alt left right, groups, rest)
      else (left, groups, rest)
    | _ => (left, groups, rest)

/-- Reads what is to be matched one after the other. -/
def readSequence (extended : Bool) : Nat → Nat → Bool → List Char → Regex × Nat × List Char
  | 0, groups, _, chars => (.nothing, groups, chars)
  | n + 1, groups, atStart, chars =>
    match piece? chars with
    | none => (.nothing, groups, [])
    | some (c, escaped, rest) =>
      let isOp := isOperator extended escaped
      if isOp && (c == '|' || c == ')') then (.nothing, groups, chars)
      else
        let (atom, groups, rest) :=
          if isOp && c == '(' then
            let number := groups + 1
            let (inner, groups, rest) := readAlternatives extended n number rest
            (.group number inner, groups, ((piece? rest).map fun p => p.2.2).getD [])
          else if escaped then
            if c.isDigit && c != '0' then (.same (c.toNat - 48), groups, rest)
            else (((letterSet? c).orElse fun _ => letterEdge? c).getD (exactly c), groups, rest)
          else if c == '.' then (.set true [], groups, rest)
          else if c == '^' && (extended || atStart) then
            match extended, rest with
            | false, '*' :: rest => (.seq .first (exactly '*'), groups, rest)
            | _, _ => (.first, groups, rest)
          else if c == '$' && (extended || rest.isEmpty || "\\)".toList.isPrefixOf rest) then
            (.last, groups, rest)
          else if c == '[' then
            match bracket? rest with
            | some (found, rest) => (found, groups, rest)
            | none => (exactly c, groups, rest)
          else (exactly c, groups, rest)
        let (atom, rest) := repeated extended (rest.length + 1) atom rest
        let (more, groups, rest) := readSequence extended n groups false rest
        (.seq atom more, groups, rest)

end

/-- The expression that a text spells. -/
def ofText (extended : Bool) (text : String) : Regex :=
  (readAlternatives extended (3 * text.length + 3) 0 text.toList).1

/-- The ranges with the other case of all letters in them. -/
def bothCases (ranges : List (Char × Char)) : List (Char × Char) :=
  let part (low high : Char) (range : Char × Char) : Option (Char × Char) :=
    let a := if low ≤ range.1 then range.1 else low
    let b := if range.2 ≤ high then range.2 else high
    if a ≤ b then some (a, b) else none
  ranges
    ++ (ranges.filterMap (part 'a' 'z')).map (fun (a, b) => (a.toUpper, b.toUpper))
    ++ (ranges.filterMap (part 'A' 'Z')).map (fun (a, b) => (a.toLower, b.toLower))

/-- The expression for which the case of letters counts for nothing. -/
def inAnyCase : Regex → Regex
  | set negated ranges => set negated (bothCases ranges)
  | seq a b => seq a.inAnyCase b.inAnyCase
  | alt a b => alt a.inAnyCase b.inAnyCase
  | many least most a => many least most a.inAnyCase
  | group number a => group number a.inAnyCase
  | regex => regex

/-! ## Matching -/

/-- A point in a text while it is matched. -/
structure Point where
  /-- The character before it. There is none at the beginning of the line. -/
  previous : Option Char := none
  rest : List Char
  /-- The texts of the groups, latest first. -/
  groups : List (Nat × List Char) := []
  deriving Inhabited

/-- The point behind so many more characters. -/
def Point.skip (p : Point) (count : Nat) : Point :=
  { p with
    previous := if count = 0 then p.previous else p.rest[count - 1]?.or p.previous
    rest := p.rest.drop count }

/-- Whether a character can stand in a word. -/
def isWordChar (c : Char) : Bool :=
  c.isAlphanum || c == '_'

/-- Whether a point is a place of a kind. -/
def Point.isAt (p : Point) (kind : WordEdge) : Bool :=
  let before := p.previous.any isWordChar
  let behind := p.rest.head?.any isWordChar
  match kind with
  | .start => !before && behind
  | .finish => before && !behind
  | .either => before != behind
  | .neither => before == behind
  | .openLeft => !before
  | .openRight => !behind

/-- Repeats a step, at least and at most so many times, as often as possible first. The number bounds
how often. -/
def repeatStep (step : Point → List Point) : Nat → Nat → Option Nat → Point → List Point
  | 0, _, _, p => [p]
  | n + 1, least, most, p =>
    let more :=
      if most == some 0 then []
      else
        (step p).flatMap fun q =>
          if q.rest.length < p.rest.length || 0 < least then
            repeatStep step n (least - 1) (most.map (· - 1)) q
          else []
    if least = 0 then more ++ [p] else more

/-- Where a match of the expression can end, the preferred end first. -/
def ends : Regex → Point → List Point
  | nothing, p => [p]
  | set negated ranges, p =>
    match p.rest with
    | [] => []
    | c :: rest =>
      if (ranges.any fun (low, high) => low ≤ c && c ≤ high) != negated then
        [{ p with previous := some c, rest }]
      else []
  | first, p => if p.previous.isNone then [p] else []
  | last, p => if p.rest.isEmpty then [p] else []
  | seq a b, p => (ends a p).flatMap (ends b)
  | alt a b, p => ends a p ++ ends b p
  | many least most a, p => repeatStep (ends a) (p.rest.length + least + 1) least most p
  | group number a, p =>
    (ends a p).map fun q =>
      { q with groups := (number, p.rest.take (p.rest.length - q.rest.length)) :: q.groups }
  | same number, p =>
    match p.groups.lookup number with
    | none => []
    | some text => if text.isPrefixOf p.rest then [p.skip text.length] else []
  | edge kind, p => if p.isAt kind then [p] else []

/-- A match in a text. -/
structure Hit where
  /-- What stands before it. -/
  before : List Char
  /-- What it matched. -/
  text : List Char
  /-- Where it ends. -/
  finish : Point
  deriving Inhabited

/-- The first match behind a point, in front of which some characters were passed. -/
def searchFrom (regex : Regex) (passed : List Char) (previous : Option Char) : List Char → Option Hit
  | text@(c :: rest) => (at? text).orElse fun _ => searchFrom regex (c :: passed) (some c) rest
  | [] => at? []
where
  /-- The longest match at the beginning of what is left. -/
  at? (text : List Char) : Option Hit :=
    match regex.ends { previous, rest := text } with
    | p :: others =>
      let best := others.foldl (fun b q => if q.rest.length < b.rest.length then q else b) p
      some ⟨passed.reverse, text.take (text.length - best.rest.length), best⟩
    | [] => none

/-- The first match in a text, and of those that start there the longest. The character before the text,
if there is one, tells that it is not the beginning of a line. -/
def search (regex : Regex) (previous : Option Char) (text : List Char) : Option Hit :=
  regex.searchFrom [] previous text

/-- Whether an expression matches somewhere in a line. -/
def occurs (regex : Regex) (line : List Char) : Bool :=
  (regex.search none line).isSome

/-- All matches in a text, from left to right. None of them is empty at the end of the one before. The
number bounds how many characters are left. -/
def hitsUpTo (regex : Regex) : Nat → (previous : Option Char) → (adjacent : Bool) → List Char → List Hit
  | 0, _, _, _ => []
  | n + 1, previous, adjacent, text =>
    match regex.search previous text with
    | none => []
    | some hit =>
      if hit.text.isEmpty then
        let further :=
          match hit.finish.rest with
          | [] => []
          | c :: rest =>
            (regex.hitsUpTo n (some c) false rest).modifyHead fun next => { next with before := c :: next.before }
        if adjacent && hit.before.isEmpty then further else hit :: further
      else hit :: regex.hitsUpTo n hit.finish.previous true hit.finish.rest

/-- All matches in a line. What stands before a match is counted from the end of the match before it. -/
def hits (regex : Regex) (line : List Char) : List Hit :=
  regex.hitsUpTo (line.length + 2) none false line

end Regex

end MutantHunt.Sandbox
