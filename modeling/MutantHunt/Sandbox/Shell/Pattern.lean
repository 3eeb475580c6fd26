/-!
# Patterns

A pattern is text in which `*` stands for any characters, `?` for one, and `[...]` for one of a set. Where
groups are known, choices between patterns may stand in parentheses behind a character that says how often
one of them is found. A quoted character only stands for itself, so a pattern is made of `Glyph`s, which
remember whether they were quoted.
-/

namespace MutantHunt.Sandbox.Shell

/-- A character, and whether it was quoted. -/
structure Glyph where
  char : Char
  quoted : Bool
  deriving DecidableEq, Repr, Inhabited

namespace Glyph

/-- A text, all of it quoted or not. -/
def ofText (quoted : Bool) (text : String) : List Glyph :=
  text.toList.map fun char => { char, quoted }

/-- The glyphs of a text in which a backslash protects the character behind it. -/
def ofPattern (text : String) : List Glyph :=
  let rec walk : List Char → List Glyph
    | '\\' :: c :: rest => ⟨c, true⟩ :: walk rest
    | c :: rest => ⟨c, false⟩ :: walk rest
    | [] => []
  walk text.toList

/-- The text of glyphs. -/
def text (glyphs : List Glyph) : String :=
  String.ofList (glyphs.map Glyph.char)

end Glyph

/-- A part of a pattern. -/
inductive PatternPart where
  /-- Any characters, or none. -/
  | anything
  /-- One character, whichever it is. -/
  | anyone
  /-- One of the characters in the ranges, or one that is in none of them. -/
  | oneOf (negated : Bool) (ranges : List (Char × Char))
  | exactly (char : Char)
  /-- One of several patterns, as often as a character says. -/
  | choice (often : Char) (options : List (List PatternPart))
  deriving Repr, Inhabited

namespace PatternPart

/-- The characters of a class in a set. -/
def classRanges (name : String) : List (Char × Char) :=
  match name with
  | "digit" => [('0', '9')]
  | "lower" => [('a', 'z')]
  | "upper" => [('A', 'Z')]
  | "alpha" => [('a', 'z'), ('A', 'Z')]
  | "alnum" => [('a', 'z'), ('A', 'Z'), ('0', '9')]
  | "space" => [('\t', '\r'), (' ', ' ')]
  | "blank" => [('\t', '\t'), (' ', ' ')]
  | "punct" => [('!', '/'), (':', '@'), ('[', '\x60'), ('\x7b', '~')]
  | "xdigit" => [('0', '9'), ('a', 'f'), ('A', 'F')]
  | "print" => [(' ', '~')]
  | "graph" => [('!', '~')]
  | "cntrl" => [('\x00', '\x1f'), ('\x7f', '\x7f')]
  | _ => []

/-- Reads the name of a class in a set, up to its end. -/
def className (name : List Char) : List Glyph → Option (String × List Glyph)
  | ⟨':', false⟩ :: ⟨']', false⟩ :: rest => some (String.ofList name.reverse, rest)
  | ⟨c, _⟩ :: rest => if c.isAlpha then className (c :: name) rest else none
  | [] => none

/-- Reads the members of a set up to the bracket that ends it. The number bounds how many glyphs are
left. -/
def members : Nat → Bool → List (Char × Char) → List Glyph →
    Option (List (Char × Char) × List Glyph)
  | 0, _, _, _ => none
  | _ + 1, _, _, [] => none
  | n + 1, first, ranges, ⟨c, quoted⟩ :: rest =>
    if c == ']' && !quoted && !first then some (ranges, rest)
    else
      let named :=
        match rest with
        | ⟨':', false⟩ :: inner => if c == '[' && !quoted then className [] inner else none
        | _ => none
      match named with
      | some (name, rest) => members n false (ranges ++ classRanges name) rest
      | none =>
        match rest with
        | ⟨'-', false⟩ :: ⟨d, q⟩ :: more =>
          if d == ']' && !q then members n false (ranges ++ [(c, c)]) rest
          else members n false (ranges ++ [(c, d)]) more
        | _ => members n false (ranges ++ [(c, c)]) rest

/-- Reads a set behind its opening bracket. -/
def readSet? (glyphs : List Glyph) : Option (PatternPart × List Glyph) :=
  let (negated, inner) :=
    match glyphs with
    | ⟨'!', false⟩ :: rest | ⟨'^', false⟩ :: rest => (true, rest)
    | _ => (false, glyphs)
  (members (inner.length + 1) true [] inner).map fun (ranges, rest) => (.oneOf negated ranges, rest)

/-- Splits what stands in parentheses at bars. Gives the choices and what is behind the parenthesis that
closes them. The number bounds how many glyphs are left. -/
def splitChoices : Nat → (depth : Nat) → List Glyph → List Glyph → Option (List (List Glyph) × List Glyph)
  | 0, _, _, _ => none
  | _ + 1, _, _, [] => none
  | n + 1, depth, current, g :: rest =>
    if g.quoted then splitChoices n depth (g :: current) rest
    else if g.char == ')' then
      if depth = 0 then some ([current.reverse], rest) else splitChoices n (depth - 1) (g :: current) rest
    else if g.char == '(' then splitChoices n (depth + 1) (g :: current) rest
    else if g.char == '|' && depth = 0 then
      (splitChoices n 0 [] rest).map fun (options, rest) => (current.reverse :: options, rest)
    else splitChoices n depth (g :: current) rest

/-- Reads a pattern. The number bounds how many glyphs are left. -/
def readUpTo (grouping : Bool) : Nat → List Glyph → List PatternPart
  | 0, _ => []
  | _ + 1, [] => []
  | n + 1, ⟨c, quoted⟩ :: rest =>
    let group : Option (List (List Glyph) × List Glyph) :=
      match rest with
      | ⟨'(', false⟩ :: inner =>
        if grouping && !quoted && "?*+@!".toList.contains c then splitChoices (inner.length + 1) 0 [] inner
        else none
      | _ => none
    match group with
    | some (options, rest) => .choice c (options.map fun glyphs => readUpTo grouping n glyphs) :: readUpTo grouping n rest
    | none =>
      if quoted then .exactly c :: readUpTo grouping n rest
      else if c == '*' then .anything :: readUpTo grouping n rest
      else if c == '?' then .anyone :: readUpTo grouping n rest
      else if c == '[' then
        match readSet? rest with
        | some (part, rest) => part :: readUpTo grouping n rest
        | none => .exactly c :: readUpTo grouping n rest
      else .exactly c :: readUpTo grouping n rest

/-- Reads a pattern. -/
def read (grouping : Bool) (glyphs : List Glyph) : List PatternPart :=
  readUpTo grouping glyphs.length glyphs

/-- Whether a part stands for a character. -/
def accepts (part : PatternPart) (c : Char) : Bool :=
  match part with
  | anything | anyone => true
  | oneOf negated ranges => (ranges.any fun (low, high) => low ≤ c && c ≤ high) != negated
  | exactly d => c == d
  | choice _ _ => false

/-- Whether the rest of a text from some point on has a property. -/
def someRest (property : List Char → Bool) : List Char → Bool
  | [] => property []
  | c :: rest => property (c :: rest) || someRest property rest

/-- Whether a pattern stands for a text. -/
def fits : List PatternPart → List Char → Bool
  | [], text => text.isEmpty
  | .anything :: parts, text => someRest (fits parts) text
  | _ :: _, [] => false
  | part :: parts, c :: rest => part.accepts c && fits parts rest

/-- All rests of a text, the text itself first. -/
def allRests : List Char → List (List Char)
  | [] => [[]]
  | c :: rest => (c :: rest) :: allRests rest

/-- What may be left of a text behind a pattern. The number bounds how deep patterns stand inside patterns,
and how long a pattern is. -/
def rests : Nat → List PatternPart → List Char → List (List Char)
  | 0, _, _ => []
  | _ + 1, [], text => [text]
  | n + 1, .anything :: parts, text => (allRests text).flatMap (rests n parts)
  | n + 1, .choice often options :: parts, text =>
    let once (text : List Char) : List (List Char) := options.flatMap fun option => rests n option text
    let rec again : Nat → List Char → List (List Char)
      | 0, _ => []
      | m + 1, text =>
        let further := (once text).filter fun rest => rest.length < text.length
        text :: further.flatMap (again m)
    let behind :=
      match often with
      | '?' => text :: once text
      | '*' => again (text.length + 1) text
      | '+' => (once text).flatMap (again (text.length + 1))
      | '!' => (allRests text).filter fun rest => !(once (text.take (text.length - rest.length))).contains []
      | _ => once text
    behind.flatMap (rests n parts)
  | _ + 1, _ :: _, [] => []
  | n + 1, part :: parts, c :: rest => if part.accepts c then rests n parts rest else []

/-- Whether there are groups in a pattern. -/
def hasGroups (parts : List PatternPart) : Bool :=
  parts.any fun part => match part with | choice _ _ => true | _ => false

/-- Whether a pattern stands for a text. -/
def isFor (parts : List PatternPart) (text : List Char) : Bool :=
  if hasGroups parts then (rests 1000 parts text).contains [] else fits parts text

end PatternPart

/-- Whether a pattern stands for a text. -/
def patternFits (grouping : Bool) (pattern : List Glyph) (text : String) : Bool :=
  PatternPart.isFor (PatternPart.read grouping pattern) text.toList

/-- Whether glyphs hold a character that makes them a pattern. -/
def isPattern (glyphs : List Glyph) : Bool :=
  glyphs.any fun g => !g.quoted && (g.char == '*' || g.char == '?' || g.char == '[')

/-- How much of the beginning of a text a pattern stands for, at least or at most. -/
def fittingLength? (parts : List PatternPart) (longest : Bool) (chars : List Char) : Option Nat :=
  let lengths := List.range (chars.length + 1)
  (if longest then lengths.reverse else lengths).find? fun n => PatternPart.isFor parts (chars.take n)

/-- Cuts the shortest or longest beginning off a text that a pattern stands for. -/
def cutFront (parts : List PatternPart) (longest : Bool) (text : String) : String :=
  match fittingLength? parts longest text.toList with
  | some n => (text.drop n).toString
  | none => text

/-- How much of a text is left in front of the shortest or longest end that a pattern stands for. -/
def lengthBeforeEnd? (parts : List PatternPart) (longest : Bool) (chars : List Char) : Option Nat :=
  let lengths := List.range (chars.length + 1)
  (if longest then lengths else lengths.reverse).find? fun n => PatternPart.isFor parts (chars.drop n)

/-- Cuts the shortest or longest end off a text that a pattern stands for. -/
def cutBack (parts : List PatternPart) (longest : Bool) (text : String) : String :=
  match lengthBeforeEnd? parts longest text.toList with
  | some n => (text.take n).toString
  | none => text

/-- Replaces what a pattern stands for wherever it is found, or only the first time. The number bounds how
many characters are left. -/
def replaceUpTo (parts : List PatternPart) (every : Bool) (replacement : List Char) :
    Nat → List Char → List Char
  | 0, chars => chars
  | _ + 1, [] => []
  | n + 1, c :: rest =>
    match (fittingLength? parts true (c :: rest)).filter (0 < ·) with
    | some k =>
      let behind := (c :: rest).drop k
      replacement ++ if every then replaceUpTo parts every replacement n behind else behind
    | none => c :: replaceUpTo parts every replacement n rest

/-- Replaces what a pattern stands for in a text. -/
def replaceFits (parts : List PatternPart) (every : Bool) (atFront : Option Bool) (replacement text : String) :
    String :=
  let chars := text.toList
  match atFront with
  | some true =>
    match fittingLength? parts true chars with
    | some n => replacement ++ (text.drop n).toString
    | none => text
  | some false =>
    match lengthBeforeEnd? parts true chars with
    | some n => (text.take n).toString ++ replacement
    | none => text
  | none => String.ofList (replaceUpTo parts every replacement.toList (chars.length + 1) chars)

/-- Puts the letters of a text that fit a pattern in upper or lower case, all of them or only the first
character. -/
def recaseFits (parts : List PatternPart) (upper every : Bool) (text : String) : String :=
  let change (c : Char) : Char :=
    if parts.isEmpty || PatternPart.isFor parts [c] then if upper then c.toUpper else c.toLower else c
  match text.toList with
  | [] => ""
  | c :: rest => String.ofList (change c :: if every then rest.map change else rest)

end MutantHunt.Sandbox.Shell
