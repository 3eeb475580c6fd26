import MutantHunt.Sandbox.Regex
import MutantHunt.Sandbox.Shell.Format

/-!
# Scripts that edit lines

What `sed` is asked to do: a `Script` is a row of steps, each with the lines it is for (`Selection`) and an
`Action`. `Script.ofText?` reads one. A block of steps is not nested in the row: it stands between a step
that enters it and one that leaves it, so that a jump can go anywhere.
-/

namespace MutantHunt.Sandbox.Tools

/-- What names a line. -/
inductive Address where
  | number (n : Nat)
  | last
  /-- A line, and every so many lines behind it. -/
  | every (first step : Nat)
  /-- A line with a match. Without an expression, the one that was used last counts. -/
  | matching (regex : Option Regex)
  deriving Repr, Inhabited

/-- Where a range of lines ends. -/
inductive RangeEnd where
  | address (address : Address)
  /-- So many lines behind its beginning. -/
  | behind (count : Nat)
  /-- At the next line with a number that can be divided so. -/
  | multiple (n : Nat)
  deriving Repr, Inhabited

/-- The lines that a step is for. -/
inductive Selection where
  | all
  | single (address : Address)
  | range (first : Address) (finish : RangeEnd)
  deriving Repr, Inhabited

/-- A piece of what a match is replaced by. -/
inductive Substitute where
  | text (chars : List Char)
  /-- What a group matched. The group with the number zero is the whole match. -/
  | group (number : Nat)
  /-- From here on letters change their case, in the way that a letter tells. -/
  | recase (letter : Char)
  deriving DecidableEq, Repr, Inhabited

/-- When a jump is made. -/
inductive JumpTime where
  | always
  /-- After a replacement. -/
  | replaced
  | notReplaced
  deriving DecidableEq, Repr, Inhabited

/-- What a step does. The *line* is the one that is being edited, the *store* a second text that is kept from
line to line. -/
inductive Action where
  | enter
  | leave
  | label (name : String)
  | jump (time : JumpTime) (label : String)
  /-- Replaces matches from that with a number on, and if not everywhere then this one alone. -/
  | replace (regex : Option Regex) (pieces : List Substitute) (number : Nat) (everywhere prints : Bool)
      (output : Option String)
  | translate (pairs : List (Char × Char))
  | print (firstOnly : Bool)
  | delete (firstOnly : Bool)
  /-- Goes on with the next line, or adds it to this one. -/
  | next (adds : Bool)
  /-- Copies the line to the store, or adds it there. -/
  | keep (adds : Bool)
  /-- Copies the store to the line, or adds it there. -/
  | fetch (adds : Bool)
  | exchange
  | clear
  | number
  | spell
  | above (text : List Char)
  | below (text : List Char)
  | change (text : List Char)
  | insert (path : String)
  | write (path : String) (firstOnly : Bool)
  | quit (prints : Bool) (status : Nat)
  deriving Repr, Inhabited

/-- A step of a script. -/
structure EditStep where
  selection : Selection
  /-- Whether the step is for all other lines instead. -/
  negated : Bool := false
  action : Action
  deriving Repr, Inhabited

/-- A row of steps. -/
abbrev Script := Array EditStep

/-! ## Reading -/

/-- Splits characters at a delimiter that has no backslash and stands in no brackets. The number bounds how many
are left. -/
def upToDelimiter (delimiter : Char) (bracketed : Bool) : Nat → List Char → Option (List Char × List Char)
  | 0, _ => none
  | _ + 1, [] => none
  | n + 1, '\\' :: c :: rest => do
    let (inner, rest) ← upToDelimiter delimiter bracketed n rest
    some (if c == delimiter then (c :: inner, rest) else ('\\' :: c :: inner, rest))
  | n + 1, '[' :: rest =>
    if bracketed && delimiter != '[' then do
      let (lead, more) :=
        match rest with
        | '^' :: ']' :: more => (['^', ']'], more)
        | ']' :: more => ([']'], more)
        | more => ([], more)
      let body := more.takeWhile fun c => c != ']' && c != '\n'
      match more.drop body.length with
      | ']' :: behind =>
        let (inner, rest) ← upToDelimiter delimiter bracketed n behind
        some ('[' :: lead ++ body ++ ']' :: inner, rest)
      | _ =>
        let (inner, rest) ← upToDelimiter delimiter bracketed n rest
        some ('[' :: inner, rest)
    else if delimiter == '[' then some ([], rest)
    else do
      let (inner, rest) ← upToDelimiter delimiter bracketed n rest
      some ('[' :: inner, rest)
  | n + 1, c :: rest =>
    if c == delimiter then some ([], rest)
    else do
      let (inner, rest) ← upToDelimiter delimiter bracketed n rest
      some (c :: inner, rest)

/-- Replaces the escapes for blanks in the spelling of an expression. -/
def plainSpelling : List Char → List Char
  | '\\' :: 'n' :: rest => '\n' :: plainSpelling rest
  | '\\' :: 't' :: rest => '\t' :: plainSpelling rest
  | '\\' :: c :: rest => '\\' :: c :: plainSpelling rest
  | c :: rest => c :: plainSpelling rest
  | [] => []

/-- The expression that characters spell. Where there are none, the one that was used last is meant. -/
def expressionOf (extended anyCase : Bool) (chars : List Char) : Option Regex :=
  if chars.isEmpty then none
  else
    let regex := Regex.ofText extended (String.ofList (plainSpelling chars))
    some (if anyCase then regex.inAnyCase else regex)

/-- Reads a number. -/
def readNumber (chars : List Char) : Option Nat × List Char :=
  ((String.ofList (chars.takeWhile Char.isDigit)).toNat?, chars.dropWhile Char.isDigit)

/-- Reads what names a line. -/
def readAddress (extended : Bool) (chars : List Char) : Option (Option Address × List Char) :=
  let expression (delimiter : Char) (rest : List Char) : Option (Option Address × List Char) := do
    let (inner, rest) ← upToDelimiter delimiter true (rest.length + 1) rest
    let flags := rest.takeWhile fun c => c == 'I' || c == 'M'
    some (some (.matching (expressionOf extended (flags.contains 'I') inner)), rest.drop flags.length)
  match chars with
  | '$' :: rest => some (some .last, rest)
  | '/' :: rest => expression '/' rest
  | '\\' :: delimiter :: rest => expression delimiter rest
  | _ =>
    match readNumber chars with
    | (none, rest) => some (none, rest)
    | (some n, '~' :: rest) =>
      let (step, rest) := readNumber rest
      some (some (.every n (step.getD 0)), rest)
    | (some n, rest) => some (some (.number n), rest)

/-- Passes over blanks. -/
def skipBlanks (chars : List Char) : List Char :=
  chars.dropWhile fun c => c == ' ' || c == '\t'

/-- Reads the lines that a step is for. -/
def readSelection (extended : Bool) (chars : List Char) : Option (Selection × List Char) := do
  match ← readAddress extended chars with
  | (none, rest) => some (.all, rest)
  | (some first, rest) =>
    match skipBlanks rest with
    | ',' :: more =>
      match skipBlanks more with
      | '+' :: more =>
        let (count, rest) := readNumber more
        some (.range first (.behind (← count)), rest)
      | '~' :: more =>
        let (n, rest) := readNumber more
        some (.range first (.multiple (← n)), rest)
      | more =>
        let (address, rest) ← readAddress extended more
        some (.range first (.address (← address)), rest)
    | rest => some (.single first, rest)

/-- Reads the text that a step puts around a line: up to the end of a line that does not end with a backslash.
-/
def readText : List Char → List Char × List Char
  | '\\' :: c :: rest =>
    let (text, rest) := readText rest
    (c :: text, rest)
  | '\n' :: rest => ([], rest)
  | c :: rest =>
    let (text, rest) := readText rest
    (c :: text, rest)
  | [] => ([], [])

/-- Reads the text behind the letter of a step. It may start on the next line, behind a backslash. -/
def readBody (chars : List Char) : List Char × List Char :=
  match skipBlanks chars with
  | '\\' :: rest =>
    match skipBlanks rest with
    | '\n' :: rest => readText rest
    | rest => readText rest
  | rest => readText rest

/-- Splits what a match is replaced by into pieces. -/
def substitutesOf : List Char → List Substitute
  | '\\' :: c :: rest =>
    (if c.isDigit then .group (c.toNat - 48)
      else if "ULulE".toList.contains c then .recase c
      else .text [(Shell.Format.letterEscape? c).getD c]) :: substitutesOf rest
  | '&' :: rest => .group 0 :: substitutesOf rest
  | c :: rest => .text [c] :: substitutesOf rest
  | [] => []

/-- The characters that a list for translation stands for. -/
def translated : List Char → List Char
  | '\\' :: 'n' :: rest => '\n' :: translated rest
  | '\\' :: c :: rest => c :: translated rest
  | c :: rest => c :: translated rest
  | [] => []

/-- What is behind the end of a step. -/
def stepEnd? (chars : List Char) : Option (List Char) :=
  match skipBlanks chars with
  | [] => some []
  | ';' :: rest | '\n' :: rest => some rest
  | '\x7d' :: rest => some ('\x7d' :: rest)
  | '#' :: rest => some ('#' :: rest)
  | _ => none

/-- Reads the flags of a replacement. The number bounds how many there are. -/
def readFlags (extended : Bool) (pattern : List Char) (pieces : List Substitute) :
    Nat → (anyCase everywhere prints : Bool) → (number : Nat) → List Char → Option (Action × List Char)
  | 0, _, _, _, _, _ => none
  | n + 1, anyCase, everywhere, prints, number, chars =>
    let action (output : Option String) : Action :=
      .replace (expressionOf extended anyCase pattern) pieces number everywhere prints output
    match chars with
    | 'g' :: rest => readFlags extended pattern pieces n anyCase true prints number rest
    | 'p' :: rest => readFlags extended pattern pieces n anyCase everywhere true number rest
    | 'i' :: rest | 'I' :: rest => readFlags extended pattern pieces n true everywhere prints number rest
    | 'm' :: rest | 'M' :: rest => readFlags extended pattern pieces n anyCase everywhere prints number rest
    | 'w' :: rest =>
      let path := (skipBlanks rest).takeWhile (· != '\n')
      some (action (some (String.ofList path)), rest.dropWhile (· != '\n'))
    | rest =>
      match readNumber rest with
      | (some count, rest) =>
        if count = 0 then none else readFlags extended pattern pieces n anyCase everywhere prints count rest
      | (none, rest) => do some (action none, ← stepEnd? rest)

/-- Reads what a step does. -/
def readAction (extended : Bool) (chars : List Char) : Option (Action × List Char) :=
  let simple (action : Action) (rest : List Char) : Option (Action × List Char) := do
    some (action, ← stepEnd? rest)
  let word (chars : List Char) : String × List Char :=
    let chars := skipBlanks chars
    let name := chars.takeWhile fun c => c != '\n' && c != ';'
    (String.ofList (name.reverse.dropWhile Char.isWhitespace).reverse, chars.drop name.length)
  let line (chars : List Char) : String × List Char :=
    let chars := skipBlanks chars
    let name := chars.takeWhile (· != '\n')
    (String.ofList name, chars.drop name.length)
  let code (prints : Bool) (rest : List Char) : Option (Action × List Char) :=
    let (status, rest) := readNumber (skipBlanks rest)
    simple (.quit prints (status.getD 0)) rest
  let text (action : List Char → Action) (rest : List Char) : Option (Action × List Char) :=
    let (body, rest) := readBody rest
    some (action body, rest)
  match chars with
  | '\x7b' :: rest => some (.enter, rest)
  | '\x7d' :: rest => simple .leave rest
  | 's' :: delimiter :: rest => do
    let (pattern, rest) ← upToDelimiter delimiter true (rest.length + 1) rest
    let (pieces, rest) ← upToDelimiter delimiter false (rest.length + 1) rest
    readFlags extended pattern (substitutesOf pieces) (rest.length + 1) false false false 1 rest
  | 'y' :: delimiter :: rest => do
    let (sources, rest) ← upToDelimiter delimiter false (rest.length + 1) rest
    let (targets, rest) ← upToDelimiter delimiter false (rest.length + 1) rest
    let (sources, targets) := (translated sources, translated targets)
    if sources.length = targets.length then simple (.translate (sources.zip targets)) rest else none
  | ':' :: rest =>
    let (name, rest) := word rest
    if name.isEmpty then none else some (.label name, rest.drop 1)
  | 'b' :: rest => jump .always (word rest)
  | 't' :: rest => jump .replaced (word rest)
  | 'T' :: rest => jump .notReplaced (word rest)
  | 'p' :: rest => simple (.print false) rest
  | 'P' :: rest => simple (.print true) rest
  | 'd' :: rest => simple (.delete false) rest
  | 'D' :: rest => simple (.delete true) rest
  | 'n' :: rest => simple (.next false) rest
  | 'N' :: rest => simple (.next true) rest
  | 'h' :: rest => simple (.keep false) rest
  | 'H' :: rest => simple (.keep true) rest
  | 'g' :: rest => simple (.fetch false) rest
  | 'G' :: rest => simple (.fetch true) rest
  | 'x' :: rest => simple .exchange rest
  | 'z' :: rest => simple .clear rest
  | '=' :: rest => simple .number rest
  | 'l' :: rest => simple .spell (readNumber (skipBlanks rest)).2
  | 'i' :: rest => text .above rest
  | 'a' :: rest => text .below rest
  | 'c' :: rest => text .change rest
  | 'r' :: rest => let (path, rest) := line rest; some (.insert path, rest)
  | 'w' :: rest => let (path, rest) := line rest; some (.write path false, rest)
  | 'W' :: rest => let (path, rest) := line rest; some (.write path true, rest)
  | 'q' :: rest => code true rest
  | 'Q' :: rest => code false rest
  | _ => none
where
  /-- A jump to a label, which a brace ends as well. -/
  jump (time : JumpTime) (read : String × List Char) : Option (Action × List Char) :=
    let name := read.1.toList.takeWhile (· != '\x7d')
    let left := read.1.toList.drop name.length
    some
      (.jump time (String.ofList (name.reverse.dropWhile Char.isWhitespace).reverse),
        if left.isEmpty then read.2.drop 1 else left ++ read.2)

/-- Reads all steps of a script. The number bounds how many characters are left. -/
def readSteps (extended : Bool) : Nat → List Char → Option (List EditStep)
  | 0, _ => none
  | n + 1, chars =>
    match chars.dropWhile fun c => c.isWhitespace || c == ';' with
    | [] => some []
    | '#' :: rest => readSteps extended n (rest.dropWhile (· != '\n'))
    | chars => do
      let (selection, rest) ← readSelection extended chars
      let rest := skipBlanks rest
      let negated := rest.head? == some '!'
      let rest := rest.dropWhile fun c => c == '!' || c == ' ' || c == '\t'
      let (action, rest) ← readAction extended rest
      let steps ← readSteps extended n rest
      some ({ selection, negated, action } :: steps)

/-- How deep blocks are nested behind steps, if none is left that was not entered. -/
def depthBehind? (depth : Nat) : List EditStep → Option Nat
  | [] => some depth
  | step :: rest =>
    match step.action with
    | .enter => depthBehind? (depth + 1) rest
    | .leave => if depth = 0 then none else depthBehind? (depth - 1) rest
    | _ => depthBehind? depth rest

/-- The script that a text holds. All blocks have to be closed, and all labels that are jumped to have to be
there. -/
def Script.ofText? (extended : Bool) (text : String) : Option Script := do
  let steps ← readSteps extended (text.length + 1) text.toList
  let depth ← depthBehind? 0 steps
  let hasLabel (name : String) : Bool :=
    name.isEmpty || steps.any fun step =>
      match step.action with
      | .label other => other == name
      | _ => false
  let isGood (step : EditStep) : Bool :=
    match step.action with
    | .jump _ name => hasLabel name
    | _ => true
  if depth = 0 && steps.all isGood then some steps.toArray else none

end MutantHunt.Sandbox.Tools
