import MutantHunt.Sandbox.Shell.Word

/-!
# Tokens of scripts

A script is a row of words, operators and line breaks. Blanks separate them, a backslash joins lines,
and a comment reaches from a `#` at the beginning of a word to the end of its line. The text of a
document that is given inside a script stands behind the line that asks for it, and becomes part of the
token that does.

Words and line breaks know where they stand: a line break has the number of the line that it starts. To one
of the shells a word stands on the line where it ends, to the other one where it starts.

One of the shells has more: arrays in parentheses, computations in double parentheses, and conditions in
double brackets, where words may hold parentheses.
-/

namespace MutantHunt.Sandbox.Shell

/-- The smallest piece of a script. -/
inductive Token where
  | word (word : Word) (line : Nat)
  | operator (text : String)
  /-- The file descriptor that the redirection behind it is for. -/
  | descriptor (number : Nat)
  /-- A document given in the script. -/
  | document (text : Word)
  /-- The name of an array, whether it is added to, and its elements. -/
  | array (name : String) (adds : Bool) (elements : List Word)
  /-- An expression in double parentheses. -/
  | computation (expression : String)
  | lineBreak (line : Nat)
  /-- Nothing from this line on can be read, because a character is missing. -/
  | broken (missing : Char) (line : Nat)
  deriving DecidableEq, Repr, Inhabited

/-- The operators, longest first. -/
def Dialect.operators : Dialect → List String
  | .dash => ["<<-", "&&", "||", ";;", "<<", ">>", "<&", ">&", "<>", ">|", ";", "&", "|", "<", ">", "(", ")"]
  | .bash =>
    ["<<<", "<<-", "&>>", ";;&", "&&", "||", ";;", ";&", "|&", "<<", ">>", "<&", ">&", "<>", ">|", "&>", ";",
      "&", "|", "<", ">", "(", ")"]

/-- Takes the lines of a document off a text, up to the line that ends it. There may be no such line. -/
def documentLines (stripTabs : Bool) (delimiter : String) :
    List (List Char) → List (List Char) × Option (List (List Char))
  | [] => ([], none)
  | line :: rest =>
    let line := if stripTabs then line.dropWhile (· == '\t') else line
    if String.ofList line == delimiter then ([], some rest)
    else
      let (lines, after) := documentLines stripTabs delimiter rest
      (line :: lines, after)

/-- Takes a document off the lines that follow the current line. Gives its text, how many lines it takes, and
the script without it. A document that nothing ends reaches to the end of the script. -/
def takeDocument (dialect : Dialect) (stripTabs : Bool) (delimiter : Word) (text : List Char) :
    Word × Nat × List Char :=
  let current := text.takeWhile (· != '\n')
  let following := (text.dropWhile (· != '\n')).drop 1
  let lines := (String.ofList following).splitOn "\n" |>.map String.toList
  let (inside, after) := documentLines stripTabs delimiter.bare lines
  let body := "\n".intercalate (inside.map String.ofList)
  let body :=
    match after, dialect with
    | some _, _ => String.join (inside.map fun line => String.ofList line ++ "\n")
    | none, .bash => if body.isEmpty || body.endsWith "\n" then body else body ++ "\n"
    | none, .dash => body
  let rest := "\n".intercalate ((after.getD []).map String.ofList)
  (if delimiter.hasQuotation then [.text body true] else Word.ofQuoted dialect body,
    lines.length - (after.getD []).length, current ++ '\n' :: rest.toList)

/-- Reads the elements of an array up to the parenthesis that closes it. The number bounds how many
characters are left. -/
def readElements (reading : Reading) : Nat → List Char → Option (List Word × List Char)
  | 0, _ => none
  | _ + 1, [] => none
  | n + 1, c :: rest =>
    if isBlank c || c == '\n' then readElements reading n rest
    else if c == '#' then readElements reading n (rest.dropWhile (· != '\n'))
    else if c == ')' then some ([], rest)
    else
      match Word.read reading (c :: rest) with
      | .error _ => none
      | .ok (word, after) =>
        if after.length < rest.length + 1 then
          (readElements reading n after).map fun (words, rest) => (word :: words, rest)
        else none

/-- The name of an array that a word starts to set, and whether it is added to. -/
def arrayName? (word : Word) : Option (String × Bool) :=
  match word.plain? with
  | some text =>
    let chars := text.toList.dropLast
    let adds := chars.getLast? == some '+'
    let name := String.ofList (if adds then chars.dropLast else chars)
    if text.endsWith "=" && isName name then some (name, adds) else none
  | none => none

/-- Where the tokens of a script are being read. -/
structure TokenState where
  /-- The number of the current line. -/
  line : Nat := 1
  /-- How many lines the documents take that are given on this line. -/
  later : Nat := 0
  /-- Whether a command can start here. -/
  fresh : Bool := true
  /-- Whether this is inside double brackets. -/
  testing : Bool := false
  /-- Whether the next word is an expression for texts. -/
  matching : Bool := false

/-- What comes behind an operator. -/
def TokenState.afterOperator (state : TokenState) (operator : String) : TokenState :=
  { state with fresh := !(operator.contains '<' || operator.contains '>'), matching := false }

/-- What comes behind a word. -/
def TokenState.afterWord (dialect : Dialect) (state : TokenState) (word : Word) : TokenState :=
  match word.plain? with
  | some text =>
    { state with
      fresh :=
        state.fresh && ["then", "do", "else", "elif", "if", "while", "until", "!", "\x7b", "for", "time"].contains text
      testing := dialect == .bash && (state.testing || state.fresh && text == "[[") && text != "]]"
      matching := state.testing && text == "=~" }
  | none => { state with fresh := false, matching := false }

/-- The end of a word that is an expression for texts. Parentheses and bars are part of it. -/
def endsExpression (c : Char) : Bool :=
  [' ', '\t', '\n'].contains c

/-- What comes behind a line break. -/
def TokenState.afterBreak (state : TokenState) : TokenState :=
  { state with fresh := true, line := state.line + 1 + state.later, later := 0 }

/-- Goes past text that may reach over several lines. -/
def TokenState.past (state : TokenState) (text rest : List Char) : TokenState :=
  { state with line := state.line + (text.take (text.length - rest.length)).count '\n' }

/-- Splits a script into tokens. The number bounds how many characters are left. -/
def tokensUpTo (dialect : Dialect) : Nat → TokenState → List Char → List Token
  | 0, _, _ => []
  | _ + 1, _, [] => []
  | n + 1, state, c :: rest =>
    let bash := dialect == .bash
    let reading : Reading :=
      { dialect, stops := if state.matching then endsExpression else endsWord
        grouping := bash && state.testing }
    let word (text : List Char) : List Token :=
      match Word.read reading text with
      | .error missing => [.broken missing state.line]
      | .ok (word, after) =>
        let further := state.past text after
        match if bash then arrayName? word else none, after with
        | some (name, adds), '(' :: inside =>
          match readElements reading (inside.length + 1) inside with
          | some (elements, after) => .array name adds elements :: tokensUpTo dialect n (state.past text after) after
          | none => [.broken ')' state.line]
        | _, _ =>
          .word word (if bash then further.line else state.line)
            :: tokensUpTo dialect n (further.afterWord dialect word) after
    if isBlank c then tokensUpTo dialect n state rest
    else if c == '\n' then
      .lineBreak state.afterBreak.line :: tokensUpTo dialect n state.afterBreak rest
    else if c == '#' then tokensUpTo dialect n state (rest.dropWhile (· != '\n'))
    else if c == '\\' && rest.head? == some '\n' then
      tokensUpTo dialect n { state with line := state.line + 1 } (rest.drop 1)
    else if state.matching then word (c :: rest)
    else if bash && (c == '<' || c == '>') && rest.head? == some '(' then word (c :: rest)
    else
      let computation : Option (String × List Char) :=
        if bash && state.fresh && c == '(' && rest.head? == some '(' then
          match closed .commands (rest.drop 1) with
          | .ok (text, ')' :: after) => some (text, after)
          | _ => none
        else none
      match computation with
      | some (text, after) =>
        .computation text :: tokensUpTo dialect n { state.past rest after with fresh := false } after
      | none =>
        match dialect.operators.find? fun o => o.toList.isPrefixOf (c :: rest) with
        | some o =>
          let after := (c :: rest).drop o.length
          if o == "<<" || o == "<<-" then
            match Word.read reading (after.dropWhile isBlank) with
            | .error missing => [.broken missing state.line]
            | .ok ([], after) => .operator o :: tokensUpTo dialect n (state.afterOperator o) after
            | .ok (delimiter, after) =>
              let (text, lines, after) := takeDocument dialect (o == "<<-") delimiter after
              .document text :: tokensUpTo dialect n { state with later := state.later + lines } after
          else .operator o :: tokensUpTo dialect n (state.afterOperator o) after
        | none =>
          let digits := (c :: rest).takeWhile Char.isDigit
          let behind := (c :: rest).drop digits.length
          if !digits.isEmpty && (behind.head? == some '<' || behind.head? == some '>')
              && !(bash && behind[1]? == some '(') then
            .descriptor ((String.ofList digits).toNat?.getD 0) :: tokensUpTo dialect n state behind
          else word (c :: rest)

/-- Splits a script into tokens. Its first line has the number `line`. -/
def tokensFrom (dialect : Dialect) (line : Nat) (script : String) : List Token :=
  tokensUpTo dialect (script.length + 1) { line } script.toList

/-- Splits a script into tokens. -/
def tokens (dialect : Dialect) (script : String) : List Token :=
  tokensFrom dialect 1 script

/-- The line on which tokens end that start on a given line. -/
def lineBehind (line : Nat) (tokens : List Token) : Nat :=
  tokens.foldl
    (fun line token =>
      match token with
      | .word _ n | .lineBreak n => max line n
      | _ => line)
    line

end MutantHunt.Sandbox.Shell
