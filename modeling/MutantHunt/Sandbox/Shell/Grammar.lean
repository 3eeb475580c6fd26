import MutantHunt.Sandbox.Shell.Token

/-!
# Commands of scripts

`Command` is what a script is made of. `readLine` reads the commands on one line from the tokens of a
script, with all further lines that they need, so that a script can be run as far as it is good. Where
nothing fits, it tells what it found and what it wanted (`Misreading`).
-/

namespace MutantHunt.Sandbox.Shell

/-- A variable that is set in front of a command or by itself. -/
inductive Assignment where
  /-- Sets a variable or an element of an array, or adds to the end of its value. -/
  | text (name : String) (index : Option String) (adds : Bool) (value : Word)
  /-- Sets all elements of an array, or adds elements. -/
  | array (name : String) (adds : Bool) (elements : List Word)
  deriving Repr, Inhabited

/-- What a file descriptor is made to lead to. -/
inductive Target where
  | input (path : Word)
  /-- A file to be written. If it is forced, it may be there already even where that is not allowed. -/
  | output (path : Word) (forced : Bool)
  | appending (path : Word)
  /-- A file to be read that is made if it is missing. -/
  | created (path : Word)
  /-- Where another file descriptor leads, or nowhere. -/
  | copyOf (descriptor : Word)
  | document (text : Word)
  /-- A text that stands on a line of its own. -/
  | line (text : Word)
  deriving Repr, Inhabited

/-- A redirection of a file descriptor. -/
structure Redirect where
  descriptor : Nat
  target : Target
  deriving Repr, Inhabited

/-- A condition in double brackets. -/
inductive Test where
  | unary (operator : String) (word : Word)
  | binary (operator : String) (left right : Word)
  | negation (test : Test)
  | both (first second : Test)
  | either (first second : Test)
  deriving Repr, Inhabited

/-- What comes after a branch of a choice. -/
inductive After where
  | stop
  /-- The next branch too, whatever its patterns are. -/
  | next
  /-- The next branch that fits too. -/
  | search
  deriving DecidableEq, Repr, Inhabited

/-- A command of a script. -/
inductive Command where
  /-- Nothing at all. -/
  | empty
  /-- A simple command with the number of its line. -/
  | simple (line : Nat) (assignments : List Assignment) (words : List Word) (redirects : List Redirect)
  /-- Commands that each read what the one before it prints. -/
  | pipeline (commands : List Command)
  | negation (command : Command)
  | both (first second : Command)
  | either (first second : Command)
  | sequence (first second : Command)
  | background (command : Command)
  | subshell (body : Command)
  | conditional (condition yes no : Command)
  /-- Runs the body as long as the condition succeeds, or fails. -/
  | loop (untilSuccess : Bool) (condition body : Command)
  /-- Runs the body for each of the words, or for each parameter of the script. -/
  | forEach (line : Nat) (name : String) (words : Option (List Word)) (body : Command)
  /-- Runs the body as long as an expression is not zero. The first expression comes before all, the last
  one after each round. -/
  | forCount (first condition next : String) (body : Command)
  /-- Runs the body behind the first pattern that fits. -/
  | choice (line : Nat) (word : Word) (branches : List (List Word × Command × After))
  | define (name : String) (body : Command)
  | redirected (body : Command) (redirects : List Redirect)
  | test (test : Test)
  | computation (expression : String)
  deriving Repr, Inhabited

/-- What is wrong with a script. -/
inductive Mistake where
  /-- Something does not fit, where perhaps something else is wanted. -/
  | unexpected (wanted : Option String)
  /-- There is no word where the line has to go on with one. -/
  | noWord (wanted : Option String)
  /-- The name behind `for` is none. -/
  | loopName
  /-- The name of a function is none. -/
  | functionName
  deriving DecidableEq, Repr, Inhabited

/-- Why tokens cannot be read: what is wrong, and the tokens from the one on that does not fit. -/
structure Misreading where
  mistake : Mistake
  rest : List Token
  deriving Repr, Inhabited

/-- What is read from tokens, or why they cannot be read. -/
abbrev Attempt := Except Misreading

/-- The first token does not fit. -/
def refuse {α : Type} (tokens : List Token) : Attempt α :=
  .error ⟨.unexpected none, tokens⟩

/-- The first token does not fit, where something else is wanted. -/
def refuseFor {α : Type} (wanted : String) (tokens : List Token) : Attempt α :=
  .error ⟨.unexpected (some wanted), tokens⟩

/-- The first token does not fit, where the line has to go on with a word. -/
def refuseWord {α : Type} (wanted : Option String) (tokens : List Token) : Attempt α :=
  .error ⟨.noWord wanted, tokens⟩

/-- Skips line breaks. -/
def skipBreaks : List Token → List Token
  | .lineBreak _ :: rest => skipBreaks rest
  | rest => rest

/-- The word that stands for itself at the front. -/
def keyword? (tokens : List Token) : Option String :=
  match tokens with
  | .word word _ :: _ => word.plain?
  | _ => none

/-- Reads a word that has to be there. -/
def demand (word : String) (tokens : List Token) : Attempt (List Token) :=
  if keyword? tokens == some word then .ok (tokens.drop 1) else refuseFor word tokens

/-- The words that end a list of commands where a command could start. -/
def closers : List String :=
  ["then", "else", "elif", "fi", "do", "done", "esac", "\x7d"]

/-- The words that no command starts with. -/
def refused : List String :=
  closers ++ ["in"]

/-- Whether a list of commands ends here. -/
def endsList (tokens : List Token) : Bool :=
  match tokens with
  | [] => true
  | .operator o :: _ => [")", ";;", ";&", ";;&"].contains o
  | .broken _ _ :: _ => false
  | _ => (keyword? tokens).any closers.contains

/-- Splits the text in front of an equality sign into a name, an index and whether something is added. -/
def assigned? (dialect : Dialect) (before : List Char) : Option (String × Option String × Bool) :=
  let adds := dialect == .bash && before.getLast? == some '+'
  let before := if adds then before.dropLast else before
  let name := before.takeWhile isNameChar
  match dialect, before.drop name.length, before.getLast? with
  | _, [], _ => if isName (String.ofList name) then some (String.ofList name, none, adds) else none
  | .bash, '[' :: inner, some ']' =>
    if isName (String.ofList name) && inner.length > 1 then
      some (String.ofList name, some (String.ofList inner.dropLast), adds)
    else none
  | _, _, _ => none

/-- Splits a word at the first equality sign in text without quotes. Before that sign, everything is taken
as text. -/
def splitAtEquals (before : String) : Word → Option (List Char × Word)
  | [] => none
  | .text text false :: rest =>
    if text.contains '=' then
      let front := text.toList.takeWhile (· != '=')
      let value := text.toList.drop (front.length + 1)
      some (before.toList ++ front, (if value.isEmpty then [] else [.text (String.ofList value) false]) ++ rest)
    else splitAtEquals (before ++ text) rest
  | part :: rest => splitAtEquals (before ++ Word.bare [part]) rest

/-- Reads a word that sets a variable. -/
def splitAssignment? (dialect : Dialect) (word : Word) : Option Assignment :=
  match word with
  | .text text false :: _ =>
    if (text.toList.head?).any startsName then do
      let (before, value) ← splitAtEquals "" word
      let (name, index, adds) ← assigned? dialect before
      if text.contains '=' || text.contains '[' then some (.text name index adds value) else none
    else none
  | _ => none

/-- Both output and errors of a command to the same place. -/
def joinErrors : Redirect :=
  ⟨2, .copyOf [.text "1" true]⟩

/-- The operators in front of what a file descriptor leads to. -/
def redirections : List String :=
  ["<", ">", ">|", ">>", "<>", "<&", ">&", "&>", "&>>", "<<<", "<<", "<<-"]

/-- Reads a redirection, if one starts here. -/
def readRedirect? (tokens : List Token) :
    Attempt (Option (List Redirect × List Token)) :=
  let (given, rest) : Option Nat × List Token :=
    match tokens with
    | .descriptor number :: rest => (some number, rest)
    | _ => (none, tokens)
  let redirected (redirects : List Redirect) (rest : List Token) :
      Attempt (Option (List Redirect × List Token)) :=
    .ok (some (redirects, rest))
  match rest with
  | .document text :: rest => redirected [⟨given.getD 0, .document text⟩] rest
  | .operator o :: .word word _ :: rest =>
    match o with
    | "<" => redirected [⟨given.getD 0, .input word⟩] rest
    | ">" | ">|" => redirected [⟨given.getD 1, .output word (o == ">|")⟩] rest
    | ">>" => redirected [⟨given.getD 1, .appending word⟩] rest
    | "<>" => redirected [⟨given.getD 0, .created word⟩] rest
    | "<&" => redirected [⟨given.getD 0, .copyOf word⟩] rest
    | ">&" => redirected [⟨given.getD 1, .copyOf word⟩] rest
    | "<<<" => redirected [⟨given.getD 0, .line word⟩] rest
    | "&>" => redirected [⟨1, .output word false⟩, joinErrors] rest
    | "&>>" => redirected [⟨1, .appending word⟩, joinErrors] rest
    | _ => if redirections.contains o then refuse (.word word 1 :: rest) else .ok none
  | .operator o :: rest => if redirections.contains o then refuseWord none rest else .ok none
  | _ => .ok none

/-- Reads redirections as long as there are any. The number bounds how many tokens are left. -/
def readRedirects : Nat → List Token → Attempt (List Redirect × List Token)
  | 0, tokens => .ok ([], tokens)
  | n + 1, tokens => do
    match ← readRedirect? tokens with
    | none => .ok ([], tokens)
    | some (redirects, rest) =>
      let (more, rest) ← readRedirects n rest
      .ok (redirects ++ more, rest)

/-- The commands that take assignments as arguments. -/
def isDeclaring (word : Word) : Bool :=
  word.plain?.any ["declare", "typeset", "local", "export", "readonly"].contains

/-- A simple command that is being read. -/
structure SimpleParts where
  /-- The line of its first word. -/
  line : Option Nat := none
  assignments : List Assignment := []
  words : List Word := []
  redirects : List Redirect := []

/-- Adds a word that stands on a line. -/
def SimpleParts.add (parts : SimpleParts) (word : Word) (line : Nat) : SimpleParts :=
  { parts with line := some (parts.line.getD line), words := parts.words ++ [word] }

/-- Adds an assignment that stands on a line. -/
def SimpleParts.set (parts : SimpleParts) (assignment : Assignment) (line : Option Nat) : SimpleParts :=
  { parts with line := parts.line.or line, assignments := parts.assignments ++ [assignment] }

/-- Reads the rest of a simple command. An array behind a command that declares variables becomes an
assignment in front of it. The number bounds how many tokens are left. -/
def readSimpleFrom (dialect : Dialect) :
    Nat → SimpleParts → List Token → Attempt (Command × List Token)
  | 0, _, tokens => refuse tokens
  | n + 1, parts, tokens => do
    match ← readRedirect? tokens with
    | some (more, rest) => readSimpleFrom dialect n { parts with redirects := parts.redirects ++ more } rest
    | none =>
      let single := parts.words.length = 1 && parts.assignments.isEmpty && parts.redirects.isEmpty
      match tokens with
      | .word word line :: rest =>
        match parts.words.isEmpty, splitAssignment? dialect word with
        | true, some assignment => readSimpleFrom dialect n (parts.set assignment line) rest
        | _, _ => readSimpleFrom dialect n (parts.add word line) rest
      | .array name adds elements :: rest =>
        if parts.words.isEmpty then readSimpleFrom dialect n (parts.set (.array name adds elements) none) rest
        else if (parts.words.head?).any isDeclaring then
          readSimpleFrom dialect n
            ((parts.set (.array name adds elements) none).add [.text name false] 1) rest
        else refuse tokens
      | .operator "(" :: rest => if single then refuseFor ")" rest else refuse tokens
      | _ =>
        if parts.assignments.isEmpty && parts.words.isEmpty && parts.redirects.isEmpty then refuse tokens
        else .ok (.simple (parts.line.getD 0) parts.assignments parts.words parts.redirects, tokens)

/-- Reads a simple command. -/
def readSimple (dialect : Dialect) (tokens : List Token) : Attempt (Command × List Token) :=
  readSimpleFrom dialect (tokens.length + 1) {} tokens

/-- Reads the words of a `for` up to the end of their line. -/
def readWords : List Token → List Word × List Token
  | .word word _ :: rest =>
    let (words, rest) := readWords rest
    (word :: words, rest)
  | rest => ([], rest)

/-- Reads the patterns of a branch up to their parenthesis. The number bounds how many tokens are left.
-/
def readPatterns : Nat → List Token → Attempt (List Word × List Token)
  | n + 1, .word word _ :: rest =>
    match rest with
    | .operator ")" :: rest => .ok ([word], rest)
    | .operator "|" :: rest => do
      let (words, rest) ← readPatterns n rest
      .ok (word :: words, rest)
    | _ => refuseFor ")" rest
  | _, tokens => refuseFor ")" tokens

/-! ## Conditions in double brackets -/

/-- The operators in front of one word. -/
def isUnaryTest (operator : String) : Bool :=
  match operator.toList with
  | ['-', c] => "abcdefghknoprstuvwxzGLNORS".toList.contains c
  | _ => false

mutual

/-- Reads conditions joined by `||`. -/
def readEither : Nat → List Token → Attempt (Test × List Token)
  | 0, tokens => refuse tokens
  | n + 1, tokens => do
    let (first, rest) ← readBoth n tokens
    match skipBreaks rest with
    | .operator "||" :: rest =>
      let (second, rest) ← readEither n (skipBreaks rest)
      .ok (.either first second, rest)
    | rest => .ok (first, rest)

/-- Reads conditions joined by `&&`. -/
def readBoth : Nat → List Token → Attempt (Test × List Token)
  | 0, tokens => refuse tokens
  | n + 1, tokens => do
    let (first, rest) ← readTest n tokens
    match skipBreaks rest with
    | .operator "&&" :: rest =>
      let (second, rest) ← readBoth n (skipBreaks rest)
      .ok (.both first second, rest)
    | rest => .ok (first, rest)

/-- Reads one condition. -/
def readTest : Nat → List Token → Attempt (Test × List Token)
  | 0, tokens => refuse tokens
  | n + 1, tokens =>
    match skipBreaks tokens with
    | .operator "(" :: rest => do
      let (test, rest) ← readEither n rest
      match rest with
      | .operator ")" :: rest => .ok (test, rest)
      | _ => refuseFor ")" rest
    | .word left line :: rest =>
      if left.plain? == some "!" then do
        let (test, rest) ← readTest n rest
        .ok (.negation test, rest)
      else
        match left.plain?.filter isUnaryTest, rest with
        | some operator, .word word _ :: rest => .ok (.unary operator word, rest)
        | _, .operator "<" :: .word right _ :: rest => .ok (.binary "<" left right, rest)
        | _, .operator ">" :: .word right _ :: rest => .ok (.binary ">" left right, rest)
        | _, .word operator line :: .word right place :: rest =>
          if operator.plain? == some "]]" then
            .ok (.unary "-n" left, .word operator line :: .word right place :: rest)
          else
            match operator.plain? with
            | some operator => .ok (.binary operator left right, rest)
            | none => refuse (.word operator line :: .word right place :: rest)
        | _, rest => if left.plain? == some "]]" then refuse (.word left line :: rest) else .ok (.unary "-n" left, rest)
    | rest => refuse rest

end

/-! ## Commands -/

/-- Whether a command is neither simple nor made of several. -/
def Command.isCompound : Command → Bool
  | .simple _ _ _ _ | .pipeline _ | .define _ _ => false
  | _ => true

mutual

/-- Reads commands that are separated by line breaks, semicolons and ampersands. -/
def readList (dialect : Dialect) : Nat → List Token → Attempt (Command × List Token)
  | 0, tokens => refuse tokens
  | n + 1, tokens =>
    let tokens := skipBreaks tokens
    if endsList tokens then .ok (.empty, tokens)
    else do
      let (first, rest) ← readOne dialect n tokens
      match rest with
      | .operator ";" :: rest | .lineBreak _ :: rest =>
        let (second, rest) ← readList dialect n rest
        .ok (.sequence first second, rest)
      | .operator "&" :: rest =>
        let (second, rest) ← readList dialect n rest
        .ok (.sequence (.background first) second, rest)
      | _ => .ok (first, rest)

/-- Reads commands where there has to be one. -/
def readSome (dialect : Dialect) : Nat → List Token → Attempt (Command × List Token)
  | 0, tokens => refuse tokens
  | n + 1, tokens => do
    match ← readList dialect n tokens with
    | (.empty, token :: rest) => refuse (token :: rest)
    | result => .ok result

/-- Reads pipelines joined by `&&` and `||`. -/
def readOne (dialect : Dialect) : Nat → List Token → Attempt (Command × List Token)
  | 0, tokens => refuse tokens
  | n + 1, tokens => do
    let (first, rest) ← readPipeline dialect n tokens
    readJoined dialect n first rest

/-- Reads further pipelines behind `&&` and `||`. -/
def readJoined (dialect : Dialect) : Nat → Command → List Token → Attempt (Command × List Token)
  | 0, _, tokens => refuse tokens
  | n + 1, first, tokens =>
    match tokens with
    | .operator "&&" :: rest => do
      let (second, rest) ← readPipeline dialect n (skipBreaks rest)
      readJoined dialect n (.both first second) rest
    | .operator "||" :: rest => do
      let (second, rest) ← readPipeline dialect n (skipBreaks rest)
      readJoined dialect n (.either first second) rest
    | _ => .ok (first, tokens)

/-- Reads a pipeline, perhaps negated. -/
def readPipeline (dialect : Dialect) : Nat → List Token → Attempt (Command × List Token)
  | 0, tokens => refuse tokens
  | n + 1, tokens =>
    if keyword? tokens == some "!" then do
      let (command, rest) ← readPipeline dialect n (tokens.drop 1)
      .ok (.negation command, rest)
    else if dialect == .bash && keyword? tokens == some "time" then
      let rest := tokens.drop 1
      readPipeline dialect n (if keyword? rest == some "-p" then rest.drop 1 else rest)
    else do
      let (commands, rest) ← readParts dialect n tokens
      match commands with
      | [command] => .ok (command, rest)
      | _ => .ok (.pipeline commands, rest)

/-- Reads the parts of a pipeline. -/
def readParts (dialect : Dialect) : Nat → List Token → Attempt (List Command × List Token)
  | 0, tokens => refuse tokens
  | n + 1, tokens => do
    let (first, rest) ← readPart dialect n (skipBreaks tokens)
    match rest with
    | .operator "|" :: rest =>
      let (others, rest) ← readParts dialect n rest
      .ok (first :: others, rest)
    | .operator "|&" :: rest =>
      let (others, rest) ← readParts dialect n rest
      .ok (.redirected first [joinErrors] :: others, rest)
    | _ => .ok ([first], rest)

/-- Reads one command with its redirections. -/
def readPart (dialect : Dialect) : Nat → List Token → Attempt (Command × List Token)
  | 0, tokens => refuse tokens
  | n + 1, tokens =>
    match tokens with
    | .operator "(" :: rest => do
      let (body, rest) ← readSome dialect n rest
      match rest with
      | .operator ")" :: rest => readBehind n (.subshell body) rest
      | _ => refuseFor ")" rest
    | .computation text :: rest => readBehind n (.computation text) rest
    | .word name _ :: .operator "(" :: .operator ")" :: rest =>
      match name.plain? with
      | some name =>
        if refused.contains name then refuse tokens
        else if dialect == .dash && !isName name then .error ⟨.functionName, rest⟩
        else readFunction dialect n name rest
      | none => .error ⟨.functionName, rest⟩
    | _ =>
      match keyword? tokens with
      | some "\x7b" => do
        let (body, rest) ← readSome dialect n (tokens.drop 1)
        let rest ← demand "\x7d" rest
        readBehind n body rest
      | some "if" => do
        let (command, rest) ← readBranches dialect n (tokens.drop 1)
        readBehind n command rest
      | some "while" => do
        let (command, rest) ← readLoop dialect n false (tokens.drop 1)
        readBehind n command rest
      | some "until" => do
        let (command, rest) ← readLoop dialect n true (tokens.drop 1)
        readBehind n command rest
      | some "for" => do
        let (command, rest) ← readFor dialect n (tokens.drop 1)
        readBehind n command rest
      | some "case" =>
        match tokens.drop 1 with
        | .word word line :: rest => do
          let rest ← demand "in" (skipBreaks rest)
          let (branches, rest) ← readChoices dialect n rest
          readBehind n (.choice line word branches) rest
        | rest => refuseWord (some "word") rest
      | some "[[" =>
        if dialect == .bash then do
          let (test, rest) ← readEither n (tokens.drop 1)
          let rest ← demand "]]" (skipBreaks rest)
          readBehind n (.test test) rest
        else readSimple dialect tokens
      | some "function" =>
        match dialect, tokens.drop 1 with
        | .bash, .word name _ :: rest =>
          let rest :=
            match rest with
            | .operator "(" :: .operator ")" :: rest => rest
            | _ => rest
          match name.plain? with
          | some name => readFunction dialect n name rest
          | none => refuse (tokens.drop 1)
        | _, _ => readSimple dialect tokens
      | some word => if refused.contains word && word != "in" then refuse tokens else readSimple dialect tokens
      | none => readSimple dialect tokens

/-- Reads the body of a function. One of the shells takes any command, the other one none that is simple. -/
def readFunction (dialect : Dialect) : Nat → String → List Token → Attempt (Command × List Token)
  | 0, _, tokens => refuse tokens
  | n + 1, name, tokens => do
    let start := skipBreaks tokens
    let (body, rest) ← readPart dialect n start
    if dialect == .bash && !body.isCompound then refuse start else .ok (.define name body, rest)

/-- Reads the redirections behind a compound command. -/
def readBehind : Nat → Command → List Token → Attempt (Command × List Token)
  | 0, _, tokens => refuse tokens
  | n + 1, command, tokens => do
    let (redirects, rest) ← readRedirects n tokens
    .ok (if redirects.isEmpty then command else .redirected command redirects, rest)

/-- Reads a condition with what follows from it. -/
def readBranches (dialect : Dialect) : Nat → List Token → Attempt (Command × List Token)
  | 0, tokens => refuse tokens
  | n + 1, tokens => do
    let (condition, rest) ← readSome dialect n tokens
    let rest ← demand "then" rest
    let (yes, rest) ← readSome dialect n rest
    match keyword? rest with
    | some "elif" =>
      let (no, rest) ← readBranches dialect n (rest.drop 1)
      .ok (.conditional condition yes no, rest)
    | some "else" =>
      let (no, rest) ← readSome dialect n (rest.drop 1)
      let rest ← demand "fi" rest
      .ok (.conditional condition yes no, rest)
    | _ =>
      let rest ← demand "fi" rest
      .ok (.conditional condition yes .empty, rest)

/-- Reads the body of a loop. -/
def readBody (dialect : Dialect) : Nat → List Token → Attempt (Command × List Token)
  | 0, tokens => refuse tokens
  | n + 1, tokens => do
    let rest ← demand "do" tokens
    let (body, rest) ← readSome dialect n rest
    let rest ← demand "done" rest
    .ok (body, rest)

/-- Reads the condition and the body of a loop. -/
def readLoop (dialect : Dialect) : Nat → Bool → List Token → Attempt (Command × List Token)
  | 0, _, tokens => refuse tokens
  | n + 1, untilSuccess, tokens => do
    let (condition, rest) ← readSome dialect n tokens
    let (body, rest) ← readBody dialect n rest
    .ok (.loop untilSuccess condition body, rest)

/-- Reads what a `for` runs through, and its body. -/
def readFor (dialect : Dialect) : Nat → List Token → Attempt (Command × List Token)
  | 0, tokens => refuse tokens
  | n + 1, tokens =>
    let pastSemicolon (rest : List Token) : List Token :=
      match rest with
      | .operator ";" :: rest => rest
      | _ => rest
    let nameless (rest : List Token) : Attempt (Command × List Token) :=
      if dialect == .dash then .error ⟨.loopName, rest⟩ else refuseWord none rest
    match tokens with
    | .computation text :: rest =>
      match text.splitOn ";" with
      | [first, condition, next] => do
        let rest := skipBreaks (pastSemicolon rest)
        let (body, rest) ←
          if keyword? rest == some "\x7b" then do
            let (body, rest) ← readSome dialect n (rest.drop 1)
            .ok (body, ← demand "\x7d" rest)
          else readBody dialect n rest
        .ok (.forCount first condition next body, rest)
      | _ => refuse tokens
    | .word name line :: rest =>
      match name.plain? with
      | none => nameless tokens
      | some name =>
        if dialect == .dash && !isName name then nameless tokens
        else do
          let breaks := skipBreaks rest
          let (words, rest) ←
            if keyword? breaks == some "in" then
              let (words, rest) := readWords (breaks.drop 1)
              match rest with
              | .operator ";" :: rest | .lineBreak _ :: rest => .ok (some words, rest)
              | _ => refuse rest
            else .ok (none, pastSemicolon rest)
          let (body, rest) ← readBody dialect n (skipBreaks rest)
          .ok (.forEach line name words body, rest)
    | _ => nameless tokens

/-- Reads the branches of a choice. -/
def readChoices (dialect : Dialect) :
    Nat → List Token → Attempt (List (List Word × Command × After) × List Token)
  | 0, tokens => refuse tokens
  | n + 1, tokens =>
    let tokens := skipBreaks tokens
    if keyword? tokens == some "esac" then .ok ([], tokens.drop 1)
    else do
      let tokens :=
        match tokens with
        | .operator "(" :: rest => rest
        | _ => tokens
      let (patterns, rest) ← readPatterns (tokens.length + 1) tokens
      let (body, rest) ← readList dialect n rest
      let further (after : After) (rest : List Token) :
          Attempt (List (List Word × Command × After) × List Token) := do
        let (more, rest) ← readChoices dialect n rest
        .ok ((patterns, body, after) :: more, rest)
      match rest with
      | .operator ";;" :: rest => further .stop rest
      | .operator ";&" :: rest => further .next rest
      | .operator ";;&" :: rest => further .search rest
      | _ =>
        let rest := skipBreaks rest
        if keyword? rest == some "esac" then .ok ([(patterns, body, .stop)], rest.drop 1)
        else refuseFor ";;" rest

end

/-- Reads the commands on a line, up to its end. The number bounds how many tokens are left. -/
def readLineUpTo (dialect : Dialect) : Nat → List Token → Attempt (Command × List Token)
  | 0, tokens => refuse tokens
  | n + 1, tokens => do
    let (first, rest) ← readOne dialect (16 * tokens.length + 16) tokens
    let further (first : Command) (rest : List Token) : Attempt (Command × List Token) :=
      match rest with
      | [] => .ok (first, [])
      | .lineBreak _ :: rest => .ok (first, rest)
      | rest => do
        let (second, rest) ← readLineUpTo dialect n rest
        .ok (.sequence first second, rest)
    match rest with
    | [] => .ok (first, [])
    | .lineBreak _ :: rest => .ok (first, rest)
    | .operator ";" :: rest => further first rest
    | .operator "&" :: rest => further (.background first) rest
    | _ => refuse rest

/-- Reads the commands on the next line of a script, with all further lines that they need. -/
def readLine (dialect : Dialect) (tokens : List Token) : Attempt (Command × List Token) :=
  readLineUpTo dialect (tokens.length + 1) tokens

/-! ## Mistakes -/

/-- The words that only the syntax has a use for. -/
def syntaxWords : List String :=
  ["!", "case", "do", "done", "elif", "else", "esac", "fi", "for", "if", "in", "then", "until", "while", "\x7b",
    "\x7d"]

/-- What one of the shells calls the first token. -/
def shownToken (ending : String) : List Token → String
  | [] => ending
  | .lineBreak _ :: _ => "newline"
  | .operator o :: _ => if redirections.contains o then "redirection" else "\"" ++ o ++ "\""
  | .word word _ :: _ =>
    match word.plain?.filter syntaxWords.contains with
    | some text => "\"" ++ text ++ "\""
    | none => "word"
  | .descriptor _ :: _ | .document _ :: _ => "redirection"
  | _ => "word"

/-- The mistake in the words of one of the shells, where the script ends with `ending`. -/
def Misreading.plainWording (ending : String) (misreading : Misreading) : String :=
  match misreading.mistake, misreading.rest with
  | _, .broken missing _ :: _ =>
    if missing == '"' || missing == '\x27' then "Unterminated quoted string"
    else if missing == '\x7d' then "Missing \x27\x7d\x27"
    else if missing == '\x60' then "EOF in backquote substitution"
    else "end of file unexpected (expecting \")\")"
  | .unexpected none, rest | .noWord none, rest => shownToken ending rest ++ " unexpected"
  | .unexpected (some wanted), rest | .noWord (some wanted), rest =>
    let name := if wanted == "word" then wanted else "\"" ++ wanted ++ "\""
    shownToken ending rest ++ " unexpected (expecting " ++ name ++ ")"
  | .loopName, _ => "Bad for loop variable"
  | .functionName, _ => "Bad function name"

/-- What is wrong in the words of the other shell. -/
inductive RichMistake where
  /-- The script ends too early. -/
  | ending
  | missing (character : Char)
  | near (text : String)
  deriving DecidableEq, Repr, Inhabited

/-- The mistake as the other shell sees it, where the script ends with a certain token, if with any. -/
def Misreading.rich (ending : Option String) (misreading : Misreading) : RichMistake :=
  match misreading.rest with
  | .broken missing _ :: _ => .missing missing
  | [] =>
    match misreading.mistake, ending with
    | _, some text => .near text
    | .noWord _, none => .near "newline"
    | _, none => .ending
  | .operator o :: _ => .near o
  | .word word _ :: _ => .near word.bare
  | .descriptor n :: _ => .near n.repr
  | _ => .near "newline"

end MutantHunt.Sandbox.Shell
