/-!
# Arithmetic in scripts

Whole numbers of 64 bits, with the operators of C and variables that can be assigned to. A text is
read as an `Expression` (`Expression.ofText`) and then evaluated. A variable counts as the number it
holds, or as zero. One of the shells has a few more operators, and there a variable may also hold another
expression (`Expression.evaluate`). Where there is no value, a `Failure` tells why.
-/

namespace MutantHunt.Sandbox.Shell

/-- An expression. -/
inductive Expression where
  | number (n : Int)
  | named (name : String)
  /-- An element of an array. -/
  | element (name : String) (index : Expression)
  | unary (operator : String) (operand : Expression)
  /-- An operator between two operands, with the text behind it. -/
  | binary (operator : String) (behind : String) (left right : Expression)
  | conditional (condition yes no : Expression)
  /-- Sets a variable or an element to a value, or to the result of an operator on its value and another.
  -/
  | assign (target : Expression) (operator : Option String) (value : Expression)
  deriving Repr, Inhabited

namespace Expression

/-- A number cut to 64 bits with a sign. -/
def wrap (n : Int) : Int :=
  Int.bmod n UInt64.size

/-! ## Failures -/

/-- What is wrong with an expression. -/
inductive Fault where
  | noOperand
  /-- Something stands behind the end. -/
  | trailing
  | noColon
  | noParenthesis
  | divisionByZero
  /-- A digit is too large for the base of its number. -/
  | largeDigit
  | negativeExponent
  /-- Something is set that is no variable. -/
  | noVariable
  /-- A variable holds something else than a number. -/
  | noNumber (text : String)
  | tooDeep
  deriving DecidableEq, Repr, Inhabited

/-- Why an expression has no value. -/
structure Failure where
  fault : Fault
  expression : String
  /-- The text from where it goes wrong. -/
  rest : String
  deriving DecidableEq, Repr, Inhabited

/-- A failure in the words of one of the shells. -/
def Failure.plainWording (failure : Failure) : String :=
  let about (problem : String) : String :=
    "arithmetic expression: " ++ problem ++ ": \"" ++ failure.expression ++ "\""
  match failure.fault with
  | .noOperand => about "expecting primary"
  | .noColon => about "expecting \x27:\x27"
  | .noParenthesis => about "expecting \x27)\x27"
  | .divisionByZero => about "division by zero"
  | .noNumber text => "Illegal number: " ++ text
  | _ => about "expecting EOF"

/-- A failure in the words of the other shell. -/
def Failure.richWording (failure : Failure) : String :=
  let problem :=
    match failure.fault with
    | .noOperand => "syntax error: operand expected"
    | .noColon => "\x60:\x27 expected for conditional expression"
    | .noParenthesis => "missing \x60)\x27"
    | .divisionByZero => "division by 0"
    | .largeDigit => "value too great for base"
    | .negativeExponent => "exponent less than 0"
    | .noVariable => "attempted assignment to non-variable"
    | .tooDeep => "expression recursion level exceeded"
    | .trailing =>
      if (failure.rest.toList.head?).any fun c => c.isAlphanum || c == '_' || "()$\"".contains c then
        "syntax error in expression"
      else "syntax error: invalid arithmetic operator"
    | .noNumber _ => "syntax error in expression"
  let text := failure.expression.trimAsciiStart.toString
  text ++ ": " ++ problem ++ " (error token is \"" ++ failure.rest ++ "\")"

/-! ## Reading -/

/-- The smallest piece of an expression. -/
inductive Token where
  | number (n : Int)
  | name (text : String)
  | operator (text : String)
  deriving DecidableEq, Repr

/-- Tokens, each with the text that starts with it. -/
abbrev Tokens := List (Token × String)

/-- The digits of a number in a base. -/
def digitsValue (base : Nat) (digits : List Char) : Option Nat :=
  digits.foldlM
    (fun n c =>
      let d :=
        if c.isDigit then c.toNat - 48
        else if c.isLower then c.toNat - 87
        else if c.isUpper then c.toNat - (if base ≤ 36 then 55 else 29)
        else if c == '@' then 62
        else if c == '_' then 63 else 99
      if d < base then some (n * base + d) else none)
    0

/-- The number that a text of letters and digits writes. -/
def numberOf? (text : List Char) : Option Int :=
  match text with
  | '0' :: 'x' :: digits | '0' :: 'X' :: digits =>
    if digits.isEmpty then none else (digitsValue 16 digits).map fun n => wrap n
  | '0' :: digits => (digitsValue 8 digits).map fun n => wrap n
  | digits => if digits.isEmpty then none else (digitsValue 10 digits).map fun n => wrap n

/-- The value of a variable: the number it holds, perhaps with a sign. -/
def valueOf (text : String) : Option Int :=
  match text.trimAscii.toString.toList with
  | [] => some 0
  | '-' :: digits => (numberOf? digits).map fun n => -n
  | '+' :: digits => numberOf? digits
  | digits => numberOf? digits

/-- The operators of more than one character, longest first. -/
def longOperators : List String :=
  ["<<=", ">>=", "||", "&&", "==", "!=", "<=", ">=", "<<", ">>", "+=", "-=", "*=", "/=", "%=", "&=",
    "|=", "^="]

/-- The operators of more than one character that not every shell has. -/
def furtherOperators : List String :=
  ["++", "--", "**"]

/-- Whether a character can stand in a name. -/
def isNameChar (c : Char) : Bool :=
  c.isAlphanum || c == '_'

/-- Whether a character can be a digit in some base. -/
def isDigitChar (c : Char) : Bool :=
  isNameChar c || c == '@'

/-- Reads a number at the beginning of a text. It may name its base, where that is known. -/
def leadingNumber? (rich : Bool) (text : List Char) : Option (Int × List Char) :=
  let digits := text.takeWhile isNameChar
  let rest := text.dropWhile isNameChar
  match rich, rest with
  | true, '#' :: more => do
    let base ← (String.ofList digits).toNat?
    if base < 2 || 64 < base then none
    else
      let value ← digitsValue base (more.takeWhile isDigitChar)
      some (wrap value, more.dropWhile isDigitChar)
  | _, _ => (numberOf? digits).map fun value => (value, rest)

/-- Splits a text into tokens. The number bounds how many characters are left. -/
def tokensUpTo (rich : Bool) : Nat → List Char → Except (Fault × String) Tokens
  | 0, _ => .ok []
  | _ + 1, [] => .ok []
  | n + 1, c :: rest =>
    let push (token : Token) (after : List Char) : Except (Fault × String) Tokens := do
      .ok ((token, String.ofList (c :: rest)) :: (← tokensUpTo rich n after))
    if c.isWhitespace then tokensUpTo rich n rest
    else if c.isDigit then
      match leadingNumber? rich (c :: rest) with
      | some (value, after) => push (.number value) after
      | none => .error (.largeDigit, String.ofList ((c :: rest).takeWhile isDigitChar))
    else if isNameChar c then
      push (.name (String.ofList (c :: rest.takeWhile isNameChar))) (rest.dropWhile isNameChar)
    else
      let operators := if rich then furtherOperators ++ longOperators else longOperators
      match operators.find? fun o => o.toList.isPrefixOf (c :: rest) with
      | some o => push (.operator o) ((c :: rest).drop o.length)
      | none => push (.operator c.toString) rest

/-- The operators between two operands, those that bind least first. -/
def levels : List (List String) :=
  [["||"], ["&&"], ["|"], ["^"], ["&"], ["==", "!="], ["<", ">", "<=", ">="], ["<<", ">>"],
    ["+", "-"], ["*", "/", "%"]]

/-- The operator of an assignment, if it is one. The plain assignment has none. -/
def assignment? (operator : String) : Option (Option String) :=
  if operator == "=" then some none
  else if operator.endsWith "=" && !(["==", "!=", "<=", ">="].contains operator) then
    some (some (String.ofList operator.toList.dropLast))
  else none

/-- Adds a number to a variable or an element. -/
def add (target : Expression) (n : Int) : Expression :=
  .assign target (some "+") (.number n)

/-- What is read from tokens, or why they cannot be read. -/
abbrev Attempt := Except (Fault × String)

/-- An operand is missing. What was read before tells where, at the end. -/
def missingOperand {α : Type} (before : String) (tokens : Tokens) : Attempt α :=
  .error (.noOperand, (tokens.head?.map Prod.snd).getD before)

/-- Something else is wanted here. -/
def misfit {α : Type} (fault : Fault) (tokens : Tokens) : Attempt α :=
  .error (fault, (tokens.head?.map Prod.snd).getD "")

mutual

/-- Reads expressions with commas between them. `before` is the text from the latest token on. -/
def readAll : Nat → String → Tokens → Attempt (Expression × Tokens)
  | 0, _, tokens => misfit .tooDeep tokens
  | n + 1, before, tokens => do
    let (first, rest) ← readLevel n 0 before tokens
    match rest with
    | (.operator ",", text) :: rest =>
      let (second, rest) ← readAll n text rest
      .ok (.binary "," "" first second, rest)
    | _ => .ok (first, rest)

/-- Reads an expression at a level: zero for assignments, one for conditionals, then the operators
between two operands. -/
def readLevel : Nat → Nat → String → Tokens → Attempt (Expression × Tokens)
  | 0, _, _, tokens => misfit .tooDeep tokens
  | n + 1, 0, before, tokens => do
    match ← readTarget n tokens with
    | some (target, (.operator o, text) :: rest) =>
      match assignment? o with
      | some operator => do
        let (value, rest) ← readLevel n 0 text rest
        .ok (.assign target operator value, rest)
      | none => readLevel n 1 before tokens
    | _ => readLevel n 1 before tokens
  | n + 1, 1, before, tokens => do
    let (condition, rest) ← readLevel n 2 before tokens
    match rest with
    | (.operator "?", text) :: inner =>
      let (yes, rest) ← readAll n text inner
      match rest with
      | (.operator ":", text) :: rest =>
        let (no, rest) ← readLevel n 1 text rest
        .ok (.conditional condition yes no, rest)
      | _ => misfit .noColon (if rest.isEmpty then inner else rest)
    | _ => .ok (condition, rest)
  | n + 1, level + 2, before, tokens =>
    match levels[level]? with
    | some operators => do
      let (left, rest) ← readLevel n (level + 3) before tokens
      readMore n operators (level + 3) left rest
    | none => readPower n before tokens

/-- Reads further operands behind operators of one level. -/
def readMore : Nat → List String → Nat → Expression → Tokens → Attempt (Expression × Tokens)
  | 0, _, _, _, tokens => misfit .tooDeep tokens
  | n + 1, operators, level, left, tokens =>
    match tokens with
    | (.operator o, text) :: rest =>
      if operators.contains o then do
        let (right, after) ← readLevel n level text rest
        readMore n operators level (.binary o ((rest.head?.map Prod.snd).getD "") left right) after
      else .ok (left, tokens)
    | _ => .ok (left, tokens)

/-- Reads an operand, which may be a power. -/
def readPower : Nat → String → Tokens → Attempt (Expression × Tokens)
  | 0, _, tokens => misfit .tooDeep tokens
  | n + 1, before, tokens => do
    let (base, rest) ← readOperand n before tokens
    match rest with
    | (.operator "**", text) :: rest =>
      let (exponent, after) ← readPower n text rest
      .ok (.binary "**" ((rest.getLast?.map Prod.snd).getD "") base exponent, after)
    | _ => .ok (base, rest)

/-- Reads a variable or an element, if there is one. -/
def readTarget : Nat → Tokens → Attempt (Option (Expression × Tokens))
  | 0, tokens => misfit .tooDeep tokens
  | n + 1, tokens =>
    match tokens with
    | (.name name, _) :: (.operator "[", text) :: rest => do
      let (index, rest) ← readAll n text rest
      match rest with
      | (.operator "]", _) :: rest => .ok (some (.element name index, rest))
      | _ => misfit .trailing rest
    | (.name name, _) :: rest => .ok (some (.named name, rest))
    | _ => .ok none

/-- Reads a number, a variable, an expression in parentheses, or one of these behind an operator. -/
def readOperand : Nat → String → Tokens → Attempt (Expression × Tokens)
  | 0, _, tokens => misfit .tooDeep tokens
  | n + 1, before, tokens =>
    match tokens with
    | (.number value, _) :: rest => .ok (.number value, rest)
    | (.operator "++", text) :: rest => do
      match ← readTarget n rest with
      | some (target, rest) => .ok (add target 1, rest)
      | none => missingOperand text rest
    | (.operator "--", text) :: rest => do
      match ← readTarget n rest with
      | some (target, rest) => .ok (add target (-1), rest)
      | none => missingOperand text rest
    | (.operator "(", text) :: rest => do
      let (inner, rest) ← readAll n text rest
      match rest with
      | (.operator ")", _) :: rest => .ok (inner, rest)
      | _ => misfit .noParenthesis rest
    | (.operator o, text) :: rest =>
      if ["+", "-", "!", "~"].contains o then do
        let (operand, rest) ← readOperand n text rest
        .ok (.unary o operand, rest)
      else missingOperand before tokens
    | _ => do
      match ← readTarget n tokens with
      | some (target, (.operator "++", _) :: rest) => .ok (.binary "-" "" (add target 1) (.number 1), rest)
      | some (target, (.operator "--", _) :: rest) => .ok (.binary "+" "" (add target (-1)) (.number 1), rest)
      | some result => .ok result
      | none => missingOperand before tokens

end

/-- The expression that a text writes. An empty text is zero. `rich` says whether there are the operators
that not every shell has. -/
def ofText (rich : Bool) (text : String) : Except Failure Expression :=
  let attempt : Attempt Expression := do
    let tokens ← tokensUpTo rich (text.length + 1) text.toList
    if tokens.isEmpty then .ok (.number 0)
    else
      let foreign := tokens.dropWhile fun token =>
        rich || token.1 != .operator "," && token.1 != .operator "["
      if !foreign.isEmpty then misfit .trailing foreign
      else
        let (expression, rest) ← readAll (16 * tokens.length + 16) "" tokens
        match rest with
        | [] => .ok expression
        | (.operator o, _) :: _ => misfit (if o == "=" || o.endsWith "=" then .noVariable else .trailing) rest
        | _ => misfit .trailing rest
  attempt.mapError fun (fault, rest) => { fault, expression := text, rest }

/-! ## Evaluation -/

/-- One for true, zero for false. -/
def truth (b : Bool) : Int := if b then 1 else 0

/-- The bits of a number, as a number without sign. -/
def bits (n : Int) : Nat := (n % UInt64.size).toNat

/-- The result of an operator between two numbers. There is none for a division by zero. -/
def apply (operator : String) (a b : Int) : Option Int :=
  match operator with
  | "+" => some (wrap (a + b))
  | "-" => some (wrap (a - b))
  | "*" => some (wrap (a * b))
  | "/" => if b = 0 then none else some (wrap (a.tdiv b))
  | "%" => if b = 0 then none else some (a.tmod b)
  | "<<" => some (wrap (a * (1 <<< (bits b % 64) : Nat)))
  | ">>" => some (a.fdiv (1 <<< (bits b % 64) : Nat))
  | "&" => some (wrap (bits a &&& bits b : Nat))
  | "|" => some (wrap (bits a ||| bits b : Nat))
  | "^" => some (wrap (bits a ^^^ bits b : Nat))
  | "==" => some (truth (a == b))
  | "!=" => some (truth (a != b))
  | "<" => some (truth (a < b))
  | ">" => some (truth (b < a))
  | "<=" => some (truth (a ≤ b))
  | ">=" => some (truth (b ≤ a))
  | _ => none

/-- A number multiplied by itself so many times. -/
def power (base : Int) : Nat → Int
  | 0 => 1
  | n + 1 => wrap (base * power base n)

/-- The values of variables, those set last first. Elements of arrays are among them. -/
abbrev Variables := List (String × String)

/-- What an expression comes to, and the variables after it. -/
abbrev Result := Except Failure (Int × Variables)

/-- The name under which an element of an array is found among the variables. -/
def elementName (name : String) (index : Int) : String :=
  name ++ "[" ++ toString index ++ "]"

/-- The value of an expression that a text writes, given what the text of a variable comes to, and the variables
after it. There is none where a number is divided by zero or a variable holds no number. -/
def evalWith (text : String) (valueOf : String → Variables → Result) : Expression → Variables → Result
  | number n, bindings => .ok (n, bindings)
  | named name, bindings => valueOf ((bindings.lookup name).getD "") bindings
  | element name index, bindings => do
    let (n, bindings) ← evalWith text valueOf index bindings
    valueOf ((bindings.lookup (elementName name n)).getD "") bindings
  | unary operator operand, bindings => do
    let (value, bindings) ← evalWith text valueOf operand bindings
    match operator with
    | "-" => .ok (wrap (-value), bindings)
    | "!" => .ok (truth (value == 0), bindings)
    | "~" => .ok (wrap (-value - 1), bindings)
    | _ => .ok (value, bindings)
  | binary operator behind left right, bindings => do
    let (a, bindings) ← evalWith text valueOf left bindings
    if operator == "&&" && a == 0 then .ok (0, bindings)
    else if operator == "||" && a != 0 then .ok (1, bindings)
    else
      let (b, bindings) ← evalWith text valueOf right bindings
      if operator == "&&" || operator == "||" then .ok (truth (b != 0), bindings)
      else if operator == "," then .ok (b, bindings)
      else if operator == "**" then
        if b < 0 then .error ⟨.negativeExponent, text, behind⟩ else .ok (power a b.toNat, bindings)
      else
        match apply operator a b with
        | some value => .ok (value, bindings)
        | none => .error ⟨.divisionByZero, text, behind⟩
  | conditional condition yes no, bindings => do
    let (c, bindings) ← evalWith text valueOf condition bindings
    if c != 0 then evalWith text valueOf yes bindings else evalWith text valueOf no bindings
  | assign target operator value, bindings => do
    let (name, bindings) ←
      match target with
      | named name => .ok (name, bindings)
      | element name index => do
        let (n, bindings) ← evalWith text valueOf index bindings
        .ok (elementName name n, bindings)
      | _ => .error ⟨.noVariable, text, ""⟩
    let (b, bindings) ← evalWith text valueOf value bindings
    let (result, bindings) ←
      match operator with
      | none => .ok (b, bindings)
      | some o => do
        let (a, bindings) ← valueOf ((bindings.lookup name).getD "") bindings
        match apply o a b with
        | some result => .ok (result, bindings)
        | none => .error ⟨.divisionByZero, text, ""⟩
    .ok (result, (name, toString result) :: bindings)

/-- What a text comes to. The number bounds how often a variable leads to another expression. -/
def evaluateUpTo (rich : Bool) : Nat → String → Variables → Result
  | 0, text, _ => .error ⟨.tooDeep, text, text⟩
  | n + 1, text, bindings => do
    let expression ← ofText rich text
    evalWith text
      (fun held bindings =>
        match valueOf held with
        | some value => .ok (value, bindings)
        | none => if rich then evaluateUpTo rich n held bindings else .error ⟨.noNumber held, text, ""⟩)
      expression bindings

/-- What a text comes to, and the variables after it. -/
def evaluate (rich : Bool) (text : String) (bindings : Variables) : Result :=
  evaluateUpTo rich 100 text bindings

end Expression

end MutantHunt.Sandbox.Shell
