import MutantHunt.Json.Scanner

/-!
# Passing over a JSON value

A record may have members that nobody asked for. Their values are passed over by `skipValue`, which
checks the grammar alone and nests as deep as the text does: the brackets that are open are kept in
a list instead of on the call stack.
-/

namespace MutantHunt.Json

/-- A bracket that is open. -/
inductive Bracket where
  | list
  | object
  deriving DecidableEq, Repr

/-- Reads the colon between a key and its value. -/
def readColon (input : Bytes) : Except Fault Bytes :=
  match skipBlanks input with
  | [] => .error SyntaxFault.endInObject
  | b :: rest => if b = colonMark then .ok rest else .error SyntaxFault.expectedColon

/-- Passes over a key and its colon. -/
def passKey (input : Bytes) : Except Fault Bytes :=
  match skipBlanks input with
  | [] => .error SyntaxFault.endInObject
  | b :: rest =>
    if b = quoteMark then (passText rest).bind readColon
    else .error SyntaxFault.keyNotString

/-- Passes over a value without parts: a word, a number or a string. -/
def passScalar (b : UInt8) (rest : Bytes) : Except Fault Bytes :=
  if b = letterN then completeWord restOfNull rest
  else if b = letterT then completeWord restOfTrue rest
  else if b = letterF then completeWord restOfFalse rest
  else if b = minusSign then passNumber rest
  else if isDigit b then passNumber (b :: rest)
  else if b = quoteMark then passText rest
  else .error SyntaxFault.expectedValue

mutual

/-- Passes over a value and all that follows it inside the open brackets. The number bounds the
length of the input; it runs out only with the input. -/
def skipItem : Nat → List Bracket → Bytes → Except Fault Bytes
  | 0, _, _ => .error SyntaxFault.endInValue
  | n + 1, stack, input =>
    match skipBlanks input with
    | [] => .error SyntaxFault.endInValue
    | b :: rest =>
      if b = openBracket then
        match skipBlanks rest with
        | [] => .error SyntaxFault.endInList
        | c :: more =>
          if c = closeBracket then skipRest n stack more else skipItem n (.list :: stack) rest
      else if b = openBrace then
        match skipBlanks rest with
        | [] => .error SyntaxFault.endInObject
        | c :: more =>
          if c = closeBrace then skipRest n stack more
          else
            match passKey rest with
            | .ok rest => skipItem n (.object :: stack) rest
            | .error fault => .error fault
      else
        match passScalar b rest with
        | .ok rest => skipRest n stack rest
        | .error fault => .error fault

/-- Passes over all that follows a value inside the open brackets. -/
def skipRest : Nat → List Bracket → Bytes → Except Fault Bytes
  | _, [], input => .ok input
  | n, .list :: stack, input =>
    match n, skipBlanks input with
    | 0, _ => .error SyntaxFault.endInList
    | _ + 1, [] => .error SyntaxFault.endInList
    | n + 1, b :: rest =>
      if b = comma then skipItem n (.list :: stack) rest
      else if b = closeBracket then skipRest n stack rest
      else .error SyntaxFault.expectedCommaOrBracket
  | n, .object :: stack, input =>
    match n, skipBlanks input with
    | 0, _ => .error SyntaxFault.endInObject
    | _ + 1, [] => .error SyntaxFault.endInObject
    | n + 1, b :: rest =>
      if b = comma then
        match passKey rest with
        | .ok rest => skipItem n (.object :: stack) rest
        | .error fault => .error fault
      else if b = closeBrace then skipRest n stack rest
      else .error SyntaxFault.expectedCommaOrBrace

end

/-- Passes over one value. The number bounds the length of the input. -/
def skipValue (bound : Nat) (input : Bytes) : Except Fault Bytes :=
  skipItem bound [] input

end MutantHunt.Json
