/-!
# Options and positional words

A command line is a list of words. A word that starts with two dashes names an option, one that starts
with a single dash is a row of one-letter options, and any other word is positional. The word `--` ends
the options. `scan` sorts words by a `Signature`, which lists the options that there are.

An option may be given once. The value of one that takes a value is attached with `=`, or is the next
word, which then must not look like an option itself. Words are looked at from left to right, and the
first that is wrong, or that asks for help, ends it.
-/

namespace MutantHunt.CommandLine

/-- Why there is nothing to be done. -/
inductive Interruption where
  /-- The user asks how to use the program. -/
  | help
  /-- The user asks for the version of the program. -/
  | version
  /-- The words make no sense. -/
  | misuse
  deriving DecidableEq, Repr

/-- What a word is by its looks. -/
inductive Word where
  /-- Ends the options. -/
  | stop
  /-- Names an option, perhaps with a value attached. -/
  | long (name : String) (value : Option String)
  /-- Names options by their letters. -/
  | letters (letters : List Char)
  | plain (text : String)
  deriving DecidableEq, Repr

/-- What a word is by its looks. A single dash is a plain word. -/
def Word.ofText (text : String) : Word :=
  match text.toList with
  | ['-', '-'] => .stop
  | '-' :: '-' :: rest =>
    let name := String.ofList (rest.takeWhile (· != '='))
    match rest.dropWhile (· != '=') with
    | _ :: value => .long name (some (String.ofList value))
    | [] => .long name none
  | '-' :: first :: rest => .letters (first :: rest)
  | _ => .plain text

/-- Whether a word can be the value of the option before it. -/
def Word.isValue : Word → Bool
  | .plain _ => true
  | _ => false

/-- An option. -/
structure Parameter where
  name : String
  letter : Option Char := none
  /-- Which values are good. A parameter without such a test takes no value. -/
  accepts : Option (String → Bool) := none

/-- Which options and positional words there are. -/
structure Signature where
  parameters : List Parameter
  /-- How many positional words there may be. -/
  positional : Nat

/-- The words that were looked at so far. -/
structure Given where
  /-- Options with their values. The value of one that takes none is empty. -/
  options : List (String × String) := []
  positional : List String := []
  deriving DecidableEq, Repr, Inhabited

namespace Given

/-- Whether an option is given. -/
def has (given : Given) (name : String) : Bool :=
  given.options.any fun entry => entry.1 == name

/-- The value of an option. -/
def value? (given : Given) (name : String) : Option String :=
  given.options.lookup name

/-- Adds an option, which must be a new one with a good value. -/
def addOption (given : Given) (parameter : Parameter) (value : String) :
    Except Interruption Given :=
  if given.has parameter.name || !(parameter.accepts.all fun accepts => accepts value) then
    .error .misuse
  else .ok { given with options := given.options ++ [(parameter.name, value)] }

/-- Adds a positional word, which must not be empty. -/
def addPositional (signature : Signature) (given : Given) (text : String) :
    Except Interruption Given :=
  if text.isEmpty || signature.positional ≤ given.positional.length then .error .misuse
  else .ok { given with positional := given.positional ++ [text] }

/-- Adds options that are named by their letters. These take no values. -/
def addLetters (signature : Signature) : Given → List Char → Except Interruption Given
  | given, [] => .ok given
  | given, c :: rest =>
    if c = 'h' then .error .help
    else
      match signature.parameters.find? fun p => p.letter == some c && p.accepts.isNone with
      | none => .error .misuse
      | some parameter => do addLetters signature (← given.addOption parameter "") rest

end Given

/-- Sorts words into options and positional words. -/
def scan (signature : Signature) : Given → List String → Except Interruption Given
  | given, [] => .ok given
  | given, word :: rest =>
    match Word.ofText word with
    | .stop => rest.foldlM (Given.addPositional signature) given
    | .plain text => do scan signature (← given.addPositional signature text) rest
    | .letters letters => do scan signature (← given.addLetters signature letters) rest
    | .long "help" none => .error .help
    | .long name value =>
      match signature.parameters.find? fun p => p.name == name with
      | none => .error .misuse
      | some parameter =>
        match parameter.accepts, value, rest with
        | none, none, rest => do scan signature (← given.addOption parameter "") rest
        | none, some _, _ => .error .misuse
        | some _, some value, rest => do scan signature (← given.addOption parameter value) rest
        | some _, none, next :: rest =>
          if (Word.ofText next).isValue then do
            scan signature (← given.addOption parameter next) rest
          else .error .misuse
        | some _, none, [] => .error .misuse
termination_by _ words => words.length

end MutantHunt.CommandLine
