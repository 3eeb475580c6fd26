import MutantHunt.Text.Blank

/-!
# Command lines given as one text

The reducer is given as one text: a program, and the first of its arguments behind it.
-/

namespace MutantHunt

/-- A program and its arguments. -/
structure Invocation where
  program : String
  arguments : List String
  deriving DecidableEq, Repr, Inhabited

/-- Splits a text at blanks: the first word is the program, the others are its arguments. A text of
one word at most is the name of the program as it stands, blanks and all. -/
def Invocation.ofText (text : String) : Invocation :=
  match Text.words text with
  | program :: first :: others => { program, arguments := first :: others }
  | _ => { program := text, arguments := [] }

end MutantHunt
