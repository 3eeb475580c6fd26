import MutantHunt.Json.Decode
import MutantHunt.Mutant
import MutantHunt.Text.Unicode

/-!
# What a different output counts as

A program compiled under mutations may print something else than it does without them. Whether that
is a kill is a choice of the user: `Mismatch` is that choice, with its name in JSON and on the
command line.
-/

namespace MutantHunt

/-- What a trial whose program printed something different counts as. -/
inductive Mismatch where
  /-- A miscompilation. -/
  | kill
  /-- No effect: the mutants stay alive. -/
  | ignore
  deriving DecidableEq, Repr, Inhabited

namespace Mismatch

/-- Every choice. -/
def all : List Mismatch := [.kill, .ignore]

/-- The name of a choice. -/
def name : Mismatch → String
  | kill => "kill"
  | ignore => "ignore"

/-- What a trial counts as if its program printed something different. -/
def verdict : Mismatch → Verdict
  | kill => .miscompilationKill
  | ignore => .noEffect

/-- Whether two texts are equal, perhaps up to the case of the letters from a to z. -/
def sameText (ignoreCase : Bool) (a b : String) : Bool :=
  if ignoreCase then a.toList.map Char.toLower == b.toList.map Char.toLower else a == b

/-- The choice that a command line names. -/
def ofArgument? (text : String) (ignoreCase : Bool) : Option Mismatch :=
  all.find? fun choice => sameText ignoreCase choice.name text

/-- The choice that a JSON text names. -/
def ofJson (text : String) : Except Json.Fault Mismatch :=
  Json.readDocument (Json.readBareChoice (all.map fun choice => (choice.name, choice)))
    (Text.encode text)

end Mismatch

end MutantHunt
