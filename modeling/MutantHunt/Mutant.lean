/-!
# Mutants and the verdicts of trials

A *mutant* is one selectable rewrite of one place in the sources of a compiler. Mutants are
numbered from zero across all source files, and a *trial* compiles and runs a program with a chosen
set of them enabled. This module holds the vocabulary that every other module shares:

* `MutantId`, the number of a mutant;
* `Verdict`, the seven outcomes a trial can have, with the name each is written under;
* `Verdict.isKill` and `Verdict.strength?`, which say what an outcome proves about a mutant.

Main statements: a verdict has a strength exactly when it is a kill (`isSome_strength?`), and the
written name determines the verdict (`ofName?_name`).
-/

namespace MutantHunt

/-- The number of a mutant, counted from zero across all source files. -/
abbrev MutantId := UInt32

/-- What compiling and running a program with a set of mutants enabled showed. -/
inductive Verdict where
  /-- The executable is the unmutated one, byte for byte. -/
  | noEffect
  /-- The executable differs, but it prints the same. -/
  | differentBinariesSameResult
  /-- The compiler failed, or succeeded without leaving an executable. -/
  | compileFailKill
  /-- The compiler did not finish in time. -/
  | compileTimeoutKill
  /-- The executable failed, or could not be started. -/
  | runFailKill
  /-- The executable did not finish in time. -/
  | runTimeoutKill
  /-- The executable printed something else than the unmutated one. -/
  | miscompilationKill
  deriving DecidableEq, Repr, Inhabited

/-- How much a kill proves. -/
inductive Strength where
  | weak
  | strong
  | veryStrong
  deriving DecidableEq, Repr

/-- The words a summary uses for a strength. -/
def Strength.label : Strength → String
  | .weak => "weak"
  | .strong => "strong"
  | .veryStrong => "very strong"

namespace Verdict

/-- Every verdict, mildest first. -/
def all : List Verdict :=
  [.noEffect, .differentBinariesSameResult, .compileFailKill, .compileTimeoutKill, .runFailKill,
    .runTimeoutKill, .miscompilationKill]

@[simp] theorem mem_all (v : Verdict) : v ∈ all := by
  cases v <;> decide

/-- The name a verdict is written under, in reports and in logs. -/
def name : Verdict → String
  | .noEffect => "NO_EFFECT"
  | .differentBinariesSameResult => "DIFFERENT_BINARIES_SAME_RESULT"
  | .compileFailKill => "COMPILE_FAIL_KILL"
  | .compileTimeoutKill => "COMPILE_TIMEOUT_KILL"
  | .runFailKill => "RUN_FAIL_KILL"
  | .runTimeoutKill => "RUN_TIMEOUT_KILL"
  | .miscompilationKill => "MISCOMPILATION_KILL"

/-- The verdict that is written under a name. -/
def ofName? (s : String) : Option Verdict :=
  all.find? fun v => v.name == s

/-- Reading a written name gives the verdict back. -/
@[simp] theorem ofName?_name (v : Verdict) : ofName? v.name = some v := by
  cases v <;> decide

/-- Whether the outcome shows that some enabled mutant changes what the compiler does. -/
def isKill : Verdict → Bool
  | .noEffect | .differentBinariesSameResult => false
  | _ => true

/-- Failing to compile is weak evidence, failing to run strong, and a wrong result very strong. -/
def strength? : Verdict → Option Strength
  | .noEffect | .differentBinariesSameResult => none
  | .compileFailKill | .compileTimeoutKill => some .weak
  | .runFailKill | .runTimeoutKill => some .strong
  | .miscompilationKill => some .veryStrong

/-- The verdicts with a strength are the kills. -/
@[simp] theorem isSome_strength? (v : Verdict) : v.strength?.isSome = v.isKill := by
  cases v <;> rfl

end Verdict

end MutantHunt
