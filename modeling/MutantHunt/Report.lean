import MutantHunt.Mutant

/-!
# The kill report

A report is a snapshot of a search: how many mutants are dead and alive, which were killed by what,
and which reduced programs show a miscompilation. It is written after every program and only ever
read back to be shown.
-/

namespace MutantHunt

/-- A minimized program, and every mutant it kills. -/
structure ReducedKill where
  mutants : List MutantId
  path : String
  deriving DecidableEq, Repr, Inhabited

/-- A killed mutant, and what its first killing trial showed. -/
structure KilledMutant where
  mutant : MutantId
  verdict : Verdict
  deriving DecidableEq, Repr, Inhabited

/-- A snapshot of a search. -/
structure Report where
  total : UInt64
  killed : UInt64
  unkilled : UInt64
  round : UInt32
  /-- How many programs were generated. -/
  programs : UInt64
  kills : List KilledMutant
  reduced : List ReducedKill
  deriving DecidableEq, Repr, Inhabited

namespace Report

/-- How many mutants were killed with a verdict. -/
def count (report : Report) (verdict : Verdict) : Nat :=
  report.kills.countP fun kill => kill.verdict == verdict

end Report

/-- The name a reduced program is saved under: `__kills_3_17.c` for the mutants 3 and 17. -/
def reducedFileName (mutants : List MutantId) : String :=
  "__kills_" ++ "_".intercalate (mutants.map fun m => m.toNat.repr) ++ ".c"

end MutantHunt
