import MutantHunt.Act
import MutantHunt.Error
import MutantHunt.Report
import MutantHunt.Timeouts

/-!
# The collaborators of the search

The search itself compiles and runs nothing. It asks a `Harness` for programs and for the verdicts
of trials, and a `Reducer` to minimize a program that shows a miscompilation. Both act on a world
they share, may answer as they like, and may fail.

An `Event` is one question to a collaborator together with its answer. `Harness.journaled` and
`Reducer.journaled` are the same collaborators, keeping a journal of what they were asked.
-/

namespace MutantHunt

/-- What a program does when it is compiled without mutations. -/
structure Baseline where
  compileTime : Duration
  executionTime : Duration
  /-- What the program prints. -/
  output : List UInt8
  /-- The digest of the executable. -/
  fingerprint : String
  deriving DecidableEq, Repr, Inhabited

/-- Makes programs, and tries mutants on the current one. -/
structure Harness (σ : Type) where
  /-- Makes a new program that compiles and runs without mutations. -/
  generate : Act HuntError σ Baseline
  /-- Compiles and runs the current program with exactly the given mutants enabled. -/
  trial : Baseline → List MutantId → Act HuntError σ Verdict

/-- Minimizes programs that show a miscompilation. -/
structure Reducer (σ : Type) where
  /-- Minimizes a fresh copy of the current program while it still kills the mutant. The answer
  tells whether that worked. -/
  reduce : MutantId → Act HuntError σ Bool
  /-- Whether the program reduced last kills the mutant too. -/
  kills : MutantId → Act HuntError σ Bool
  /-- Saves the program reduced last under a name made from the mutants. -/
  persist : List MutantId → Act HuntError σ String

/-- A question to a collaborator, with the answer. -/
inductive Event where
  | generated (answer : Except HuntError Baseline)
  | tried (baseline : Baseline) (batch : List MutantId) (answer : Except HuntError Verdict)
  | reduced (mutant : MutantId) (answer : Except HuntError Bool)
  | checked (mutant : MutantId) (answer : Except HuntError Bool)
  | persisted (mutants : List MutantId) (answer : Except HuntError String)
  /-- A report was handed over to be stored. -/
  | stored (report : Report)

/-- A world together with all that was asked of it, latest first. -/
structure Journaled (σ : Type) where
  world : σ
  journal : List Event

namespace Journaled

/-- Performs an act of the world and writes its answer down. -/
def recording {σ α : Type} (event : Except HuntError α → Event) (act : Act HuntError σ α) :
    Act HuntError (Journaled σ) α := fun s =>
  match act s.world with
  | (answer, world) => (answer, { world, journal := event answer :: s.journal })

end Journaled

/-- The harness, with everything it is asked written down. -/
def Harness.journaled {σ : Type} (harness : Harness σ) : Harness (Journaled σ) where
  generate := Journaled.recording .generated harness.generate
  trial baseline batch :=
    Journaled.recording (.tried baseline batch) (harness.trial baseline batch)

/-- The reducer, with everything it is asked written down. -/
def Reducer.journaled {σ : Type} (reducer : Reducer σ) : Reducer (Journaled σ) where
  reduce m := Journaled.recording (.reduced m) (reducer.reduce m)
  kills m := Journaled.recording (.checked m) (reducer.kills m)
  persist ms := Journaled.recording (.persisted ms) (reducer.persist ms)

end MutantHunt
