import MutantHunt.Collaborator
import MutantHunt.Digest
import MutantHunt.Host
import MutantHunt.Mismatch
import MutantHunt.Reduction.Test

/-!
# Trials with a real compiler

A `Workbench` is a directory in which programs are generated, compiled and run. Every file in it is
overwritten by the next step that makes it:

* `__prog.c`, the current program;
* `__prog`, the program compiled without mutations;
* `__prog_mutated`, the program compiled in the latest trial.

`Workbench.attempt` makes a program and a baseline for it, and gives nothing if the generator, the
compiler or the program fails or takes too long. `Workbench.trial` compiles and runs the program
under mutations, and reads a verdict off what it sees; the mutated executable of an earlier trial is
removed first, so that it is never taken for the new one.
-/

namespace MutantHunt

/-- A directory to make trials in, with all that they need. -/
structure Workbench (σ : Type) where
  host : Host σ
  tools : Toolchain
  directory : String
  timeouts : Timeouts
  mismatch : Mismatch

namespace Workbench

variable {σ : Type} (bench : Workbench σ)

/-- Where the current program is. -/
def program : String :=
  Path.join bench.directory programFile

/-- Where the program compiled without mutations is. -/
def baselineExecutable : String :=
  Path.join bench.directory "__prog"

/-- Where the program compiled in the latest trial is. -/
def mutatedExecutable : String :=
  Path.join bench.directory "__prog_mutated"

/-- The command that generates a program. -/
def generateCommand : Command where
  program := bench.tools.generator
  arguments := ["-o", bench.program]
  directory := some bench.directory

/-- The command that compiles the program with exactly the given mutants enabled. Without any, the
variable is taken out of the environment. -/
def compileCommand (mutants : List MutantId) (output : String) : Command where
  program := bench.tools.compiler
  arguments :=
    ["-O3", "-I", bench.tools.runtime, "-I", bench.tools.builtRuntime, bench.program, "-o", output]
  directory := some bench.directory
  environment :=
    [(enabledVariable, if mutants.isEmpty then none else some (enabledText mutants))]

/-- Runs a process within a time limit. -/
def runWithin (command : Command) (limit : Duration) (capture : Bool) : Act HuntError σ Ending :=
  (bench.host.runWithin command limit capture).mapError
    (.refused ("failed to run " ++ command.label))

/-- The digest of an executable. -/
def fingerprint (path : String) : Act OsError σ String := do
  let bytes ← bench.host.read path
  pure (Digest.fingerprint bytes)

/-- Makes a program and a baseline for it. Gives nothing if it is not worth keeping. -/
def attempt : Act HuntError σ (Option Baseline) := do
  let limit := bench.timeouts.baseline
  match ← bench.runWithin bench.generateCommand limit false with
  | .timedOut | .completed false _ _ => pure none
  | .completed true _ _ =>
    let executable := bench.baselineExecutable
    match ← bench.runWithin (bench.compileCommand [] executable) limit false with
    | .timedOut | .completed false _ _ => pure none
    | .completed true _ compileTime =>
      match ← bench.runWithin { program := executable } limit true with
      | .timedOut | .completed false _ _ => pure none
      | .completed true output executionTime =>
        let fingerprint ← (bench.fingerprint executable).mapError
          (.refused ("failed to read " ++ executable))
        pure (some { compileTime, executionTime, output, fingerprint })

/-- Makes programs until one is worth keeping, at most so many. -/
def generateUpTo : Nat → Act HuntError σ Baseline
  | 0 => Act.throw .noProgram
  | most + 1 => do
    match ← bench.attempt with
    | some baseline => pure baseline
    | none => generateUpTo most

/-- Makes programs until one is worth keeping. Programs are counted in 64 bits, so there is no need
to go on beyond that. -/
def generate : Act HuntError σ Baseline :=
  bench.generateUpTo UInt64.size

/-- A time limit, if it is one. -/
def limited (limit : Option Duration) : Act HuntError σ Duration :=
  Act.lift (limit.elim (.error .limitTooLong) .ok)

/-- Removes what an earlier trial left behind. -/
def clear : Act HuntError σ Unit := fun s =>
  match bench.host.remove bench.mutatedExecutable s with
  | (.ok (), s) => (.ok (), s)
  | (.error .notFound, s) => (.ok (), s)
  | (.error cause, s) =>
    (.error (.refused ("failed to remove " ++ bench.mutatedExecutable) cause), s)

/-- The digest of the mutated executable, if the compiler left one. -/
def mutatedFingerprint : Act HuntError σ (Option String) := fun s =>
  match bench.fingerprint bench.mutatedExecutable s with
  | (.ok fingerprint, s) => (.ok (some fingerprint), s)
  | (.error .notFound, s) => (.ok none, s)
  | (.error cause, s) =>
    (.error (.refused ("failed to read " ++ bench.mutatedExecutable) cause), s)

/-- Runs the mutated executable and compares what it prints. A program that cannot be started counts
as one that fails. -/
def judge (baseline : Baseline) : Act HuntError σ Verdict := do
  let limit ← limited (bench.timeouts.run? baseline.executionTime)
  fun s =>
    match bench.host.runWithin { program := bench.mutatedExecutable } limit true s with
    | (.error _, s) => (.ok .runFailKill, s)
    | (.ok .timedOut, s) => (.ok .runTimeoutKill, s)
    | (.ok (.completed false _ _), s) => (.ok .runFailKill, s)
    | (.ok (.completed true output _), s) =>
      if output = baseline.output then (.ok .differentBinariesSameResult, s)
      else (.ok bench.mismatch.verdict, s)

/-- Compiles the current program with exactly the given mutants enabled, and runs it if the
executable differs from the unmutated one. -/
def trial (baseline : Baseline) (mutants : List MutantId) : Act HuntError σ Verdict := do
  bench.clear
  let limit ← limited (bench.timeouts.compile? baseline.compileTime)
  match ← bench.runWithin (bench.compileCommand mutants bench.mutatedExecutable) limit false with
  | .timedOut => pure .compileTimeoutKill
  | .completed false _ _ => pure .compileFailKill
  | .completed true _ _ =>
    match ← bench.mutatedFingerprint with
    | none => pure .compileFailKill
    | some fingerprint =>
      if fingerprint = baseline.fingerprint then pure .noEffect else bench.judge baseline

/-- The harness that works on a bench. -/
def harness : Harness σ where
  generate := bench.generate
  trial := bench.trial

end Workbench

end MutantHunt
