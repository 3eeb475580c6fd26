import MutantHunt.Collaborator
import MutantHunt.Host
import MutantHunt.Invocation
import MutantHunt.Reduction.Test
import MutantHunt.Text.Unicode

/-!
# Reductions with a real reducer

A `Reduction` drives a program that shrinks C programs. The reducer is started in a directory of its
own, `reduction` inside the working directory, with two more arguments: the test that tells whether
a shrunk program is still of interest, and the name of the program, which it replaces. The same test
tells whether the shrunk program kills a mutant.
-/

namespace MutantHunt

/-- What is needed to run a reducer. -/
structure Reduction (σ : Type) where
  host : Host σ
  /-- The reducer with its first arguments. -/
  command : String
  tools : Toolchain
  /-- Where the current program is. -/
  directory : String
  /-- Where reduced programs are saved. -/
  output : String
  timeouts : Timeouts

namespace Reduction

variable {σ : Type} (reduction : Reduction σ)

/-- The directory the reducer works in. -/
def workplace : String :=
  Path.join reduction.directory "reduction"

/-- The program that is being reduced. -/
def target : String :=
  Path.join reduction.workplace programFile

/-- Where the test is. -/
def testFile : String :=
  Path.join reduction.workplace "__interesting.sh"

/-- Writes the test for a mutant. -/
def writeTest (m : MutantId) : Act HuntError σ Unit := do
  let text := testText reduction.tools reduction.timeouts.baseline [m]
  (reduction.host.write reduction.testFile (Text.encode text)).mapError
    (.refused ("failed to write " ++ reduction.testFile))
  (reduction.host.makeExecutable reduction.testFile).mapError
    (.refused ("failed to chmod " ++ reduction.testFile))

/-- Makes the directory for saved programs or the reducer, with all around it. -/
def makeDirectory (path : String) : Act HuntError σ Unit :=
  (reduction.host.createDirectories path).mapError (.refused ("failed to create " ++ path))

/-- Runs a process to its end. -/
def run (command : Command) : Act HuntError σ Bool :=
  (reduction.host.run command).mapError (.refused ("failed to run " ++ command.label))

/-- The command that starts the reducer. -/
def reduceCommand : Command :=
  let invocation := Invocation.ofText reduction.command
  { program := invocation.program
    arguments := invocation.arguments ++ [reduction.testFile, programFile]
    directory := some reduction.workplace
    environment :=
      [("CREDUCE_INCLUDE_PATH",
        some (reduction.tools.runtime ++ ":" ++ reduction.tools.builtRuntime))] }

/-- Reduces a fresh copy of the current program for a mutant. Tells whether the reducer succeeded.
-/
def reduce (m : MutantId) : Act HuntError σ Bool := do
  reduction.makeDirectory reduction.workplace
  let source := Path.join reduction.directory programFile
  (reduction.host.copy source reduction.target).mapError (.refused ("failed to copy " ++ source))
  reduction.writeTest m
  reduction.run reduction.reduceCommand

/-- Whether the reduced program kills a mutant. -/
def kills (m : MutantId) : Act HuntError σ Bool := do
  reduction.writeTest m
  reduction.run { program := reduction.testFile, directory := some reduction.workplace }

/-- Saves the reduced program, and gives the path of the copy. -/
def persist (mutants : List MutantId) : Act HuntError σ String := do
  reduction.makeDirectory reduction.output
  let destination := Path.join reduction.output (reducedFileName mutants)
  (reduction.host.copy reduction.target destination).mapError
    (.refused ("failed to save " ++ destination))
  pure destination

/-- The reducer that is driven. -/
def reducer : Reducer σ where
  reduce := reduction.reduce
  kills := reduction.kills
  persist := reduction.persist

end Reduction

end MutantHunt
