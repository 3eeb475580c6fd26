import MutantHunt.Timeouts
import MutantHunt.Toolchain

/-!
# The test that guides a reduction

A reducer shrinks a program as long as a test succeeds. `Reduction.testText` is that test as a shell
script: it compiles the program with the mutants disabled and enabled, and succeeds if both programs
run but print something different. Names are put into the script as they stand.
-/

namespace MutantHunt

/-- The name of the program in its directory. -/
def programFile : String := "__prog.c"

namespace Reduction

/-- How many whole seconds a step of the test may take: at least one. -/
def wholeSeconds (limit : Duration) : Nat :=
  Nat.max limit.seconds.toNat 1

/-- The line that compiles the program into a file, with a setting of the environment in front. -/
def compileLine (compiler setting output : String) (seconds : Nat) : String :=
  setting ++ "timeout " ++ seconds.repr ++ " \"" ++ compiler ++ "\" \"$\x7bFLAGS[@]\x7d\" "
    ++ programFile ++ " -o " ++ output ++ " > /dev/null 2>&1 || exit 1"

/-- The line that runs a compiled program and keeps what it prints. -/
def runLine (output : String) (seconds : Nat) : String :=
  "timeout " ++ seconds.repr ++ " ./" ++ output ++ " > " ++ output ++ ".out 2> /dev/null || exit 1"

/-- The test for a program that shows a miscompilation under the given mutants. -/
def testText (tools : Toolchain) (limit : Duration) (mutants : List MutantId) : String :=
  let enabled := enabledText mutants
  let seconds := wholeSeconds limit
  "\n".intercalate
    ["#!/usr/bin/env bash",
      "# Exits 0 while " ++ programFile ++ " still shows different output under mutants "
        ++ enabled ++ ".",
      "set -u",
      "",
      "FLAGS=(-O3 -I \"" ++ tools.runtime ++ "\" -I \"" ++ tools.builtRuntime ++ "\")",
      "",
      "unset " ++ enabledVariable,
      compileLine tools.compiler "" "__reference" seconds,
      runLine "__reference" seconds,
      "",
      compileLine tools.compiler (enabledVariable ++ "=" ++ enabled ++ " ") "__mutated" seconds,
      runLine "__mutated" seconds,
      "",
      "if cmp -s __reference.out __mutated.out; then",
      "  exit 1",
      "fi",
      "exit 0"]

end Reduction

end MutantHunt
