import MutantHunt.Mutant
import MutantHunt.Path

/-!
# The compiler and the generator

A search works with two programs: the compiler that carries the mutants, and a generator of random C
programs. The compiler learns from one environment variable which mutants it is to enable: their
numbers, separated by commas. Where the variable is not set, it enables none.
-/

namespace MutantHunt

/-- The variable that tells the compiler which mutants are enabled. -/
def enabledVariable : String := "DREDD_ENABLED_MUTATION"

/-- Mutants as the compiler is told of them. -/
def enabledText (mutants : List MutantId) : String :=
  ",".intercalate (mutants.map fun m => m.toNat.repr)

/-- Where the compiler and the generator are. -/
structure Toolchain where
  /-- The executable of the compiler. -/
  compiler : String
  /-- The directory of the generator's sources, with the built generator below it. -/
  csmith : String
  deriving DecidableEq, Repr, Inhabited

namespace Toolchain

/-- The headers that generated programs include. -/
def runtime (tools : Toolchain) : String :=
  Path.join tools.csmith "runtime"

/-- The headers that were made when the generator was built. -/
def builtRuntime (tools : Toolchain) : String :=
  Path.join (Path.join tools.csmith "build") "runtime"

/-- The executable of the generator. -/
def generator (tools : Toolchain) : String :=
  Path.join (Path.join (Path.join tools.csmith "build") "src") "csmith"

end Toolchain

end MutantHunt
