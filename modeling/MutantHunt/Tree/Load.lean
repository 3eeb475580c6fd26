import MutantHunt.Host
import MutantHunt.Tree

/-!
# Loading a tree from a file

A description is read whole. A directory can be opened like a file but not read, which makes the only
difference between the two ways in which reading fails.
-/

namespace MutantHunt.Tree

/-- Why a description could not be read. -/
def unreadableBecause (path : String) : OsError → Malformation
  | .isADirectory => .unreadable .isADirectory
  | cause => .unopenable path cause

/-- Reads the description in a file, and gives the tree it describes. -/
def load {σ : Type} (host : Host σ) (path : String) : Act TreeError σ Tree := do
  let bytes ← (host.read path).mapError fun e => .malformedDescription (unreadableBecause path e)
  Act.lift (Tree.ofBytes bytes)

end MutantHunt.Tree
