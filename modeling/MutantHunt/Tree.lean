import Std.Data.HashSet
import MutantHunt.Description.Document

/-!
# The tree of mutants

`Tree` holds every place of a description in one array, in the order of a depth-first walk: a place
stands directly before all places inside it, and refers to them by number. Two tables beside it lead
the other way, from a place to the one around it and from a mutant to its place.

Two mutants are *relatives* if the place of one is the place of the other or lies inside it. Their
rewrites are entangled, so relatives are never enabled together. `Tree.relatives` lists the
relatives of a mutant in ascending order.

A description makes a tree iff every number below the count of its mutants occurs in it exactly
once.
-/

namespace MutantHunt

/-- The number of a place in the tree. -/
abbrev NodeId := Nat

/-- One place: the mutants at it, and the places directly inside it. -/
structure Node where
  mutants : List MutantId
  children : List NodeId
  deriving DecidableEq, Repr, Inhabited

/-- Every place of the sources, and where each mutant sits. -/
structure Tree where
  /-- The places, depth first. -/
  nodes : Array Node
  /-- The place around each place, none for the outermost place of a file. -/
  parents : Array (Option NodeId)
  /-- The outermost places, one per source file. -/
  roots : List NodeId
  /-- The place of each mutant. -/
  owners : Array NodeId
  deriving DecidableEq, Repr, Inhabited

/-- A tree that is being laid out. -/
structure Layout where
  nodes : Array Node := #[]
  parents : Array (Option NodeId) := #[]
  deriving DecidableEq, Repr

namespace Layout

/-- Lays a place out behind all others, without the places inside it. -/
def push (layout : Layout) (parent : Option NodeId) (mutants : List MutantId) : Layout where
  nodes := layout.nodes.push { mutants, children := [] }
  parents := layout.parents.push parent

/-- Records the places inside a place. -/
def setChildren (layout : Layout) (node : NodeId) (children : List NodeId) : Layout where
  nodes := layout.nodes.modify node fun n => { n with children }
  parents := layout.parents

mutual

/-- Lays out a place and all places inside it. Gives its number too. -/
def plant (parent : Option NodeId) (layout : Layout) : NodeDescription → Layout × NodeId
  | .mk children groups =>
    let id := layout.nodes.size
    let (grown, ids) :=
      plantForest (some id) (layout.push parent (groups.flatMap MutationGroup.mutants)) children
    (grown.setChildren id ids, id)

/-- Lays out several places one behind the other. Gives their numbers too. -/
def plantForest (parent : Option NodeId) (layout : Layout) :
    List NodeDescription → Layout × List NodeId
  | [] => (layout, [])
  | node :: rest =>
    let (grown, id) := plant parent layout node
    let (grown, ids) := plantForest parent grown rest
    (grown, id :: ids)

end

/-- Every mutant with its place, in the order of the places. -/
def entries (layout : Layout) : List (MutantId × NodeId) :=
  layout.nodes.toList.zipIdx.flatMap fun (node, id) => node.mutants.map (·, id)

end Layout

/-- The first member of a list that occurred before. -/
def firstRepeated (seen : Std.HashSet MutantId) : List MutantId → Option MutantId
  | [] => none
  | m :: rest => if seen.contains m then some m else firstRepeated (seen.insert m) rest

/-- Puts each place at the index of its mutant. A mutant that is not below the length of the table
has no index. -/
def fillOwners (owners : Array NodeId) : List (MutantId × NodeId) → Except Malformation (Array NodeId)
  | [] => .ok owners
  | (mutant, node) :: rest =>
    if mutant.toNat < owners.size then fillOwners (owners.set! mutant.toNat node) rest
    else .error (.sparse mutant owners.size)

namespace Tree

/-- Builds the tree of a description. `order` rearranges the mutants before each is put at its
place; only which gap in the numbers is reported depends on it. -/
def ofDescriptionBy (order : List (MutantId × NodeId) → List (MutantId × NodeId))
    (description : Description) : Except TreeError Tree :=
  let (layout, roots) := Layout.plantForest none {} description.files
  let entries := layout.entries
  match firstRepeated {} (entries.map Prod.fst) with
  | some mutant => .error (.malformedDescription (.repeated mutant))
  | none =>
    match fillOwners (Array.replicate entries.length 0) (order entries) with
    | .ok owners => .ok { nodes := layout.nodes, parents := layout.parents, roots, owners }
    | .error why => .error (.malformedDescription why)

/-- Builds the tree of a description. -/
def ofDescription (description : Description) : Except TreeError Tree :=
  ofDescriptionBy id description

/-- Builds the tree of the description that a text writes, given as bytes. -/
def ofBytes (bytes : List UInt8) : Except TreeError Tree :=
  (Description.ofBytes bytes).bind ofDescription

/-- Builds the tree of the description that a text writes. -/
def ofJson (text : String) : Except TreeError Tree :=
  ofBytes (Text.encode text)

/-- How many mutants there are. They are the numbers below this. -/
def mutantCount (tree : Tree) : Nat :=
  tree.owners.size

/-- How many places there are. -/
def nodeCount (tree : Tree) : Nat :=
  tree.nodes.size

/-- The place around a place. -/
def parent? (tree : Tree) (node : NodeId) : Option NodeId :=
  tree.parents[node]?.join

/-- The place of a mutant. -/
def owner (tree : Tree) (mutant : MutantId) : Except TreeError NodeId :=
  match tree.owners[mutant.toNat]? with
  | some node => .ok node
  | none => .error (.outOfRange mutant tree.mutantCount)

/-- Walks over places and all places inside them, depth first, and collects their mutants behind
those `found` so far. The number bounds how many places are left to visit. -/
def walk (tree : Tree) : Nat → List NodeId → Array MutantId → Array MutantId
  | 0, _, found => found
  | _ + 1, [], found => found
  | n + 1, node :: pending, found =>
    match tree.nodes[node]? with
    | some place => walk tree n (place.children ++ pending) (found ++ place.mutants)
    | none => walk tree n pending found

/-- The mutants at a place and at all places inside it, depth first. -/
def subtreeMutants (tree : Tree) (node : NodeId) : List MutantId :=
  (tree.walk tree.nodeCount [node] #[]).toList

/-- The mutants at a place and at all places inside it, if there is such a place. -/
def subtreeMutants? (tree : Tree) (node : NodeId) : Option (List MutantId) :=
  if node < tree.nodeCount then some (tree.subtreeMutants node) else none

/-- The places around a place, innermost first. The number bounds how many there are. -/
def ancestors (tree : Tree) : Nat → NodeId → List NodeId
  | 0, _ => []
  | n + 1, node =>
    match tree.parent? node with
    | some parent => parent :: ancestors tree n parent
    | none => []

/-- The mutants at the places around a place. -/
def ancestorMutants (tree : Tree) (node : NodeId) : List MutantId :=
  (tree.ancestors tree.nodeCount node).flatMap fun ancestor =>
    (tree.nodes[ancestor]?.map Node.mutants).getD []

/-- The other mutants whose place lies inside the place of `mutant` or around it, ascending. -/
def relatives (tree : Tree) (mutant : MutantId) : Except TreeError (List MutantId) :=
  (tree.owner mutant).map fun node =>
    ((tree.subtreeMutants node ++ tree.ancestorMutants node).filter (· != mutant)).mergeSort

end Tree

end MutantHunt
