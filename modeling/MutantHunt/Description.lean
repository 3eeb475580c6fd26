import MutantHunt.Mutant

/-!
# Descriptions of the mutants of a compiler

A description says where every mutant sits. It has one tree per source file; a node of a tree is a
place in the syntax of that file, and carries the rewrites on offer there, in groups of four kinds.

`NodeDescription.mutants` lists the mutants of one node, `Description.mutants` those of the whole
description in the order of a depth-first walk, a node's own mutants before those below it.
-/

namespace MutantHunt

/-- The rewrites of one kind that are on offer at one place. -/
inductive MutationGroup where
  | replaceExpr (instances : List MutantId)
  | replaceBinaryOperator (instances : List MutantId)
  | replaceUnaryOperator (instances : List MutantId)
  /-- A statement can be removed in one way only. -/
  | removeStmt (mutant : MutantId)
  deriving DecidableEq, Repr

namespace MutationGroup

/-- The mutants of a group, as listed. -/
def mutants : MutationGroup → List MutantId
  | replaceExpr ids | replaceBinaryOperator ids | replaceUnaryOperator ids => ids
  | removeStmt id => [id]

end MutationGroup

/-- One place of a source file: what can be rewritten there, and the places inside it. -/
inductive NodeDescription where
  | mk (children : List NodeDescription) (groups : List MutationGroup)
  deriving Repr

namespace NodeDescription

/-- The places directly inside. -/
def children : NodeDescription → List NodeDescription
  | mk children _ => children

/-- The groups of rewrites on offer here. -/
def groups : NodeDescription → List MutationGroup
  | mk _ groups => groups

/-- The mutants that sit at this very place, group by group. -/
def mutants (node : NodeDescription) : List MutantId :=
  node.groups.flatMap MutationGroup.mutants

@[simp] theorem children_mk (children : List NodeDescription) (groups : List MutationGroup) :
    (mk children groups).children = children := rfl

@[simp] theorem groups_mk (children : List NodeDescription) (groups : List MutationGroup) :
    (mk children groups).groups = groups := rfl

mutual

/-- The mutants of a place and of all places inside it, depth first. -/
def allMutants : NodeDescription → List MutantId
  | mk children groups => groups.flatMap MutationGroup.mutants ++ allMutantsOfForest children

/-- The mutants of several places one after the other, depth first. -/
def allMutantsOfForest : List NodeDescription → List MutantId
  | [] => []
  | node :: rest => allMutants node ++ allMutantsOfForest rest

end

mutual

/-- How many places there are, this one included. -/
def size : NodeDescription → Nat
  | mk children _ => 1 + sizeOfForest children

/-- How many places several trees have together. -/
def sizeOfForest : List NodeDescription → Nat
  | [] => 0
  | node :: rest => size node + sizeOfForest rest

end

end NodeDescription

/-- One tree per source file, in the order of the files. -/
structure Description where
  files : List NodeDescription
  deriving Repr

namespace Description

/-- Every mutant of the description with repetitions, file by file and depth first. -/
def mutants (description : Description) : List MutantId :=
  NodeDescription.allMutantsOfForest description.files

/-- How many places the description has. -/
def size (description : Description) : Nat :=
  NodeDescription.sizeOfForest description.files

end Description

end MutantHunt
