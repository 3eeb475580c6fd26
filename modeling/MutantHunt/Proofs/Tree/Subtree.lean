import Mathlib.Data.Set.Card
import Mathlib.Order.Interval.Finset.Nat
import MutantHunt.Proofs.Tree.Arena

/-!
# The walk over a subtree

The mutants at a place and inside it are collected by a loop with a stack.  A `Descent` is that loop
between two visits.  A visit, `Descent.step?`, takes the place on top off the stack and puts those
directly inside it on, the last of them first.  The stack alone does not bound the loop, since it
can grow with each visit.  What does is that the numbers a visit puts on are those of a forest that
stands in the arena.  A forest on top of the stack is visited in as many steps as it has places, and
what is below it waits until then.

The places visited are those from which the walk up comes to the place set out from.  They are
numbered in one block, in the order in which they are visited, so the loop could as well have run
through that part of the arena from one end to the other.

## Main results

* `after?_starts` — the loop over a forest that stands in the arena.
* `flatMap_subtreeMutants_starts`, `subtreeMutants_unfold` — it is a depth-first walk: a place
  first, and then those directly inside it, one after the other.
* `liesWithin_iff` — the places inside a place are the block that starts with it.
* `subtrees_in_preorder` — all of this for a tree that is built.
-/

namespace MutantHunt

open NodeDescription

namespace Tree

/-- A walk over a subtree, under way. -/
structure Descent where
  /-- The places to be visited yet, the next one last. -/
  stack : List NodeId
  /-- The mutants met so far. -/
  found : List MutantId
  deriving DecidableEq, Repr

namespace Descent

/-- A walk that sets out from a place. -/
def start (id : NodeId) : Descent where
  stack := [id]
  found := []

/-- Visits the place on top of the stack: collects its mutants, and puts the places directly inside
it on the stack, so that the first of them comes next.  With an empty stack the walk is over.  It
cannot go on either if there is no such place in the tree. -/
def step? (tree : Tree) (descent : Descent) : Option Descent := do
  let id ← descent.stack.getLast?
  let node ← tree.nodes[id]?
  return {
    stack := descent.stack.dropLast ++ node.children.reverse
    found := descent.found ++ node.mutants }

/-- The walk after so many visits, if it goes on for as long. -/
def after? (tree : Tree) : Nat → Descent → Option Descent
  | 0, descent => some descent
  | visits + 1, descent => (descent.step? tree).bind (after? tree visits)

theorem step?_concat {tree : Tree} {id : NodeId} {node : Node} (hnode : tree.nodes[id]? = some node)
    (below : List NodeId) (found : List MutantId) :
    step? tree ⟨below ++ [id], found⟩ =
      some ⟨below ++ node.children.reverse, found ++ node.mutants⟩ := by
  simp [step?, hnode]

end Descent

/-- Place `inner` is place `outer` or lies inside it: the walk up from the one, each time to the
place around, comes to the other. -/
def LiesWithin (tree : Tree) (inner outer : NodeId) : Prop :=
  Relation.ReflTransGen (fun c p => tree.parent? c = some p) inner outer

theorem liesWithin_iff_step (tree : Tree) (inner outer : NodeId) :
    tree.LiesWithin inner outer ↔
      inner = outer ∨ ∃ p, tree.parent? inner = some p ∧ tree.LiesWithin p outer :=
  Relation.ReflTransGen.cases_head_iff

namespace BuiltFrom

variable {tree : Tree} {description : Description}

/-! ## The loop -/

/-- The loop visits a forest that stands in the arena on top of the stack, place by place, and
nothing that is below it. -/
theorem after?_starts (h : tree.BuiltFrom description) (forest : List NodeDescription) (n : Nat)
    (behind : List NodeDescription)
    (hat : (preorderOfForest description.files).drop n = preorderOfForest forest ++ behind)
    (visits : Nat) (below : List NodeId) (found : List MutantId) :
    Descent.after? tree (sizeOfForest forest + visits) ⟨below ++ (starts n forest).reverse, found⟩ =
      Descent.after? tree visits ⟨below, found ++ allMutantsOfForest forest⟩ := by
  have hloop := h.loop_starts
    (fun visits pending found => Descent.after? tree visits ⟨pending.reverse, found⟩)
    (fun found place => found ++ place.1.mutants) (by
      intro visits id node pending found hnode
      rw [List.reverse_cons, Descent.after?, Descent.step?_concat hnode, Option.bind_some,
        List.reverse_append]) forest n behind hat visits below.reverse found
  rwa [foldl_mutants_arena, List.reverse_append, List.reverse_reverse] at hloop

/-- The loop over the places inside a place, itself included. -/
theorem after?_start (h : tree.BuiltFrom description) {n : Nat} {place : NodeDescription}
    (hplace : (preorderOfForest description.files)[n]? = some place) :
    Descent.after? tree place.size (.start n) = some ⟨[], tree.subtreeMutants n⟩ := by
  obtain ⟨behind, hbehind⟩ := drop_preorderOfForest description.files n place hplace
  have hloop := h.after?_starts [place] n behind hbehind 0 [] []
  rw [h.subtreeMutants_eq hplace, ← allMutantsOfForest_eq]
  exact hloop

/-! ## The order -/

/-- The walks from the outermost places of a forest, one after the other, collect its mutants in
order. -/
theorem flatMap_subtreeMutants_starts (h : tree.BuiltFrom description)
    (forest : List NodeDescription) (n : Nat) (behind : List NodeDescription)
    (hat : (preorderOfForest description.files).drop n = preorderOfForest forest ++ behind) :
    (starts n forest).flatMap tree.subtreeMutants = allMutantsOfForest forest := by
  induction forest generalizing n with
  | nil => rfl
  | cons place rest ih =>
      cases place with
      | mk children groups =>
          obtain ⟨hhere, -, hafter⟩ := drop_of_drop_eq hat
          rw [starts_cons, List.flatMap_cons, h.subtreeMutants_eq hhere, ← allMutantsOfForest_eq,
            ih _ hafter]
          simp only [allMutantsOfForest, List.append_nil]

/-- The walk from a place collects its own mutants, and goes on as if it set out from each of the
places directly inside it. -/
theorem subtreeMutants_unfold (h : tree.BuiltFrom description) {n : Nat} {node : Node}
    (hnode : tree.nodes[n]? = some node) :
    tree.subtreeMutants n = node.mutants ++ node.children.flatMap tree.subtreeMutants := by
  rw [h.getElem?_nodes, Option.map_eq_some_iff] at hnode
  obtain ⟨⟨children, groups⟩, hplace, rfl⟩ := hnode
  obtain ⟨behind, hbehind⟩ := drop_preorderOfForest _ n _ hplace
  obtain ⟨-, hinside, -⟩ := drop_of_drop_eq hbehind
  rw [h.subtreeMutants_eq hplace, ← allMutantsOfForest_eq]
  simp only [entry, children_mk]
  rw [h.flatMap_subtreeMutants_starts children (n + 1) _ hinside]
  simp only [allMutantsOfForest, allMutants, NodeDescription.mutants, groups_mk, List.append_nil]

/-- The walk from a place collects what a run through its block of the arena collects. -/
theorem subtreeMutants_eq_extract (h : tree.BuiltFrom description) {n : Nat}
    {place : NodeDescription} (hplace : (preorderOfForest description.files)[n]? = some place) :
    tree.subtreeMutants n =
      (tree.nodes.extract n (n + place.size)).toList.flatMap Node.mutants := by
  obtain ⟨behind, hbehind⟩ := drop_preorderOfForest description.files n place hplace
  have hlength : place.size = (preorderOfForest [place]).length := by
    rw [length_preorderOfForest, sizeOfForest_cons, sizeOfForest_nil, Nat.add_zero]
  calc tree.subtreeMutants n
      = ((preorderOfForest [place]).map NodeDescription.mutants).flatten := by
        rw [h.subtreeMutants_eq hplace, List.flatMap_def]
    _ = ((((preorderOfForest description.files).map NodeDescription.mutants).drop n).take
          place.size).flatten := by
        rw [← List.map_drop, ← List.map_take, hbehind, hlength, List.take_left]
    _ = (tree.nodes.extract n (n + place.size)).toList.flatMap Node.mutants := by
        rw [Array.toList_extract, List.extract_eq_take_drop, Nat.add_sub_cancel_left,
          List.flatMap_def, List.map_take, List.map_drop, h.nodes, map_mutants_arena]

/-! ## The block -/

/-- The walk up comes to a place if it starts there, or if that is among the places around. -/
theorem liesWithin_iff_mem_ancestors (h : tree.BuiltFrom description) {fuel inner : Nat}
    (outer : Nat) (hfuel : inner ≤ fuel) :
    tree.LiesWithin inner outer ↔ inner = outer ∨ outer ∈ tree.ancestors fuel inner := by
  induction fuel generalizing inner with
  | zero =>
      have htop : tree.parent? inner = none := by
        rw [Option.eq_none_iff_forall_ne_some]
        intro p hp
        have hlt := h.lt_of_parent?_eq_some hp
        omega
      rw [liesWithin_iff_step, htop]
      simp [ancestors]
  | succ fuel ih =>
      rw [liesWithin_iff_step]
      unfold ancestors
      cases hparent : tree.parent? inner with
      | none => simp
      | some p =>
          have hlt := h.lt_of_parent?_eq_some hparent
          have hp : tree.LiesWithin p outer ↔ p = outer ∨ outer ∈ tree.ancestors fuel p :=
            ih (by omega)
          simp only [Option.some.injEq, exists_eq_left', hp, List.mem_cons, @eq_comm _ p outer]

/-- The places inside a place, itself included, are those of its block. -/
theorem liesWithin_iff (h : tree.BuiltFrom description) {n : Nat} {place : NodeDescription}
    (hplace : (preorderOfForest description.files)[n]? = some place) (c : Nat) :
    tree.LiesWithin c n ↔ n ≤ c ∧ c < n + place.size := by
  have hpos := size_pos place
  have hfits := add_size_le_sizeOfForest hplace
  rw [h.liesWithin_iff_mem_ancestors n (Nat.le_refl c)]
  cases hc : (preorderOfForest description.files)[c]? with
  | none =>
      -- A number that is no place's has nothing around it, and is behind all blocks.
      rw [List.getElem?_eq_none_iff, length_preorderOfForest] at hc
      have hnone : tree.parent? c = none :=
        (h.parent?_eq_none_iff c).mpr (.inr (by rwa [h.nodeCount_eq]))
      have hempty : tree.ancestors c c = [] := by
        cases c with
        | zero => rfl
        | succ c => simp [ancestors, hnone]
      rw [hempty]
      simp only [List.not_mem_nil, or_false]
      omega
  | some inner =>
      rw [h.mem_ancestors_iff hc (Nat.le_refl c), Encloses, hplace]
      simp only [Option.some.injEq, exists_eq_left']
      omega

theorem ncard_liesWithin (h : tree.BuiltFrom description) {n : Nat} {place : NodeDescription}
    (hplace : (preorderOfForest description.files)[n]? = some place) :
    {c | tree.LiesWithin c n}.ncard = place.size := by
  have hblock : {c | tree.LiesWithin c n} = ↑(Finset.Ico n (n + place.size)) := by
    ext c
    rw [Set.mem_ofPred_eq, h.liesWithin_iff hplace, Finset.mem_coe, Finset.mem_Ico]
  rw [hblock, Set.ncard_coe_finset, Nat.card_Ico, Nat.add_sub_cancel_left]

/-- The walk from a place collects the mutants that sit inside it. -/
theorem mem_subtreeMutants_iff_liesWithin (h : tree.BuiltFrom description) {n : Nat}
    {place : NodeDescription} (hplace : (preorderOfForest description.files)[n]? = some place)
    (m : MutantId) :
    m ∈ tree.subtreeMutants n ↔ ∃ c, tree.owner m = .ok c ∧ tree.LiesWithin c n := by
  simp only [h.mem_subtreeMutants_iff hplace, h.liesWithin_iff hplace, Encloses, hplace,
    Option.some.injEq, exists_eq_left']
  cases howner : tree.owners[m.toNat]? with
  | none => simp [owner, howner]
  | some c => simp [owner, howner]

end BuiltFrom

/-- What the walk over the places inside place `n` does, `size` of them with that place itself. -/
structure WalksBlock (tree : Tree) (n size : Nat) : Prop where
  count : {c | tree.LiesWithin c n}.ncard = size
  /-- The loop is over after a visit to each of them. -/
  ends : (Descent.start n).after? tree size = some ⟨[], tree.subtreeMutants n⟩
  /-- It is a depth-first walk. -/
  unfold : ∃ node, tree.nodes[n]? = some node ∧
    tree.subtreeMutants n = node.mutants ++ node.children.flatMap tree.subtreeMutants
  /-- They are numbered in one block, in the order in which they are visited. -/
  block : ∀ c, tree.LiesWithin c n ↔ n ≤ c ∧ c < n + size
  fits : n + size ≤ tree.nodeCount
  extract : tree.subtreeMutants n =
    (tree.nodes.extract n (n + size)).toList.flatMap Node.mutants
  nodup : (tree.subtreeMutants n).Nodup
  /-- The mutants collected are those that sit inside the place. -/
  mem_iff : ∀ m, m ∈ tree.subtreeMutants n ↔ ∃ c, tree.owner m = .ok c ∧ tree.LiesWithin c n

/-- In a tree that is built the walk over a subtree is the depth-first walk, and the walks from all
outermost places collect every mutant once. -/
theorem subtrees_in_preorder {order : List (MutantId × NodeId) → List (MutantId × NodeId)}
    (horder : ∀ entries, (order entries).Perm entries) {description : Description} {tree : Tree}
    (hbuilt : ofDescriptionBy order description = .ok tree) :
    (∀ n, n < tree.nodeCount → ∃ size, tree.WalksBlock n size) ∧
      ((tree.roots.flatMap tree.subtreeMutants).map UInt32.toNat).Perm
        (List.range tree.mutantCount) := by
  have h := builtFrom_of_ofDescriptionBy horder hbuilt
  constructor
  · intro n hn
    rw [h.nodeCount_eq, ← length_preorderOfForest] at hn
    obtain ⟨place, hplace⟩ : ∃ place, (preorderOfForest description.files)[n]? = some place :=
      ⟨_, List.getElem?_eq_getElem hn⟩
    have hnode : tree.nodes[n]? = some (entry n place) := by
      rw [h.getElem?_nodes, hplace, Option.map_some]
    refine ⟨place.size, ?_⟩
    constructor
    · exact h.ncard_liesWithin hplace
    · exact h.after?_start hplace
    · exact ⟨_, hnode, h.subtreeMutants_unfold hnode⟩
    · exact h.liesWithin_iff hplace
    · exact h.nodeCount_eq ▸ add_size_le_sizeOfForest hplace
    · exact h.subtreeMutants_eq_extract hplace
    · exact h.nodup_subtreeMutants hplace
    · exact h.mem_subtreeMutants_iff_liesWithin hplace
  · have hall : tree.roots.flatMap tree.subtreeMutants = description.mutants := by
      rw [h.roots]
      exact h.flatMap_subtreeMutants_starts description.files 0 [] (by simp)
    rw [hall]
    exact h.perm_range

/-- One file with two places inside its outermost one, and another inside the first of these. -/
def branchingDescription : Description where
  files := [.mk [.mk [.mk [] [.removeStmt 2]] [.removeStmt 1], .mk [] [.removeStmt 3]]
    [.replaceExpr [0]]]

/-- The tree of this file. -/
def branching : Tree where
  nodes := #[⟨[0], [1, 3]⟩, ⟨[1], [2]⟩, ⟨[2], []⟩, ⟨[3], []⟩]
  parents := #[none, some 0, some 1, some 0]
  roots := [0]
  owners := #[0, 1, 2, 3]

theorem ofDescriptionBy_branching : ofDescriptionBy id branchingDescription = .ok branching := by
  have hfresh : firstRepeated {}
      ((Layout.plantForest none {} branchingDescription.files).1.entries.map Prod.fst) = none :=
    (firstRepeated_eq_none_iff _ _).mpr ⟨by decide, by simp⟩
  simp only [ofDescriptionBy, hfresh]
  rfl

-- After the first visit the first place inside is on top, with the second below it.
example : (Descent.start 0).after? branching 1 = some ⟨[3, 1], [0]⟩ := by
  decide

example : (Descent.start 0).after? branching 4 = some ⟨[], [0, 1, 2, 3]⟩ := by
  decide

theorem subtrees_in_preorder_branching :
    (∀ entries : List (MutantId × NodeId), (id entries).Perm entries) ∧
      ofDescriptionBy id branchingDescription = .ok branching ∧
      (∀ n, n < branching.nodeCount → ∃ size, branching.WalksBlock n size) ∧
      ((branching.roots.flatMap branching.subtreeMutants).map UInt32.toNat).Perm
        (List.range branching.mutantCount) :=
  ⟨List.Perm.refl, ofDescriptionBy_branching,
    subtrees_in_preorder List.Perm.refl ofDescriptionBy_branching⟩

end Tree

end MutantHunt
