import MutantHunt.Proofs.Tree.Kinship

/-!
# The arena mirrors the description

The arena holds three tables that are filled at different moments: the places with the numbers of
those directly inside them, the place around each place, and the outermost places.  Each was given
in closed form, from the description alone, so what they have to do with each other is a fact about
forests: `parentsOfForest` and `starts` say the same about who is directly inside whom, and the
members of `starts` over all places are all places but the outermost.

Going the other way, `Tree.outlines` reads a forest back from the arena, through the numbers it
holds, and `Tree.visit` follows these numbers depth first.  The first gives the description, the
second all numbers in order.

## Main results

* `mem_starts_iff` — the two tables agree.
* `starts_append_perm` — every place is named once, as outermost or by the place around it.
* `outlines_eq`, `visit_eq` — the arena read back.
* `arena_mirrors` — all of this for the tree of any description that makes one.
-/

namespace MutantHunt

open NodeDescription

/-- A place with its mutants and the places inside it. -/
inductive Outline where
  | mk (mutants : List MutantId) (inside : List Outline)
  deriving Repr

namespace NodeDescription

mutual

/-- A described place, without the kinds of its rewrites. -/
def outline : NodeDescription → Outline
  | mk children groups => .mk (groups.flatMap MutationGroup.mutants) (outlinesOfForest children)

/-- Several described places, without the kinds of their rewrites. -/
def outlinesOfForest : List NodeDescription → List Outline
  | [] => []
  | node :: rest => outline node :: outlinesOfForest rest

end

/-! ## Who is directly inside whom -/

section Split

variable {parent : Option NodeId} {id : Nat} {children rest : List NodeDescription}
  {groups : List MutationGroup}

theorem starts_cons :
    starts id (mk children groups :: rest) =
      id :: starts (id + (1 + sizeOfForest children)) rest := rfl

/-- The numbers of a forest are that of its first place, those inside it, and the others. -/
theorem range'_sizeOfForest :
    List.range' id (sizeOfForest (mk children groups :: rest)) =
      id :: (List.range' (id + 1) (sizeOfForest children) ++
        List.range' (id + (1 + sizeOfForest children)) (sizeOfForest rest)) := by
  rw [sizeOfForest_cons, size_mk, Nat.add_assoc, Nat.add_comm 1, List.range'_succ,
    ← Nat.add_assoc id, List.range'_append_1]

theorem getElem?_parents_inside {k : Nat} (hk : k < sizeOfForest children) :
    (parentsOfForest parent id (mk children groups :: rest))[k + 1]? =
      (parentsOfForest (some id) (id + 1) children)[k]? := by
  rw [parentsOfForest_cons, List.getElem?_cons_succ, List.getElem?_append_left (by simpa using hk)]

theorem getElem?_parents_outside (k : Nat) :
    (parentsOfForest parent id (mk children groups :: rest))[k + (1 + sizeOfForest children)]? =
      (parentsOfForest parent (id + (1 + sizeOfForest children)) rest)[k]? := by
  have hplace : k + (1 + sizeOfForest children) = k + sizeOfForest children + 1 := by omega
  rw [hplace, parentsOfForest_cons, List.getElem?_cons_succ,
    List.getElem?_append_right (by simp)]
  simp

end Split

/-- A position in a forest is its first place, inside that, or in one of the other trees. -/
theorem position_cases (size k : Nat) :
    k = 0 ∨ (∃ i, i < size ∧ k = i + 1) ∨ ∃ i, k = i + (1 + size) := by
  rcases Nat.eq_zero_or_pos k with hzero | hpos
  · exact .inl hzero
  · by_cases hinside : k < 1 + size
    · exact .inr (.inl ⟨k - 1, by omega, by omega⟩)
    · exact .inr (.inr ⟨k - (1 + size), by omega⟩)

theorem lt_sizeOfForest_of_parents {forest : List NodeDescription} {parent around : Option NodeId}
    {id k : Nat} (hk : (parentsOfForest parent id forest)[k]? = some around) :
    k < sizeOfForest forest := by
  have hlt := (List.getElem?_eq_some_iff.mp hk).1
  rwa [length_parentsOfForest] at hlt

/-- An outermost place of a forest has the place around it that the whole forest has. -/
theorem getElem?_parents_of_mem_starts {forest : List NodeDescription} (parent : Option NodeId)
    {id c : Nat} (hc : c ∈ starts id forest) :
    ∃ k, c = id + k ∧ (parentsOfForest parent id forest)[k]? = some parent := by
  induction forest using forest_induction generalizing id with
  | nil => simp [starts] at hc
  | cons children groups rest _ ihRest =>
      rw [starts_cons] at hc
      rcases List.mem_cons.mp hc with rfl | hc
      · exact ⟨0, rfl, rfl⟩
      · obtain ⟨k, rfl, hk⟩ := ihRest hc
        exact ⟨k + (1 + sizeOfForest children), by omega, (getElem?_parents_outside k).trans hk⟩

/-- A place that is directly inside place `j` of a forest has that place around it. -/
theorem getElem?_parents_of_mem_children {forest : List NodeDescription} (parent : Option NodeId)
    (id : Nat) {c j : Nat} {place : NodeDescription}
    (hplace : (preorderOfForest forest)[j]? = some place)
    (hc : c ∈ starts (id + j + 1) place.children) :
    ∃ k, c = id + k ∧ (parentsOfForest parent id forest)[k]? = some (some (id + j)) := by
  induction forest using forest_induction generalizing parent id j with
  | nil => simp at hplace
  | cons children groups rest ihChildren ihRest =>
      rcases position_cases (sizeOfForest children) j with rfl | ⟨i, hi, rfl⟩ | ⟨i, rfl⟩
      · rw [preorderOfForest_cons, List.getElem?_cons_zero, Option.some.injEq] at hplace
        subst hplace
        rw [Nat.add_zero] at hc ⊢
        obtain ⟨k, rfl, hk⟩ := getElem?_parents_of_mem_starts (some id) hc
        have hlt := lt_sizeOfForest_of_parents hk
        exact ⟨k + 1, by omega, (getElem?_parents_inside hlt).trans hk⟩
      · rw [getElem?_inside hi] at hplace
        have hplus : id + (i + 1) = id + 1 + i := by omega
        rw [hplus] at hc ⊢
        obtain ⟨k, rfl, hk⟩ := ihChildren (some id) _ hplace hc
        have hlt := lt_sizeOfForest_of_parents hk
        exact ⟨k + 1, by omega, (getElem?_parents_inside hlt).trans hk⟩
      · rw [getElem?_outside] at hplace
        have hplus : id + (i + (1 + sizeOfForest children)) =
            id + (1 + sizeOfForest children) + i := by omega
        rw [hplus] at hc ⊢
        obtain ⟨k, rfl, hk⟩ := ihRest parent _ hplace hc
        exact ⟨k + (1 + sizeOfForest children), by omega, (getElem?_parents_outside k).trans hk⟩

/-- Every place of a forest is outermost, or directly inside the place that is around it. -/
theorem mem_starts_or_mem_children {forest : List NodeDescription} {parent around : Option NodeId}
    {id k : Nat} (hk : (parentsOfForest parent id forest)[k]? = some around) :
    (around = parent ∧ id + k ∈ starts id forest) ∨
      ∃ j place, (preorderOfForest forest)[j]? = some place ∧ around = some (id + j) ∧
        id + k ∈ starts (id + j + 1) place.children := by
  induction forest using forest_induction generalizing parent id k with
  | nil => simp [parentsOfForest] at hk
  | cons children groups rest ihChildren ihRest =>
      rcases position_cases (sizeOfForest children) k with rfl | ⟨i, hi, rfl⟩ | ⟨i, rfl⟩
      · rw [parentsOfForest_cons, List.getElem?_cons_zero, Option.some.injEq] at hk
        exact .inl ⟨hk.symm, List.mem_cons_self⟩
      · rw [getElem?_parents_inside hi] at hk
        have hplus : id + (i + 1) = id + 1 + i := by omega
        rw [hplus]
        rcases ihChildren hk with ⟨rfl, hc⟩ | ⟨j, place, hplace, rfl, hc⟩
        · exact .inr ⟨0, mk children groups, rfl, rfl, hc⟩
        · have hj : j < sizeOfForest children := by
            have hlt := (List.getElem?_eq_some_iff.mp hplace).1
            rwa [length_preorderOfForest] at hlt
          have hnumber : id + 1 + j = id + (j + 1) := by omega
          refine .inr ⟨j + 1, place, (getElem?_inside hj).trans hplace, by rw [hnumber], ?_⟩
          rwa [← hnumber]
      · rw [getElem?_parents_outside] at hk
        have hplus : id + (i + (1 + sizeOfForest children)) =
            id + (1 + sizeOfForest children) + i := by omega
        rw [hplus]
        rcases ihRest hk with ⟨rfl, hc⟩ | ⟨j, place, hplace, rfl, hc⟩
        · exact .inl ⟨rfl, List.mem_cons_of_mem id hc⟩
        · have hnumber : id + (1 + sizeOfForest children) + j =
              id + (j + (1 + sizeOfForest children)) := by omega
          refine .inr ⟨j + (1 + sizeOfForest children), place,
            (getElem?_outside j).trans hplace, by rw [hnumber], ?_⟩
          rwa [← hnumber]

/-- Every number of a forest is named once: as that of an outermost place, or by the place that
it is directly inside. -/
theorem starts_append_perm (id : Nat) (forest : List NodeDescription) :
    (starts id forest ++ (arena id forest).flatMap Node.children).Perm
      (List.range' id (sizeOfForest forest)) := by
  induction forest using forest_induction generalizing id with
  | nil => simp [starts, arena]
  | cons children groups rest ihChildren ihRest =>
      have hchildren := ihChildren (id + 1)
      have hrest := ihRest (id + (1 + sizeOfForest children))
      rw [range'_sizeOfForest, starts_cons, arena_cons, List.flatMap_cons, List.flatMap_append,
        List.cons_append]
      refine .cons id (.trans ?_ (hchildren.append hrest))
      -- The outermost places of the other trees move behind those inside the first.
      have hswap := List.perm_append_comm_assoc
        (starts (id + (1 + sizeOfForest children)) rest)
        (starts (id + 1) children ++ (arena (id + 1) children).flatMap Node.children)
        ((arena (id + (1 + sizeOfForest children)) rest).flatMap Node.children)
      simpa only [entry, children_mk, List.append_assoc] using hswap

end NodeDescription

namespace Tree

/-! ## Reading the arena -/

/-- The outline of a place, read through the numbers of the places inside it.  The number bounds
how deep it is read. -/
def outlineUpTo (tree : Tree) : Nat → NodeId → Option Outline
  | 0, _ => none
  | depth + 1, id => do
    let node ← tree.nodes[id]?
    let inside ← node.children.mapM (tree.outlineUpTo depth)
    return .mk node.mutants inside

/-- The outlines of all files. -/
def outlines (tree : Tree) : Option (List Outline) :=
  tree.roots.mapM (tree.outlineUpTo tree.nodeCount)

/-- The numbers met on a walk from some places to all places inside them, depth first.  The first
number bounds how many are met. -/
def visit (tree : Tree) : Nat → List NodeId → List NodeId
  | 0, _ => []
  | _ + 1, [] => []
  | n + 1, id :: pending =>
    id :: visit tree n ((tree.nodes[id]?.map Node.children).getD [] ++ pending)

namespace BuiltFrom

variable {tree : Tree} {description : Description}

/-- A forest that stands in the arena is read back from the numbers of its outermost places. -/
theorem mapM_outlineUpTo (h : tree.BuiltFrom description) (forest : List NodeDescription) (n : Nat)
    (behind : List NodeDescription)
    (hat : (preorderOfForest description.files).drop n = preorderOfForest forest ++ behind)
    {depth : Nat} (hdepth : sizeOfForest forest ≤ depth) :
    (starts n forest).mapM (tree.outlineUpTo depth) = some (outlinesOfForest forest) := by
  induction forest using forest_induction generalizing n behind depth with
  | nil => rfl
  | cons children groups rest ihChildren ihRest =>
      obtain ⟨hhere, hinside, hafter⟩ := drop_of_drop_eq hat
      rw [sizeOfForest_cons, size_mk] at hdepth
      obtain ⟨depth, rfl⟩ := Nat.exists_eq_succ_of_ne_zero (by omega : depth ≠ 0)
      have hfirst : tree.outlineUpTo (depth + 1) n = some (outline (.mk children groups)) := by
        have hchildren := ihChildren (n + 1) _ hinside (by omega : sizeOfForest children ≤ depth)
        rw [outlineUpTo, h.getElem?_nodes, hhere]
        simp only [Option.map_some, entry, children_mk, hchildren, Option.bind_eq_bind,
          Option.bind_some]
        rfl
      have hrest := ihRest _ _ hafter (by omega : sizeOfForest rest ≤ depth + 1)
      rw [starts_cons, List.mapM_cons, Nat.succ_eq_add_one, hfirst, hrest]
      rfl

/-- Read back, the arena gives the description. -/
theorem outlines_eq (h : tree.BuiltFrom description) :
    tree.outlines = some (outlinesOfForest description.files) := by
  rw [outlines, h.roots, h.nodeCount_eq]
  exact h.mapM_outlineUpTo description.files 0 [] (by simp) (Nat.le_refl _)

/-- A walk over a forest that stands in the arena meets its numbers in order, and goes on. -/
theorem visit_starts (h : tree.BuiltFrom description) (forest : List NodeDescription) (n : Nat)
    (behind : List NodeDescription)
    (hat : (preorderOfForest description.files).drop n = preorderOfForest forest ++ behind)
    (fuel : Nat) (pending : List NodeId) :
    tree.visit (sizeOfForest forest + fuel) (starts n forest ++ pending) =
      List.range' n (sizeOfForest forest) ++ tree.visit fuel pending := by
  have hloop := h.loop_starts (fun rounds pending met => met ++ tree.visit rounds pending)
    (fun met place => met ++ [place.2]) (by
      intro rounds id node pending met hnode
      rw [visit, hnode]
      simp) forest n behind hat fuel pending []
  have hnumbers : (((arena n forest).zipIdx n).map fun place => [place.2]).flatten =
      List.range' n (sizeOfForest forest) := by
    rw [← List.flatMap_def, ← List.map_eq_flatMap, List.zipIdx_map_snd, length_arena]
  rw [List.foldl_append_eq_append, hnumbers] at hloop
  exact hloop

/-- The places are numbered in the order of a walk over all files. -/
theorem visit_eq (h : tree.BuiltFrom description) :
    tree.visit tree.nodeCount tree.roots = List.range tree.nodeCount := by
  have hvisit := h.visit_starts description.files 0 [] (by simp) 0 []
  rw [Nat.add_zero, List.append_nil, ← h.roots, ← h.nodeCount_eq] at hvisit
  rw [hvisit, List.range_eq_range']
  simp [visit]

/-! ## The tables agree -/

theorem parent?_eq_some_iff (h : tree.BuiltFrom description) (c p : NodeId) :
    tree.parent? c = some p ↔ ∃ node, tree.nodes[p]? = some node ∧ c ∈ node.children := by
  have hnode : (∃ node, tree.nodes[p]? = some node ∧ c ∈ node.children) ↔
      ∃ place, (preorderOfForest description.files)[p]? = some place ∧
        c ∈ starts (p + 1) place.children := by
    simp only [h.getElem?_nodes, Option.map_eq_some_iff]
    constructor
    · rintro ⟨node, ⟨place, hplace, rfl⟩, hc⟩
      exact ⟨place, hplace, hc⟩
    · rintro ⟨place, hplace, hc⟩
      exact ⟨_, ⟨place, hplace, rfl⟩, hc⟩
  rw [hnode, parent?, ← Array.getElem?_toList, h.parents, Option.join_eq_some_iff]
  constructor
  · intro hc
    rcases mem_starts_or_mem_children hc with ⟨hnone, -⟩ | ⟨j, place, hplace, hp, hmem⟩
    · cases hnone
    · rw [Option.some.injEq, Nat.zero_add] at hp
      rw [Nat.zero_add, Nat.zero_add] at hmem
      exact ⟨place, hp ▸ hplace, hp ▸ hmem⟩
  · rintro ⟨place, hplace, hc⟩
    obtain ⟨k, rfl, hk⟩ := getElem?_parents_of_mem_children none 0 hplace
      (by rwa [Nat.zero_add])
    rw [Nat.zero_add] at hk ⊢
    exact hk

theorem parent?_eq_none_iff (h : tree.BuiltFrom description) (c : NodeId) :
    tree.parent? c = none ↔ c ∈ tree.roots ∨ tree.nodeCount ≤ c := by
  rw [parent?, ← Array.getElem?_toList, h.parents, h.roots, h.nodeCount_eq]
  constructor
  · intro hnone
    cases hc : (parentsOfForest none 0 description.files)[c]? with
    | none =>
        rw [List.getElem?_eq_none_iff, length_parentsOfForest] at hc
        exact .inr hc
    | some around =>
        rw [hc, Option.join_some] at hnone
        rcases mem_starts_or_mem_children hc with ⟨-, hmem⟩ | ⟨j, place, -, hsome, -⟩
        · exact .inl (by rwa [Nat.zero_add] at hmem)
        · rw [hnone] at hsome
          cases hsome
  · rintro (hroot | hlarge)
    · obtain ⟨k, rfl, hk⟩ := getElem?_parents_of_mem_starts none hroot
      rw [Nat.zero_add, hk, Option.join_some]
    · rw [List.getElem?_eq_none (by rwa [length_parentsOfForest])]
      rfl

/-- Every place is named once, as outermost or by the place around it. -/
theorem roots_append_perm (h : tree.BuiltFrom description) :
    (tree.roots ++ tree.nodes.toList.flatMap Node.children).Perm (List.range tree.nodeCount) := by
  rw [h.roots, h.nodes, h.nodeCount_eq, List.range_eq_range']
  exact starts_append_perm 0 description.files

theorem nodup_children (h : tree.BuiltFrom description) {p : NodeId} {node : Node}
    (hnode : tree.nodes[p]? = some node) : node.children.Nodup := by
  have hnodup := (h.roots_append_perm.nodup_iff.mpr List.nodup_range).of_append_right
  rw [List.nodup_flatMap] at hnodup
  rw [← Array.getElem?_toList] at hnode
  exact hnodup.1 node (List.mem_of_getElem? hnode)

/-- The walk up from a place ends at an outermost one. -/
theorem getLast?_ancestors_mem_roots (h : tree.BuiltFrom description) {fuel : Nat} {c : Nat}
    (hc : c < tree.nodeCount) (hfuel : c ≤ fuel) :
    ∃ root ∈ tree.roots, (c :: tree.ancestors fuel c).getLast? = some root := by
  have htop : ∀ {c : Nat}, c < tree.nodeCount → tree.parent? c = none → c ∈ tree.roots := by
    intro c hc hnone
    rcases (h.parent?_eq_none_iff c).mp hnone with hroot | hlarge
    · exact hroot
    · exact absurd hlarge (Nat.not_le_of_lt hc)
  induction fuel generalizing c with
  | zero =>
      have hnone : tree.parent? c = none := by
        rw [Option.eq_none_iff_forall_ne_some]
        intro p hp
        have hlt := h.lt_of_parent?_eq_some hp
        omega
      exact ⟨c, htop hc hnone, rfl⟩
  | succ fuel ih =>
      unfold ancestors
      cases hparent : tree.parent? c with
      | none => exact ⟨c, htop hc hparent, rfl⟩
      | some p =>
          have hlt := h.lt_of_parent?_eq_some hparent
          obtain ⟨root, hroot, hlast⟩ := ih (c := p) (by omega) (by omega)
          exact ⟨root, hroot, by rw [List.getLast?_cons_cons, hlast]⟩

end BuiltFrom

/-- The tree holds the description, and its tables agree. -/
structure Mirrors (tree : Tree) (description : Description) : Prop where
  count : tree.nodeCount = description.size
  /-- Read back from the outermost places, the arena is the description: one outline per file, the
  places inside a place in order, at each the mutants of its groups one group after the other. -/
  outlines : tree.outlines = some (outlinesOfForest description.files)
  /-- The numbers of the places are those of a walk over the files, depth first. -/
  visit : tree.visit tree.nodeCount tree.roots = List.range tree.nodeCount
  /-- Place number `n` is the one that comes `n`-th in the description, depth first. -/
  place : ∀ n : Nat, tree.nodes[n]?.map Node.mutants =
    (preorderOfForest description.files)[n]?.map NodeDescription.mutants
  parent : ∀ c p, tree.parent? c = some p ↔
    ∃ node, tree.nodes[p]? = some node ∧ c ∈ node.children
  outermost : ∀ c, tree.parent? c = none ↔ c ∈ tree.roots ∨ tree.nodeCount ≤ c
  /-- A place that is not outermost is listed once, by one place. -/
  listed : ∀ c, c < tree.nodeCount → c ∉ tree.roots →
    ∃ (p : NodeId) (node : Node), tree.nodes[p]? = some node ∧ node.children.count c = 1 ∧
      ∀ (q : NodeId) (other : Node), tree.nodes[q]? = some other → c ∈ other.children → q = p
  before : ∀ c p, tree.parent? c = some p → p < c
  /-- The walk up from a place ends at an outermost one. -/
  ends : ∀ c, c < tree.nodeCount →
    ∃ root ∈ tree.roots, (c :: tree.ancestors tree.nodeCount c).getLast? = some root

/-- The tree of a description mirrors it. -/
theorem arena_mirrors {order : List (MutantId × NodeId) → List (MutantId × NodeId)}
    (horder : ∀ entries, (order entries).Perm entries) {description : Description} {tree : Tree}
    (hbuilt : ofDescriptionBy order description = .ok tree) : tree.Mirrors description := by
  have h := builtFrom_of_ofDescriptionBy horder hbuilt
  constructor
  · exact h.nodeCount_eq
  · exact h.outlines_eq
  · exact h.visit_eq
  · intro n
    rw [h.getElem?_nodes, Option.map_map]
    rfl
  · exact h.parent?_eq_some_iff
  · exact h.parent?_eq_none_iff
  · intro c hc hinner
    cases hparent : tree.parent? c with
    | none =>
        rcases (h.parent?_eq_none_iff c).mp hparent with hroot | hlarge
        · exact absurd hroot hinner
        · exact absurd hlarge (Nat.not_le_of_lt hc)
    | some p =>
        obtain ⟨node, hnode, hmem⟩ := (h.parent?_eq_some_iff c p).mp hparent
        refine ⟨p, node, hnode, List.count_eq_one_of_mem (h.nodup_children hnode) hmem, ?_⟩
        intro q other hother hc
        have hq := (h.parent?_eq_some_iff c q).mpr ⟨other, hother, hc⟩
        rw [hparent, Option.some.injEq] at hq
        exact hq.symm
  · exact fun c p hparent => h.lt_of_parent?_eq_some hparent
  · exact fun c hc => h.getLast?_ancestors_mem_roots hc (Nat.le_of_lt hc)

/-- Two files, with a place inside a place. -/
theorem arena_mirrors_twoFiles :
    (∀ entries : List (MutantId × NodeId), (id entries).Perm entries) ∧
      ofDescriptionBy id twoFilesDescription = .ok twoFiles ∧
      twoFiles.Mirrors twoFilesDescription :=
  ⟨List.Perm.refl, ofDescriptionBy_twoFiles,
    arena_mirrors List.Perm.refl ofDescriptionBy_twoFiles⟩

end Tree

end MutantHunt
