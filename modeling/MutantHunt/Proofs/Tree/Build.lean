import Mathlib.Data.List.Nodup
import Mathlib.Data.List.Perm.Subperm
import MutantHunt.Proofs.Tree.Layout

/-!
# Trees that come from a description

`Tree.BuiltFrom tree description` collects all that a successful build promises: the three tables
of places in closed form, and that the mutants are numbered without gaps and without repetition,
each in the table of owners at its place.  Theorems about trees assume this and nothing else, so
no proof outside this module looks at how a tree is built.

## Main results

* `builtFrom_of_ofDescriptionBy` — a build that succeeds, in whatever order it fills the table of
  owners, gives such a tree.
* `loop_starts` — what every loop with a stack of places does in such a tree: it runs through a
  forest as through the list of its places.
-/

namespace MutantHunt

open NodeDescription

namespace NodeDescription

/-- The mutants of a forest are those of its places, one place after the other. -/
theorem allMutantsOfForest_eq (forest : List NodeDescription) :
    allMutantsOfForest forest = (preorderOfForest forest).flatMap NodeDescription.mutants := by
  induction forest using forest_induction with
  | nil => rfl
  | cons children groups rest ihChildren ihRest =>
      rw [preorderOfForest_cons, List.flatMap_cons, List.flatMap_append, ← ihChildren, ← ihRest]
      simp only [allMutantsOfForest, allMutants, NodeDescription.mutants, groups_mk,
        List.append_assoc]

theorem map_mutants_arena (id : NodeId) (forest : List NodeDescription) :
    (arena id forest).map Node.mutants =
      (preorderOfForest forest).map NodeDescription.mutants := by
  apply List.ext_getElem?
  intro n
  rw [List.getElem?_map, List.getElem?_map, getElem?_arena, Option.map_map]
  rfl

theorem flatMap_mutants_arena (id : NodeId) (forest : List NodeDescription) :
    (arena id forest).flatMap Node.mutants = allMutantsOfForest forest := by
  rw [allMutantsOfForest_eq, List.flatMap_def, List.flatMap_def, map_mutants_arena]

/-- Collecting the mutants of a forest place by place, behind those found before. -/
theorem foldl_mutants_arena (n : NodeId) (forest : List NodeDescription)
    (found : List MutantId) :
    ((arena n forest).zipIdx n).foldl (fun found place => found ++ place.1.mutants) found =
      found ++ allMutantsOfForest forest := by
  have hplaces : ((arena n forest).zipIdx n).map (fun place => place.1.mutants) =
      (((arena n forest).zipIdx n).map Prod.fst).map Node.mutants := by
    rw [List.map_map]
    rfl
  rw [List.foldl_append_eq_append, hplaces, List.zipIdx_map_fst, ← List.flatMap_def,
    flatMap_mutants_arena]

end NodeDescription

/-! ## Repeated and missing numbers -/

/-- No member occurred before exactly if the list holds nothing twice and nothing seen. -/
theorem firstRepeated_eq_none_iff (seen : Std.HashSet MutantId) (ms : List MutantId) :
    firstRepeated seen ms = none ↔ ms.Nodup ∧ ∀ m ∈ ms, m ∉ seen := by
  induction ms generalizing seen with
  | nil => simp [firstRepeated]
  | cons m rest ih =>
      unfold firstRepeated
      by_cases hseen : m ∈ seen
      · have hcontains : seen.contains m = true := Std.HashSet.mem_iff_contains.mp hseen
        rw [if_pos hcontains]
        simp [hseen]
      · have hcontains : ¬seen.contains m = true := fun h =>
          hseen (Std.HashSet.mem_iff_contains.mpr h)
        rw [if_neg hcontains, ih (seen.insert m)]
        simp only [List.nodup_cons, List.mem_cons, forall_eq_or_imp, Std.HashSet.mem_insert,
          beq_iff_eq, not_or]
        constructor
        · rintro ⟨hnodup, hfresh⟩
          exact ⟨⟨fun hm => (hfresh m hm).1 rfl, hnodup⟩, hseen, fun x hx => (hfresh x hx).2⟩
        · rintro ⟨⟨hm, hnodup⟩, -, hfresh⟩
          exact ⟨hnodup, fun x hx => ⟨fun heq => hm (heq ▸ hx), hfresh x hx⟩⟩

/-- Mutants are all the numbers below their count, each once, iff no two are equal and none is too
large: as many different numbers below the count are all of them. -/
theorem perm_range_iff (ms : List MutantId) :
    (ms.map UInt32.toNat).Perm (List.range ms.length) ↔
      ms.Nodup ∧ ∀ m ∈ ms, m.toNat < ms.length := by
  constructor
  · intro hperm
    have hnodup : (ms.map UInt32.toNat).Nodup := hperm.nodup_iff.mpr List.nodup_range
    refine ⟨hnodup.of_map _, fun m hm => ?_⟩
    exact List.mem_range.mp (hperm.mem_iff.mp (List.mem_map_of_mem hm))
  · rintro ⟨hnodup, hlt⟩
    have hdistinct : (ms.map UInt32.toNat).Nodup :=
      hnodup.map fun a b heq => UInt32.toNat_inj.mp heq
    have hsubset : ms.map UInt32.toNat ⊆ List.range ms.length := by
      intro i hi
      obtain ⟨m, hm, rfl⟩ := List.mem_map.mp hi
      exact List.mem_range.mpr (hlt m hm)
    exact (List.subperm_of_subset hdistinct hsubset).perm_of_length_le
      (Nat.le_of_eq (by rw [List.length_range, List.length_map]))

/-- A list that names no mutant twice is strictly ascending once it is sorted. -/
theorem pairwise_lt_mergeSort {ms : List MutantId} (hnodup : ms.Nodup) :
    ms.mergeSort.Pairwise (· < ·) := by
  have hsorted : ms.mergeSort.Pairwise fun a b => decide (a ≤ b) = true :=
    List.pairwise_mergeSort (fun a b c hab hbc => by
      simpa using UInt32.le_trans (by simpa using hab) (by simpa using hbc))
      (fun a b => by simpa using UInt32.le_total a b) _
  have hdistinct : ms.mergeSort.Nodup := (List.mergeSort_perm _ _).nodup_iff.mpr hnodup
  refine (hsorted.and hdistinct).imp fun {a b} hab => ?_
  exact UInt32.lt_of_le_of_ne (by simpa using hab.1) hab.2

/-- Filling the table succeeds only if every mutant has an index in it; then each mutant that
occurs once is at its index. -/
theorem fillOwners_ok {owners filled : Array NodeId} {entries : List (MutantId × NodeId)}
    (hok : fillOwners owners entries = .ok filled) (hnodup : (entries.map Prod.fst).Nodup) :
    filled.size = owners.size ∧
      (∀ entry ∈ entries, entry.1.toNat < owners.size ∧ filled[entry.1.toNat]? = some entry.2) ∧
      ∀ i, (∀ entry ∈ entries, entry.1.toNat ≠ i) → filled[i]? = owners[i]? := by
  induction entries generalizing owners with
  | nil =>
      simp only [fillOwners, Except.ok.injEq] at hok
      subst hok
      simp
  | cons entry rest ih =>
      obtain ⟨mutant, node⟩ := entry
      rw [List.map_cons, List.nodup_cons] at hnodup
      obtain ⟨hfresh, hnodup⟩ := hnodup
      unfold fillOwners at hok
      by_cases hlt : mutant.toNat < owners.size
      · rw [if_pos hlt] at hok
        obtain ⟨hsize, hentries, hframe⟩ := ih hok hnodup
        rw [Array.size_set!] at hsize hentries
        have hothers : ∀ entry ∈ rest, entry.1.toNat ≠ mutant.toNat := by
          intro entry hentry heq
          have hmember : entry.1 ∈ rest.map Prod.fst := List.mem_map_of_mem hentry
          exact hfresh (UInt32.toNat_inj.mp heq ▸ hmember)
        refine ⟨hsize, ?_, ?_⟩
        · intro entry hentry
          rcases List.mem_cons.mp hentry with rfl | hrest
          · refine ⟨hlt, ?_⟩
            rw [hframe mutant.toNat hothers, Array.set!_eq_setIfInBounds,
              Array.getElem?_setIfInBounds_self_of_lt hlt]
          · exact hentries entry hrest
        · intro i hi
          rw [hframe i fun entry hentry => hi entry (List.mem_cons_of_mem _ hentry),
            Array.set!_eq_setIfInBounds,
            Array.getElem?_setIfInBounds_ne (hi (mutant, node) List.mem_cons_self)]
      · rw [if_neg hlt] at hok
        cases hok

namespace Layout

theorem mem_entries_iff (layout : Layout) (m : MutantId) (n : NodeId) :
    (m, n) ∈ layout.entries ↔ ∃ node, layout.nodes.toList[n]? = some node ∧ m ∈ node.mutants := by
  simp only [entries, List.mem_flatMap, List.mem_map, Prod.mk.injEq, Prod.exists,
    List.mem_zipIdx_iff_getElem?]
  constructor
  · rintro ⟨node, id, hnode, m', hm, rfl, rfl⟩
    exact ⟨node, hnode, hm⟩
  · rintro ⟨node, hnode, hm⟩
    exact ⟨node, n, hnode, m, hm, rfl, rfl⟩

theorem map_fst_entries (layout : Layout) :
    layout.entries.map Prod.fst = layout.nodes.toList.flatMap Node.mutants := by
  have hpair : ∀ pair : Node × Nat,
      (pair.1.mutants.map (·, pair.2)).map Prod.fst = pair.1.mutants := by
    intro pair
    rw [List.map_map]
    exact List.map_id _
  calc layout.entries.map Prod.fst
      = layout.nodes.toList.zipIdx.flatMap fun pair => pair.1.mutants := by
        simp only [entries, List.map_flatMap, hpair]
    _ = (layout.nodes.toList.zipIdx.map Prod.fst).flatMap Node.mutants := by
        rw [List.flatMap_map]
    _ = layout.nodes.toList.flatMap Node.mutants := by rw [List.zipIdx_map_fst]

/-- Laid out, the places hold the mutants of the description in the order of the walk. -/
theorem map_fst_entries_plantForest (description : Description) :
    (plantForest none {} description.files).1.entries.map Prod.fst = description.mutants := by
  obtain ⟨hnodes, -, -⟩ := plantForest_eq description.files none {} rfl
  rw [map_fst_entries, hnodes]
  exact flatMap_mutants_arena 0 description.files

end Layout

/-! ## Built trees -/

namespace Tree

/-- What a successful build promises of a tree. -/
structure BuiltFrom (tree : Tree) (description : Description) : Prop where
  nodes : tree.nodes.toList = arena 0 description.files
  parents : tree.parents.toList = parentsOfForest none 0 description.files
  roots : tree.roots = starts 0 description.files
  /-- There are as many owners as mutants. -/
  count : tree.mutantCount = description.mutants.length
  nodup : description.mutants.Nodup
  dense : ∀ m ∈ description.mutants, m.toNat < tree.mutantCount
  /-- A mutant is in the table of owners at the number of its place. -/
  owners : ∀ (n : NodeId) (place : NodeDescription) (m : MutantId),
    (preorderOfForest description.files)[n]? = some place →
      m ∈ place.mutants → tree.owners[m.toNat]? = some n

/-- A build that succeeds keeps its promises, in whatever order it goes through the mutants. -/
theorem builtFrom_of_ofDescriptionBy
    {order : List (MutantId × NodeId) → List (MutantId × NodeId)}
    (horder : ∀ entries, (order entries).Perm entries) {description : Description} {tree : Tree}
    (hbuilt : ofDescriptionBy order description = .ok tree) : tree.BuiltFrom description := by
  obtain ⟨hnodes, hparents, hroots⟩ :=
    Layout.plantForest_eq description.files none {} rfl
  have hmutants := Layout.map_fst_entries_plantForest description
  generalize hplanted : Layout.plantForest none {} description.files = planted at *
  obtain ⟨layout, roots⟩ := planted
  simp only [List.size_toArray, List.length_nil, List.nil_append] at hnodes hparents hroots hmutants
  simp only [ofDescriptionBy, hplanted, hmutants] at hbuilt
  cases hrepeated : firstRepeated {} description.mutants with
  | some m =>
      rw [hrepeated] at hbuilt
      cases hbuilt
  | none =>
      rw [hrepeated] at hbuilt
      have hnodup := ((firstRepeated_eq_none_iff {} _).mp hrepeated).1
      cases hfill : fillOwners (Array.replicate layout.entries.length 0) (order layout.entries) with
      | error why => rw [hfill] at hbuilt; cases hbuilt
      | ok owners =>
          rw [hfill] at hbuilt
          cases hbuilt
          have hperm := horder layout.entries
          obtain ⟨hsize, hentries, -⟩ := fillOwners_ok hfill (by
            rw [(hperm.map Prod.fst).nodup_iff, hmutants]
            exact hnodup)
          rw [Array.size_replicate] at hsize hentries
          have hcount : owners.size = description.mutants.length := by
            rw [hsize, ← hmutants, List.length_map]
          refine ⟨hnodes, hparents, hroots, hcount, hnodup, ?_, ?_⟩
          · intro m hm
            rw [← hmutants, List.mem_map] at hm
            obtain ⟨entry, hentry, rfl⟩ := hm
            change entry.1.toNat < owners.size
            rw [hsize]
            exact (hentries entry (hperm.mem_iff.mpr hentry)).1
          · intro n place m hplace hm
            have hentry : (m, n) ∈ layout.entries := by
              rw [layout.mem_entries_iff, hnodes, getElem?_arena, hplace]
              exact ⟨entry (0 + n) place, rfl, hm⟩
            exact (hentries (m, n) (hperm.mem_iff.mpr hentry)).2

namespace BuiltFrom

variable {tree : Tree} {description : Description}

/-- The mutants of a description are all the numbers below their count: they are as many, and no
two are equal. -/
theorem perm_range (h : tree.BuiltFrom description) :
    (description.mutants.map UInt32.toNat).Perm (List.range tree.mutantCount) := by
  rw [h.count]
  exact (perm_range_iff _).mpr ⟨h.nodup, fun m hm => h.count ▸ h.dense m hm⟩

theorem mem_mutants_iff (h : tree.BuiltFrom description) (m : MutantId) :
    m ∈ description.mutants ↔ m.toNat < tree.mutantCount := by
  constructor
  · exact h.dense m
  · intro hlt
    obtain ⟨m', hm', heq⟩ := List.mem_map.mp (h.perm_range.mem_iff.mpr (List.mem_range.mpr hlt))
    exact UInt32.toNat_inj.mp heq ▸ hm'

/-- A number below the count is the number of a mutant at a place of the description. -/
theorem exists_place (h : tree.BuiltFrom description) {m : MutantId}
    (hm : m.toNat < tree.mutantCount) :
    ∃ (n : NodeId) (place : NodeDescription),
      (preorderOfForest description.files)[n]? = some place ∧ m ∈ place.mutants := by
  have hmem := (h.mem_mutants_iff m).mpr hm
  rw [Description.mutants, allMutantsOfForest_eq, List.mem_flatMap] at hmem
  obtain ⟨place, hplace, hm⟩ := hmem
  obtain ⟨n, hn⟩ := List.mem_iff_getElem?.mp hplace
  exact ⟨n, place, hn, hm⟩

/-- The owner of a mutant is the number of the place it is at, and no other. -/
theorem owners_eq_some_iff (h : tree.BuiltFrom description) (m : MutantId) (n : NodeId) :
    tree.owners[m.toNat]? = some n ↔
      ∃ place, (preorderOfForest description.files)[n]? = some place ∧ m ∈ place.mutants := by
  constructor
  · intro howner
    have hlt : m.toNat < tree.mutantCount := (Array.getElem?_eq_some_iff.mp howner).1
    obtain ⟨n', place, hplace, hm⟩ := h.exists_place hlt
    have heq := h.owners n' place m hplace hm
    rw [howner, Option.some.injEq] at heq
    exact heq ▸ ⟨place, hplace, hm⟩
  · rintro ⟨place, hplace, hm⟩
    exact h.owners n place m hplace hm

theorem getElem?_nodes (h : tree.BuiltFrom description) (n : NodeId) :
    tree.nodes[n]? = (preorderOfForest description.files)[n]?.map (entry n) := by
  rw [← Array.getElem?_toList, h.nodes, getElem?_arena, Nat.zero_add]

theorem nodeCount_eq (h : tree.BuiltFrom description) :
    tree.nodeCount = sizeOfForest description.files := by
  rw [nodeCount, ← Array.length_toList, h.nodes, length_arena]

/-! ### Loops with a stack -/

/-- A loop that takes the place on top off its stack each time, and puts those directly inside it
on, runs through a forest that stands in the arena as through the list of its places.  It goes on
with what was below the forest on the stack. -/
theorem loop_starts (h : tree.BuiltFrom description) {α β : Type}
    (loop : Nat → List NodeId → α → β) (visit : α → Node × NodeId → α)
    (hround : ∀ rounds id node pending found, tree.nodes[id]? = some node →
      loop (rounds + 1) (id :: pending) found =
        loop rounds (node.children ++ pending) (visit found (node, id)))
    (forest : List NodeDescription) (n : Nat) (behind : List NodeDescription)
    (hat : (preorderOfForest description.files).drop n = preorderOfForest forest ++ behind)
    (rounds : Nat) (pending : List NodeId) (found : α) :
    loop (sizeOfForest forest + rounds) (starts n forest ++ pending) found =
      loop rounds pending (((arena n forest).zipIdx n).foldl visit found) := by
  induction forest using forest_induction generalizing n behind rounds pending found with
  | nil =>
      rw [sizeOfForest_nil, Nat.zero_add]
      rfl
  | cons children groups rest ihChildren ihRest =>
      obtain ⟨hhere, hinside, hafter⟩ := drop_of_drop_eq hat
      have hnode : tree.nodes[n]? = some (entry n (.mk children groups)) := by
        rw [h.getElem?_nodes, hhere, Option.map_some]
      have hrounds : sizeOfForest (.mk children groups :: rest) + rounds =
          (sizeOfForest children + (sizeOfForest rest + rounds)) + 1 := by
        rw [sizeOfForest_cons, size_mk]
        omega
      have hstack : starts n (.mk children groups :: rest) ++ pending =
          n :: (starts (n + (1 + sizeOfForest children)) rest ++ pending) := rfl
      have hchildren : (entry n (.mk children groups)).children = starts (n + 1) children := rfl
      have hplaces : (arena n (.mk children groups :: rest)).zipIdx n =
          (entry n (.mk children groups), n) :: ((arena (n + 1) children).zipIdx (n + 1) ++
            (arena (n + (1 + sizeOfForest children)) rest).zipIdx
              (n + (1 + sizeOfForest children))) := by
        rw [arena_cons, List.zipIdx_cons, List.zipIdx_append, length_arena, Nat.add_assoc]
      -- While the loop is in the first tree, the others wait below on the stack.
      rw [hrounds, hstack, hround _ _ _ _ _ hnode, hchildren, ihChildren (n + 1) _ hinside,
        ihRest _ _ hafter, hplaces, List.foldl_cons, List.foldl_append]

end BuiltFrom

/-! ## A small tree -/

/-- Two files: in the first, mutant 1 sits inside the place of mutant 0; mutant 2 is alone. -/
def twoFilesDescription : Description where
  files := [.mk [.mk [] [.removeStmt 1]] [.removeStmt 0], .mk [] [.removeStmt 2]]

/-- The tree of these two files. -/
def twoFiles : Tree where
  nodes := #[⟨[0], [1]⟩, ⟨[1], []⟩, ⟨[2], []⟩]
  parents := #[none, some 0, none]
  roots := [0, 2]
  owners := #[0, 1, 2]

theorem ofDescriptionBy_twoFiles : ofDescriptionBy id twoFilesDescription = .ok twoFiles := by
  have hfresh : firstRepeated {}
      ((Layout.plantForest none {} twoFilesDescription.files).1.entries.map Prod.fst) = none :=
    (firstRepeated_eq_none_iff _ _).mpr ⟨by decide, by simp⟩
  simp only [ofDescriptionBy, hfresh]
  rfl

end Tree

end MutantHunt
