import MutantHunt.Tree

/-!
# The arena of a description in closed form

`Layout.plantForest` fills two arrays at three different moments: a place is pushed without the
places inside it, these are laid out behind it, and only then are their numbers written into it.
Here both arrays are given as lists that are computed from the description alone, so nothing that
follows has to look at a layout that is only half done.

The one list behind both is `preorderOfForest`: the places of a description, each directly before
the places inside it.  Place number `n` of the arena is member `n` of that list, and the block of
the next `size` members are the places inside it and itself.

## Main results

* `plantForest_eq` — what laying out a forest appends to each array, and the numbers it gives.
* `drop_preorderOfForest` — from a place on, the list starts with that place's own block.
* `parentsOfForest_spec` — the place around a place is the nearest earlier one whose block reaches
  beyond it.
-/

namespace MutantHunt

namespace NodeDescription

/-- Forests are built from the empty one by setting a place, with the forest inside it, before a
forest.  Every function on forests in this development recurses along this. -/
theorem forest_induction {motive : List NodeDescription → Prop} (nil : motive [])
    (cons : ∀ children groups rest, motive children → motive rest →
      motive (mk children groups :: rest)) :
    ∀ forest, motive forest
  | [] => nil
  | mk children groups :: rest =>
      cons children groups rest (forest_induction nil cons children)
        (forest_induction nil cons rest)

mutual

/-- A place and all places inside it, each before those inside it. -/
def preorder : NodeDescription → List NodeDescription
  | mk children groups => mk children groups :: preorderOfForest children

/-- The places of several trees, one tree behind the other. -/
def preorderOfForest : List NodeDescription → List NodeDescription
  | [] => []
  | node :: rest => preorder node ++ preorderOfForest rest

end

mutual

/-- The place around each place of a tree that starts at number `id`. -/
def parents (parent : Option NodeId) (id : NodeId) : NodeDescription → List (Option NodeId)
  | mk children _ => parent :: parentsOfForest (some id) (id + 1) children

/-- The place around each place of a forest that starts at number `id`. -/
def parentsOfForest (parent : Option NodeId) (id : NodeId) :
    List NodeDescription → List (Option NodeId)
  | [] => []
  | node :: rest => parents parent id node ++ parentsOfForest parent (id + node.size) rest

end

/-- The numbers of the outermost places of a forest that starts at number `id`. -/
def starts (id : NodeId) : List NodeDescription → List NodeId
  | [] => []
  | node :: rest => id :: starts (id + node.size) rest

/-- The entry of the arena for a place with number `id`. -/
def entry (id : NodeId) (place : NodeDescription) : Node where
  mutants := place.mutants
  children := starts (id + 1) place.children

/-- The entries of the arena for a forest that starts at number `id`. -/
def arena (id : NodeId) (forest : List NodeDescription) : List Node :=
  (preorderOfForest forest).mapIdx fun i place => entry (id + i) place

@[simp] theorem size_mk (children : List NodeDescription) (groups : List MutationGroup) :
    (mk children groups).size = 1 + sizeOfForest children := rfl

@[simp] theorem sizeOfForest_nil : sizeOfForest [] = 0 := rfl

@[simp] theorem sizeOfForest_cons (node : NodeDescription) (rest : List NodeDescription) :
    sizeOfForest (node :: rest) = node.size + sizeOfForest rest := rfl

theorem size_pos (node : NodeDescription) : 0 < node.size := by
  cases node with
  | mk children groups =>
      rw [size_mk]
      omega

@[simp] theorem preorderOfForest_nil : preorderOfForest [] = [] := rfl

theorem preorderOfForest_cons (children : List NodeDescription) (groups : List MutationGroup)
    (rest : List NodeDescription) :
    preorderOfForest (mk children groups :: rest) =
      mk children groups :: (preorderOfForest children ++ preorderOfForest rest) := rfl

theorem parentsOfForest_cons (parent : Option NodeId) (id : NodeId)
    (children : List NodeDescription) (groups : List MutationGroup)
    (rest : List NodeDescription) :
    parentsOfForest parent id (mk children groups :: rest) =
      parent :: (parentsOfForest (some id) (id + 1) children ++
        parentsOfForest parent (id + (1 + sizeOfForest children)) rest) := rfl

@[simp] theorem length_preorderOfForest (forest : List NodeDescription) :
    (preorderOfForest forest).length = sizeOfForest forest := by
  induction forest using forest_induction with
  | nil => rfl
  | cons children groups rest ihChildren ihRest =>
      rw [preorderOfForest_cons, List.length_cons, List.length_append, ihChildren, ihRest,
        sizeOfForest_cons, size_mk]
      omega

@[simp] theorem length_parentsOfForest (parent : Option NodeId) (id : NodeId)
    (forest : List NodeDescription) :
    (parentsOfForest parent id forest).length = sizeOfForest forest := by
  induction forest using forest_induction generalizing parent id with
  | nil => rfl
  | cons children groups rest ihChildren ihRest =>
      rw [parentsOfForest_cons, List.length_cons, List.length_append, ihChildren, ihRest,
        sizeOfForest_cons, size_mk]
      omega

@[simp] theorem length_arena (id : NodeId) (forest : List NodeDescription) :
    (arena id forest).length = sizeOfForest forest := by
  rw [arena, List.length_mapIdx, length_preorderOfForest]

theorem arena_cons (id : NodeId) (children : List NodeDescription) (groups : List MutationGroup)
    (rest : List NodeDescription) :
    arena id (mk children groups :: rest) =
      entry id (mk children groups) ::
        (arena (id + 1) children ++ arena (id + (1 + sizeOfForest children)) rest) := by
  simp only [arena, preorderOfForest_cons, List.mapIdx_cons, List.mapIdx_append,
    length_preorderOfForest, Nat.add_zero]
  congr 2
  · simp only [Nat.add_assoc, Nat.add_comm 1]
  · simp only [Nat.add_comm, Nat.add_left_comm]

theorem getElem?_arena (id : NodeId) (forest : List NodeDescription) (n : Nat) :
    (arena id forest)[n]? = (preorderOfForest forest)[n]?.map (entry (id + n)) := by
  rw [arena, List.getElem?_mapIdx]

/-! ## Blocks

The places of one tree of a forest stand together.  All that is known of the order of places
comes from this.
-/

/-- From a place on, the list of places starts with the places inside that place. -/
theorem drop_preorderOfForest (forest : List NodeDescription) (n : Nat) (place : NodeDescription)
    (hplace : (preorderOfForest forest)[n]? = some place) :
    ∃ behind, (preorderOfForest forest).drop n = preorderOfForest [place] ++ behind := by
  induction forest using forest_induction generalizing n with
  | nil => simp at hplace
  | cons children groups rest ihChildren ihRest =>
      rw [preorderOfForest_cons] at hplace ⊢
      cases n with
      | zero =>
          rw [List.getElem?_cons_zero, Option.some.injEq] at hplace
          subst hplace
          exact ⟨preorderOfForest rest, by simp [preorderOfForest_cons]⟩
      | succ n =>
          rw [List.getElem?_cons_succ] at hplace
          rw [List.drop_succ_cons]
          by_cases hinside : n < (preorderOfForest children).length
          · rw [List.getElem?_append_left hinside] at hplace
            obtain ⟨behind, hbehind⟩ := ihChildren n hplace
            refine ⟨behind ++ preorderOfForest rest, ?_⟩
            rw [List.drop_append_of_le_length (Nat.le_of_lt hinside), hbehind, List.append_assoc]
          · have hle : (preorderOfForest children).length ≤ n := Nat.le_of_not_lt hinside
            rw [List.getElem?_append_right hle] at hplace
            obtain ⟨behind, hbehind⟩ := ihRest _ hplace
            refine ⟨behind, ?_⟩
            rw [List.drop_append, List.drop_eq_nil_of_le hle, List.nil_append, hbehind]

/-- Where a forest stands in a list of places, its first place stands, then the places inside
that, and behind them the other trees. -/
theorem drop_of_drop_eq {places behind children rest : List NodeDescription}
    {groups : List MutationGroup} {n : Nat}
    (hat : places.drop n = preorderOfForest (mk children groups :: rest) ++ behind) :
    places[n]? = some (mk children groups) ∧
      places.drop (n + 1) = preorderOfForest children ++ (preorderOfForest rest ++ behind) ∧
      places.drop (n + (1 + sizeOfForest children)) = preorderOfForest rest ++ behind := by
  rw [preorderOfForest_cons, List.cons_append] at hat
  have hinside : places.drop (n + 1) =
      preorderOfForest children ++ (preorderOfForest rest ++ behind) := by
    rw [← List.drop_drop, hat, List.drop_succ_cons, List.drop_zero, List.append_assoc]
  refine ⟨?_, hinside, ?_⟩
  · rw [← Nat.add_zero n, ← List.getElem?_drop, hat, List.getElem?_cons_zero]
  · rw [← Nat.add_assoc, ← List.drop_drop, hinside, ← length_preorderOfForest children,
      List.drop_left]

/-- The block of a place ends within the forest. -/
theorem add_size_le_sizeOfForest {forest : List NodeDescription} {n : Nat}
    {place : NodeDescription} (hplace : (preorderOfForest forest)[n]? = some place) :
    n + place.size ≤ sizeOfForest forest := by
  obtain ⟨behind, hbehind⟩ := drop_preorderOfForest forest n place hplace
  have hlength := congrArg List.length hbehind
  have hlt : n < (preorderOfForest forest).length := (List.getElem?_eq_some_iff.mp hplace).1
  rw [List.length_drop, List.length_append, length_preorderOfForest, length_preorderOfForest,
    sizeOfForest_cons, sizeOfForest_nil] at hlength
  rw [length_preorderOfForest] at hlt
  omega

/-- What the place around place `n` is.  Either it is the place around the whole forest, and no
block of an earlier place reaches `n`; or it is the nearest earlier place whose block does, and
then that block holds all of the block of `n`. -/
def Surrounds (parent : Option NodeId) (id : NodeId) (forest : List NodeDescription) (n : Nat)
    (place : NodeDescription) (around : Option NodeId) : Prop :=
  (around = parent ∧
    ∀ k other, k < n → (preorderOfForest forest)[k]? = some other → k + other.size ≤ n) ∨
  ∃ j outer, j < n ∧ around = some (id + j) ∧ (preorderOfForest forest)[j]? = some outer ∧
    n + place.size ≤ j + outer.size ∧
    ∀ k other, j < k → k < n → (preorderOfForest forest)[k]? = some other → k + other.size ≤ n

section Split

variable {children rest : List NodeDescription} {groups : List MutationGroup}

/-- The head of a forest is place 0, and the places inside it come next. -/
theorem getElem?_inside {k : Nat} (hk : k < sizeOfForest children) :
    (preorderOfForest (mk children groups :: rest))[k + 1]? = (preorderOfForest children)[k]? := by
  rw [preorderOfForest_cons, List.getElem?_cons_succ, List.getElem?_append_left (by simpa using hk)]

/-- The places of the other trees come after those of the first. -/
theorem getElem?_outside (k : Nat) :
    (preorderOfForest (mk children groups :: rest))[k + (1 + sizeOfForest children)]? =
      (preorderOfForest rest)[k]? := by
  have hplace : k + (1 + sizeOfForest children) = k + sizeOfForest children + 1 := by omega
  rw [hplace, preorderOfForest_cons, List.getElem?_cons_succ, List.getElem?_append_right (by simp)]
  simp

/-- A block that starts in the first tree ends in it. -/
theorem add_size_le_first {k : Nat} {place : NodeDescription} (hk : k < 1 + sizeOfForest children)
    (hplace : (preorderOfForest (mk children groups :: rest))[k]? = some place) :
    k + place.size ≤ 1 + sizeOfForest children := by
  cases k with
  | zero =>
      rw [preorderOfForest_cons, List.getElem?_cons_zero, Option.some.injEq] at hplace
      rw [← hplace, size_mk]
      omega
  | succ k =>
      rw [getElem?_inside (by omega)] at hplace
      have hfits := add_size_le_sizeOfForest hplace
      omega

variable {parent around : Option NodeId} {id : NodeId} {n : Nat} {place : NodeDescription}

/-- What surrounds a place among those inside the head, does so in the whole forest; the outermost
of them have the head around them. -/
theorem Surrounds.inside (hplace : (preorderOfForest children)[n]? = some place)
    (h : Surrounds (some id) (id + 1) children n place around) :
    Surrounds parent id (mk children groups :: rest) (n + 1) place around := by
  have hfits := add_size_le_sizeOfForest hplace
  have hpos := size_pos place
  rcases h with ⟨htop, hearlier⟩ | ⟨j, outer, hj, heq, houter, hreach, hbetween⟩
  · refine .inr ⟨0, mk children groups, by omega, by simpa using htop,
      by simp [preorderOfForest_cons], by rw [size_mk]; omega, ?_⟩
    intro k other hk hkn hother
    obtain ⟨k, rfl⟩ := Nat.exists_eq_succ_of_ne_zero (Nat.ne_of_gt hk)
    rw [Nat.succ_eq_add_one, getElem?_inside (by omega)] at hother
    have hend := hearlier k other (by omega) hother
    omega
  · refine .inr ⟨j + 1, outer, by omega, by rw [heq, Nat.add_assoc, Nat.add_comm 1],
      by rw [getElem?_inside (by omega)]; exact houter, by omega, ?_⟩
    intro k other hk hkn hother
    obtain ⟨k, rfl⟩ := Nat.exists_eq_succ_of_ne_zero (by omega : k ≠ 0)
    rw [Nat.succ_eq_add_one, getElem?_inside (by omega)] at hother
    have hend := hbetween k other (by omega) (by omega) hother
    omega

/-- What surrounds a place of the other trees is not in the first tree. -/
theorem Surrounds.outside
    (h : Surrounds parent (id + (1 + sizeOfForest children)) rest n place around) :
    Surrounds parent id (mk children groups :: rest) (n + (1 + sizeOfForest children)) place
      around := by
  rcases h with ⟨htop, hearlier⟩ | ⟨j, outer, hj, heq, houter, hreach, hbetween⟩
  · refine .inl ⟨htop, ?_⟩
    intro k other hk hother
    by_cases hfirst : k < 1 + sizeOfForest children
    · have hend := add_size_le_first hfirst hother
      omega
    · obtain ⟨i, rfl⟩ := Nat.exists_eq_add_of_le' (Nat.le_of_not_lt hfirst)
      rw [getElem?_outside i] at hother
      have hend := hearlier i other (by omega) hother
      omega
  · refine .inr ⟨j + (1 + sizeOfForest children), outer, by omega,
      by rw [heq, Nat.add_assoc, Nat.add_comm (1 + _)],
      by rw [getElem?_outside j]; exact houter, by omega, ?_⟩
    intro k other hk hkn hother
    obtain ⟨i, rfl⟩ := Nat.exists_eq_add_of_le' (by omega : 1 + sizeOfForest children ≤ k)
    rw [getElem?_outside i] at hother
    have hend := hbetween i other (by omega) (by omega) hother
    omega

end Split

/-- The table of surrounding places holds what `Surrounds` says. -/
theorem parentsOfForest_spec (forest : List NodeDescription) (parent : Option NodeId) (id : NodeId)
    (n : Nat) (place : NodeDescription) (around : Option NodeId)
    (hplace : (preorderOfForest forest)[n]? = some place)
    (haround : (parentsOfForest parent id forest)[n]? = some around) :
    Surrounds parent id forest n place around := by
  induction forest using forest_induction generalizing parent id n with
  | nil => simp at hplace
  | cons children groups rest ihChildren ihRest =>
      rw [preorderOfForest_cons] at hplace
      rw [parentsOfForest_cons] at haround
      cases n with
      | zero =>
          rw [List.getElem?_cons_zero, Option.some.injEq] at haround
          exact .inl ⟨haround.symm, fun k other hk => absurd hk (Nat.not_lt_zero k)⟩
      | succ n =>
          rw [List.getElem?_cons_succ] at hplace haround
          by_cases hinside : n < sizeOfForest children
          · rw [List.getElem?_append_left (by simpa using hinside)] at hplace haround
            exact .inside hplace (ihChildren (some id) (id + 1) n hplace haround)
          · have houtside : sizeOfForest children ≤ n := Nat.le_of_not_lt hinside
            rw [List.getElem?_append_right (by simpa using houtside)] at hplace haround
            rw [length_preorderOfForest] at hplace
            rw [length_parentsOfForest] at haround
            have hrest := ihRest parent (id + (1 + sizeOfForest children)) _ hplace haround
            have hplace : n + 1 = n - sizeOfForest children + (1 + sizeOfForest children) := by
              omega
            rw [hplace]
            exact hrest.outside

end NodeDescription

namespace Layout

open NodeDescription

private theorem modify_append_self {α : Type} (before : List α) (a : α) (after : List α)
    (f : α → α) :
    (before ++ a :: after).modify before.length f = before ++ f a :: after := by
  induction before with
  | nil => rfl
  | cons b before ih =>
      rw [List.cons_append, List.length_cons, List.modify_succ_cons, ih, List.cons_append]

/-- Laying out a forest appends its arena and its table of surrounding places, and gives the
numbers of its outermost places. -/
theorem plantForest_eq (forest : List NodeDescription) (parent : Option NodeId)
    (layout : Layout) (hsize : layout.parents.size = layout.nodes.size) :
    (plantForest parent layout forest).1.nodes.toList =
        layout.nodes.toList ++ arena layout.nodes.size forest ∧
      (plantForest parent layout forest).1.parents.toList =
        layout.parents.toList ++ parentsOfForest parent layout.nodes.size forest ∧
      (plantForest parent layout forest).2 = starts layout.nodes.size forest := by
  induction forest using forest_induction generalizing parent layout with
  | nil => simp [plantForest, arena, parentsOfForest, starts]
  | cons children groups rest ihChildren ihRest =>
      let id := layout.nodes.size
      let pushed := layout.push parent (groups.flatMap MutationGroup.mutants)
      let grown := plantForest (some id) pushed children
      let settled := grown.1.setChildren id grown.2
      have hpushed : pushed.nodes.size = id + 1 := by simp [pushed, push, id]
      obtain ⟨hnodes, hparents, hids⟩ := ihChildren (some id) pushed (by
        simp [pushed, push, hsize])
      rw [hpushed] at hnodes hparents hids
      have hsettledNodes : settled.nodes.toList = layout.nodes.toList ++
          entry id (.mk children groups) :: arena (id + 1) children := by
        change (grown.1.nodes.modify id fun n => { n with children := grown.2 }).toList = _
        rw [Array.toList_modify, hnodes, show pushed.nodes.toList = layout.nodes.toList ++
          [{ mutants := groups.flatMap MutationGroup.mutants, children := [] }] by
            simp [pushed, push], List.append_assoc]
        rw [show id = layout.nodes.toList.length from Array.length_toList.symm]
        simp only [List.cons_append, List.nil_append]
        rw [modify_append_self, Array.length_toList, hids]
        rfl
      have hsettledParents : settled.parents.toList = layout.parents.toList ++
          parent :: parentsOfForest (some id) (id + 1) children := by
        change grown.1.parents.toList = _
        rw [hparents]
        simp [pushed, push]
      have hsettledSize : settled.nodes.size = id + (1 + sizeOfForest children) := by
        rw [← Array.length_toList, hsettledNodes]
        simp only [List.length_append, Array.length_toList, List.length_cons, length_arena, id]
        omega
      have hsettledEven : settled.parents.size = settled.nodes.size := by
        rw [hsettledSize, ← Array.length_toList, hsettledParents]
        simp only [List.length_append, Array.length_toList, List.length_cons,
          length_parentsOfForest, hsize, id]
        omega
      obtain ⟨hrestNodes, hrestParents, hrestIds⟩ := ihRest parent settled hsettledEven
      rw [hsettledSize] at hrestNodes hrestParents hrestIds
      refine ⟨?_, ?_, ?_⟩
      · change (plantForest parent settled rest).1.nodes.toList = _
        rw [hrestNodes, hsettledNodes, arena_cons, List.append_assoc, List.cons_append]
      · change (plantForest parent settled rest).1.parents.toList = _
        rw [hrestParents, hsettledParents, parentsOfForest_cons, List.append_assoc,
          List.cons_append]
      · change id :: (plantForest parent settled rest).2 = _
        rw [hrestIds]
        rfl

end Layout

end MutantHunt
