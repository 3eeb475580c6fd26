import MutantHunt.Proofs.Tree.Build

/-!
# Relatives in a built tree

In a built tree the places inside a place are a block of numbers that starts with its own, so the
walk down to them and the walk up to the places around it can both be said in terms of
`Encloses`: one block holds the other's first number.

## Main results

* `mem_kin_iff` — two mutants are relatives iff they differ and the place of one encloses the
  place of the other; hence `mem_kin_comm`, relatives are so mutually.
* `pairwise_lt_kin`, `lt_of_mem_kin` — the list of relatives is strictly ascending, and names
  mutants only.
-/

namespace MutantHunt

open NodeDescription

namespace NodeDescription

/-- Place `outer` is place `inner`, or place `inner` is inside it. -/
def Encloses (forest : List NodeDescription) (outer inner : Nat) : Prop :=
  ∃ place, (preorderOfForest forest)[outer]? = some place ∧
    outer ≤ inner ∧ inner < outer + place.size

theorem encloses_self {forest : List NodeDescription} {n : Nat} {place : NodeDescription}
    (hplace : (preorderOfForest forest)[n]? = some place) : Encloses forest n n := by
  have hpos := size_pos place
  exact ⟨place, hplace, Nat.le_refl n, by omega⟩

/-- The block of a place lists the places from it on. -/
theorem getElem?_block {forest : List NodeDescription} {n : Nat} {place : NodeDescription}
    (hplace : (preorderOfForest forest)[n]? = some place) {k : Nat} (hk : k < place.size) :
    (preorderOfForest [place])[k]? = (preorderOfForest forest)[n + k]? := by
  obtain ⟨behind, hbehind⟩ := drop_preorderOfForest forest n place hplace
  rw [← List.getElem?_drop, hbehind, List.getElem?_append_left]
  simpa using hk

/-- A block that starts within the block of a place ends within it. -/
theorem add_size_le_of_encloses {forest : List NodeDescription} {outer inner : Nat}
    {outerPlace innerPlace : NodeDescription}
    (houter : (preorderOfForest forest)[outer]? = some outerPlace)
    (hinner : (preorderOfForest forest)[inner]? = some innerPlace)
    (hle : outer ≤ inner) (hlt : inner < outer + outerPlace.size) :
    inner + innerPlace.size ≤ outer + outerPlace.size := by
  obtain ⟨k, rfl⟩ := Nat.exists_eq_add_of_le hle
  have hblock := getElem?_block houter (k := k) (by omega)
  rw [hinner] at hblock
  have hfits := add_size_le_sizeOfForest hblock
  rw [sizeOfForest_cons, sizeOfForest_nil] at hfits
  omega

end NodeDescription

namespace Tree

/-- The relatives of a mutant. A number that belongs to no mutant has none. -/
def kin (tree : Tree) (m : MutantId) : List MutantId :=
  match tree.relatives m with
  | .ok relatives => relatives
  | .error _ => []

theorem relatives_eq_kin {tree : Tree} {m : MutantId} (hm : m.toNat < tree.mutantCount) :
    tree.relatives m = .ok (tree.kin m) := by
  obtain ⟨n, hn⟩ : ∃ n, tree.owners[m.toNat]? = some n := ⟨_, Array.getElem?_eq_getElem hm⟩
  simp only [kin, relatives, owner, hn, Except.map]

theorem relatives_eq_error {tree : Tree} {m : MutantId} (hm : tree.mutantCount ≤ m.toNat) :
    tree.relatives m = .error (.outOfRange m tree.mutantCount) := by
  have hn : tree.owners[m.toNat]? = none := Array.getElem?_eq_none hm
  simp only [relatives, owner, hn, Except.map]

/-- No mutant is a relative of its own. -/
theorem not_mem_kin_self (tree : Tree) (m : MutantId) : m ∉ tree.kin m := by
  rcases Nat.lt_or_ge m.toNat tree.mutantCount with hlt | hge
  · obtain ⟨n, hn⟩ : ∃ n, tree.owners[m.toNat]? = some n := ⟨_, Array.getElem?_eq_getElem hlt⟩
    simp [kin, relatives, owner, hn, Except.map]
  · simp [kin, relatives_eq_error hge]

namespace BuiltFrom

variable {tree : Tree} {description : Description}

/-! ## Upwards -/

theorem surrounds_parent? (h : tree.BuiltFrom description) {n : Nat} {place : NodeDescription}
    (hplace : (preorderOfForest description.files)[n]? = some place) :
    Surrounds none 0 description.files n place (tree.parent? n) := by
  have hlt : n < sizeOfForest description.files := by
    rw [← length_preorderOfForest]
    exact (List.getElem?_eq_some_iff.mp hplace).1
  obtain ⟨around, haround⟩ : ∃ around,
      (parentsOfForest none 0 description.files)[n]? = some around :=
    ⟨_, List.getElem?_eq_getElem (by rwa [length_parentsOfForest])⟩
  have hparent : tree.parent? n = around := by
    rw [parent?, ← Array.getElem?_toList, h.parents, haround, Option.join_some]
  rw [hparent]
  exact parentsOfForest_spec description.files none 0 n place around hplace haround

theorem lt_of_parent?_eq_some (h : tree.BuiltFrom description) {n p : Nat}
    (hparent : tree.parent? n = some p) : p < n := by
  have hlt : n < tree.parents.size := by
    rw [parent?] at hparent
    cases hget : tree.parents[n]? with
    | none => rw [hget] at hparent; cases hparent
    | some around => exact (Array.getElem?_eq_some_iff.mp hget).1
  rw [← Array.length_toList, h.parents, length_parentsOfForest, ← length_preorderOfForest] at hlt
  rcases h.surrounds_parent? (List.getElem?_eq_getElem hlt) with ⟨hnone, -⟩ | ⟨j, -, hj, hsome, -⟩
  · rw [hparent] at hnone
    cases hnone
  · rw [hparent, Nat.zero_add, Option.some.injEq] at hsome
    exact hsome ▸ hj

theorem lt_of_mem_ancestors (h : tree.BuiltFrom description) {fuel : Nat} {n q : Nat}
    (hq : q ∈ tree.ancestors fuel n) : q < n := by
  induction fuel generalizing n with
  | zero => simp [ancestors] at hq
  | succ fuel ih =>
      unfold ancestors at hq
      cases hparent : tree.parent? n with
      | none => simp [hparent] at hq
      | some p =>
          rw [hparent] at hq
          have hp := h.lt_of_parent?_eq_some hparent
          rcases List.mem_cons.mp hq with rfl | hq
          · exact hp
          · exact Nat.lt_trans (ih hq) hp

theorem nodup_ancestors (h : tree.BuiltFrom description) (fuel : Nat) (n : Nat) :
    (tree.ancestors fuel n).Nodup := by
  induction fuel generalizing n with
  | zero => exact List.nodup_nil
  | succ fuel ih =>
      unfold ancestors
      cases tree.parent? n with
      | none => exact List.nodup_nil
      | some p =>
          exact List.nodup_cons.mpr ⟨fun hp => Nat.lt_irrefl p (h.lt_of_mem_ancestors hp), ih p⟩

/-- The places around a place are those before it that enclose it. -/
theorem mem_ancestors_iff (h : tree.BuiltFrom description) {fuel : Nat} {n q : Nat}
    {place : NodeDescription} (hplace : (preorderOfForest description.files)[n]? = some place)
    (hfuel : n ≤ fuel) :
    q ∈ tree.ancestors fuel n ↔ q < n ∧ Encloses description.files q n := by
  induction fuel generalizing n place with
  | zero =>
      have hn : n = 0 := Nat.le_zero.mp hfuel
      simp [ancestors, hn]
  | succ fuel ih =>
      have hsurrounds := h.surrounds_parent? hplace
      unfold ancestors
      cases hparent : tree.parent? n with
      | none =>
          rw [hparent] at hsurrounds
          rcases hsurrounds with ⟨-, hearlier⟩ | ⟨j, outer, -, hsome, -⟩
          · simp only [List.not_mem_nil, false_iff, not_and]
            rintro hq ⟨other, hother, -, hlt⟩
            have hend := hearlier q other hq hother
            omega
          · cases hsome
      | some p =>
          rw [hparent] at hsurrounds
          rcases hsurrounds with ⟨hnone, -⟩ | ⟨j, outer, hj, hsome, houter, hreach, hbetween⟩
          · cases hnone
          · rw [Nat.zero_add, Option.some.injEq] at hsome
            subst hsome
            have hpos := size_pos place
            simp only [List.mem_cons, ih houter (by omega)]
            constructor
            · rintro (rfl | ⟨hq, other, hother, -, hlt⟩)
              · exact ⟨hj, outer, houter, Nat.le_of_lt hj, by omega⟩
              · have hend := add_size_le_of_encloses hother houter (Nat.le_of_lt hq) hlt
                exact ⟨by omega, other, hother, by omega, by omega⟩
            · rintro ⟨hq, other, hother, -, hlt⟩
              rcases Nat.lt_trichotomy q p with hlow | rfl | hhigh
              · exact .inr ⟨hlow, other, hother, Nat.le_of_lt hlow, by omega⟩
              · exact .inl rfl
              · have hend := hbetween q other hhigh hq hother
                omega

/-! ## Downwards -/

/-- The walk over a forest that stands in the arena collects its mutants and goes on with what
was left over. -/
theorem walk_starts (h : tree.BuiltFrom description) (forest : List NodeDescription) (n : Nat)
    (behind : List NodeDescription)
    (hat : (preorderOfForest description.files).drop n = preorderOfForest forest ++ behind)
    (fuel : Nat) (pending : List NodeId) (found : Array MutantId) :
    tree.walk (sizeOfForest forest + fuel) (starts n forest ++ pending) found =
      tree.walk fuel pending (found ++ (allMutantsOfForest forest).toArray) := by
  have hloop := h.loop_starts (fun rounds pending found => tree.walk rounds pending found.toArray)
    (fun found place => found ++ place.1.mutants) (by
      intro rounds id node pending found hnode
      rw [walk, hnode]
      simp) forest n behind hat fuel pending found.toList
  have hfound : (found.toList ++ allMutantsOfForest forest).toArray =
      found ++ (allMutantsOfForest forest).toArray := by
    apply Array.toList_inj.mp
    simp
  rw [foldl_mutants_arena, hfound] at hloop
  exact hloop

/-- The mutants collected from a place are those of its block. -/
theorem subtreeMutants_eq (h : tree.BuiltFrom description) {n : Nat} {place : NodeDescription}
    (hplace : (preorderOfForest description.files)[n]? = some place) :
    tree.subtreeMutants n = (preorderOfForest [place]).flatMap NodeDescription.mutants := by
  obtain ⟨behind, hbehind⟩ := drop_preorderOfForest description.files n place hplace
  have hfits := add_size_le_sizeOfForest hplace
  have hfuel : tree.nodeCount = sizeOfForest [place] + (tree.nodeCount - place.size) := by
    rw [h.nodeCount_eq, sizeOfForest_cons, sizeOfForest_nil]
    omega
  have hwalk := h.walk_starts [place] n behind hbehind (tree.nodeCount - place.size) [] #[]
  rw [← hfuel] at hwalk
  have hdone : ∀ fuel found, tree.walk fuel [] found = found := by
    intro fuel found
    cases fuel <;> rfl
  rw [subtreeMutants, show ([n] : List NodeId) = starts n [place] ++ [] from rfl, hwalk, hdone,
    ← allMutantsOfForest_eq]
  simp

/-- A mutant is collected from a place iff its own place is enclosed. -/
theorem mem_subtreeMutants_iff (h : tree.BuiltFrom description) {n : Nat}
    {place : NodeDescription} (hplace : (preorderOfForest description.files)[n]? = some place)
    (m : MutantId) :
    m ∈ tree.subtreeMutants n ↔
      ∃ i : Nat, tree.owners[m.toNat]? = some i ∧ Encloses description.files n i := by
  rw [h.subtreeMutants_eq hplace, List.mem_flatMap]
  constructor
  · rintro ⟨other, hother, hm⟩
    obtain ⟨k, hk⟩ := List.mem_iff_getElem?.mp hother
    have hlt : k < place.size := by
      have := (List.getElem?_eq_some_iff.mp hk).1
      simpa using this
    rw [getElem?_block hplace hlt] at hk
    exact ⟨n + k, h.owners _ other m hk hm, place, hplace, by omega, by omega⟩
  · rintro ⟨i, howner, place', hplace', hle, hlt⟩
    rw [hplace, Option.some.injEq] at hplace'
    subst hplace'
    obtain ⟨other, hother, hm⟩ := (h.owners_eq_some_iff m i).mp howner
    obtain ⟨k, rfl⟩ := Nat.exists_eq_add_of_le hle
    rw [← getElem?_block hplace (by omega)] at hother
    exact ⟨other, List.mem_of_getElem? hother, hm⟩

theorem nodup_subtreeMutants (h : tree.BuiltFrom description) {n : Nat}
    {place : NodeDescription} (hplace : (preorderOfForest description.files)[n]? = some place) :
    (tree.subtreeMutants n).Nodup := by
  obtain ⟨behind, hbehind⟩ := drop_preorderOfForest description.files n place hplace
  have hnodup := h.nodup
  rw [Description.mutants, allMutantsOfForest_eq,
    ← List.take_append_drop n (preorderOfForest description.files), hbehind,
    List.flatMap_append, List.flatMap_append] at hnodup
  rw [h.subtreeMutants_eq hplace]
  exact hnodup.of_append_right.of_append_left

/-! ## Both -/

private theorem mem_mutants_node_iff (h : tree.BuiltFrom description) (m : MutantId)
    (n : Nat) :
    m ∈ (tree.nodes[n]?.map Node.mutants).getD [] ↔ tree.owners[m.toNat]? = some n := by
  rw [h.owners_eq_some_iff, h.getElem?_nodes]
  cases (preorderOfForest description.files)[n]? with
  | none => simp
  | some place => simp [entry]

/-- The mutants at the places around a place are those whose place encloses it from before. -/
theorem mem_ancestorMutants_iff (h : tree.BuiltFrom description) {n : Nat}
    {place : NodeDescription} (hplace : (preorderOfForest description.files)[n]? = some place)
    (m : MutantId) :
    m ∈ tree.ancestorMutants n ↔
      ∃ q : Nat, tree.owners[m.toNat]? = some q ∧ q < n ∧ Encloses description.files q n := by
  have hfuel : n ≤ tree.nodeCount := by
    have hfits := add_size_le_sizeOfForest hplace
    rw [h.nodeCount_eq]
    omega
  simp only [ancestorMutants, List.mem_flatMap, h.mem_ancestors_iff hplace hfuel,
    h.mem_mutants_node_iff]
  constructor
  · rintro ⟨q, ⟨hq, henc⟩, howner⟩
    exact ⟨q, howner, hq, henc⟩
  · rintro ⟨q, howner, hq, henc⟩
    exact ⟨q, ⟨hq, henc⟩, howner⟩

theorem nodup_ancestorMutants (h : tree.BuiltFrom description) (n : Nat) :
    (tree.ancestorMutants n).Nodup := by
  rw [ancestorMutants, List.nodup_flatMap]
  constructor
  · intro q _
    rw [h.getElem?_nodes]
    cases hq : (preorderOfForest description.files)[q]? with
    | none => exact List.nodup_nil
    | some place =>
        have hnodup := h.nodup
        rw [Description.mutants, allMutantsOfForest_eq, List.nodup_flatMap] at hnodup
        exact hnodup.1 place (List.mem_of_getElem? hq)
  · refine (h.nodup_ancestors tree.nodeCount n).imp ?_
    intro p q hne m hp hq
    rw [h.mem_mutants_node_iff] at hp hq
    rw [hp, Option.some.injEq] at hq
    exact hne hq

/-- Two mutants are relatives iff they differ and the place of one encloses that of the other. -/
theorem mem_kin_iff (h : tree.BuiltFrom description) (a b : MutantId) :
    b ∈ tree.kin a ↔ b ≠ a ∧ ∃ n i : Nat, tree.owners[a.toNat]? = some n ∧
      tree.owners[b.toNat]? = some i ∧
      (Encloses description.files n i ∨ Encloses description.files i n) := by
  rcases Nat.lt_or_ge a.toNat tree.mutantCount with hlt | hge
  · obtain ⟨n, hn⟩ : ∃ n, tree.owners[a.toNat]? = some n := ⟨_, Array.getElem?_eq_getElem hlt⟩
    obtain ⟨place, hplace, -⟩ := (h.owners_eq_some_iff a n).mp hn
    have hkin : b ∈ tree.kin a ↔
        (b ∈ tree.subtreeMutants n ∨ b ∈ tree.ancestorMutants n) ∧ b ≠ a := by
      simp [kin, relatives, owner, hn, Except.map, or_and_right]
    rw [hkin, h.mem_subtreeMutants_iff hplace, h.mem_ancestorMutants_iff hplace, hn]
    constructor
    · rintro ⟨⟨i, hi, henc⟩ | ⟨i, hi, -, henc⟩, hne⟩
      · exact ⟨hne, n, i, rfl, hi, .inl henc⟩
      · exact ⟨hne, n, i, rfl, hi, .inr henc⟩
    · rintro ⟨hne, n', i, hn', hi, henc⟩
      rw [Option.some.injEq] at hn'
      subst hn'
      refine ⟨?_, hne⟩
      rcases henc with henc | henc
      · exact .inl ⟨i, hi, henc⟩
      · -- The place itself encloses itself, so it is met on the walk down.
        obtain ⟨other, hother, hle, hend⟩ := henc
        rcases Nat.eq_or_lt_of_le hle with rfl | hlt
        · exact .inl ⟨i, hi, encloses_self hplace⟩
        · exact .inr ⟨i, hi, hlt, other, hother, hle, hend⟩
  · have hn : tree.owners[a.toNat]? = none := Array.getElem?_eq_none hge
    simp [kin, relatives_eq_error hge, hn]

/-- Relatives are so mutually. -/
theorem mem_kin_comm (h : tree.BuiltFrom description) (a b : MutantId) :
    b ∈ tree.kin a ↔ a ∈ tree.kin b := by
  have hone : ∀ x y, y ∈ tree.kin x → x ∈ tree.kin y := by
    intro x y hy
    rw [h.mem_kin_iff] at hy ⊢
    obtain ⟨hne, n, i, hn, hi, henc⟩ := hy
    exact ⟨hne.symm, i, n, hi, hn, henc.symm⟩
  exact ⟨hone a b, hone b a⟩

theorem lt_of_mem_kin (h : tree.BuiltFrom description) {a b : MutantId} (hb : b ∈ tree.kin a) :
    b.toNat < tree.mutantCount := by
  obtain ⟨-, n, i, -, hi, -⟩ := (h.mem_kin_iff a b).mp hb
  exact (Array.getElem?_eq_some_iff.mp hi).1

/-- The list of relatives is strictly ascending: below the place of the mutant and above it nothing
is met twice. -/
theorem pairwise_lt_kin (h : tree.BuiltFrom description) (m : MutantId) :
    (tree.kin m).Pairwise (· < ·) := by
  rcases Nat.lt_or_ge m.toNat tree.mutantCount with hlt | hge
  · obtain ⟨n, hn⟩ : ∃ n, tree.owners[m.toNat]? = some n := ⟨_, Array.getElem?_eq_getElem hlt⟩
    obtain ⟨place, hplace, -⟩ := (h.owners_eq_some_iff m n).mp hn
    have hkin : tree.kin m = ((tree.subtreeMutants n ++ tree.ancestorMutants n).filter
        (· != m)).mergeSort := by
      simp only [kin, relatives, owner, hn, Except.map]
    rw [hkin]
    refine pairwise_lt_mergeSort (List.Nodup.filter _ ?_)
    rw [List.nodup_append]
    refine ⟨h.nodup_subtreeMutants hplace, h.nodup_ancestorMutants n, ?_⟩
    rintro a hdown b hup rfl
    obtain ⟨i, hi, -, -, hle, -⟩ := (h.mem_subtreeMutants_iff hplace a).mp hdown
    obtain ⟨q, hq, hlt, -⟩ := (h.mem_ancestorMutants_iff hplace a).mp hup
    rw [hi, Option.some.injEq] at hq
    omega
  · simp [kin, relatives_eq_error hge]

theorem nodup_kin (h : tree.BuiltFrom description) (m : MutantId) : (tree.kin m).Nodup :=
  (h.pairwise_lt_kin m).imp UInt32.ne_of_lt

end BuiltFrom

end Tree

end MutantHunt
