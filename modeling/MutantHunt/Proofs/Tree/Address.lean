import MutantHunt.Proofs.Tree.Kinship

/-!
# Relatives, told by addresses

The numbers of the places say nothing about the shape of a description to somebody who does not
know the walk.  An *address* does: it names a file, then one of the outermost places in that, and so
on down to the place that is meant.  A place lies inside another exactly if its address goes on from
the address of the other one.

A description that made a tree carries every mutant at one address, so whether two mutants are
relatives can be read off their two addresses, whichever of them is asked for.

## Main results

* `placeAt?_eq_some_cons_iff` — the three ways an address leads into a forest; what is said of
  addresses follows by induction along them.
* `Carries.unique` — without a repetition a mutant is carried at one address.
* `encloses_iff_prefix` — a place encloses another iff its address begins the other's.
* `relatives_follow` — the relatives of a mutant in any tree that is built.
-/

namespace MutantHunt

namespace NodeDescription

/-- The place that is reached from a place by going inside, at each number of the list to the child
with that number. -/
def placeUnder? (place : NodeDescription) : List Nat → Option NodeDescription
  | [] => some place
  | i :: way => place.children[i]?.bind fun child => placeUnder? child way

/-- The place at an address: the number of a file, and then the way down from its outermost place.
No place has the empty address. -/
def placeAt? (forest : List NodeDescription) : List Nat → Option NodeDescription
  | [] => none
  | file :: way => forest[file]?.bind fun place => placeUnder? place way

/-- The address is that of a place which carries the mutant. -/
def Carries (forest : List NodeDescription) (address : List Nat) (m : MutantId) : Prop :=
  ∃ place, placeAt? forest address = some place ∧ m ∈ place.mutants

@[simp] theorem placeAt?_nil_right (forest : List NodeDescription) :
    placeAt? forest [] = none := rfl

@[simp] theorem placeAt?_nil_left (address : List Nat) : placeAt? [] address = none := by
  cases address <;> rfl

theorem placeUnder?_append (place : NodeDescription) (way more : List Nat) :
    placeUnder? place (way ++ more) =
      (placeUnder? place way).bind fun inner => placeUnder? inner more := by
  induction way generalizing place with
  | nil => rfl
  | cons i way ih =>
      rw [List.cons_append, placeUnder?, placeUnder?]
      cases place.children[i]? with
      | none => rfl
      | some child => exact ih child

/-- An address that begins with that of a place goes on below this place. -/
theorem placeAt?_append {forest : List NodeDescription} {address : List Nat}
    {place : NodeDescription} (hplace : placeAt? forest address = some place) (more : List Nat) :
    placeAt? forest (address ++ more) = placeUnder? place more := by
  cases address with
  | nil => cases hplace
  | cons file way =>
      rw [placeAt?] at hplace
      rw [List.cons_append, placeAt?]
      cases hfile : forest[file]? with
      | none =>
          rw [hfile] at hplace
          cases hplace
      | some outer =>
          rw [hfile] at hplace
          rw [Option.bind_some] at hplace ⊢
          rw [placeUnder?_append, hplace, Option.bind_some]

section Cons

variable {children rest : List NodeDescription} {groups : List MutationGroup}

/-- An address in a forest is that of its first place, or leads inside that place, or leads into
one of the other trees. -/
theorem placeAt?_eq_some_cons_iff {address : List Nat} {place : NodeDescription} :
    placeAt? (mk children groups :: rest) address = some place ↔
      (address = [0] ∧ place = mk children groups) ∨
      (∃ way, address = 0 :: way ∧ placeAt? children way = some place) ∨
      ∃ i way, address = (i + 1) :: way ∧ placeAt? rest (i :: way) = some place := by
  match address with
  | [] => simp
  | [0] => simp [placeAt?, placeUnder?, eq_comm]
  | 0 :: i :: way => simp [placeAt?, placeUnder?]
  | (i + 1) :: way => simp [placeAt?]

/-- The same for the mutants that are carried. -/
theorem carries_cons_iff {address : List Nat} {m : MutantId} :
    Carries (mk children groups :: rest) address m ↔
      (address = [0] ∧ m ∈ (mk children groups).mutants) ∨
      (∃ way, address = 0 :: way ∧ Carries children way m) ∨
      ∃ i way, address = (i + 1) :: way ∧ Carries rest (i :: way) m := by
  simp only [Carries, placeAt?_eq_some_cons_iff]
  constructor
  · rintro ⟨place, ⟨haddress, rfl⟩ | ⟨way, haddress, hplace⟩ | ⟨i, way, haddress, hplace⟩, hm⟩
    · exact .inl ⟨haddress, hm⟩
    · exact .inr (.inl ⟨way, haddress, place, hplace, hm⟩)
    · exact .inr (.inr ⟨i, way, haddress, place, hplace, hm⟩)
  · rintro (⟨haddress, hm⟩ | ⟨way, haddress, place, hplace, hm⟩ |
      ⟨i, way, haddress, place, hplace, hm⟩)
    · exact ⟨_, .inl ⟨haddress, rfl⟩, hm⟩
    · exact ⟨place, .inr (.inl ⟨way, haddress, hplace⟩), hm⟩
    · exact ⟨place, .inr (.inr ⟨i, way, haddress, hplace⟩), hm⟩

end Cons

/-- The places that have an address are those the walk comes to. -/
theorem mem_preorderOfForest_iff {forest : List NodeDescription} {place : NodeDescription} :
    place ∈ preorderOfForest forest ↔ ∃ address, placeAt? forest address = some place := by
  induction forest using forest_induction with
  | nil => simp [placeAt?_nil_left]
  | cons children groups rest ihChildren ihRest =>
      simp only [preorderOfForest_cons, List.mem_cons, List.mem_append, ihChildren, ihRest,
        placeAt?_eq_some_cons_iff]
      constructor
      · rintro (rfl | ⟨way, hway⟩ | ⟨way, hway⟩)
        · exact ⟨[0], .inl ⟨rfl, rfl⟩⟩
        · exact ⟨0 :: way, .inr (.inl ⟨way, rfl, hway⟩)⟩
        · cases way with
          | nil => cases hway
          | cons i way => exact ⟨(i + 1) :: way, .inr (.inr ⟨i, way, rfl, hway⟩)⟩
      · rintro ⟨address, ⟨-, rfl⟩ | ⟨way, -, hway⟩ | ⟨i, way, -, hway⟩⟩
        · exact .inl rfl
        · exact .inr (.inl ⟨way, hway⟩)
        · exact .inr (.inr ⟨i :: way, hway⟩)

/-- The mutants that are carried are those of the forest. -/
theorem mem_allMutantsOfForest_iff {forest : List NodeDescription} {m : MutantId} :
    m ∈ allMutantsOfForest forest ↔ ∃ address, Carries forest address m := by
  rw [allMutantsOfForest_eq, List.mem_flatMap]
  simp only [mem_preorderOfForest_iff]
  constructor
  · rintro ⟨place, ⟨address, hplace⟩, hm⟩
    exact ⟨address, place, hplace, hm⟩
  · rintro ⟨address, place, hplace, hm⟩
    exact ⟨place, ⟨address, hplace⟩, hm⟩

/-- Without a repetition, no mutant is carried at two addresses. -/
theorem Carries.unique {forest : List NodeDescription} (hnodup : (allMutantsOfForest forest).Nodup)
    {m : MutantId} {p q : List Nat} (hp : Carries forest p m) (hq : Carries forest q m) :
    p = q := by
  induction forest using forest_induction generalizing p q with
  | nil =>
      obtain ⟨place, hplace, -⟩ := hp
      rw [placeAt?_nil_left] at hplace
      cases hplace
  | cons children groups rest ihChildren ihRest =>
      have hsplit : allMutantsOfForest (mk children groups :: rest) =
          (mk children groups).mutants ++ (allMutantsOfForest children ++
            allMutantsOfForest rest) := by
        simp only [allMutantsOfForest, allMutants, NodeDescription.mutants, groups_mk,
          List.append_assoc]
      rw [hsplit, List.nodup_append', List.nodup_append'] at hnodup
      obtain ⟨-, ⟨hchildren, hrest, hapart⟩, hown⟩ := hnodup
      -- A mutant is carried in one of the three parts only.
      have hinside {way} (hway : Carries children way m) : m ∈ allMutantsOfForest children :=
        mem_allMutantsOfForest_iff.mpr ⟨way, hway⟩
      have hbeside {way} (hway : Carries rest way m) : m ∈ allMutantsOfForest rest :=
        mem_allMutantsOfForest_iff.mpr ⟨way, hway⟩
      rw [carries_cons_iff] at hp hq
      rcases hp with ⟨rfl, hp⟩ | ⟨way, rfl, hp⟩ | ⟨i, way, rfl, hp⟩ <;>
        rcases hq with ⟨rfl, hq⟩ | ⟨way', rfl, hq⟩ | ⟨j, way', rfl, hq⟩
      · rfl
      · exact absurd (List.mem_append_left _ (hinside hq)) (hown hp)
      · exact absurd (List.mem_append_right _ (hbeside hq)) (hown hp)
      · exact absurd (List.mem_append_left _ (hinside hp)) (hown hq)
      · rw [ihChildren hchildren hp hq]
      · exact absurd (hbeside hq) (hapart (hinside hp))
      · exact absurd (List.mem_append_right _ (hbeside hp)) (hown hq)
      · exact absurd (hbeside hp) (hapart (hinside hq))
      · have hsame := ihRest hrest hp hq
        rw [List.cons.injEq] at hsame
        rw [hsame.1, hsame.2]

end NodeDescription

open NodeDescription

namespace Tree

namespace BuiltFrom

variable {tree : Tree} {description : Description}

/-- The mutants of the tree are those that are carried. -/
theorem exists_carries_iff (h : tree.BuiltFrom description) (m : MutantId) :
    (∃ address, Carries description.files address m) ↔ m.toNat < tree.mutantCount := by
  rw [← mem_allMutantsOfForest_iff]
  exact h.mem_mutants_iff m

/-- The owner of a mutant is the number of the place at its address. -/
theorem exists_owner_of_placeAt? (h : tree.BuiltFrom description) {p : List Nat} {m : MutantId}
    {place : NodeDescription} (hplace : placeAt? description.files p = some place)
    (hm : m ∈ place.mutants) :
    ∃ n : Nat, tree.owners[m.toNat]? = some n ∧
      (preorderOfForest description.files)[n]? = some place := by
  obtain ⟨n, hn⟩ := List.mem_iff_getElem?.mp (mem_preorderOfForest_iff.mpr ⟨p, hplace⟩)
  exact ⟨n, h.owners n place m hn hm, hn⟩

/-- A place encloses another exactly if its address begins the other's.  Both sides say that the
mutant of the second is among those below the first. -/
theorem encloses_iff_prefix (h : tree.BuiltFrom description) {p q : List Nat} {a b : MutantId}
    (hp : Carries description.files p a) (hq : Carries description.files q b) {n i : Nat}
    (hn : tree.owners[a.toNat]? = some n) (hi : tree.owners[b.toNat]? = some i) :
    Encloses description.files n i ↔ p <+: q := by
  obtain ⟨place, hplace, ha⟩ := hp
  obtain ⟨n', hn', hnumber⟩ := h.exists_owner_of_placeAt? hplace ha
  rw [hn, Option.some.injEq] at hn'
  subst hn'
  calc Encloses description.files n i
      ↔ b ∈ tree.subtreeMutants n := by
        rw [h.mem_subtreeMutants_iff hnumber]
        simp [hi]
    _ ↔ ∃ address, Carries [place] address b := by
        rw [h.subtreeMutants_eq hnumber, ← allMutantsOfForest_eq, mem_allMutantsOfForest_iff]
    _ ↔ ∃ way, Carries description.files (p ++ way) b := by
        simp only [Carries, placeAt?_append hplace]
        constructor
        · rintro ⟨_ | ⟨file, way⟩, inner, hinner, hb⟩
          · cases hinner
          · cases file with
            | zero => exact ⟨way, inner, hinner, hb⟩
            | succ file => cases hinner
        · rintro ⟨way, inner, hinner, hb⟩
          exact ⟨0 :: way, inner, hinner, hb⟩
    _ ↔ p <+: q := by
        constructor
        · rintro ⟨way, hway⟩
          exact ⟨way, Carries.unique h.nodup hway hq⟩
        · rintro ⟨way, rfl⟩
          exact ⟨way, hq⟩

/-- Two mutants are relatives iff they differ and the address of one begins that of the other. -/
theorem mem_kin_iff_prefix (h : tree.BuiltFrom description) {p q : List Nat} {a b : MutantId}
    (hp : Carries description.files p a) (hq : Carries description.files q b) :
    b ∈ tree.kin a ↔ b ≠ a ∧ (p <+: q ∨ q <+: p) := by
  obtain ⟨n, hn⟩ : ∃ n, tree.owners[a.toNat]? = some n :=
    ⟨_, Array.getElem?_eq_getElem ((h.exists_carries_iff a).mp ⟨p, hp⟩)⟩
  obtain ⟨i, hi⟩ : ∃ i, tree.owners[b.toNat]? = some i :=
    ⟨_, Array.getElem?_eq_getElem ((h.exists_carries_iff b).mp ⟨q, hq⟩)⟩
  rw [h.mem_kin_iff, hn, hi, ← h.encloses_iff_prefix hp hq hn hi,
    ← h.encloses_iff_prefix hq hp hi hn]
  simp

end BuiltFrom

/-- How the relatives of mutants follow the addresses at which the description carries them. -/
structure RelativesFollow (tree : Tree) (description : Description) : Prop where
  /-- Every mutant has one address. -/
  address : ∀ m : MutantId, m.toNat < tree.mutantCount → ∃! p, Carries description.files p m
  unknown : ∀ a : MutantId, tree.relatives a = .error (.outOfRange a tree.mutantCount) ↔
    tree.mutantCount ≤ a.toNat
  known : ∀ a : MutantId, a.toNat < tree.mutantCount → tree.relatives a = .ok (tree.kin a)
  /-- The relatives of a mutant are the others at its place, inside this place, and around it. -/
  mem_kin : ∀ a : MutantId, a.toNat < tree.mutantCount → ∀ b, b ∈ tree.kin a ↔
    b.toNat < tree.mutantCount ∧ b ≠ a ∧
      ∃ p q, Carries description.files p a ∧ Carries description.files q b ∧ (p <+: q ∨ q <+: p)
  ascending : ∀ a : MutantId, (tree.kin a).Pairwise (· < ·)
  symmetric : ∀ a b : MutantId, b ∈ tree.kin a ↔ a ∈ tree.kin b
  irreflexive : ∀ a : MutantId, a ∉ tree.kin a
  /-- Where two addresses part, in different files or at different children of one place, nothing
  below the one is a relative of anything below the other. -/
  apart : ∀ (a b : MutantId) (common p q : List Nat) (i j : Nat), i ≠ j →
    Carries description.files (common ++ i :: p) a →
    Carries description.files (common ++ j :: q) b → b ∉ tree.kin a

/-- In a tree that is built, in whatever order the owners are filled in, two mutants are relatives
exactly if one sits at the place of the other, or inside it. -/
theorem relatives_follow {order : List (MutantId × NodeId) → List (MutantId × NodeId)}
    (horder : ∀ entries, (order entries).Perm entries) {description : Description} {tree : Tree}
    (hbuilt : ofDescriptionBy order description = .ok tree) :
    RelativesFollow tree description := by
  have h := builtFrom_of_ofDescriptionBy horder hbuilt
  refine ⟨?_, ?_, ?_, ?_, ?_, ?_, ?_, ?_⟩
  · intro m hm
    obtain ⟨p, hp⟩ := (h.exists_carries_iff m).mpr hm
    exact ⟨p, hp, fun q hq => Carries.unique h.nodup hq hp⟩
  · intro a
    constructor
    · intro herror
      rcases Nat.lt_or_ge a.toNat tree.mutantCount with hlt | hge
      · rw [relatives_eq_kin hlt] at herror
        cases herror
      · exact hge
    · exact relatives_eq_error
  · exact fun a => relatives_eq_kin
  · intro a ha b
    obtain ⟨p, hp⟩ := (h.exists_carries_iff a).mpr ha
    constructor
    · intro hb
      have hlt := h.lt_of_mem_kin hb
      obtain ⟨q, hq⟩ := (h.exists_carries_iff b).mpr hlt
      obtain ⟨hne, hprefix⟩ := (h.mem_kin_iff_prefix hp hq).mp hb
      exact ⟨hlt, hne, p, q, hp, hq, hprefix⟩
    · rintro ⟨-, hne, p, q, hp, hq, hprefix⟩
      exact (h.mem_kin_iff_prefix hp hq).mpr ⟨hne, hprefix⟩
  · exact h.pairwise_lt_kin
  · exact h.mem_kin_comm
  · exact tree.not_mem_kin_self
  · intro a b common p q i j hij hp hq hb
    obtain ⟨-, hprefix⟩ := (h.mem_kin_iff_prefix hp hq).mp hb
    simp only [List.prefix_append_right_inj, List.cons_prefix_cons] at hprefix
    rcases hprefix with ⟨heq, -⟩ | ⟨heq, -⟩
    · exact hij heq
    · exact hij heq.symm

/-- In the first file one place is inside another, the second file is apart. -/
theorem relatives_follow_twoFiles :
    (∀ entries : List (MutantId × NodeId), (id entries).Perm entries) ∧
      ofDescriptionBy id twoFilesDescription = .ok twoFiles ∧
      RelativesFollow twoFiles twoFilesDescription :=
  ⟨List.Perm.refl, ofDescriptionBy_twoFiles,
    relatives_follow List.Perm.refl ofDescriptionBy_twoFiles⟩

end Tree

end MutantHunt
