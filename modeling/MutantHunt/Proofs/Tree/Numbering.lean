import MutantHunt.Proofs.Tree.Build

/-!
# Which descriptions make a tree

A tree is built of a description exactly if its mutants are all the numbers below their count, each
once.  The build itself compares every number with the count and looks for repetitions; that no
number is missing then follows, and so does that no row of the table of owners keeps what it was
filled with at first.

Where a number is repeated, the build names the one whose second occurrence comes first in the walk.
Otherwise it names one that is too large.  Which one depends on the order in which the table is
filled, and that is the only thing that does.

## Main results

* `firstRepeated_eq_some` — the repetition that is found is the first.
* `fillOwners_eq_error` — filling the table fails for a number that is too large.
* `build_dense` — what a build gives for any description, in any order.
-/

namespace MutantHunt

open NodeDescription

/-- The member that is found occurred before, or was seen, and no other before it did. -/
theorem firstRepeated_eq_some {seen : Std.HashSet MutantId} {ms : List MutantId} {m : MutantId}
    (hfound : firstRepeated seen ms = some m) :
    ∃ before after, ms = before ++ m :: after ∧ before.Nodup ∧ (∀ x ∈ before, x ∉ seen) ∧
      (m ∈ before ∨ m ∈ seen) := by
  induction ms generalizing seen with
  | nil => cases hfound
  | cons first rest ih =>
      unfold firstRepeated at hfound
      by_cases hseen : first ∈ seen
      · rw [if_pos (Std.HashSet.mem_iff_contains.mp hseen), Option.some.injEq] at hfound
        subst hfound
        exact ⟨[], rest, rfl, List.nodup_nil, by simp, .inr hseen⟩
      · rw [if_neg fun h => hseen (Std.HashSet.mem_iff_contains.mpr h)] at hfound
        obtain ⟨before, after, rfl, hnodup, hfresh, hm⟩ := ih hfound
        -- Those before are not among the seen, and the first is one of these now.
        have hnew : ∀ x ∈ before, first ≠ x ∧ x ∉ seen := by
          intro x hx
          simpa using hfresh x hx
        refine ⟨first :: before, after, rfl, ?_, ?_, ?_⟩
        · exact List.nodup_cons.mpr ⟨fun hfirst => (hnew first hfirst).1 rfl, hnodup⟩
        · exact List.forall_mem_cons.mpr ⟨hseen, fun x hx => (hnew x hx).2⟩
        · rcases hm with hbefore | hinsert
          · exact .inl (List.mem_cons_of_mem first hbefore)
          · rcases Std.HashSet.mem_insert.mp hinsert with hsame | hm
            · exact .inl (by rw [eq_of_beq hsame]; exact List.mem_cons_self)
            · exact .inr hm

/-- Filling the table fails for a mutant that has no index in it. -/
theorem fillOwners_eq_error {owners : Array NodeId} {entries : List (MutantId × NodeId)}
    {why : Malformation} (herror : fillOwners owners entries = .error why) :
    ∃ entry ∈ entries, owners.size ≤ entry.1.toNat ∧ why = .sparse entry.1 owners.size := by
  induction entries generalizing owners with
  | nil => cases herror
  | cons entry rest ih =>
      unfold fillOwners at herror
      by_cases hlt : entry.1.toNat < owners.size
      · rw [if_pos hlt] at herror
        obtain ⟨late, hlate, hlarge⟩ := ih herror
        rw [Array.size_set!] at hlarge
        exact ⟨late, List.mem_cons_of_mem entry hlate, hlarge⟩
      · rw [if_neg hlt, Except.error.injEq] at herror
        exact ⟨entry, List.mem_cons_self, Nat.le_of_not_lt hlt, herror.symm⟩

/-- The mutants are all the numbers below their count, each once. -/
def Description.Dense (description : Description) : Prop :=
  (description.mutants.map UInt32.toNat).Perm (List.range description.mutants.length)

namespace Tree

section Outcome

variable {order : List (MutantId × NodeId) → List (MutantId × NodeId)} {description : Description}

/-- A repetition is reported before anything else. -/
theorem ofDescriptionBy_of_repeated {m : MutantId}
    (hrepeated : firstRepeated {} description.mutants = some m) :
    ofDescriptionBy order description = .error (.malformedDescription (.repeated m)) := by
  rw [← Layout.map_fst_entries_plantForest description] at hrepeated
  simp only [ofDescriptionBy, hrepeated]

/-- Without a repetition there is a tree, or a number is reported that is not below the count. -/
theorem ofDescriptionBy_of_nodup (horder : ∀ entries, (order entries).Perm entries)
    (hnodup : description.mutants.Nodup) :
    (∃ tree, ofDescriptionBy order description = .ok tree) ∨
      ∃ m ∈ description.mutants, description.mutants.length ≤ m.toNat ∧
        ofDescriptionBy order description =
          .error (.malformedDescription (.sparse m description.mutants.length)) := by
  have hmutants := Layout.map_fst_entries_plantForest description
  have hnone : firstRepeated {} description.mutants = none :=
    (firstRepeated_eq_none_iff _ _).mpr ⟨hnodup, by simp⟩
  rw [← hmutants] at hnone
  rw [← hmutants, List.length_map]
  simp only [ofDescriptionBy, hnone]
  cases hfill : fillOwners _ _ with
  | ok owners => exact .inl ⟨_, rfl⟩
  | error why =>
      obtain ⟨entry, hentry, hlarge, rfl⟩ := fillOwners_eq_error hfill
      rw [Array.size_replicate] at hlarge ⊢
      have hmember := (horder _).mem_iff.mp hentry
      exact .inr ⟨entry.1, List.mem_map_of_mem hmember, hlarge, rfl⟩

end Outcome

/-- What a build gives for a description: a tree that knows the place of each mutant if the numbers
are dense, and otherwise a failure that names a number which is in the way. -/
structure BuildsDense (description : Description) (result : Except TreeError Tree) : Prop where
  accepts : (∃ tree, result = .ok tree) ↔ description.Dense
  /-- Of the repeated numbers, that one is named whose second occurrence comes first: what comes
  before it has no repetition. -/
  repeated : ¬description.mutants.Nodup → ∃ before m after,
    description.mutants = before ++ m :: after ∧ before.Nodup ∧ m ∈ before ∧
      result = .error (.malformedDescription (.repeated m))
  /-- Without a repetition, some number is named that is not below the count. -/
  sparse : description.mutants.Nodup → ¬description.Dense → ∃ m ∈ description.mutants,
    description.mutants.length ≤ m.toNat ∧
      result = .error (.malformedDescription (.sparse m description.mutants.length))
  count : ∀ tree, result = .ok tree → tree.mutantCount = description.mutants.length
  /-- The owner of a mutant is the one place that has it. -/
  owner : ∀ tree, result = .ok tree → ∀ m : MutantId, m.toNat < description.mutants.length →
    ∃ n, tree.owner m = .ok n ∧
      ∀ k : NodeId, (∃ node, tree.nodes[k]? = some node ∧ m ∈ node.mutants) ↔ k = n

namespace BuiltFrom

variable {tree : Tree} {description : Description}

theorem dense_mutants (h : tree.BuiltFrom description) : description.Dense := by
  rw [Description.Dense, ← h.count]
  exact h.perm_range

/-- The places that have a mutant are its owner, which is one. -/
theorem exists_owner (h : tree.BuiltFrom description) {m : MutantId}
    (hm : m.toNat < tree.mutantCount) :
    ∃ n, tree.owner m = .ok n ∧
      ∀ k : NodeId, (∃ node, tree.nodes[k]? = some node ∧ m ∈ node.mutants) ↔ k = n := by
  obtain ⟨n, hn⟩ : ∃ n, tree.owners[m.toNat]? = some n := ⟨_, Array.getElem?_eq_getElem hm⟩
  refine ⟨n, by simp only [Tree.owner, hn], fun k => ?_⟩
  have hplaces : (∃ node, tree.nodes[k]? = some node ∧ m ∈ node.mutants) ↔
      tree.owners[m.toNat]? = some k := by
    rw [h.owners_eq_some_iff, h.getElem?_nodes]
    simp [entry]
  rw [hplaces, hn, Option.some.injEq, eq_comm]

end BuiltFrom

/-- A build accepts the dense descriptions, in whatever order it fills the table of owners. -/
theorem build_dense {order : List (MutantId × NodeId) → List (MutantId × NodeId)}
    (horder : ∀ entries, (order entries).Perm entries) (description : Description) :
    BuildsDense description (ofDescriptionBy order description) := by
  have hfrom : ∀ tree, ofDescriptionBy order description = .ok tree → tree.BuiltFrom description :=
    fun tree hmade => builtFrom_of_ofDescriptionBy horder hmade
  constructor
  · constructor
    · rintro ⟨tree, hmade⟩
      exact (hfrom tree hmade).dense_mutants
    · intro hdense
      obtain ⟨hnodup, hlt⟩ := (perm_range_iff _).mp hdense
      rcases ofDescriptionBy_of_nodup horder hnodup with hmade | ⟨m, hm, hlarge, -⟩
      · exact hmade
      · exact absurd (hlt m hm) (Nat.not_lt_of_le hlarge)
  · intro hrepeats
    cases hfound : firstRepeated {} description.mutants with
    | none => exact absurd ((firstRepeated_eq_none_iff _ _).mp hfound).1 hrepeats
    | some m =>
        obtain ⟨before, after, hsplit, hnodup, -, hm⟩ := firstRepeated_eq_some hfound
        exact ⟨before, m, after, hsplit, hnodup, by simpa using hm,
          ofDescriptionBy_of_repeated hfound⟩
  · intro hnodup hsparse
    rcases ofDescriptionBy_of_nodup horder hnodup with ⟨tree, hmade⟩ | hnamed
    · exact absurd (hfrom tree hmade).dense_mutants hsparse
    · exact hnamed
  · exact fun tree hmade => (hfrom tree hmade).count
  · intro tree hmade m hm
    have h := hfrom tree hmade
    exact h.exists_owner (h.count ▸ hm)

/-- Two files whose mutants 5 and 7 are too large for three. -/
def holesDescription : Description where
  files := [.mk [.mk [] [.removeStmt 5]] [.removeStmt 0], .mk [] [.replaceExpr [7]]]

-- Which of the two is named depends on the order.
example : ofDescriptionBy id holesDescription = .error (.malformedDescription (.sparse 5 3)) := by
  cbv

example : ofDescriptionBy List.reverse holesDescription =
    .error (.malformedDescription (.sparse 7 3)) := by
  cbv

/-- The table is filled from behind. -/
theorem build_dense_holes :
    (∀ entries : List (MutantId × NodeId), entries.reverse.Perm entries) ∧
      BuildsDense holesDescription (ofDescriptionBy List.reverse holesDescription) := by
  have horder : ∀ entries : List (MutantId × NodeId), entries.reverse.Perm entries :=
    List.reverse_perm
  exact ⟨horder, build_dense horder holesDescription⟩

end Tree

end MutantHunt
