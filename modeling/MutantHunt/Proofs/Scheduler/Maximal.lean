import MutantHunt.Proofs.Scheduler.Round

/-!
# Batches are as large as they can be

A selection stops for one of two reasons.  Either the batch is as long as it may be, or the pool is
used up, and then everybody who waited is in the batch or a relative of somebody who is.  So with
room for one mutant at all, a batch is empty only where nobody is alive: somebody always waits in
the round that the scheduler moves on to.

## Main results

* `exists_waiting` — as long as somebody is alive, somebody waits in the round after the move.
* `select_maximal` — a selection succeeds, and its batch is legal and cannot be extended.
-/

namespace MutantHunt.Scheduler

variable {ρ : Type} {s : Scheduler ρ}

/-- As long as somebody is alive, somebody waits in the round that the scheduler moves on to. -/
theorem exists_waiting {m : MutantId} {n : UInt32} (hn : s.attempts? m = some n) :
    ∃ m', s.attempts? m' = some s.advance.round := by
  rcases s.round_advance_cases with ⟨hwaits, hround⟩ | ⟨-, hround⟩
  · rwa [hround]
  · obtain ⟨low, hlow, -⟩ := exists_lowest? hn
    rw [hround, hlow, Option.getD_some]
    exact ((s.lowest?_eq_some_iff low).mp hlow).1

/-- Who waits in the round of a selection with room left is in the batch, or a relative of somebody
who is. -/
theorem covers_of_select_ok [RandomSource ρ] {tree : Tree} {limit : Nat} {batch : List MutantId}
    (hok : (select tree limit s).1 = .ok batch) (hroom : batch.length < limit) {m : MutantId}
    (hwaits : s.attempts? m = some s.advance.round) :
    m ∈ batch ∨ ∃ chosen ∈ batch, m ∈ tree.kin chosen := by
  have hm : m ∈ s.advance.eligible := by rwa [mem_eligible_iff, attempts?_advance]
  simp only [select] at hok
  refine (drawn_of_draw_ok hok).covers ?_ hm
  omega

theorem living_eq_nil_iff (s : Scheduler ρ) : s.living = [] ↔ ∀ m, s.attempts? m = none := by
  rw [List.eq_nil_iff_forall_not_mem]
  simp only [mem_living_iff, ← attempts?_eq_some_iff, Option.eq_none_iff_forall_ne_some,
    not_exists, ne_eq]

/-- What a selection of at most `limit` mutants makes of a scheduler, and the batch it gives. -/
structure Selects (tree : Tree) (limit : Nat) (s after : Scheduler ρ) (batch : List MutantId) :
    Prop where
  nodup : batch.Nodup
  length_le : batch.length ≤ limit
  /-- Who is selected is alive, and waits in the round that the scheduler is left in. -/
  waits : ∀ m ∈ batch, after.attempts? m = some after.round
  legal : ∀ a ∈ batch, ∀ b ∈ batch, b ∉ tree.kin a
  /-- Where there was room left, nobody else who waits could have been added. -/
  maximal : batch.length < limit → ∀ m, after.attempts? m = some after.round → m ∉ batch →
    ∃ chosen ∈ batch, m ∈ tree.kin chosen
  empty_iff : 1 ≤ limit → (batch = [] ↔ s.living = [])
  /-- A selection settles nothing. -/
  table : after.table = s.table

/-- Whatever state the scheduler and its random generator are in, as long as the tree knows all
that are alive, a selection gives a legal batch that cannot be extended. -/
theorem select_maximal [RandomSource ρ]
    {order : List (MutantId × NodeId) → List (MutantId × NodeId)}
    (horder : ∀ entries, (order entries).Perm entries) {description : Description} {tree : Tree}
    (hbuilt : Tree.ofDescriptionBy order description = .ok tree)
    (hknown : ∀ m ∈ s.living, m.toNat < tree.mutantCount) (limit : Nat) :
    ∃ batch, (select tree limit s).1 = .ok batch ∧
      Selects tree limit s (select tree limit s).2 batch := by
  obtain ⟨batch, hok⟩ := exists_select_eq_ok_of_known limit fun m n halive =>
    hknown m ((s.mem_living_iff m).mpr ⟨n, (s.attempts?_eq_some_iff m n).mp halive⟩)
  obtain ⟨hnodup, hlength, hwaits, hlegal⟩ :=
    select_ok (Tree.builtFrom_of_ofDescriptionBy horder hbuilt) hok
  refine ⟨batch, hok, hnodup, hlength, ?_, hlegal, ?_, ?_, table_select tree limit s⟩
  · intro m hm
    rw [attempts?_select, round_select]
    exact hwaits m hm
  · intro hroom m hm hout
    rw [attempts?_select, round_select] at hm
    exact (covers_of_select_ok hok hroom hm).resolve_left hout
  · intro hpos
    rw [living_eq_nil_iff]
    constructor
    · -- An empty batch has room, so it would cover whoever waits.
      rintro rfl m
      cases halive : s.attempts? m with
      | none => rfl
      | some n =>
          obtain ⟨m', hm'⟩ := exists_waiting halive
          rcases covers_of_select_ok hok hpos hm' with hin | ⟨chosen, hin, -⟩ <;> cases hin
    · intro hdead
      rw [List.eq_nil_iff_forall_not_mem]
      intro m hm
      have halive := hwaits m hm
      rw [hdead m] at halive
      cases halive

/-- Nobody waits in the round of this scheduler: mutants 0 and 2 are ahead of it, mutant 1 is
dead. -/
def aheadOfRound : Scheduler where
  total := 3
  table := #[.alive 2, .killed .runFailKill, .alive 2]
  round := 1
  rng := WyRand.mk 7

example : (select .twoFiles 5 aheadOfRound).1 = .ok [2, 0] := by
  cbv

theorem select_maximal_aheadOfRound :
    (∀ entries : List (MutantId × NodeId), (id entries).Perm entries) ∧
      Tree.ofDescriptionBy id Tree.twoFilesDescription = .ok .twoFiles ∧
      (∀ m ∈ aheadOfRound.living, m.toNat < Tree.twoFiles.mutantCount) ∧
      ∃ batch, (select .twoFiles 5 aheadOfRound).1 = .ok batch ∧
        Selects .twoFiles 5 aheadOfRound (select .twoFiles 5 aheadOfRound).2 batch := by
  have hknown : ∀ m ∈ aheadOfRound.living, m.toNat < Tree.twoFiles.mutantCount := by
    intro m hm
    obtain ⟨n, halive⟩ := (aheadOfRound.mem_living_iff m).mp hm
    exact lt_size_of_attempts? ((aheadOfRound.attempts?_eq_some_iff m n).mpr halive)
  exact ⟨List.Perm.refl, Tree.ofDescriptionBy_twoFiles, hknown,
    select_maximal List.Perm.refl Tree.ofDescriptionBy_twoFiles hknown 5⟩

end MutantHunt.Scheduler
