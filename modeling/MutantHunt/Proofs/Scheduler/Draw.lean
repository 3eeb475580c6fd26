import Mathlib.Data.List.GetD
import MutantHunt.Proofs.Scheduler.Table
import MutantHunt.Proofs.Tree.Kinship

/-!
# What a draw can give

A draw takes a mutant out of the pool together with its relatives before it goes on.  Which one it
takes is chance, so what is known of batches is what is known of all of them: `Drawn` leaves the
choice open, and facts about draws follow by induction along it.

Of two mutants in a batch the later one is never a relative of the earlier one.  That the earlier
one is none of the later one's follows in a built tree, where relatives are so mutually.

A scheduler may have more mutants on record than the tree knows.  To the tree the others are
*strangers*, and a draw that comes to one of them fails.

## Main results

* `draw_ok`, `Drawn.covers` — what is in a batch, and what is not although there was room.
* `draw_known_or_stranger` — a draw gives mutants that the tree knows, or fails for a stranger.
* `select_ok`, `exists_select_eq_ok` — all that is known of a batch that was selected, and that
  there is one.
-/

namespace MutantHunt.Scheduler

variable {ρ : Type} [RandomSource ρ]

/-- The place that is drawn in a pool is one of the pool. -/
theorem getD_below_mem (first : MutantId) (others : List MutantId) (rng : ρ) :
    (first :: others).getD (RandomSource.below (first :: others).length rng).1 first ∈
      first :: others := by
  have hpos : 0 < (first :: others).length := List.length_pos_of_ne_nil (List.cons_ne_nil _ _)
  have hlt := RandomSource.below_lt hpos rng
  rw [List.getD_eq_getElem _ _ hlt]
  exact List.getElem_mem hlt

/-- What is left of a pool after a draw: neither the mutant that was drawn nor a relative of it. -/
def leftOver (tree : Tree) (chosen : MutantId) (pool : List MutantId) : List MutantId :=
  pool.filter fun m => m != chosen && !(tree.kin chosen).contains m

theorem mem_leftOver_iff {tree : Tree} {pool : List MutantId} {chosen m : MutantId} :
    m ∈ leftOver tree chosen pool ↔ m ∈ pool ∧ m ≠ chosen ∧ m ∉ tree.kin chosen := by
  rw [leftOver, List.mem_filter]
  simp

/-- A draw from a pool that holds somebody: it chooses one of them, and goes on with what is left
over if the relatives of that one are known. -/
theorem exists_draw_succ_eq (tree : Tree) (limit : Nat) (first : MutantId)
    (others : List MutantId) (rng : ρ) :
    ∃ chosen ∈ first :: others, ∃ rng' : ρ, (draw tree (limit + 1) (first :: others) rng).1 =
      (tree.relatives chosen).bind fun _ =>
        (draw tree limit (leftOver tree chosen (first :: others)) rng').1.map (chosen :: ·) := by
  refine ⟨_, getD_below_mem first others rng,
    (RandomSource.below (first :: others).length rng).2, ?_⟩
  simp only [draw]
  generalize (first :: others).getD (RandomSource.below (first :: others).length rng).1 first =
    chosen
  cases hkin : tree.relatives chosen with
  | error e => rfl
  | ok relatives =>
      have hrelatives : tree.kin chosen = relatives := by rw [Tree.kin, hkin]
      rw [leftOver, hrelatives]
      rfl

/-- The batches of at most so many mutants that can be drawn from a pool, whatever is chosen. -/
inductive Drawn (tree : Tree) : Nat → List MutantId → List MutantId → Prop
  | full (pool : List MutantId) : Drawn tree 0 pool []
  | exhausted (limit : Nat) : Drawn tree limit [] []
  | next {limit : Nat} {pool rest : List MutantId} {chosen : MutantId} (hchosen : chosen ∈ pool)
      (hrest : Drawn tree limit (leftOver tree chosen pool) rest) :
      Drawn tree (limit + 1) pool (chosen :: rest)

/-- What a draw gives can be drawn. -/
theorem drawn_of_draw_ok {tree : Tree} {limit : Nat} {pool batch : List MutantId} {rng : ρ}
    (hok : (draw tree limit pool rng).1 = .ok batch) : Drawn tree limit pool batch := by
  induction limit generalizing pool batch rng with
  | zero =>
      simp only [draw, Except.ok.injEq] at hok
      subst hok
      exact .full pool
  | succ limit ih =>
      cases pool with
      | nil =>
          simp only [draw, Except.ok.injEq] at hok
          subst hok
          exact .exhausted (limit + 1)
      | cons first others =>
          obtain ⟨chosen, hchosen, rng', hdraw⟩ := exists_draw_succ_eq tree limit first others rng
          rw [hdraw] at hok
          cases hkin : tree.relatives chosen with
          | error e =>
              rw [hkin] at hok
              cases hok
          | ok relatives =>
              rw [hkin, Except.bind] at hok
              cases hrest : (draw tree limit (leftOver tree chosen (first :: others)) rng').1 with
              | error e =>
                  rw [hrest] at hok
                  cases hok
              | ok rest =>
                  rw [hrest, Except.map, Except.ok.injEq] at hok
                  subst hok
                  exact .next hchosen (ih hrest)

/-- What a draw gives comes from the pool, is as long as it may be at most, and holds no mutant
together with itself or a relative that was drawn before it. -/
theorem draw_ok {tree : Tree} {limit : Nat} {pool batch : List MutantId} {rng : ρ}
    (hok : (draw tree limit pool rng).1 = .ok batch) :
    batch.length ≤ limit ∧ (∀ m ∈ batch, m ∈ pool) ∧
      batch.Pairwise fun earlier later => earlier ≠ later ∧ later ∉ tree.kin earlier := by
  have hdrawn := drawn_of_draw_ok hok
  clear hok
  induction hdrawn with
  | full pool => simp
  | exhausted limit => simp
  | @next limit pool rest chosen hchosen hrest ih =>
      obtain ⟨hlength, hpool, hpairs⟩ := ih
      have hleft := fun m hm => mem_leftOver_iff.mp (hpool m hm)
      refine ⟨by simpa using hlength, ?_, List.pairwise_cons.mpr ⟨?_, hpairs⟩⟩
      · intro m hm
        rcases List.mem_cons.mp hm with rfl | hm
        · exact hchosen
        · exact (hleft m hm).1
      · intro m hm
        exact ⟨fun heq => (hleft m hm).2.1 heq.symm, (hleft m hm).2.2⟩

/-- A draw that could have gone on went on until the pool was used up: everybody in it was drawn
then, or taken out as a relative of somebody who was. -/
theorem Drawn.covers {tree : Tree} {limit : Nat} {pool batch : List MutantId}
    (h : Drawn tree limit pool batch) (hroom : batch.length < limit ∨ pool.length ≤ limit)
    {m : MutantId} (hm : m ∈ pool) : m ∈ batch ∨ ∃ chosen ∈ batch, m ∈ tree.kin chosen := by
  induction h with
  | full pool =>
      have hnone : pool = [] := List.length_eq_zero_iff.mp (by simpa using hroom)
      rw [hnone] at hm
      cases hm
  | exhausted limit => cases hm
  | @next limit pool rest chosen hchosen hrest ih =>
      by_cases heq : m = chosen
      · exact .inl (heq ▸ List.mem_cons_self)
      by_cases hkin : m ∈ tree.kin chosen
      · exact .inr ⟨chosen, List.mem_cons_self, hkin⟩
      have hless : (leftOver tree chosen pool).length < pool.length :=
        List.length_filter_lt_length_iff_exists.mpr ⟨chosen, hchosen, by simp⟩
      have hroom' : rest.length < limit ∨ (leftOver tree chosen pool).length ≤ limit := by
        rw [List.length_cons] at hroom
        omega
      rcases ih hroom' (mem_leftOver_iff.mpr ⟨hm, heq, hkin⟩) with hin | ⟨other, hother, hm⟩
      · exact .inl (List.mem_cons_of_mem chosen hin)
      · exact .inr ⟨other, List.mem_cons_of_mem chosen hother, hm⟩

/-- A draw either gives mutants that the tree knows, or fails for one of the pool that it does
not. -/
theorem draw_known_or_stranger (tree : Tree) (limit : Nat) (pool : List MutantId) (rng : ρ) :
    (∃ batch, (draw tree limit pool rng).1 = .ok batch ∧
        ∀ m ∈ batch, m.toNat < tree.mutantCount) ∨
      ∃ m ∈ pool, tree.mutantCount ≤ m.toNat ∧
        (draw tree limit pool rng).1 = .error (.outOfRange m tree.mutantCount) := by
  induction limit generalizing pool rng with
  | zero => exact .inl ⟨[], rfl, by simp⟩
  | succ limit ih =>
      cases pool with
      | nil => exact .inl ⟨[], rfl, by simp⟩
      | cons first others =>
          obtain ⟨chosen, hchosen, rng', hdraw⟩ := exists_draw_succ_eq tree limit first others rng
          rw [hdraw]
          rcases Nat.lt_or_ge chosen.toNat tree.mutantCount with hknown | hstranger
          · rw [Tree.relatives_eq_kin hknown, Except.bind]
            rcases ih (leftOver tree chosen (first :: others)) rng' with
              ⟨rest, hrest, hall⟩ | ⟨m, hm, hlarge, herror⟩
            · rw [hrest]
              exact .inl ⟨chosen :: rest, rfl, List.forall_mem_cons.mpr ⟨hknown, hall⟩⟩
            · rw [herror]
              exact .inr ⟨m, (mem_leftOver_iff.mp hm).1, hlarge, rfl⟩
          · rw [Tree.relatives_eq_error hstranger, Except.bind]
            exact .inr ⟨chosen, hchosen, hstranger, rfl⟩

/-- A selection either gives mutants that the tree knows, or fails for a stranger who waits in the
round that the scheduler has moved on to. -/
theorem select_known_or_stranger (tree : Tree) (limit : Nat) (s : Scheduler ρ) :
    (∃ batch, (select tree limit s).1 = .ok batch ∧ ∀ m ∈ batch, m.toNat < tree.mutantCount) ∨
      ∃ m, s.attempts? m = some s.advance.round ∧ tree.mutantCount ≤ m.toNat ∧
        (select tree limit s).1 = .error (.outOfRange m tree.mutantCount) := by
  rcases draw_known_or_stranger tree (min limit s.advance.eligible.length) s.advance.eligible
    s.advance.rng with hknown | ⟨m, hm, hlarge, herror⟩
  · exact .inl hknown
  · rw [mem_eligible_iff, attempts?, standing?_advance, ← attempts?] at hm
    exact .inr ⟨m, hm, hlarge, herror⟩

/-- A selection fails only if somebody is alive whom the tree does not know. -/
theorem exists_select_eq_ok_of_known {tree : Tree} (limit : Nat) {s : Scheduler ρ}
    (hknown : ∀ m n, s.attempts? m = some n → m.toNat < tree.mutantCount) :
    ∃ batch, (select tree limit s).1 = .ok batch := by
  rcases select_known_or_stranger tree limit s with ⟨batch, hok, -⟩ | ⟨m, hm, hlarge, -⟩
  · exact ⟨batch, hok⟩
  · exact absurd (hknown m _ hm) (Nat.not_lt_of_le hlarge)

/-- So it does not fail where as many mutants are on record as the tree has. -/
theorem exists_select_eq_ok {tree : Tree} (limit : Nat) {s : Scheduler ρ}
    (hsize : s.table.size = tree.mutantCount) :
    ∃ batch, (select tree limit s).1 = .ok batch :=
  exists_select_eq_ok_of_known limit fun _ _ halive => hsize ▸ lt_size_of_attempts? halive

/-- Any two of the batch are no relatives, in whatever order they were drawn. -/
theorem not_mem_kin_of_draw_ok {tree : Tree} {description : Description}
    (hbuilt : tree.BuiltFrom description) {batch : List MutantId}
    (hpairs : batch.Pairwise fun earlier later => earlier ≠ later ∧ later ∉ tree.kin earlier) :
    ∀ a ∈ batch, ∀ b ∈ batch, b ∉ tree.kin a := by
  induction batch with
  | nil =>
      intro a ha
      cases ha
  | cons first rest ih =>
      rw [List.pairwise_cons] at hpairs
      have hrest := ih hpairs.2
      intro a ha b hb
      rw [List.mem_cons] at ha hb
      rcases ha with rfl | ha
      · rcases hb with rfl | hb
        · exact tree.not_mem_kin_self _
        · exact (hpairs.1 b hb).2
      · rcases hb with rfl | hb
        · rw [hbuilt.mem_kin_comm]
          exact (hpairs.1 a ha).2
        · exact hrest a ha b hb

/-- A batch holds no more mutants than it may, each once, all of them waiting in the round that
the scheduler is in after the selection, and no two of them relatives. -/
theorem select_ok {tree : Tree} {description : Description} (hbuilt : tree.BuiltFrom description)
    {limit : Nat} {s : Scheduler ρ} {batch : List MutantId}
    (hok : (select tree limit s).1 = .ok batch) :
    batch.Nodup ∧ batch.length ≤ limit ∧
      (∀ m ∈ batch, s.attempts? m = some s.advance.round) ∧
      ∀ a ∈ batch, ∀ b ∈ batch, b ∉ tree.kin a := by
  simp only [select] at hok
  obtain ⟨hlength, hpool, hpairs⟩ := draw_ok hok
  refine ⟨hpairs.imp fun h => h.1, Nat.le_trans hlength (Nat.min_le_left _ _), ?_,
    not_mem_kin_of_draw_ok hbuilt hpairs⟩
  intro m hm
  have hwaiting := (s.advance.mem_eligible_iff m).mp (hpool m hm)
  rwa [attempts?, standing?_advance] at hwaiting

end MutantHunt.Scheduler
