import MutantHunt.Proofs.Scheduler.Round

/-!
# Selections that fail

A draw that comes to a stranger, a mutant that the tree does not know, fails however far it has got.
Whether it does is chance, but what is lost is not: the draw has moved the random generator on, and
the selection may have moved the round on before, but no standing has changed.

Strangers do no harm while they are ahead of the others.  A selection draws from those with the
lowest count, so it does not come to a stranger that was tried more often.  That takes that nobody
is behind the round, which holds as long as no count overflows.  It holds also where there ought to
be more mutants than there are numbers for them: the total is for the check only
(`serveAll_setTotal`).

## Main results

* `fails_of_select_eq_error` — what a selection that fails makes of a scheduler.
* `notBehind_reached` — nobody is behind the round, however many mutants there ought to be.
* `select_fails_in_order` — when a selection fails, for whom, and what it leaves behind, in whatever
  state a scheduler can get into.
-/

namespace MutantHunt.Scheduler

variable {ρ : Type}

/-! ## The total is for the check only -/

theorem advance_setTotal (s : Scheduler ρ) (total : Nat) :
    ({ s with total } : Scheduler ρ).advance = { s.advance with total } := by
  have heligible : ({ s with total } : Scheduler ρ).eligible = s.eligible := rfl
  unfold advance
  rw [heligible]
  split
  · rfl
  · rfl

theorem charge_setTotal (s : Scheduler ρ) (total : Nat) (ms : List MutantId) :
    ({ s with total } : Scheduler ρ).charge ms = { s.charge ms with total } := by
  unfold charge
  induction ms generalizing s with
  | nil => rfl
  | cons m rest ih =>
      rw [List.foldl_cons, List.foldl_cons, ← ih]
      rfl

theorem recordKill_setTotal (s : Scheduler ρ) (total : Nat) (m : MutantId) (verdict : Verdict) :
    (({ s with total } : Scheduler ρ).recordKill m verdict).2 =
      { (s.recordKill m verdict).2 with total } := by
  have hst : ({ s with total } : Scheduler ρ).standing? m = s.standing? m := rfl
  unfold recordKill
  rw [hst]
  split
  · rfl
  · rfl

theorem serve_setTotal [RandomSource ρ] (s : Scheduler ρ) (total : Nat) (request : Request) :
    ({ s with total } : Scheduler ρ).serve request = { s.serve request with total } := by
  cases request with
  | select tree limit =>
      simp only [serve, select, advance_setTotal]
      rfl
  | charge ms => exact charge_setTotal s total ms
  | recordKill m verdict => exact recordKill_setTotal s total m verdict

/-- Requests do the same to the standings, the round and the random generator, whatever the total
is. -/
theorem serveAll_setTotal [RandomSource ρ] (s : Scheduler ρ) (total : Nat)
    (requests : List Request) :
    ({ s with total } : Scheduler ρ).serveAll requests = { s.serveAll requests with total } := by
  unfold serveAll
  induction requests generalizing s with
  | nil => rfl
  | cons request rest ih => rw [List.foldl_cons, List.foldl_cons, serve_setTotal, ih]

theorem new_eq_setTotal (total : Nat) (rng : ρ) :
    new total rng = { new (total % UInt32.size) rng with total } := by
  simp only [new, Nat.mod_mod]

/-- Nobody is behind the round, however many mutants there ought to be, as long as no count of a
mutant on record overflows. -/
theorem notBehind_reached [RandomSource ρ] (total : Nat) (rng : ρ) {requests : List Request}
    (hfew : ∀ m : MutantId, m.toNat < total % UInt32.size → attemptsIn m requests < UInt32.size)
    (m : MutantId) : ((new total rng).serveAll requests).NotBehind m := by
  intro n hn
  have hrecorded := lt_size_of_attempts? hn
  rw [size_serveAll, new, Array.size_replicate] at hrecorded
  have hsmall : total % UInt32.size < UInt32.size := Nat.mod_lt _ (by decide)
  rw [new_eq_setTotal, serveAll_setTotal] at hn ⊢
  exact notBehind_serveAll hsmall rng (hfew m hrecorded) n hn

/-! ## What a failure leaves behind -/

/-- What a selection with an error makes of a scheduler. -/
structure Fails (tree : Tree) (s after : Scheduler ρ) (e : TreeError) : Prop where
  /-- The error names a mutant that is alive and waits in the round that the scheduler is left in,
  and that is not one of the tree's. -/
  cause : ∃ m, e = .outOfRange m tree.mutantCount ∧ tree.mutantCount ≤ m.toNat ∧
    after.attempts? m = some after.round
  /-- Everything is as it was, but for the round and the random generator. -/
  unsettled : after = { s with round := after.round, rng := after.rng }
  /-- If the round was moved, nobody waited in it, and it was moved to the lowest count. -/
  moved : after.round ≠ s.round →
    (∀ m, s.attempts? m ≠ some s.round) ∧ s.lowest? = some after.round

theorem select_snd_eq [RandomSource ρ] (tree : Tree) (limit : Nat) (s : Scheduler ρ) :
    (select tree limit s).2 =
      { s with round := s.advance.round, rng := (select tree limit s).2.rng } := by
  have hadvance : s.advance = { s with round := s.advance.round } := by
    unfold advance
    split
    · rfl
    · rfl
  simp only [select]
  rw [hadvance]

theorem fails_of_select_eq_error [RandomSource ρ] {tree : Tree} {limit : Nat}
    {s after : Scheduler ρ} {e : TreeError} (hselect : select tree limit s = (.error e, after)) :
    Fails tree s after e := by
  have hafter : (select tree limit s).2 = after := congrArg Prod.snd hselect
  have hround : s.advance.round = after.round := by rw [← round_select tree limit, hafter]
  obtain ⟨m, hm, hlarge, herror⟩ := (select_known_or_stranger tree limit s).resolve_left (by
    rintro ⟨batch, hok, -⟩
    rw [hselect] at hok
    cases hok)
  rw [hselect, Except.error.injEq] at herror
  constructor
  · refine ⟨m, herror, hlarge, ?_⟩
    rw [← hafter, attempts?_select, hafter, ← hround]
    exact hm
  · rw [← hround, ← hafter]
    exact select_snd_eq tree limit s
  · intro hmoved
    rw [← hround] at hmoved ⊢
    rcases s.round_advance_cases with ⟨-, hstays⟩ | ⟨hnobody, hlow⟩
    · exact absurd hstays hmoved
    · obtain ⟨low, hleast, -⟩ := exists_lowest? hm
      rw [hleast, Option.getD_some] at hlow
      exact ⟨hnobody, by rw [hleast, hlow]⟩

/-- How selections of at most `limit` mutants fail, and when they do not. -/
structure FailsInOrder [RandomSource ρ] (tree : Tree) (limit : Nat) (s : Scheduler ρ) : Prop where
  failure : ∀ e after, select tree limit s = (.error e, after) → Fails tree s after e
  /-- There is none if the tree knows everybody who has the lowest count. -/
  succeeds : (∀ m low, s.lowest? = some low → s.attempts? m = some low →
    m.toNat < tree.mutantCount) → ∃ batch, (select tree limit s).1 = .ok batch
  /-- Without a failure, nobody in the batch is a stranger. -/
  known : ∀ batch after, select tree limit s = (.ok batch, after) →
    ∀ m ∈ batch, m.toNat < tree.mutantCount

/-- Whatever was asked of a scheduler, for however many mutants it was made, and whatever state its
random generator is in: as long as no count overflows, a selection fails in order. -/
theorem select_fails_in_order [RandomSource ρ] (total : Nat) (seed : ρ) {requests : List Request}
    (hfew : ∀ m : MutantId, m.toNat < total % UInt32.size → attemptsIn m requests < UInt32.size)
    (rng : ρ) (tree : Tree) (limit : Nat) :
    FailsInOrder tree limit { (new total seed).serveAll requests with rng } := by
  have hall := notBehind_reached total seed hfew
  generalize (new total seed).serveAll requests = reached at hall
  have houtcome := select_known_or_stranger tree limit { reached with rng }
  constructor
  · exact fun e after hselect => fails_of_select_eq_error hselect
  · intro hknown
    rcases houtcome with ⟨batch, hok, -⟩ | ⟨m, hm, hlarge, -⟩
    · exact ⟨batch, hok⟩
    · -- The stranger would have the lowest count.
      have hlow := lowest?_advance (s := { reached with rng }) hall hm
      exact absurd (hknown m _ hlow hm) (Nat.not_lt_of_le hlarge)
  · intro batch after hselect
    rcases houtcome with ⟨known, hok, hknown⟩ | ⟨m, -, -, herror⟩
    · rw [hselect, Except.ok.injEq] at hok
      exact hok ▸ hknown
    · rw [hselect] at herror
      cases herror

/-- Of five mutants a tree knows three, and these were tried twice while the others were tried
once. -/
def strangersFirst : List Request :=
  [.charge [0, 1, 2, 3, 4], .charge [0, 1, 2]]

-- The round moves to the strangers, and the selection fails for one of them.
example : (select .twoFiles 2
      { (new 5 (WyRand.mk 0)).serveAll strangersFirst with rng := WyRand.mk 7 }).1 =
    .error (.outOfRange 4 3) := by
  cbv

theorem select_fails_in_order_strangersFirst :
    (∀ m : MutantId, m.toNat < 5 % UInt32.size → attemptsIn m strangersFirst < UInt32.size) ∧
      FailsInOrder .twoFiles 2
        { (new 5 (WyRand.mk 0)).serveAll strangersFirst with rng := WyRand.mk 7 } := by
  have hfew : ∀ m : MutantId, m.toNat < 5 % UInt32.size →
      attemptsIn m strangersFirst < UInt32.size := by
    intro m hm
    have hcases : m = 0 ∨ m = 1 ∨ m = 2 ∨ m = 3 ∨ m = 4 := by
      simp only [← UInt32.toNat_inj, UInt32.reduceToNat]
      have hlt : m.toNat < 5 := hm
      omega
    rcases hcases with rfl | rfl | rfl | rfl | rfl <;> decide
  exact ⟨hfew, select_fails_in_order 5 (WyRand.mk 0) hfew (WyRand.mk 7) .twoFiles 2⟩

end MutantHunt.Scheduler
