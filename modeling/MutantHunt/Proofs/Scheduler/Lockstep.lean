import MutantHunt.Proofs.Scheduler.Round

/-!
# Everybody gets a turn before anybody gets the next

A search that only tries batches works in *shifts*: it selects a batch, and before it selects the
next, every member of the batch is either killed or charged with one failed attempt.  Others may be
killed meanwhile, but nobody else is charged.  `Turn` is one step of that, and a `Shift` remembers
besides the scheduler which members of the latest batch are still due, and all batches so far.

The invariant is `InStep`: who is due waits in the round, everybody else who is alive is in the
round or one above it, and the count of failed attempts is the number of selections, but for the one
that is due.  A selection keeps it because nobody is due then: if somebody waits in the round it
stays, and otherwise everybody who is alive is exactly one above it.

## Main results

* `inStep_turn` — each step keeps the invariant.
* `rounds_in_lockstep` — counts and rounds stay together in every run, and so do the numbers of
  selections of any two mutants that are alive.
-/

namespace MutantHunt

namespace Scheduler

variable {ρ : Type} {s : Scheduler ρ} {m : MutantId} {n : UInt32}

/-- A scheduler in the course of its batches. -/
structure Shift (ρ : Type) where
  scheduler : Scheduler ρ
  /-- The members of the latest batch that were neither killed nor charged since. -/
  due : List MutantId
  /-- All batches so far. -/
  batches : List (List MutantId)

namespace Shift

/-- Before the first batch. -/
def start (total : Nat) (rng : ρ) : Shift ρ :=
  { scheduler := new total rng, due := [], batches := [] }

/-- How many batches so far had the mutant, counting repetitions. -/
def selections (shift : Shift ρ) (m : MutantId) : Nat :=
  shift.batches.flatten.count m

end Shift

/-- One step of a search that tries batches only. -/
inductive Turn [RandomSource ρ] : Shift ρ → Shift ρ → Prop
  /-- A batch is selected, with any tree and of any size, when nobody is due. -/
  | select {s : Scheduler ρ} {batches : List (List MutantId)} (tree : Tree) (limit : Nat)
      {batch : List MutantId} (hok : (Scheduler.select tree limit s).1 = .ok batch) :
      Turn ⟨s, [], batches⟩ ⟨(Scheduler.select tree limit s).2, batch, batches ++ [batch]⟩
  /-- Some mutants are charged, each once, that are due or dead. No count overflows. -/
  | charge {shift : Shift ρ} (ms : List MutantId) (hnodup : ms.Nodup)
      (hdue : ∀ m ∈ ms, m ∈ shift.due ∨ shift.scheduler.isKilled m = true)
      (hroom : ∀ m ∈ ms, ∀ n, shift.scheduler.attempts? m = some n → n.toNat + 1 < UInt32.size) :
      Turn shift ⟨shift.scheduler.charge ms, shift.due.filter fun m => m ∉ ms, shift.batches⟩
  /-- Any mutant is killed. -/
  | kill {shift : Shift ρ} (m : MutantId) (verdict : Verdict) :
      Turn shift ⟨(shift.scheduler.recordKill m verdict).2, shift.due.filter fun m' => m' ≠ m,
        shift.batches⟩

/-- What holds at every moment of a run over `total` mutants. -/
structure InStep (total : Nat) (shift : Shift ρ) : Prop where
  size : shift.scheduler.table.size = total
  nodup : shift.due.Nodup
  /-- Who is due is alive, and waits in the round. -/
  waits : ∀ m ∈ shift.due, shift.scheduler.attempts? m = some shift.scheduler.round
  /-- Who is alive is in the round, or one above it. -/
  counts : ∀ m n, shift.scheduler.attempts? m = some n →
    n = shift.scheduler.round ∨ n.toNat = shift.scheduler.round.toNat + 1
  /-- Each selection was followed by a failed attempt, unless that is due. -/
  level : ∀ m n, shift.scheduler.attempts? m = some n →
    shift.selections m = n.toNat + shift.due.count m

/-! ## One step -/

/-- If everybody who is alive is in the round or one above it, then moving on goes no further. -/
theorem round_advance_of_counts
    (hcounts : ∀ m n, s.attempts? m = some n → n = s.round ∨ n.toNat = s.round.toNat + 1) :
    s.advance.round = s.round ∨
      (s.advance.round.toNat = s.round.toNat + 1 ∧
        ∀ m n, s.attempts? m = some n → n = s.advance.round) := by
  rcases s.round_advance_cases with ⟨-, hround⟩ | ⟨hnobody, hround⟩
  · exact .inl hround
  · have habove : ∀ m n, s.attempts? m = some n → n.toNat = s.round.toNat + 1 := by
      intro m n hn
      rcases hcounts m n hn with hsame | habove
      · rw [hsame] at hn
        exact absurd hn (hnobody m)
      · exact habove
    cases hlow : s.lowest? with
    | none =>
        rw [hlow, Option.getD_none] at hround
        exact .inl hround
    | some low =>
        rw [hlow, Option.getD_some] at hround
        obtain ⟨⟨m, hm⟩, -⟩ := (s.lowest?_eq_some_iff low).mp hlow
        have hnext := habove m low hm
        rw [hround]
        refine .inr ⟨hnext, fun m' n hn => ?_⟩
        rw [← UInt32.toNat_inj, habove m' n hn, hnext]

/-- The count of a mutant after a charge, as long as it has room. -/
theorem attempts?_charge {ms : List MutantId} (hn : (s.charge ms).attempts? m = some n) :
    ∃ k, s.attempts? m = some k ∧ n = k + UInt32.ofNat (ms.count m) := by
  rw [attempts?_eq_some_iff, standing?_charge, Option.map_eq_some_iff] at hn
  obtain ⟨standing, hbefore, hcharged⟩ := hn
  cases standing with
  | killed verdict => cases hcharged
  | alive k =>
      refine ⟨k, (s.attempts?_eq_some_iff m k).mpr hbefore, ?_⟩
      rw [Standing.chargeBy, Standing.alive.injEq] at hcharged
      exact hcharged.symm

theorem attempts?_charge_of_not_mem {ms : List MutantId} (hm : m ∉ ms) :
    (s.charge ms).attempts? m = s.attempts? m := by
  rw [attempts?, standing?_charge, List.count_eq_zero.mpr hm, Standing.chargeBy_zero,
    Option.map_id, id, attempts?]

theorem attempts?_recordKill {m' : MutantId} {verdict : Verdict}
    (hn : (s.recordKill m' verdict).2.attempts? m = some n) : m ≠ m' ∧ s.attempts? m = some n := by
  rw [attempts?_eq_some_iff, standing?_recordKill] at hn
  by_cases hsame : m' = m
  · rw [if_pos hsame, Option.map_eq_some_iff] at hn
    obtain ⟨standing, -, hkilled⟩ := hn
    cases standing <;> cases hkilled
  · rw [if_neg hsame] at hn
    exact ⟨fun heq => hsame heq.symm, (s.attempts?_eq_some_iff m n).mpr hn⟩

theorem attempts?_recordKill_of_ne {m' : MutantId} (hother : m ≠ m') (verdict : Verdict) :
    (s.recordKill m' verdict).2.attempts? m = s.attempts? m := by
  rw [attempts?, standing?_recordKill, if_neg (Ne.symm hother), attempts?]

theorem nodup_of_select_ok [RandomSource ρ] {tree : Tree} {limit : Nat} {batch : List MutantId}
    (hok : (select tree limit s).1 = .ok batch) : batch.Nodup := by
  simp only [select] at hok
  obtain ⟨-, -, hpairs⟩ := draw_ok hok
  exact hpairs.imp And.left

variable {total : Nat}

theorem inStep_start (hsmall : total < UInt32.size) (rng : ρ) :
    InStep total (.start total rng) := by
  have hzero : ∀ m n, (new total rng).attempts? m = some n → n = 0 := by
    intro m n hn
    rw [attempts?_eq_some_iff, standing?_new rng hsmall] at hn
    split at hn
    · cases hn
      rfl
    · cases hn
  constructor
  · show (Array.replicate (total % UInt32.size) (Standing.alive 0)).size = total
    rw [Array.size_replicate, Nat.mod_eq_of_lt hsmall]
  · exact .nil
  · intro m hm
    cases hm
  · intro m n hn
    exact .inl (hzero m n hn)
  · intro m n hn
    rw [hzero m n hn]
    rfl

theorem inStep_select [RandomSource ρ] {batches : List (List MutantId)}
    (h : InStep total ⟨s, [], batches⟩) (tree : Tree) (limit : Nat) {batch : List MutantId}
    (hok : (select tree limit s).1 = .ok batch) :
    InStep total ⟨(select tree limit s).2, batch, batches ++ [batch]⟩ := by
  constructor
  · show (select tree limit s).2.table.size = total
    rw [table_select]
    exact h.size
  · exact nodup_of_select_ok hok
  · intro m hm
    show (select tree limit s).2.attempts? m = some (select tree limit s).2.round
    rw [attempts?_select, round_select]
    exact attempts?_of_mem_select hok hm
  · intro m n hn
    have hbefore : s.attempts? m = some n := by rwa [attempts?_select] at hn
    show n = (select tree limit s).2.round ∨ n.toNat = (select tree limit s).2.round.toNat + 1
    rw [round_select]
    rcases round_advance_of_counts h.counts with hround | ⟨-, hall⟩
    · rw [hround]
      exact h.counts m n hbefore
    · exact .inl (hall m n hbefore)
  · intro m n hn
    have hbefore : s.attempts? m = some n := by rwa [attempts?_select] at hn
    have hlevel : batches.flatten.count m = n.toNat := h.level m n hbefore
    show (batches ++ [batch]).flatten.count m = n.toNat + batch.count m
    rw [List.flatten_append, List.flatten_singleton, List.count_append, hlevel]

/-- Who is alive and charged was due, so it goes from the round to the one above. -/
theorem InStep.charged {shift : Shift ρ} (h : InStep total shift) {ms : List MutantId}
    (hnodup : ms.Nodup)
    (hdue : ∀ m ∈ ms, m ∈ shift.due ∨ shift.scheduler.isKilled m = true)
    (hroom : ∀ m ∈ ms, ∀ n, shift.scheduler.attempts? m = some n → n.toNat + 1 < UInt32.size)
    (hm : m ∈ ms) (hn : (shift.scheduler.charge ms).attempts? m = some n) :
    m ∈ shift.due ∧ n.toNat = shift.scheduler.round.toNat + 1 := by
  obtain ⟨k, hk, rfl⟩ := attempts?_charge hn
  have hmember : m ∈ shift.due := by
    rcases hdue m hm with hmember | hdead
    · exact hmember
    · have halive := (exists_attempts?_iff (lt_size_of_attempts? hk)).mp ⟨k, hk⟩
      rw [halive] at hdead
      cases hdead
  have hround : k = shift.scheduler.round := by
    have hwaits := h.waits m hmember
    rw [hk] at hwaits
    exact Option.some.inj hwaits
  have hfits := hroom m hm k hk
  refine ⟨hmember, ?_⟩
  rw [List.count_eq_one_of_mem hnodup hm, ← hround, UInt32.toNat_add]
  show (k.toNat + 1) % UInt32.size = k.toNat + 1
  exact Nat.mod_eq_of_lt hfits

theorem inStep_charge {shift : Shift ρ} (h : InStep total shift) {ms : List MutantId}
    (hnodup : ms.Nodup)
    (hdue : ∀ m ∈ ms, m ∈ shift.due ∨ shift.scheduler.isKilled m = true)
    (hroom : ∀ m ∈ ms, ∀ n, shift.scheduler.attempts? m = some n → n.toNat + 1 < UInt32.size) :
    InStep total
      ⟨shift.scheduler.charge ms, shift.due.filter fun m => m ∉ ms, shift.batches⟩ := by
  constructor
  · show (shift.scheduler.charge ms).table.size = total
    rw [size_charge]
    exact h.size
  · exact h.nodup.filter _
  · intro m hm
    obtain ⟨hmember, hother⟩ := List.mem_filter.mp hm
    show (shift.scheduler.charge ms).attempts? m = some (shift.scheduler.charge ms).round
    rw [attempts?_charge_of_not_mem (by simpa using hother), round_charge]
    exact h.waits m hmember
  · intro m n hn
    show n = (shift.scheduler.charge ms).round ∨
      n.toNat = (shift.scheduler.charge ms).round.toNat + 1
    rw [round_charge]
    by_cases hm : m ∈ ms
    · exact .inr (h.charged hnodup hdue hroom hm hn).2
    · exact h.counts m n ((attempts?_charge_of_not_mem hm).symm.trans hn)
  · intro m n hn
    show shift.selections m = n.toNat + (shift.due.filter fun m => m ∉ ms).count m
    by_cases hm : m ∈ ms
    · obtain ⟨hmember, hcount⟩ := h.charged hnodup hdue hroom hm hn
      have hlevel := h.level m shift.scheduler.round (h.waits m hmember)
      rw [List.count_eq_one_of_mem h.nodup hmember] at hlevel
      rw [hlevel, hcount, List.count_eq_zero.mpr (by simp [hm])]
    · have hbefore := (attempts?_charge_of_not_mem hm).symm.trans hn
      rw [h.level m n hbefore, List.count_filter (by simpa using hm)]

theorem inStep_kill {shift : Shift ρ} (h : InStep total shift) (m' : MutantId) (verdict : Verdict) :
    InStep total ⟨(shift.scheduler.recordKill m' verdict).2, shift.due.filter fun m => m ≠ m',
      shift.batches⟩ := by
  constructor
  · show (shift.scheduler.recordKill m' verdict).2.table.size = total
    rw [size_recordKill]
    exact h.size
  · exact h.nodup.filter _
  · intro m hm
    obtain ⟨hmember, hother⟩ := List.mem_filter.mp hm
    show (shift.scheduler.recordKill m' verdict).2.attempts? m =
      some (shift.scheduler.recordKill m' verdict).2.round
    rw [attempts?_recordKill_of_ne (by simpa using hother), round_recordKill]
    exact h.waits m hmember
  · intro m n hn
    show n = (shift.scheduler.recordKill m' verdict).2.round ∨
      n.toNat = (shift.scheduler.recordKill m' verdict).2.round.toNat + 1
    rw [round_recordKill]
    exact h.counts m n (attempts?_recordKill hn).2
  · intro m n hn
    obtain ⟨hother, hbefore⟩ := attempts?_recordKill hn
    show shift.selections m = n.toNat + (shift.due.filter fun m => m ≠ m').count m
    rw [h.level m n hbefore, List.count_filter (by simpa using hother)]

/-- Each step keeps the invariant. -/
theorem inStep_turn [RandomSource ρ] {shift shift' : Shift ρ} (h : InStep total shift)
    (hturn : Turn shift shift') : InStep total shift' := by
  cases hturn with
  | select tree limit hok => exact inStep_select h tree limit hok
  | charge ms hnodup hdue hroom => exact inStep_charge h hnodup hdue hroom
  | kill m verdict => exact inStep_kill h m verdict

/-! ## Whole runs -/

theorem inStep_turns [RandomSource ρ] {shift shift' : Shift ρ} (h : InStep total shift)
    (hturns : Relation.ReflTransGen Turn shift shift') : InStep total shift' := by
  induction hturns with
  | refl => exact h
  | tail _ hturn ih => exact inStep_turn ih hturn

/-- How counts, rounds and selections go together at a moment of a run. -/
structure Lockstep [RandomSource ρ] (total : Nat) (shift : Shift ρ) : Prop where
  /-- Who is alive is in the round, or one above it. -/
  counts : ∀ m n, shift.scheduler.attempts? m = some n →
    n = shift.scheduler.round ∨ n.toNat = shift.scheduler.round.toNat + 1
  /-- When nobody is due, a selection leaves the round as it is or raises it by one. -/
  rises : shift.due = [] → ∀ tree limit,
    (select tree limit shift.scheduler).2.round = shift.scheduler.round ∨
      (select tree limit shift.scheduler).2.round.toNat = shift.scheduler.round.toNat + 1
  /-- With a tree of enough mutants, it gives a batch. -/
  selects : ∀ tree limit, total ≤ tree.mutantCount →
    ∃ batch, (select tree limit shift.scheduler).1 = .ok batch
  /-- Of two mutants that are alive, neither was selected more than once more than the other. -/
  fair : ∀ a b, (∃ n, shift.scheduler.attempts? a = some n) →
    (∃ n, shift.scheduler.attempts? b = some n) → shift.selections a ≤ shift.selections b + 1

theorem lockstep_of_inStep [RandomSource ρ] {shift : Shift ρ} (h : InStep total shift) :
    Lockstep total shift := by
  constructor
  · exact h.counts
  · intro _ tree limit
    rw [round_select]
    rcases round_advance_of_counts h.counts with hround | ⟨hround, -⟩
    · exact .inl hround
    · exact .inr hround
  · intro tree limit hknown
    refine exists_select_eq_ok_of_known limit fun m n hn => ?_
    have hlt := lt_size_of_attempts? hn
    rw [h.size] at hlt
    omega
  · rintro a b ⟨n, hn⟩ ⟨k, hk⟩
    have hupper : shift.selections a ≤ shift.scheduler.round.toNat + 1 := by
      rw [h.level a n hn]
      by_cases hdue : a ∈ shift.due
      · have hwaits := h.waits a hdue
        rw [hn] at hwaits
        rw [Option.some.inj hwaits, List.count_eq_one_of_mem h.nodup hdue]
      · rw [List.count_eq_zero.mpr hdue]
        rcases h.counts a n hn with rfl | habove
        · omega
        · omega
    have hlower : shift.scheduler.round.toNat ≤ shift.selections b := by
      rw [h.level b k hk]
      rcases h.counts b k hk with rfl | habove
      · omega
      · omega
    omega

/-- As long as only batches fail, and no count overflows, all mutants that are alive go through the
rounds together. -/
theorem rounds_in_lockstep [RandomSource ρ] (hsmall : total < UInt32.size) (rng : ρ)
    {shift : Shift ρ} (hrun : Relation.ReflTransGen Turn (.start total rng) shift) : Lockstep total shift :=
  lockstep_of_inStep (inStep_turns (inStep_start hsmall rng) hrun)

/-- After the first batch of three mutants. -/
def firstBatchOut : Scheduler :=
  (select .twoFiles 2 (new 3 (WyRand.mk 0))).2

/-- After one member of the batch was killed and the other charged. -/
def firstBatchIn : Scheduler :=
  (firstBatchOut.recordKill 2 .runFailKill).2.charge [1]

/-- The second batch, before anything is known of it. -/
def secondBatchOut : Shift WyRand where
  scheduler := (select .twoFiles 2 firstBatchIn).2
  due := [0]
  batches := [[1, 2], [0]]

theorem turns_secondBatchOut :
    Relation.ReflTransGen Turn (.start 3 (WyRand.mk 0)) secondBatchOut := by
  have hfirst : (select .twoFiles 2 (new 3 (WyRand.mk 0))).1 = .ok [1, 2] := by decide +kernel
  have hsecond : (select .twoFiles 2 firstBatchIn).1 = .ok [0] := by decide +kernel
  have huntried : (firstBatchOut.recordKill 2 .runFailKill).2.attempts? 1 = some 0 := by
    decide +kernel
  have hselect : Turn (.start 3 (WyRand.mk 0)) ⟨firstBatchOut, [1, 2], [[1, 2]]⟩ :=
    .select .twoFiles 2 hfirst
  have hkill : Turn ⟨firstBatchOut, [1, 2], [[1, 2]]⟩
      ⟨(firstBatchOut.recordKill 2 .runFailKill).2, [1], [[1, 2]]⟩ := .kill 2 .runFailKill
  have hcharge : Turn ⟨(firstBatchOut.recordKill 2 .runFailKill).2, [1], [[1, 2]]⟩
      ⟨firstBatchIn, [], [[1, 2]]⟩ := by
    refine .charge [1] (by decide) (fun m hm => .inl hm) ?_
    intro m hm n hn
    rw [List.mem_singleton.mp hm, huntried] at hn
    cases hn
    decide
  have hselect' : Turn ⟨firstBatchIn, [], [[1, 2]]⟩ secondBatchOut := .select .twoFiles 2 hsecond
  exact .tail (.tail (.tail (.single hselect) hkill) hcharge) hselect'

theorem rounds_in_lockstep_twoFiles :
    3 < UInt32.size ∧ Relation.ReflTransGen Turn (.start 3 (WyRand.mk 0)) secondBatchOut ∧
      Lockstep 3 secondBatchOut :=
  ⟨by decide, turns_secondBatchOut,
    rounds_in_lockstep (by decide) (WyRand.mk 0) turns_secondBatchOut⟩

end Scheduler

end MutantHunt
