import MutantHunt.Act
import MutantHunt.Random
import MutantHunt.Tree

/-!
# The scheduler: who is tried next

The scheduler knows of every mutant whether it was killed, and otherwise in how many attempts it was
not. Batches are drawn at random among the mutants whose count equals the current *round*, so every
mutant that is alive gets an attempt before any gets another; when none is left in the round, the
round moves to the lowest count there is. Relatives never share a batch.

A kill is for ever, with the verdict it was first recorded with.
-/

namespace MutantHunt

/-- What is known of one mutant. -/
inductive Standing where
  /-- Alive after so many failed attempts. -/
  | alive (attempts : UInt32)
  | killed (verdict : Verdict)
  deriving DecidableEq, Repr, Inhabited

namespace Standing

/-- Whether the mutant is dead. -/
def isKilled : Standing → Bool
  | alive _ => false
  | killed _ => true

/-- The failed attempts at a mutant that is alive. -/
def attempts? : Standing → Option UInt32
  | alive n => some n
  | killed _ => none

/-- The verdict that killed the mutant. -/
def verdict? : Standing → Option Verdict
  | alive _ => none
  | killed verdict => some verdict

/-- One more failed attempt. The dead are past counting. -/
def charge : Standing → Standing
  | alive n => alive (n + 1)
  | killed verdict => killed verdict

end Standing

/-- What is known of all mutants, and the state of the draw. -/
structure Scheduler (ρ : Type := WyRand) where
  /-- How many mutants there ought to be. -/
  total : Nat
  /-- The standing of each mutant, by its number. -/
  table : Array Standing
  round : UInt32
  rng : ρ
  deriving DecidableEq, Repr, Inhabited

namespace Scheduler

variable {ρ : Type}

/-- All mutants alive and untried. They are numbered in 32 bits, so no more of them can be on
record, however many there ought to be. -/
def new (total : Nat) (rng : ρ) : Scheduler ρ where
  total
  table := Array.replicate (total % UInt32.size) (.alive 0)
  round := 0
  rng

/-- What is known of a mutant. -/
def standing? (s : Scheduler ρ) (m : MutantId) : Option Standing :=
  s.table[m.toNat]?

/-- Whether a mutant is on record as killed. -/
def isKilled (s : Scheduler ρ) (m : MutantId) : Bool :=
  (s.standing? m).any Standing.isKilled

/-- The failed attempts at a mutant, as long as it is alive. -/
def attempts? (s : Scheduler ρ) (m : MutantId) : Option UInt32 :=
  (s.standing? m).bind Standing.attempts?

/-- The verdict a mutant was killed with. -/
def verdict? (s : Scheduler ρ) (m : MutantId) : Option Verdict :=
  (s.standing? m).bind Standing.verdict?

/-- The mutants on record, ascending. -/
def mutants (s : Scheduler ρ) : List MutantId :=
  (List.range s.table.size).map UInt32.ofNat

/-- The killed mutants with their verdicts, ascending. -/
def kills (s : Scheduler ρ) : List (MutantId × Verdict) :=
  s.mutants.filterMap fun m => (s.verdict? m).map (m, ·)

/-- The mutants that are alive with their failed attempts, ascending. -/
def survivors (s : Scheduler ρ) : List (MutantId × UInt32) :=
  s.mutants.filterMap fun m => (s.attempts? m).map (m, ·)

/-- How many mutants are killed. -/
def killedCount (s : Scheduler ρ) : Nat :=
  s.table.toList.countP Standing.isKilled

/-- How many mutants are alive. -/
def unkilledCount (s : Scheduler ρ) : Nat :=
  s.table.toList.countP fun standing => !standing.isKilled

/-- Whether no mutant is alive. -/
def allKilled (s : Scheduler ρ) : Bool :=
  s.table.toList.all Standing.isKilled

/-- The mutants that still wait for their attempt in the current round, ascending. -/
def eligible (s : Scheduler ρ) : List MutantId :=
  s.mutants.filter fun m => s.attempts? m == some s.round

/-- How many mutants still wait for their attempt in the current round. -/
def pendingCount (s : Scheduler ρ) : Nat :=
  s.eligible.length

/-- The lowest count of failed attempts of a mutant that is alive. -/
def lowest? (s : Scheduler ρ) : Option UInt32 :=
  (s.survivors.map Prod.snd).min?

/-- Moves on to the lowest count if nobody waits in the current round. The round stays where it is
when nobody is alive. -/
def advance (s : Scheduler ρ) : Scheduler ρ :=
  if s.eligible.isEmpty then { s with round := s.lowest?.getD s.round } else s

/-- Draws mutants from a pool, and takes each with its relatives out of the pool before the next is
drawn. Ends with the pool, or after so many. -/
def draw [RandomSource ρ] (tree : Tree) :
    Nat → List MutantId → ρ → Except TreeError (List MutantId) × ρ
  | 0, _, rng => (.ok [], rng)
  | _ + 1, [], rng => (.ok [], rng)
  | n + 1, first :: others, rng =>
    let pool := first :: others
    let (index, rng) := RandomSource.below pool.length rng
    let chosen := pool.getD index first
    match tree.relatives chosen with
    | .error e => (.error e, rng)
    | .ok relatives =>
      let (rest, rng) :=
        draw tree n (pool.filter fun m => m != chosen && !relatives.contains m) rng
      (rest.map (chosen :: ·), rng)

/-- Draws a batch of at most `limit` mutants of the current round that are no relatives of each
other, after moving on to the next round where it is due. -/
def select [RandomSource ρ] (tree : Tree) (limit : Nat) :
    Act TreeError (Scheduler ρ) (List MutantId) := fun s =>
  let s := s.advance
  let pool := s.eligible
  let (batch, rng) := draw tree (min limit pool.length) pool s.rng
  (batch, { s with rng })

/-- Records a failed attempt at one mutant. -/
def chargeOne (s : Scheduler ρ) (m : MutantId) : Scheduler ρ :=
  { s with table := s.table.modify m.toNat Standing.charge }

/-- Records a failed attempt at each of the mutants. -/
def charge (s : Scheduler ρ) (ms : List MutantId) : Scheduler ρ :=
  ms.foldl chargeOne s

/-- Records a kill. Tells whether it is news: a mutant that is killed already, or not on record,
stays as it is. -/
def recordKill (s : Scheduler ρ) (m : MutantId) (verdict : Verdict) : Bool × Scheduler ρ :=
  match s.standing? m with
  | some (.alive _) => (true, { s with table := s.table.setIfInBounds m.toNat (.killed verdict) })
  | _ => (false, s)

/-- Fails if the mutants on record are not as many as there ought to be. -/
def check (s : Scheduler ρ) : Except HuntError Unit :=
  if s.killedCount + s.unkilledCount = s.total then .ok ()
  else .error (.outOfSync s.killedCount s.unkilledCount s.total)

/-! ## Small facts -/

@[simp] theorem total_advance (s : Scheduler ρ) : s.advance.total = s.total := by
  unfold advance; split <;> rfl

@[simp] theorem table_advance (s : Scheduler ρ) : s.advance.table = s.table := by
  unfold advance; split <;> rfl

@[simp] theorem table_select [RandomSource ρ] (tree : Tree) (limit : Nat) (s : Scheduler ρ) :
    (select tree limit s).2.table = s.table := by
  simp [select]

@[simp] theorem round_select [RandomSource ρ] (tree : Tree) (limit : Nat) (s : Scheduler ρ) :
    (select tree limit s).2.round = s.advance.round := by
  simp [select]

theorem size_charge (s : Scheduler ρ) (ms : List MutantId) :
    (s.charge ms).table.size = s.table.size := by
  unfold charge
  induction ms generalizing s with
  | nil => rfl
  | cons m ms ih => rw [List.foldl_cons, ih]; simp [chargeOne]

theorem size_recordKill (s : Scheduler ρ) (m : MutantId) (verdict : Verdict) :
    (s.recordKill m verdict).2.table.size = s.table.size := by
  unfold recordKill
  split <;> simp

end Scheduler

end MutantHunt
