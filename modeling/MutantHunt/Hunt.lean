import MutantHunt.Scheduler
import MutantHunt.Triage

/-!
# The hunt for kills

A *campaign* fixes what stays the same during a search: the tree of mutants, the limits and the
collaborators. A *hunt* is the state of one: the scheduler, what was reduced so far, how many
programs were used, and the world of the collaborators with the journal of what they were asked.

* `Campaign.bisect` finds the mutants of a batch that the current program kills, by halving it.
* `Campaign.consolidate` follows a kill up with a trial of every relative by itself, and hands the
  miscompilations it saw to triage.
* `Campaign.attemptKills` spends the attempts a program is worth; `Campaign.hunt` does so with a
  fresh program; `Campaign.run` hunts until all mutants are dead or the programs are used up.

An act that fails keeps what was recorded before the failure.
-/

namespace MutantHunt

/-- How hard one program is worked. -/
structure Limits where
  /-- Attempts per program. -/
  attempts : Nat := 100
  /-- Attempts in a row without a kill before a program is given up. -/
  failures : Nat := 10
  /-- Mutants enabled at a time. -/
  batch : Nat := 64
  deriving DecidableEq, Repr

/-- What stays the same during a search. -/
structure Campaign (σ : Type) where
  tree : Tree
  limits : Limits
  harness : Harness σ
  reducer : Reducer σ

/-- The state of a search. -/
structure Hunt (σ : Type) where
  scheduler : Scheduler
  /-- The groups of miscompilations so far, oldest first. -/
  reduced : List ReducedKill
  /-- How many programs were made. -/
  programs : UInt64
  /-- The world of the collaborators, and what they were asked. -/
  outside : Journaled σ

/-- What came of working one program. -/
structure Outcome where
  attempts : Nat := 0
  /-- Attempts that killed something. -/
  successful : Nat := 0
  /-- Mutants killed, relatives included. -/
  kills : Nat := 0
  deriving DecidableEq, Repr, Inhabited

/-- A step of a search. -/
abbrev Search (σ α : Type) := Act HuntError (Hunt σ) α

namespace Hunt

variable {σ : Type}

/-- Lets the collaborators act. -/
def outsideAct {α : Type} (act : Act HuntError (Journaled σ) α) : Search σ α :=
  Act.zoom Hunt.outside (fun outside hunt => { hunt with outside }) act

/-- Changes the scheduler. -/
def updateScheduler (f : Scheduler → Scheduler) (hunt : Hunt σ) : Hunt σ :=
  { hunt with scheduler := f hunt.scheduler }

/-- Records a failed attempt at each of the mutants. -/
def charge (ms : List MutantId) (hunt : Hunt σ) : Hunt σ :=
  hunt.updateScheduler (·.charge ms)

/-- Records a kill. -/
def recordKill (m : MutantId) (verdict : Verdict) (hunt : Hunt σ) : Hunt σ :=
  hunt.updateScheduler fun s => (s.recordKill m verdict).2

/-- The mutants of a list that are alive, in order. -/
def living (hunt : Hunt σ) (ms : List MutantId) : List MutantId :=
  ms.filter fun m => !hunt.scheduler.isKilled m

/-- The snapshot of a search. -/
def report (hunt : Hunt σ) : Report where
  total := hunt.scheduler.total.toUInt64
  killed := hunt.scheduler.killedCount.toUInt64
  unkilled := hunt.scheduler.unkilledCount.toUInt64
  round := hunt.scheduler.round
  programs := hunt.programs
  kills := hunt.scheduler.kills.map fun (mutant, verdict) => { mutant, verdict }
  reduced := hunt.reduced

/-- Every question to the collaborators so far with its answer, oldest first. -/
def events (hunt : Hunt σ) : List Event :=
  hunt.outside.journal.reverse

theorem length_living_le (hunt : Hunt σ) (ms : List MutantId) :
    (hunt.living ms).length ≤ ms.length :=
  List.length_filter_le _ _

end Hunt

/-- How much work a part of a batch can still make: a part of `n` mutants takes at most `2n - 1`
trials, and one that turns out empty is looked at once. -/
def workOf (part : List MutantId) : Nat :=
  max 1 (2 * part.length - 1)

/-- How much work a list of parts can still make. -/
def workOfAll (parts : List (List MutantId)) : Nat :=
  (parts.map workOf).foldr (· + ·) 0

namespace Campaign

variable {σ : Type} (c : Campaign σ)

/-- The state before anything was tried. -/
def start (seed : UInt64) (world : σ) : Hunt σ where
  scheduler := Scheduler.new c.tree.mutantCount ⟨seed⟩
  reduced := []
  programs := 0
  outside := { world, journal := [] }

/-- Tries mutants on the current program. -/
def trial (baseline : Baseline) (batch : List MutantId) : Search σ Verdict :=
  Hunt.outsideAct (c.harness.journaled.trial baseline batch)

/-- Draws the next batch. -/
def select : Search σ (List MutantId) := fun hunt =>
  match Scheduler.select c.tree c.limits.batch hunt.scheduler with
  | (batch, scheduler) => (batch.mapError .tree, { hunt with scheduler })

/-- Tries each of the relatives that is alive by itself, and records what comes of it. Gives those
that were killed by a miscompilation. -/
def probe (baseline : Baseline) : List MutantId → Search σ (List MutantId)
  | [] => pure []
  | m :: rest => fun hunt =>
    if hunt.scheduler.isKilled m then probe baseline rest hunt
    else
      match c.trial baseline [m] hunt with
      | (.error e, hunt) => (.error e, hunt)
      | (.ok verdict, hunt) =>
        if verdict.isKill then
          match probe baseline rest (hunt.recordKill m verdict) with
          | (.ok more, hunt) =>
            (.ok (if verdict = .miscompilationKill then m :: more else more), hunt)
          | (.error e, hunt) => (.error e, hunt)
        else probe baseline rest (hunt.charge [m])

/-- Hands miscompilations to triage and keeps the groups that come of it. -/
def triage (queue : List MutantId) : Search σ Unit :=
  if queue.isEmpty then pure ()
  else do
    let groups ← Hunt.outsideAct (c.reducer.journaled.triage queue)
    Act.modify fun hunt => { hunt with reduced := hunt.reduced ++ groups }

/-- Follows up the kill of a mutant: tries its relatives, then hands the miscompilations among all
of them to triage. -/
def consolidate (m : MutantId) (verdict : Verdict) (baseline : Baseline) : Search σ Unit := do
  let relatives ← Act.lift ((c.tree.relatives m).mapError .tree)
  let miscompiled ← c.probe baseline relatives
  c.triage (if verdict = .miscompilationKill then m :: miscompiled else miscompiled)

/-- Works through the parts of a batch, the first part first. Mutants that were killed in the
meantime are left out of a part before it is tried. `found` tells whether something was killed
already. -/
def bisectParts (baseline : Baseline) (parts : List (List MutantId)) (found : Bool)
    (hunt : Hunt σ) : Except HuntError Bool × Hunt σ :=
  match parts with
  | [] => (.ok found, hunt)
  | part :: parts =>
    let live := hunt.living part
    if hlive : live = [] then bisectParts baseline parts found hunt
    else
      match c.trial baseline live hunt with
      | (.error e, after) => (.error e, after)
      | (.ok verdict, after) =>
        if !verdict.isKill then bisectParts baseline parts found (after.charge live)
        else if hone : live.length = 1 then
          let m := live.head hlive
          match c.consolidate m verdict baseline (after.recordKill m verdict) with
          | (.error e, after) => (.error e, after)
          | (.ok (), after) => bisectParts baseline parts true after
        else
          let half := live.length / 2
          bisectParts baseline (live.take half :: live.drop half :: parts) found after
termination_by workOfAll parts
decreasing_by
  all_goals
    simp only [workOfAll, workOf, List.map_cons, List.foldr_cons, List.length_take, List.length_drop]
  · omega
  · omega
  · omega
  · have hle := hunt.length_living_le part
    have hpos : 0 < (hunt.living part).length := List.length_pos_iff.2 hlive
    have htwo : (hunt.living part).length ≠ 1 := hone
    omega

/-- Finds out which mutants of a batch the current program kills, halving it until single mutants
are left. Tells whether there were any. -/
def bisect (baseline : Baseline) (batch : List MutantId) : Search σ Bool :=
  if batch.isEmpty then Act.throw .emptyBatch else c.bisectParts baseline [batch] false

/-- Makes attempts until `left` are made, too many in a row failed, all mutants are dead, or no batch
can be drawn. `failures` counts the failed attempts in a row. -/
def attemptUpTo (baseline : Baseline) : Nat → Nat → Outcome → Search σ Outcome
  | 0, _, outcome => pure outcome
  | left + 1, failures, outcome => do
    let hunt ← Act.get
    if c.limits.failures ≤ failures ∨ hunt.scheduler.allKilled then pure outcome
    else
      let batch ← c.select
      if batch.isEmpty then pure outcome
      else
        let killed ← c.bisect baseline batch
        let hunt ← Act.get
        Act.lift hunt.scheduler.check
        let attempts := outcome.attempts + 1
        if killed then
          attemptUpTo baseline left 0
            { outcome with attempts, successful := outcome.successful + 1 }
        else attemptUpTo baseline left (failures + 1) { outcome with attempts }

/-- Spends the attempts that the current program is worth. -/
def attemptKills (baseline : Baseline) : Search σ Outcome := do
  let before ← Act.get
  let outcome ← c.attemptUpTo baseline c.limits.attempts 0 {}
  let after ← Act.get
  pure { outcome with kills := after.scheduler.killedCount - before.scheduler.killedCount }

/-- Makes a program and spends the attempts it is worth. -/
def hunt : Search σ Outcome := do
  let baseline ← Hunt.outsideAct c.harness.journaled.generate
  Act.modify fun hunt => { hunt with programs := hunt.programs + 1 }
  c.attemptKills baseline

/-- Whether there is nothing left to hunt for: all mutants are dead, or as many programs were used as
may be. -/
def isOver (maxPrograms : Option UInt64) (hunt : Hunt σ) : Bool :=
  hunt.scheduler.allKilled || maxPrograms.any fun most => most ≤ hunt.programs

/-- Hands the report of a search over to be stored, and writes that down. -/
def store (save : Report → σ → σ) (hunt : Hunt σ) : Hunt σ :=
  { hunt with
    outside :=
      { world := save hunt.report hunt.outside.world
        journal := .stored hunt.report :: hunt.outside.journal } }

/-- Hunts with one program after the other until all mutants are dead or the programs are used up,
and stores a report after each and at the end. Gives nothing if that takes more than `most` hunts.
-/
def runUpTo (save : Report → σ → σ) (maxPrograms : Option UInt64) :
    Nat → Search σ (Option Report)
  | 0 => fun hunt =>
    if isOver maxPrograms hunt then (.ok (some hunt.report), store save hunt) else (.ok none, hunt)
  | most + 1 => fun hunt =>
    if isOver maxPrograms hunt then (.ok (some hunt.report), store save hunt)
    else
      match c.hunt hunt with
      | (.error e, after) => (.error e, after)
      | (.ok _, after) => runUpTo save maxPrograms most (store save after)

/-- Hunts until all mutants are dead or the programs are used up. Programs are counted in 64 bits,
so no search makes more than `2 ^ 64` of them. -/
def run (save : Report → σ → σ) (maxPrograms : Option UInt64) : Search σ (Option Report) :=
  c.runUpTo save maxPrograms UInt64.size

end Campaign

end MutantHunt
