import MutantHunt.Proofs.Search.Ledger

/-!
# Hunting with a detector

A harness *detects* a set of mutants if a trial that does not fail dies exactly when its batch
holds a member of the set.  Such a harness may fail whenever it likes, and the verdicts it gives
are its own affair.  The search then finds the set: nothing else is ever killed, and no member can
be missed, since a trial that lists a member kills.

What carries the proof is `Faithful`: a member that is alive was never charged, so it waits in
round 0, and as long as it does the round cannot move on.

Main result: `detector_found`, in every reachable state, with `faithful_step` for one step.
-/

namespace MutantHunt

/-- A trial that does not fail dies iff its batch holds a mutant of the set. -/
def Harness.Detects {σ : Type} (harness : Harness σ) (K : MutantId → Prop) : Prop :=
  ∀ baseline batch world verdict after,
    harness.trial baseline batch world = (.ok verdict, after) →
      (verdict.isKill = true ↔ ∃ m ∈ batch, K m)

namespace Trial

/-- The answer to a trial is one that a detector of the set gives. -/
def Obeys (t : Trial) (K : MutantId → Prop) : Prop :=
  ∀ verdict, t.answer = .ok verdict → (verdict.isKill = true ↔ ∃ m ∈ t.batch, K m)

variable {t : Trial} {K : MutantId → Prop} {m : MutantId}

/-- A member of the set is never missed. -/
theorem misses_eq_zero (hobeys : t.Obeys K) (hm : K m) : t.misses m = 0 := by
  unfold misses
  cases hanswer : t.answer with
  | error e => rfl
  | ok verdict =>
      cases hkill : verdict.isKill with
      | true => simp [hkill]
      | false =>
          have hnone : ¬∃ m ∈ t.batch, K m := by
            rw [← hobeys verdict hanswer, hkill]
            exact Bool.false_ne_true
          simp only [hkill, Bool.false_eq_true, if_false]
          exact List.count_eq_zero.mpr fun hlisted => hnone ⟨m, hlisted, hm⟩

/-- Only members of the set are killed alone. -/
theorem mem_of_killsAlone (hobeys : t.Obeys K) {verdict : Verdict}
    (halone : t.KillsAlone m verdict) : K m := by
  obtain ⟨hbatch, hanswer, hkill⟩ := halone
  obtain ⟨m', hlisted, hm'⟩ := (hobeys verdict hanswer).mp hkill
  rw [hbatch, List.mem_singleton] at hlisted
  exact hlisted ▸ hm'

end Trial

namespace Hunt

variable {σ : Type}

/-- The search has killed nothing that is not in the set, and has missed no member so far. -/
structure Faithful (K : MutantId → Prop) (hunt : Hunt σ) : Prop where
  sound : ∀ m, hunt.scheduler.isKilled m = true → K m
  spared : ∀ m n, K m → hunt.scheduler.attempts? m = some n →
    n = 0 ∧ hunt.scheduler.round = 0

end Hunt

namespace Campaign

variable {σ : Type} {c : Campaign σ} {K : MutantId → Prop}
  {allowed : Event → Prop} {hunt after : Hunt σ}

theorem obeys_trial (hdetects : c.harness.Detects K) (baseline : Baseline)
    (batch : List MutantId) (hunt : Hunt σ) :
    Trial.Obeys ⟨baseline, batch, (c.trial baseline batch hunt).1⟩ K := by
  intro verdict hanswer
  have hrun : (c.harness.trial baseline batch hunt.outside.world).1 = .ok verdict := hanswer
  exact hdetects baseline batch hunt.outside.world verdict _ (Prod.ext hrun rfl)

theorem faithful_start (hsmall : c.tree.mutantCount < UInt32.size) (K : MutantId → Prop)
    (seed : UInt64) (world : σ) : (c.start seed world).Faithful K := by
  have hstanding : ∀ m, (c.start seed world).scheduler.standing? m =
      if m.toNat < c.tree.mutantCount then some (.alive 0) else none :=
    fun m => Scheduler.standing?_new (WyRand.mk seed) hsmall m
  constructor
  · intro m hkilled
    obtain ⟨verdict, hdead⟩ := (Scheduler.isKilled_eq_true_iff _ m).mp hkilled
    rw [hstanding] at hdead
    split at hdead
    · cases hdead
    · cases hdead
  · intro m n _ hn
    rw [Scheduler.attempts?_eq_some_iff, hstanding] at hn
    split at hn
    · cases hn
      exact ⟨rfl, rfl⟩
    · cases hn

/-- A trial that a detector answers spares the members that it does not kill. -/
theorem faithful_tryOut (hdetects : c.harness.Detects K) (hfaithful : hunt.Faithful K)
    (baseline : Baseline) (batch : List MutantId) :
    (c.tryOut baseline batch hunt).Faithful K := by
  have hobeys := obeys_trial hdetects baseline batch hunt
  have hbook := fun m => c.standing?_tryOut baseline batch hunt m
  generalize hanswer : Trial.mk baseline batch (c.trial baseline batch hunt).1 = t at hobeys hbook
  constructor
  · intro m hkilled
    obtain ⟨verdict, hdead⟩ := (Scheduler.isKilled_eq_true_iff _ m).mp hkilled
    rw [hbook, Option.map_eq_some_iff] at hdead
    obtain ⟨standing, hbefore, hupdate⟩ := hdead
    cases standing with
    | killed first =>
        exact hfaithful.sound m ((Scheduler.isKilled_eq_true_iff _ m).mpr ⟨first, hbefore⟩)
    | alive k =>
        rcases t.update_alive m k with ⟨_, halone, -⟩ | ⟨-, hmissed⟩
        · exact Trial.mem_of_killsAlone hobeys halone
        · rw [hmissed] at hupdate
          cases hupdate
  · intro m n hm hn
    rw [round_tryOut]
    rw [Scheduler.attempts?_eq_some_iff, hbook, Option.map_eq_some_iff] at hn
    obtain ⟨standing, hbefore, hupdate⟩ := hn
    cases standing with
    | killed first =>
        rw [Trial.update_killed] at hupdate
        cases hupdate
    | alive k =>
        rcases t.update_alive m k with ⟨_, -, hkilled⟩ | ⟨-, hmissed⟩
        · rw [hkilled] at hupdate
          cases hupdate
        · have hsame : n = k := by
            rw [hmissed, Trial.misses_eq_zero hobeys hm, Standing.alive.injEq] at hupdate
            rw [← hupdate]
            exact UInt32.add_zero k
          rw [hsame]
          exact hfaithful.spared m k hm ((Scheduler.attempts?_eq_some_iff _ m k).mpr hbefore)

/-- The round stays where it is as long as a member is alive, since that waits in it. -/
theorem faithful_select (hfaithful : hunt.Faithful K) : (c.select hunt).2.Faithful K := by
  have hstanding : ∀ m, (c.select hunt).2.scheduler.standing? m = hunt.scheduler.standing? m :=
    fun m => Scheduler.standing?_select c.tree c.limits.batch hunt.scheduler m
  have hround : (c.select hunt).2.scheduler.round = hunt.scheduler.advance.round :=
    Scheduler.round_select c.tree c.limits.batch hunt.scheduler
  constructor
  · intro m hkilled
    rw [Scheduler.isKilled, hstanding] at hkilled
    exact hfaithful.sound m hkilled
  · intro m n hm hn
    rw [Scheduler.attempts?, hstanding] at hn
    obtain ⟨hzero, hfirst⟩ := hfaithful.spared m n hm hn
    have hwaits : hunt.scheduler.attempts? m = some hunt.scheduler.round := by
      rw [hfirst, ← hzero]
      exact hn
    rw [hround, Scheduler.advance_eq_self hwaits]
    exact ⟨hzero, hfirst⟩

theorem faithful_step (hdetects : c.harness.Detects K) (hfaithful : hunt.Faithful K)
    (hstep : c.Step allowed hunt after) : after.Faithful K := by
  cases hstep with
  | trial baseline batch hallowed hne hliving => exact faithful_tryOut hdetects hfaithful _ _
  | select => exact faithful_select hfaithful
  | aside _ written hscheduler hwritten hallowed hsilent =>
      constructor
      · rw [hscheduler]
        exact hfaithful.sound
      · rw [hscheduler]
        exact hfaithful.spared

theorem faithful_steps (hdetects : c.harness.Detects K) (hfaithful : hunt.Faithful K)
    (hsteps : c.Steps allowed hunt after) : after.Faithful K := by
  induction hsteps with
  | refl => exact hfaithful
  | tail _ hstep ih => exact faithful_step hdetects ih hstep

end Campaign

/-- How far a search among `total` mutants has found the set. -/
structure Hunt.Finds {σ : Type} (K : MutantId → Prop) (total : Nat) (hunt : Hunt σ) : Prop where
  /-- Nothing else was killed. -/
  sound : ∀ m, hunt.scheduler.isKilled m = true → K m
  /-- A member that is alive was never charged with a failed attempt. -/
  spared : ∀ m, K m → m.toNat < total → hunt.scheduler.isKilled m = false →
    hunt.scheduler.attempts? m = some 0
  /-- Past the first round, all of the set is dead. -/
  complete : 1 ≤ hunt.scheduler.round →
    ∀ m, hunt.scheduler.isKilled m = true ↔ K m ∧ m.toNat < total

namespace Campaign

variable {σ : Type}

/-- With a harness that detects a set, every reachable state has killed members of the set only,
has missed none, and has killed them all once the first round is over. -/
theorem detector_found (c : Campaign σ) (hsmall : c.tree.mutantCount < UInt32.size)
    {K : MutantId → Prop} (hdetects : c.harness.Detects K) (seed : UInt64) (world : σ)
    (calls : List Call) :
    (c.performAll (c.start seed world) calls).Finds K c.tree.mutantCount := by
  generalize hhunt : c.performAll (c.start seed world) calls = hunt
  have hsize : hunt.scheduler.table.size = c.tree.mutantCount := by
    rw [← hhunt, size_performAll hsmall]
  have hfaithful : hunt.Faithful K := by
    have hpath := steps_from_start hsmall seed world calls
    exact hhunt ▸ faithful_steps hdetects (faithful_start hsmall K seed world) hpath
  have hspared : ∀ m, K m → m.toNat < c.tree.mutantCount → hunt.scheduler.isKilled m = false →
      hunt.scheduler.attempts? m = some 0 ∧ hunt.scheduler.round = 0 := by
    intro m hm hlt halive
    obtain ⟨n, hn⟩ := (Scheduler.exists_attempts?_iff (hsize ▸ hlt)).mpr halive
    obtain ⟨rfl, hfirst⟩ := hfaithful.spared m n hm hn
    exact ⟨hn, hfirst⟩
  constructor
  · exact hfaithful.sound
  · intro m hm hlt halive
    exact (hspared m hm hlt halive).1
  · intro hround m
    constructor
    · intro hkilled
      obtain ⟨verdict, hdead⟩ := (Scheduler.isKilled_eq_true_iff _ m).mp hkilled
      have hlt : m.toNat < hunt.scheduler.table.size := (Array.getElem?_eq_some_iff.mp hdead).1
      exact ⟨hfaithful.sound m hkilled, hsize ▸ hlt⟩
    · rintro ⟨hm, hlt⟩
      cases hstate : hunt.scheduler.isKilled m with
      | true => rfl
      | false =>
          have hfirst := (hspared m hm hlt hstate).2
          rw [hfirst] at hround
          exact absurd hround (by decide)

end Campaign

/-- A harness that knows the deadly mutants detects them. -/
theorem Harness.detects_ofVerdicts {deadly : MutantId → Option Verdict}
    (hdeadly : ∀ m verdict, deadly m = some verdict → verdict.isKill = true) :
    (Harness.ofVerdicts deadly).Detects fun m => (deadly m).isSome = true := by
  intro baseline batch world verdict after hrun
  have hverdict : (batch.findSome? deadly).getD .noEffect = verdict := by
    cases hrun
    rfl
  rw [← hverdict]
  cases hfind : batch.findSome? deadly with
  | none =>
      have hnone := List.findSome?_eq_none_iff.mp hfind
      constructor
      · intro hkill
        cases hkill
      · rintro ⟨m, hm, hsome⟩
        rw [hnone m hm] at hsome
        cases hsome
  | some first =>
      obtain ⟨m, hm, hfirst⟩ := List.exists_of_findSome?_eq_some hfind
      constructor
      · intro _
        exact ⟨m, hm, by simp [hfirst]⟩
      · intro _
        exact hdeadly m first hfirst

namespace Campaign

theorem isKill_of_deadlyInTwoFiles {m : MutantId} {verdict : Verdict}
    (hdeadly : deadlyInTwoFiles m = some verdict) : verdict.isKill = true := by
  unfold deadlyInTwoFiles at hdeadly
  split at hdeadly
  · cases hdeadly
    rfl
  · split at hdeadly
    · cases hdeadly
      rfl
    · cases hdeadly

theorem detects_twoFiles :
    twoFiles.harness.Detects fun m => (deadlyInTwoFiles m).isSome = true :=
  Harness.detects_ofVerdicts fun _ _ => isKill_of_deadlyInTwoFiles

/-- Two programs are worked with, one after the other. -/
theorem detector_found_twoFiles :
    twoFiles.tree.mutantCount < UInt32.size ∧
      (twoFiles.harness.Detects fun m => (deadlyInTwoFiles m).isSome = true) ∧
      (twoFiles.performAll (twoFiles.start 7 ()) [.hunt, .hunt]).Finds
        (fun m => (deadlyInTwoFiles m).isSome = true) twoFiles.tree.mutantCount :=
  ⟨by decide, detects_twoFiles, detector_found _ (by decide) detects_twoFiles 7 () _⟩

end Campaign

end MutantHunt
