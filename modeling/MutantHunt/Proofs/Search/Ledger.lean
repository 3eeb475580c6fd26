import Mathlib.Data.List.Induction
import MutantHunt.Proofs.Search.Step

/-!
# The tables are what the trials tell

The scheduler books answers one at a time, deep inside the bisection and its follow-ups.  Read in
order, the trials alone tell the same: a mutant that was tried alone and died is dead, and until
then it was missed as often as it was listed in trials that killed nothing.  `standingIn` is that
reading, and `Ledger` says of a state that its table agrees with it and that no trial listed a
mutant that was dead by then.

## Main results

* `ledger_step`, `ledger_performAll` — steps keep the ledger, so every reachable state has it.
* `tables_tell_trials` — for each mutant: who killed it, that nobody tried it again, and how often
  it was missed.
-/

namespace MutantHunt

namespace Trial

/-- A trial of nothing but the mutant, which killed it. -/
def KillsAlone (t : Trial) (m : MutantId) (verdict : Verdict) : Prop :=
  t.batch = [m] ∧ t.answer = .ok verdict ∧ verdict.isKill = true

/-- How often a trial that killed nothing listed the mutant. -/
def misses (t : Trial) (m : MutantId) : Nat :=
  match t.answer with
  | .error _ => 0
  | .ok verdict => if verdict.isKill then 0 else t.batch.count m

/-- What a trial makes of the standing of a mutant. -/
def update (t : Trial) (m : MutantId) (standing : Standing) : Standing :=
  match t.answer with
  | .error _ => standing
  | .ok verdict =>
      if verdict.isKill then
        if t.batch = [m] then standing.kill verdict else standing
      else standing.chargeBy (t.batch.count m)

theorem update_error (baseline : Baseline) (batch : List MutantId) (e : HuntError) (m : MutantId) :
    update ⟨baseline, batch, .error e⟩ m = id := rfl

theorem update_of_not_kill (baseline : Baseline) (batch : List MutantId) {verdict : Verdict}
    (hmiss : verdict.isKill = false) (m : MutantId) :
    update ⟨baseline, batch, .ok verdict⟩ m = Standing.chargeBy (batch.count m) := by
  funext standing
  simp [update, hmiss]

theorem update_singleton (baseline : Baseline) (killed : MutantId) {verdict : Verdict}
    (hkill : verdict.isKill = true) (m : MutantId) :
    update ⟨baseline, [killed], .ok verdict⟩ m =
      if killed = m then Standing.kill verdict else id := by
  funext standing
  by_cases h : killed = m <;> simp [update, hkill, h]

theorem update_of_length_ne_one (baseline : Baseline) {batch : List MutantId}
    (hlength : batch.length ≠ 1) {verdict : Verdict} (hkill : verdict.isKill = true)
    (m : MutantId) : update ⟨baseline, batch, .ok verdict⟩ m = id := by
  have hother : batch ≠ [m] := by
    intro hbatch
    exact hlength (by rw [hbatch, List.length_singleton])
  funext standing
  simp [update, hkill, hother]

theorem update_killed (t : Trial) (m : MutantId) (verdict : Verdict) :
    t.update m (.killed verdict) = .killed verdict := by
  unfold update
  split
  · rfl
  · split
    · split
      · rfl
      · rfl
    · rfl

/-- A trial kills a mutant that was alive only by trying it alone. -/
theorem update_alive (t : Trial) (m : MutantId) (n : UInt32) :
    (∃ verdict, t.KillsAlone m verdict ∧ t.update m (.alive n) = .killed verdict) ∨
      ((∀ verdict, ¬t.KillsAlone m verdict) ∧
        t.update m (.alive n) = .alive (n + UInt32.ofNat (t.misses m))) := by
  unfold update misses KillsAlone
  cases t.answer with
  | error e => simp
  | ok verdict =>
      cases hkill : verdict.isKill with
      | false => simp [hkill, Standing.chargeBy]
      | true =>
          by_cases halone : t.batch = [m]
          · exact .inl ⟨verdict, ⟨halone, rfl, hkill⟩, by simp [hkill, halone, Standing.kill]⟩
          · exact .inr ⟨fun _ h => halone h.1, by simp [hkill, halone]⟩

end Trial

/-! ## Reading the trials -/

/-- The standing of a mutant after some trials, oldest first. -/
def standingIn (trials : List Trial) (m : MutantId) : Standing :=
  trials.foldl (fun standing t => t.update m standing) (.alive 0)

/-- How often trials that killed nothing listed the mutant. -/
def missesIn (trials : List Trial) (m : MutantId) : Nat :=
  trials.foldl (fun misses t => misses + t.misses m) 0

@[simp] theorem standingIn_nil (m : MutantId) : standingIn [] m = .alive 0 := rfl

@[simp] theorem missesIn_nil (m : MutantId) : missesIn [] m = 0 := rfl

theorem standingIn_concat (trials : List Trial) (t : Trial) (m : MutantId) :
    standingIn (trials ++ [t]) m = t.update m (standingIn trials m) := by
  rw [standingIn, List.foldl_append, List.foldl_cons, List.foldl_nil, standingIn]

theorem missesIn_concat (trials : List Trial) (t : Trial) (m : MutantId) :
    missesIn (trials ++ [t]) m = missesIn trials m + t.misses m := by
  rw [missesIn, List.foldl_append, List.foldl_cons, List.foldl_nil, missesIn]

/-- The dead stay as they are. -/
theorem standingIn_append_of_killed {before : List Trial} {m : MutantId} {verdict : Verdict}
    (hdead : standingIn before m = .killed verdict) (after : List Trial) :
    standingIn (before ++ after) m = .killed verdict := by
  induction after using List.reverseRecOn with
  | nil => rwa [List.append_nil]
  | append_singleton after t ih =>
      rw [← List.append_assoc, standingIn_concat, ih, Trial.update_killed]

/-- A mutant that is alive after a last trial was alive before it, and the trial missed it. -/
theorem alive_of_concat {trials : List Trial} {t : Trial} {m : MutantId} {n : UInt32}
    (halive : standingIn (trials ++ [t]) m = .alive n) :
    ∃ k, standingIn trials m = .alive k ∧ (∀ verdict, ¬t.KillsAlone m verdict) ∧
      n = k + UInt32.ofNat (t.misses m) := by
  rw [standingIn_concat] at halive
  cases hbefore : standingIn trials m with
  | killed verdict =>
      rw [hbefore, Trial.update_killed] at halive
      cases halive
  | alive k =>
      rw [hbefore] at halive
      rcases t.update_alive m k with ⟨verdict, -, hkilled⟩ | ⟨hnone, hmissed⟩
      · rw [hkilled] at halive
        cases halive
      · rw [hmissed, Standing.alive.injEq] at halive
        exact ⟨k, rfl, hnone, halive.symm⟩

/-- A mutant that is alive was missed as often as its attempts tell, up to the size of a word. -/
theorem attempts_eq_of_standingIn {trials : List Trial} {m : MutantId} {n : UInt32}
    (halive : standingIn trials m = .alive n) : n = UInt32.ofNat (missesIn trials m) := by
  induction trials using List.reverseRecOn generalizing n with
  | nil =>
      rw [standingIn_nil, Standing.alive.injEq] at halive
      rw [← halive, missesIn_nil]
      rfl
  | append_singleton trials t ih =>
      obtain ⟨k, hbefore, -, hn⟩ := alive_of_concat halive
      rw [hn, ih hbefore, missesIn_concat, UInt32.ofNat_add]

theorem not_killsAlone_of_standingIn {trials : List Trial} {m : MutantId} {n : UInt32}
    (halive : standingIn trials m = .alive n) :
    ∀ t ∈ trials, ∀ verdict, ¬t.KillsAlone m verdict := by
  induction trials using List.reverseRecOn generalizing n with
  | nil =>
      intro t ht
      cases ht
  | append_singleton trials t ih =>
      obtain ⟨k, hbefore, hnone, -⟩ := alive_of_concat halive
      intro u hu
      rcases List.mem_append.mp hu with hu | hu
      · exact ih hbefore u hu
      · rw [List.mem_singleton.mp hu]
        exact hnone

/-- No trial lists the mutant once it is dead. -/
def RestsInPeace (trials : List Trial) (m : MutantId) : Prop :=
  ∀ before t, before ++ [t] <+: trials → m ∈ t.batch → (standingIn before m).isKilled = false

theorem RestsInPeace.of_concat {trials : List Trial} {t : Trial} {m : MutantId}
    (h : RestsInPeace (trials ++ [t]) m) : RestsInPeace trials m :=
  fun before u hbegins hm => h before u (hbegins.trans (List.prefix_append _ _)) hm

theorem restsInPeace_concat {trials : List Trial} {t : Trial} {m : MutantId}
    (htrials : RestsInPeace trials m)
    (ht : m ∈ t.batch → (standingIn trials m).isKilled = false) :
    RestsInPeace (trials ++ [t]) m := by
  intro before u hbegins hm
  rcases List.prefix_concat_iff.mp hbegins with heq | hbegins
  · obtain ⟨rfl, hlast⟩ := List.append_inj' heq rfl
    cases hlast
    exact ht hm
  · exact htrials before u hbegins hm

/-- What killed a mutant, and when: one trial of it alone, the first of its kind and the last that
lists it. -/
theorem exists_kill_of_standingIn {trials : List Trial} {m : MutantId} {verdict : Verdict}
    (hrests : RestsInPeace trials m) (hdead : standingIn trials m = .killed verdict) :
    ∃ before t after, trials = before ++ t :: after ∧ t.KillsAlone m verdict ∧
      (∀ u ∈ before, ∀ other, ¬u.KillsAlone m other) ∧ ∀ u ∈ after, m ∉ u.batch := by
  induction trials using List.reverseRecOn with
  | nil => cases hdead
  | append_singleton trials t ih =>
      cases hbefore : standingIn trials m with
      | alive n =>
          refine ⟨trials, t, [], rfl, ?_, not_killsAlone_of_standingIn hbefore, by simp⟩
          rw [standingIn_concat, hbefore] at hdead
          rcases t.update_alive m n with ⟨other, halone, hkilled⟩ | ⟨-, hmissed⟩
          · rw [hkilled, Standing.killed.injEq] at hdead
            rwa [← hdead]
          · rw [hmissed] at hdead
            cases hdead
      | killed first =>
          have hunlisted : m ∉ t.batch := by
            intro hm
            have halive := hrests trials t (List.prefix_refl _) hm
            rw [hbefore] at halive
            cases halive
          have hsame : first = verdict := by
            rw [standingIn_append_of_killed hbefore, Standing.killed.injEq] at hdead
            exact hdead
          obtain ⟨before, u, after, rfl, halone, hfirst, hlast⟩ :=
            ih hrests.of_concat (hsame ▸ hbefore)
          refine ⟨before, u, after ++ [t], by simp, halone, hfirst, ?_⟩
          intro w hw
          rcases List.mem_append.mp hw with hw | hw
          · exact hlast w hw
          · rwa [List.mem_singleton.mp hw]

/-- A trial that kills a mutant alone is on record for good. -/
theorem standingIn_of_killsAlone {trials : List Trial} {m : MutantId} {verdict : Verdict}
    (hrests : RestsInPeace trials m) {t : Trial} (ht : t ∈ trials)
    (halone : t.KillsAlone m verdict) : standingIn trials m = .killed verdict := by
  obtain ⟨before, after, rfl⟩ := List.append_of_mem ht
  have hbegins : before ++ [t] <+: before ++ t :: after := ⟨after, by simp⟩
  have halive := hrests before t hbegins (by rw [halone.1]; exact List.mem_singleton_self m)
  have hdead : standingIn (before ++ [t]) m = .killed verdict := by
    rw [standingIn_concat]
    cases hbefore : standingIn before m with
    | killed first =>
        rw [hbefore] at halive
        cases halive
    | alive n =>
        rw [Trial.update, halone.2.1]
        simp only [halone.2.2, halone.1, if_true, Standing.kill]
  rw [List.append_cons]
  exact standingIn_append_of_killed hdead after

/-! ## The ledger of a search -/

/-- The table of a state agrees with its trials. -/
structure Hunt.Ledger {σ : Type} (hunt : Hunt σ) : Prop where
  /-- Every standing on record is the one that the trials tell. -/
  standing : ∀ m, m.toNat < hunt.scheduler.table.size →
    hunt.scheduler.standing? m = some (standingIn hunt.trials m)
  /-- No trial listed a mutant that was dead by then. -/
  rests : ∀ m, m.toNat < hunt.scheduler.table.size → RestsInPeace hunt.trials m

namespace Hunt

variable {σ : Type}

/-- Booking an answer is what the trial makes of every standing. -/
theorem standing?_settle (hunt : Hunt σ) (t : Trial) (m : MutantId) :
    (hunt.settle t.batch t.answer).scheduler.standing? m =
      (hunt.scheduler.standing? m).map (t.update m) := by
  obtain ⟨baseline, batch, answer⟩ := t
  cases answer with
  | error e => rw [settle_error, Trial.update_error, Option.map_id, id]
  | ok verdict =>
      cases hkill : verdict.isKill with
      | false =>
          rw [settle_of_not_kill batch hkill, Trial.update_of_not_kill baseline batch hkill]
          exact hunt.scheduler.standing?_charge batch m
      | true =>
          by_cases hone : batch.length = 1
          · obtain ⟨killed, rfl⟩ := List.length_eq_one_iff.mp hone
            rw [settle_singleton killed hkill, Trial.update_singleton baseline killed hkill]
            refine (hunt.scheduler.standing?_recordKill m killed verdict).trans ?_
            by_cases hsame : killed = m
            · rw [if_pos hsame, if_pos hsame]
            · rw [if_neg hsame, if_neg hsame, Option.map_id, id]
          · rw [settle_of_length_ne_one hone hkill,
              Trial.update_of_length_ne_one baseline hone hkill, Option.map_id, id]

end Hunt

namespace Campaign

variable {σ : Type} {c : Campaign σ} {allowed : Event → Prop} {hunt after : Hunt σ}

theorem trials_tryOut (baseline : Baseline) (batch : List MutantId) (hunt : Hunt σ) :
    (c.tryOut baseline batch hunt).trials =
      hunt.trials ++ [⟨baseline, batch, (c.trial baseline batch hunt).1⟩] := by
  rw [Hunt.trials_eq_append (c.tryOut_journal baseline batch hunt)]
  rfl

/-- A trial that is booked makes of every standing what it tells. -/
theorem standing?_tryOut (baseline : Baseline) (batch : List MutantId) (hunt : Hunt σ)
    (m : MutantId) :
    (c.tryOut baseline batch hunt).scheduler.standing? m =
      (hunt.scheduler.standing? m).map
        (Trial.update ⟨baseline, batch, (c.trial baseline batch hunt).1⟩ m) :=
  (c.trial baseline batch hunt).2.standing?_settle ⟨baseline, batch, _⟩ m

/-- The dead stay dead, with their verdict. -/
theorem standing?_of_step_of_killed (hstep : c.Step allowed hunt after) {m : MutantId}
    {verdict : Verdict} (hdead : hunt.scheduler.standing? m = some (.killed verdict)) :
    after.scheduler.standing? m = some (.killed verdict) := by
  cases hstep with
  | trial baseline batch hallowed hne hliving =>
      rw [standing?_tryOut, hdead, Option.map_some, Trial.update_killed]
  | select => exact (Scheduler.standing?_select _ _ _ m).trans hdead
  | aside _ written hscheduler hwritten hallowed hsilent => rwa [hscheduler]

theorem standing?_of_steps_of_killed (hsteps : c.Steps allowed hunt after) {m : MutantId}
    {verdict : Verdict} (hdead : hunt.scheduler.standing? m = some (.killed verdict)) :
    after.scheduler.standing? m = some (.killed verdict) := by
  induction hsteps with
  | refl => exact hdead
  | tail _ hstep ih => exact standing?_of_step_of_killed hstep ih

/-- Who is alive was alive before. -/
theorem exists_attempts?_of_steps (hsteps : c.Steps allowed hunt after) {m : MutantId}
    {n : UInt32} (hn : after.scheduler.attempts? m = some n) :
    ∃ k, hunt.scheduler.attempts? m = some k := by
  have hsize := Scheduler.lt_size_of_attempts? hn
  rw [size_steps hsteps] at hsize
  rw [Scheduler.exists_attempts?_iff hsize]
  cases hdead : hunt.scheduler.isKilled m with
  | false => rfl
  | true =>
      obtain ⟨verdict, hkilled⟩ := (Scheduler.isKilled_eq_true_iff _ m).mp hdead
      rw [Scheduler.attempts?_eq_some_iff, standing?_of_steps_of_killed hsteps hkilled] at hn
      cases hn

theorem trials_aside {written : List Event} (hwritten : after.journal = written ++ hunt.journal)
    (hsilent : ∀ event ∈ written, event.trial? = none) : after.trials = hunt.trials := by
  rw [Hunt.trials_eq_append hwritten, List.filterMap_eq_nil_iff.mpr, List.append_nil]
  intro event hevent
  exact hsilent event (List.mem_reverse.mp hevent)

theorem ledger_start (hsmall : c.tree.mutantCount < UInt32.size) (seed : UInt64) (world : σ) :
    (c.start seed world).Ledger where
  standing := by
    intro m hm
    rw [size_start hsmall] at hm
    exact (Scheduler.standing?_new (WyRand.mk seed) hsmall m).trans (if_pos hm)
  rests := by
    intro m _ before t hbegins
    have hnone := List.prefix_nil.mp hbegins
    simp at hnone

/-- Each step of a search keeps the ledger. -/
theorem ledger_step (hledger : hunt.Ledger) (hstep : c.Step allowed hunt after) :
    after.Ledger := by
  have hsize := size_step hstep
  cases hstep with
  | trial baseline batch hallowed hne hliving =>
      constructor
      · intro m hm
        rw [hsize] at hm
        rw [trials_tryOut, standingIn_concat, standing?_tryOut, hledger.standing m hm,
          Option.map_some]
      · intro m hm
        rw [hsize] at hm
        rw [trials_tryOut]
        refine restsInPeace_concat (hledger.rests m hm) fun hlisted => ?_
        rw [← Scheduler.isKilled_of_standing? (hledger.standing m hm)]
        exact hliving m hlisted
  | select =>
      constructor
      · intro m hm
        rw [hsize] at hm
        exact (Scheduler.standing?_select _ _ _ m).trans (hledger.standing m hm)
      · intro m hm
        rw [hsize] at hm
        exact hledger.rests m hm
  | aside _ written hscheduler hwritten hallowed hsilent =>
      have htrials := trials_aside hwritten hsilent
      constructor
      · rw [hscheduler, htrials]
        exact hledger.standing
      · rw [hscheduler, htrials]
        exact hledger.rests

theorem ledger_steps (hledger : hunt.Ledger) (hsteps : c.Steps allowed hunt after) :
    after.Ledger := by
  induction hsteps with
  | refl => exact hledger
  | tail _ hstep ih => exact ledger_step ih hstep

/-- Every reachable state has its ledger. -/
theorem ledger_performAll (hsmall : c.tree.mutantCount < UInt32.size) (seed : UInt64) (world : σ)
    (calls : List Call) : (c.performAll (c.start seed world) calls).Ledger := by
  exact ledger_steps (ledger_start hsmall seed world) (steps_from_start hsmall seed world calls)

end Campaign

/-- The tables say of a mutant what the trials say. -/
structure Hunt.AgreesWithTrials {σ : Type} (hunt : Hunt σ) (m : MutantId) : Prop where
  /-- It is on record as killed iff some trial of it alone killed it, with the verdict of that
  trial. -/
  killed_iff : ∀ verdict, hunt.scheduler.verdict? m = some verdict ↔
    ∃ t ∈ hunt.trials, t.KillsAlone m verdict
  /-- That trial is the only one of its kind, and no later trial lists the mutant. -/
  killed_once : ∀ verdict, hunt.scheduler.verdict? m = some verdict →
    ∃ before t after, hunt.trials = before ++ t :: after ∧ t.KillsAlone m verdict ∧
      (∀ u ∈ before, ∀ other, ¬u.KillsAlone m other) ∧ ∀ u ∈ after, m ∉ u.batch
  /-- Alive, it was charged once for each time that a trial which killed nothing listed it. -/
  attempts_eq : hunt.scheduler.verdict? m = none → missesIn hunt.trials m < UInt32.size →
    (hunt.scheduler.attempts? m).map UInt32.toNat = some (missesIn hunt.trials m)

namespace Campaign

variable {σ : Type}

/-- After any sequence of calls, with whatever batches, whether they succeeded or failed, and
whatever the collaborators answered, the tables say what the trials say. -/
theorem tables_tell_trials (c : Campaign σ) (hsmall : c.tree.mutantCount < UInt32.size)
    (seed : UInt64) (world : σ) (calls : List Call) {m : MutantId}
    (hm : m.toNat < c.tree.mutantCount) :
    (c.performAll (c.start seed world) calls).AgreesWithTrials m := by
  generalize hhunt : c.performAll (c.start seed world) calls = hunt
  have hledger : hunt.Ledger := hhunt ▸ ledger_performAll hsmall seed world calls
  have hsize : m.toNat < hunt.scheduler.table.size := by
    rw [← hhunt, size_performAll hsmall]
    exact hm
  have hstanding := hledger.standing m hsize
  have hrests := hledger.rests m hsize
  have hverdict : ∀ verdict, hunt.scheduler.verdict? m = some verdict ↔
      standingIn hunt.trials m = .killed verdict := by
    intro verdict
    rw [Scheduler.verdict?_eq_some_iff, hstanding, Option.some.injEq]
  constructor
  · intro verdict
    rw [hverdict]
    constructor
    · intro hdead
      obtain ⟨before, t, after, heq, halone, -, -⟩ := exists_kill_of_standingIn hrests hdead
      exact ⟨t, by rw [heq]; simp, halone⟩
    · rintro ⟨t, ht, halone⟩
      exact standingIn_of_killsAlone hrests ht halone
  · intro verdict hdead
    exact exists_kill_of_standingIn hrests ((hverdict verdict).mp hdead)
  · intro halive hfew
    cases hread : standingIn hunt.trials m with
    | killed verdict =>
        rw [(hverdict verdict).mpr hread] at halive
        cases halive
    | alive n =>
        rw [hread] at hstanding
        rw [(hunt.scheduler.attempts?_eq_some_iff m n).mpr hstanding, Option.map_some,
          attempts_eq_of_standingIn hread, UInt32.toNat_ofNat_of_lt' hfew]

/-- A batch of mutants 1 and 2 is split, and a program of its own follows. -/
theorem tables_tell_trials_twoFiles :
    twoFiles.tree.mutantCount < UInt32.size ∧ (1 : MutantId).toNat < twoFiles.tree.mutantCount ∧
      (twoFiles.performAll (twoFiles.start 0 ())
        [.bisect default [1, 2], .hunt]).AgreesWithTrials 1 :=
  ⟨by decide, by decide, tables_tell_trials _ (by decide) 0 () _ (by decide)⟩

end Campaign

end MutantHunt
