import MutantHunt.Proofs.Scheduler.Draw
import MutantHunt.Proofs.Search.Ledger
import MutantHunt.Proofs.Search.Triage

/-!
# The queue on the desk

A search hands its miscompilations to triage kill by kill, and between a kill and its triage a few
more may come in.  Nothing in the state of a search says which ones wait.  A *desk* is a search
with that queue beside it: a trial puts what it finds into the queue, a triage takes all of it, and
a search that fails on the way leaves a queue behind that nobody asks for again.

`Campaign.Move` is this as a relation, and every act of a search is a path of moves from an empty
queue to an empty one: it is `Tidy`.  That what a triage is handed is the queue of the desk is the
content of `moves_consolidate`; everything that is to be known of triages over a whole run then
follows from one case for each kind of move.

A path that forgets a queue, or has a triage that fails, is *lossy*.  Whether it may be is an
argument of the relation, so that runs without a failure and runs with one have one theory.

## Main results

* `tidy_bisect`, `tidy_attemptKills`, `tidy_hunt` — the acts as paths of moves.
* `moves_performAll` — the path of a sequence of calls, which is lossy only if a call failed.
-/

namespace MutantHunt

/-- A search, and the miscompiled mutants that wait for triage. -/
structure Desk (σ : Type) where
  queue : List MutantId
  hunt : Hunt σ

namespace Campaign

variable {σ α β : Type} (c : Campaign σ)

/-- The mutant, if the verdict on it is that it was miscompiled. -/
def ifMiscompiled (m : MutantId) (verdict : Verdict) : List MutantId :=
  if verdict = .miscompilationKill then [m] else []

theorem ifMiscompiled_append (m : MutantId) (verdict : Verdict) (more : List MutantId) :
    ifMiscompiled m verdict ++ more =
      if verdict = .miscompilationKill then m :: more else more := by
  by_cases h : verdict = .miscompilationKill
  · rw [ifMiscompiled, if_pos h, if_pos h, List.singleton_append]
  · rw [ifMiscompiled, if_neg h, if_neg h, List.nil_append]

/-- The mutants of a batch that its trial puts on record as miscompiled. -/
def findings (baseline : Baseline) (batch : List MutantId) (hunt : Hunt σ) : List MutantId :=
  batch.filter fun m =>
    (c.tryOut baseline batch hunt).scheduler.verdict? m == some .miscompilationKill

/-- One move of a search. -/
inductive Move (lossy : Prop) (desk : Desk σ) : Desk σ → Prop
  /-- A batch of mutants that are alive is tried, and what it finds is put into the queue. -/
  | trial (baseline : Baseline) (batch : List MutantId) (hne : batch ≠ [])
      (hliving : ∀ m ∈ batch, desk.hunt.scheduler.isKilled m = false) :
      Move lossy desk
        ⟨desk.queue ++ c.findings baseline batch desk.hunt, c.tryOut baseline batch desk.hunt⟩
  | select : Move lossy desk ⟨desk.queue, (c.select desk.hunt).2⟩
  /-- The queue goes to triage. -/
  | triage (hfate : ∀ e, (c.triage desk.queue desk.hunt).1 = .error e → lossy) :
      Move lossy desk ⟨[], (c.triage desk.queue desk.hunt).2⟩
  /-- The queue is left behind. -/
  | forget (hlossy : lossy) : Move lossy desk ⟨[], desk.hunt⟩
  /-- A program is made, and counted. -/
  | made {baseline : Baseline} {after : Hunt σ}
      (hmade : Hunt.outsideAct c.harness.journaled.generate desk.hunt = (.ok baseline, after)) :
      Move lossy desk ⟨desk.queue, { after with programs := after.programs + 1 }⟩
  | unmade {e : HuntError} {after : Hunt σ}
      (hmade : Hunt.outsideAct c.harness.journaled.generate desk.hunt = (.error e, after)) :
      Move lossy desk ⟨desk.queue, after⟩

/-- Any number of moves. -/
abbrev Moves (lossy : Prop) : Desk σ → Desk σ → Prop :=
  Relation.ReflTransGen (c.Move lossy)

/-- An act that started in `hunt` goes from an empty queue to an empty one, as long as the loss is
allowed that its failure makes. -/
def Tidy (lossy : Prop) (hunt : Hunt σ) (outcome : Except HuntError α × Hunt σ) : Prop :=
  (∀ e, outcome.1 = .error e → lossy) → c.Moves lossy ⟨[], hunt⟩ ⟨[], outcome.2⟩

variable {c} {lossy : Prop} {baseline : Baseline} {hunt after : Hunt σ}

theorem steps_generate_eq {result : Except HuntError Baseline}
    (hmade : Hunt.outsideAct c.harness.journaled.generate hunt = (result, after)) :
    c.Steps (fun _ => True) hunt after := by
  have hsteps : c.Steps (fun _ => True) hunt
      (Hunt.outsideAct c.harness.journaled.generate hunt).2 := steps_generate fun _ => trivial
  rwa [hmade] at hsteps

/-- Every move is a path of steps. -/
theorem steps_of_move {desk desk' : Desk σ} (hmove : c.Move lossy desk desk') :
    c.Steps (fun _ => True) desk.hunt desk'.hunt := by
  cases hmove with
  | trial baseline batch hne hliving =>
      exact .single (.trial baseline batch (fun _ => trivial) hne hliving)
  | select => exact .single .select
  | triage hfate => exact steps_triage (fun _ _ => trivial) _
  | forget hlossy => exact .refl
  | made hmade =>
      exact (steps_generate_eq hmade).tail (.aside _ [] rfl rfl (by simp) (by simp))
  | unmade hmade => exact steps_generate_eq hmade

theorem steps_of_moves {desk desk' : Desk σ} (hmoves : c.Moves lossy desk desk') :
    c.Steps (fun _ => True) desk.hunt desk'.hunt := by
  induction hmoves with
  | refl => exact .refl
  | tail _ hmove ih => exact ih.trans (steps_of_move hmove)

/-! ## What a trial finds -/

/-- Who has a verdict after a trial had it before, or was killed alone by it. -/
theorem verdict?_or_killsAlone_of_tryOut {batch : List MutantId} {m : MutantId} {verdict : Verdict}
    (hafter : (c.tryOut baseline batch hunt).scheduler.verdict? m = some verdict) :
    hunt.scheduler.verdict? m = some verdict ∨
      Trial.KillsAlone ⟨baseline, batch, (c.trial baseline batch hunt).1⟩ m verdict := by
  rw [Scheduler.verdict?_eq_some_iff, standing?_tryOut, Option.map_eq_some_iff] at hafter
  obtain ⟨standing, hbefore, hupdate⟩ := hafter
  cases standing with
  | killed first =>
      rw [Trial.update_killed] at hupdate
      exact .inl ((Scheduler.verdict?_eq_some_iff _ m _).mpr (hupdate ▸ hbefore))
  | alive n =>
      rcases Trial.update_alive ⟨baseline, batch, (c.trial baseline batch hunt).1⟩ m n with
        ⟨first, halone, hkilled⟩ | ⟨-, hmissed⟩
      · rw [hkilled, Standing.killed.injEq] at hupdate
        exact .inr (hupdate ▸ halone)
      · rw [hmissed] at hupdate
        cases hupdate

/-- The dead keep their verdict in a trial. -/
theorem verdict?_tryOut_of_killed {batch : List MutantId} {m : MutantId} {verdict : Verdict}
    (hdead : hunt.scheduler.verdict? m = some verdict) :
    (c.tryOut baseline batch hunt).scheduler.verdict? m = some verdict := by
  rw [Scheduler.verdict?_eq_some_iff] at hdead ⊢
  rw [standing?_tryOut, hdead, Option.map_some, Trial.update_killed]

theorem mem_findings_iff {batch : List MutantId} {m : MutantId} :
    m ∈ c.findings baseline batch hunt ↔
      m ∈ batch ∧
        (c.tryOut baseline batch hunt).scheduler.verdict? m = some .miscompilationKill := by
  rw [findings, List.mem_filter, beq_iff_eq]

/-- Who is miscompiled after a trial was so before, or is found by it. -/
theorem miscompiled_or_mem_findings {batch : List MutantId} {m : MutantId}
    (hafter : (c.tryOut baseline batch hunt).scheduler.verdict? m = some .miscompilationKill) :
    hunt.scheduler.verdict? m = some .miscompilationKill ∨ m ∈ c.findings baseline batch hunt := by
  refine (verdict?_or_killsAlone_of_tryOut hafter).imp_right fun halone => ?_
  refine mem_findings_iff.mpr ⟨?_, hafter⟩
  rw [show batch = [m] from halone.1]
  exact List.mem_singleton_self m

/-- A trial that kills nobody alone finds nothing. -/
theorem findings_eq_nil {batch : List MutantId}
    (hliving : ∀ m ∈ batch, hunt.scheduler.isKilled m = false)
    (hnone : ∀ verdict, (c.trial baseline batch hunt).1 = .ok verdict → verdict.isKill = true →
      batch.length ≠ 1) :
    c.findings baseline batch hunt = [] := by
  rw [List.eq_nil_iff_forall_not_mem]
  intro m hfound
  obtain ⟨hm, hafter⟩ := mem_findings_iff.mp hfound
  rcases verdict?_or_killsAlone_of_tryOut hafter with hbefore | ⟨hbatch, hanswer, hkill⟩
  · have halive := hliving m hm
    rw [Scheduler.isKilled_of_verdict? hbefore] at halive
    cases halive
  · exact hnone _ hanswer hkill (List.length_eq_one_iff.mpr ⟨m, hbatch⟩)

/-- No mutant is found twice, even if a batch lists it twice. -/
theorem nodup_findings {batch : List MutantId}
    (hliving : ∀ m ∈ batch, hunt.scheduler.isKilled m = false) :
    (c.findings baseline batch hunt).Nodup := by
  by_cases hone : batch.length = 1
  · obtain ⟨m, rfl⟩ := List.length_eq_one_iff.mp hone
    exact (List.nodup_singleton m).filter _
  · rw [findings_eq_nil hliving fun _ _ _ => hone]
    exact List.nodup_nil

/-- A trial of one mutant finds it if it was miscompiled. -/
theorem findings_singleton {m : MutantId} (halive : hunt.scheduler.isKilled m = false)
    (hm : m.toNat < hunt.scheduler.table.size) {verdict : Verdict}
    (hanswer : (c.trial baseline [m] hunt).1 = .ok verdict) :
    c.findings baseline [m] hunt = ifMiscompiled m verdict := by
  obtain ⟨n, hn⟩ := (Scheduler.exists_attempts?_iff hm).mpr halive
  rw [Scheduler.attempts?_eq_some_iff] at hn
  have hstanding := c.standing?_tryOut baseline [m] hunt m
  rw [hn, hanswer, Option.map_some] at hstanding
  have hfound : (c.tryOut baseline [m] hunt).scheduler.verdict? m = some .miscompilationKill ↔
      verdict = .miscompilationKill := by
    rw [Scheduler.verdict?_eq_some_iff, hstanding, Option.some.injEq]
    cases verdict <;> simp [Trial.update, Verdict.isKill, Standing.kill, Standing.chargeBy]
  by_cases h : verdict = .miscompilationKill
  · rw [ifMiscompiled, if_pos h]
    exact List.filter_cons_of_pos (by simpa using hfound.mpr h)
  · rw [ifMiscompiled, if_neg h]
    exact List.filter_cons_of_neg (by simpa using fun heq => h (hfound.mp heq))

/-- A trial that kills nobody alone leaves the queue as it is. -/
theorem moves_trial {batch queue : List MutantId} (hne : batch ≠ [])
    (hliving : ∀ m ∈ batch, hunt.scheduler.isKilled m = false)
    (hnone : ∀ verdict, (c.trial baseline batch hunt).1 = .ok verdict → verdict.isKill = true →
      batch.length ≠ 1) :
    c.Moves lossy ⟨queue, hunt⟩ ⟨queue, c.tryOut baseline batch hunt⟩ := by
  have hmove : c.Move lossy ⟨queue, hunt⟩ _ := .trial baseline batch hne hliving
  rw [findings_eq_nil hliving hnone, List.append_nil] at hmove
  exact .single hmove

/-! ## Acts as paths -/

theorem tidy_of_same (result : Except HuntError α) : c.Tidy lossy hunt (result, hunt) :=
  fun _ => .refl

theorem Tidy.trans {a : α} {outcome : Except HuntError β × Hunt σ}
    (hfirst : c.Tidy lossy hunt (Except.ok a, after)) (hsecond : c.Tidy lossy after outcome) :
    c.Tidy lossy hunt outcome :=
  fun hfate => (hfirst fun e he => by cases he).trans (hsecond hfate)

theorem Tidy.fail {e : HuntError}
    (h : c.Tidy lossy hunt ((Except.error e : Except HuntError α), after)) :
    c.Tidy lossy hunt ((Except.error e : Except HuntError β), after) :=
  fun hfate => h fun e' he' => hfate e' (by cases he'; rfl)

theorem chains_tidy : Chains fun _ hunt outcome => c.Tidy lossy hunt outcome where
  same a _ := tidy_of_same (.ok a)
  trans := Tidy.trans
  fail := Tidy.fail

/-- Probing a list puts into the queue what it gives. -/
theorem moves_probe {relatives : List MutantId} (queue : List MutantId)
    (hknown : ∀ r ∈ relatives, r.toNat < hunt.scheduler.table.size) :
    ∃ queue', c.Moves lossy ⟨queue, hunt⟩ ⟨queue', (c.probe baseline relatives hunt).2⟩ ∧
      ∀ found, (c.probe baseline relatives hunt).1 = .ok found → queue' = queue ++ found := by
  induction relatives generalizing hunt queue with
  | nil =>
      refine ⟨queue, .refl, fun found hfound => ?_⟩
      cases hfound
      rw [List.append_nil]
  | cons m rest ih =>
      have hrest : ∀ r ∈ rest, r.toNat < hunt.scheduler.table.size :=
        fun r hr => hknown r (List.mem_cons_of_mem m hr)
      rw [probe_cons]
      by_cases hdead : hunt.scheduler.isKilled m = true
      · rw [if_pos hdead]
        exact ih queue hrest
      · rw [if_neg hdead]
        have halive : hunt.scheduler.isKilled m = false := Bool.eq_false_iff.mpr hdead
        have hliving : ∀ r ∈ [m], hunt.scheduler.isKilled r = false :=
          List.forall_mem_singleton.mpr halive
        cases hanswer : (c.trial baseline [m] hunt).1 with
        | error e =>
            refine ⟨queue, moves_trial (List.cons_ne_nil m []) hliving ?_, ?_⟩
            · intro verdict hok
              rw [hanswer] at hok
              cases hok
            · intro found hfound
              cases hfound
        | ok verdict =>
            have hmove : c.Move lossy ⟨queue, hunt⟩ _ :=
              .trial baseline [m] (List.cons_ne_nil m []) hliving
            rw [findings_singleton halive (hknown m List.mem_cons_self) hanswer] at hmove
            obtain ⟨queue', hmoves, hqueue'⟩ := ih _ (c.size_tryOut baseline [m] hunt ▸ hrest)
            refine ⟨queue', .head hmove hmoves, ?_⟩
            intro found hfound
            cases hmore : (c.probe baseline rest (c.tryOut baseline [m] hunt)).1 with
            | error e =>
                rw [hmore] at hfound
                cases hfound
            | ok more =>
                simp only [hmore, Except.map, Except.ok.injEq] at hfound
                rw [hqueue' more hmore, ← hfound, List.append_assoc, ifMiscompiled_append]

/-! ## Acts and calls on a tree that was built -/

variable (c) in
/-- The failure that a call ends with, if it fails. -/
def failure? (hunt : Hunt σ) : Call → Option HuntError
  | .bisect baseline batch => failureOf (c.bisect baseline batch hunt).1
  | .attempt baseline => failureOf (c.attemptKills baseline hunt).1
  | .hunt => failureOf (c.hunt hunt).1

variable (c) in
/-- The failures that calls end with, one call after the other. -/
def failures (hunt : Hunt σ) : List Call → List HuntError
  | [] => []
  | call :: rest => (c.failure? hunt call).toList ++ failures (c.perform hunt call) rest

theorem failureOf_eq_none_iff {result : Except HuntError α} :
    failureOf result = none ↔ ∀ e, result ≠ .error e := by
  cases result <;> simp [failureOf]

section Built

variable {description : Description} (hbuilt : c.tree.BuiltFrom description)
  (hsize : hunt.scheduler.table.size = c.tree.mutantCount)
include hbuilt hsize

/-- The follow-up of a kill: what it hands to triage is the queue, which held the mutant if that
was miscompiled. -/
theorem moves_consolidate {m : MutantId} {verdict : Verdict} {queue : List MutantId}
    (hqueue : m.toNat < c.tree.mutantCount → queue = ifMiscompiled m verdict)
    (hfate : ∀ e, (c.consolidate m verdict baseline hunt).1 = .error e → lossy) :
    c.Moves lossy ⟨queue, hunt⟩ ⟨[], (c.consolidate m verdict baseline hunt).2⟩ := by
  unfold consolidate at hfate ⊢
  rcases Nat.lt_or_ge m.toNat c.tree.mutantCount with hm | hm
  · rw [Tree.relatives_eq_kin hm, Except.mapError, Act.bind_of_ok (Act.lift_apply _ _)] at hfate ⊢
    have hknown : ∀ r ∈ c.tree.kin m, r.toNat < hunt.scheduler.table.size := by
      intro r hr
      rw [hsize]
      exact hbuilt.lt_of_mem_kin hr
    have hprobed : ∃ queue', c.Moves lossy ⟨queue, hunt⟩
        ⟨queue', (c.probe baseline (c.tree.kin m) hunt).2⟩ ∧
          ∀ found, (c.probe baseline (c.tree.kin m) hunt).1 = .ok found →
            queue' = queue ++ found := moves_probe queue hknown
    obtain ⟨queue', hmoves, hqueue'⟩ := hprobed
    rcases hprobe : c.probe baseline (c.tree.kin m) hunt with ⟨result, last⟩
    rw [hprobe] at hmoves hqueue'
    cases result with
    | error e =>
        rw [Act.bind_of_error hprobe] at hfate ⊢
        exact hmoves.tail (.forget (hfate e rfl))
    | ok found =>
        rw [Act.bind_of_ok hprobe] at hfate ⊢
        rw [← ifMiscompiled_append, ← hqueue hm, ← hqueue' found rfl] at hfate ⊢
        exact hmoves.tail (.triage hfate)
  · rw [Tree.relatives_eq_error hm, Except.mapError, Act.bind_of_error (Act.lift_apply _ _)]
      at hfate ⊢
    exact .single (.forget (hfate _ rfl))

/-- A single mutant that dies is found, and followed up. -/
theorem tidy_kill {m : MutantId} (halive : hunt.scheduler.isKilled m = false) {verdict : Verdict}
    (hrun : c.trial baseline [m] hunt = (.ok verdict, after)) (hkill : verdict.isKill = true) :
    c.Tidy lossy hunt (c.consolidate m verdict baseline (after.recordKill m verdict)) := by
  have hbooked : c.tryOut baseline [m] hunt = after.recordKill m verdict := by
    rw [tryOut_eq hrun, Hunt.settle_singleton m hkill]
  have hmove : c.Move lossy ⟨[], hunt⟩
      ⟨c.findings baseline [m] hunt, after.recordKill m verdict⟩ := by
    rw [← hbooked]
    exact .trial baseline [m] (List.cons_ne_nil m []) (List.forall_mem_singleton.mpr halive)
  have hkept : (after.recordKill m verdict).scheduler.table.size = c.tree.mutantCount := by
    rw [← hbooked, size_tryOut, hsize]
  refine fun hfate => .head hmove (moves_consolidate hbuilt hkept (fun hm => ?_) hfate)
  exact findings_singleton halive (hsize ▸ hm) (congrArg Prod.fst hrun)

theorem tidy_bisectParts {parts : List (List MutantId)} {found : Bool} :
    c.Tidy lossy hunt (c.bisectParts baseline parts found hunt) := by
  have hkept : ∀ {hunt : Hunt σ} (live : List MutantId),
      hunt.scheduler.table.size = c.tree.mutantCount →
      (c.tryOut baseline live hunt).scheduler.table.size = c.tree.mutantCount :=
    fun live hsize => (c.size_tryOut baseline live _).trans hsize
  -- A part of one mutant that dies goes through `tidy_kill`; every other trial leaves the queue as
  -- it is, which is empty.
  fun_induction Campaign.bisectParts c baseline parts found hunt with
  | case1 found hunt => exact tidy_of_same _
  | case2 found hunt part parts live hempty ih => exact ih hsize
  | case3 found hunt part parts live hne e after hrun =>
      have hbooked : c.tryOut baseline live hunt = after := tryOut_eq hrun
      rw [← hbooked]
      refine fun _ => moves_trial hne isKilled_of_mem_living ?_
      rintro verdict hanswer -
      rw [hrun] at hanswer
      cases hanswer
  | case4 found hunt part parts live hne verdict after hrun hmiss ih =>
      have hspared : verdict.isKill = false := by simpa using hmiss
      have hbooked : c.tryOut baseline live hunt = after.charge live := by
        rw [tryOut_eq hrun, Hunt.settle_of_not_kill live hspared]
      rw [← hbooked] at ih ⊢
      refine fun hfate => .trans (moves_trial hne isKilled_of_mem_living ?_)
        (ih (hkept live hsize) hfate)
      intro other hanswer hkill
      rw [hrun] at hanswer
      cases hanswer
      rw [hspared] at hkill
      cases hkill
  | case5 found hunt part parts live hne verdict after hrun hkill hone m e last hfail =>
      have hsingle : hunt.living part = [m] := eq_singleton_head hne hone
      rw [show live = [m] from hsingle] at hrun
      have hpath : c.Tidy lossy hunt (c.consolidate m verdict baseline _) := tidy_kill hbuilt hsize
        (isKilled_of_mem_living m (List.head_mem hne)) hrun (by simpa using hkill)
      rw [hfail] at hpath
      exact hpath.fail
  | case6 found hunt part parts live hne verdict after hrun hkill hone m last hdone ih =>
      have hsingle : hunt.living part = [m] := eq_singleton_head hne hone
      rw [show live = [m] from hsingle] at hrun
      have hpath : c.Tidy lossy hunt (c.consolidate m verdict baseline _) := tidy_kill hbuilt hsize
        (isKilled_of_mem_living m (List.head_mem hne)) hrun (by simpa using hkill)
      have hlast : last.scheduler.table.size = c.tree.mutantCount := by
        have hsteps := steps_kill (c.admits_all baseline) trivial
          (isKilled_of_mem_living m (List.head_mem hne)) hrun (by simpa using hkill)
        rw [hdone] at hsteps
        rw [size_steps hsteps, hsize]
      rw [hdone] at hpath
      exact hpath.trans (ih hlast)
  | case7 found hunt part parts live hne verdict after hrun hkill htwo half ih =>
      have hbooked : c.tryOut baseline live hunt = after := by
        rw [tryOut_eq hrun, Hunt.settle_of_length_ne_one htwo (by simpa using hkill)]
      rw [← hbooked] at ih ⊢
      exact fun hfate => .trans (moves_trial hne isKilled_of_mem_living fun _ _ _ => htwo)
        (ih (hkept live hsize) hfate)

theorem tidy_bisect (batch : List MutantId) :
    c.Tidy lossy hunt (c.bisect baseline batch hunt) := by
  by_cases hne : batch = []
  · rw [hne, bisect_nil]
    exact tidy_of_same _
  · rw [bisect_eq_bisectParts baseline hne]
    exact tidy_bisectParts hbuilt hsize

theorem tidy_attemptKills : c.Tidy lossy hunt (c.attemptKills baseline hunt) := by
  have hattempts : Attempts c baseline (fun _ hunt outcome => c.Tidy lossy hunt outcome)
      (fun hunt => hunt.scheduler.table.size = c.tree.mutantCount) := by
    constructor
    · exact fun _ _ => .single .select
    · intro hunt drawn batch hsize hdraw _
      have hselected : c.Step (fun _ => True) hunt (c.select hunt).2 := .select
      rw [hdraw] at hselected
      exact tidy_bisect hbuilt ((size_step hselected).trans hsize) batch
    · exact fun _ => tidy_of_same _
    · intro hunt drawn last batch killed hsize hdraw hbisect
      rw [size_steps (steps_attempt (c.admits_all baseline) hsize hdraw hbisect), hsize]
  exact chains_tidy.attemptKills hattempts hsize

theorem tidy_hunt : c.Tidy lossy hunt (c.hunt hunt) := by
  rw [hunt_eq_bind]
  rcases hmade : Hunt.outsideAct c.harness.journaled.generate hunt with ⟨answer, made⟩
  cases answer with
  | error e =>
      rw [Act.bind_of_error hmade]
      exact fun _ => .single (.unmade hmade)
  | ok baseline =>
      rw [Act.bind_of_ok hmade]
      have hmove : c.Move lossy ⟨[], hunt⟩ ⟨[], { made with programs := made.programs + 1 }⟩ :=
        .made hmade
      have hcounted : made.scheduler.table.size = c.tree.mutantCount := by
        rw [(generate_eq hmade).1]
        exact hsize
      exact fun hfate => .head hmove (tidy_attemptKills hbuilt hcounted hfate)

theorem moves_perform (call : Call) (hfate : c.failure? hunt call ≠ none → lossy) :
    c.Moves lossy ⟨[], hunt⟩ ⟨[], c.perform hunt call⟩ := by
  have htidy : ∀ {α : Type} {outcome : Except HuntError α × Hunt σ},
      c.Tidy lossy hunt outcome → (failureOf outcome.1 ≠ none → lossy) →
      c.Moves lossy ⟨[], hunt⟩ ⟨[], outcome.2⟩ :=
    fun htidy hfate => htidy fun e he => hfate fun hnone => failureOf_eq_none_iff.mp hnone e he
  cases call with
  | bisect baseline batch => exact htidy (tidy_bisect hbuilt hsize batch) hfate
  | attempt baseline => exact htidy (tidy_attemptKills hbuilt hsize) hfate
  | hunt => exact htidy (tidy_hunt hbuilt hsize) hfate

/-- Calls are a path of moves, which need not be lossy unless one of them fails. -/
theorem moves_performAll {calls : List Call} (hfate : c.failures hunt calls ≠ [] → lossy) :
    c.Moves lossy ⟨[], hunt⟩ ⟨[], c.performAll hunt calls⟩ := by
  induction calls generalizing hunt with
  | nil => exact .refl
  | cons call rest ih =>
      rw [failures, Ne, List.append_eq_nil_iff, not_and_or] at hfate
      have hkept : (c.perform hunt call).scheduler.table.size = c.tree.mutantCount := by
        rw [size_steps (steps_perform c.admits_all (fun _ => trivial) hsize fun _ _ _ => trivial),
          hsize]
      refine (moves_perform hbuilt hsize call fun hfailed => hfate (.inl ?_)).trans
        (ih hkept fun hlater => hfate (.inr hlater))
      rwa [Option.toList_eq_nil_iff]

end Built

end Campaign

end MutantHunt
