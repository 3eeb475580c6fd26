import Mathlib.Logic.Relation
import MutantHunt.Proofs.Scheduler.Table
import MutantHunt.Proofs.Search.Chain
import MutantHunt.Proofs.Search.Journal
import MutantHunt.Proofs.Tree.Kinship

/-!
# The steps a search is made of

Whatever a search does to its state, it does in steps of three kinds: it tries a batch of mutants
that are alive and books the answer, it selects a batch, or it does something aside that neither
looks at a mutant nor touches the scheduler.  `Campaign.Step` is that relation.  Every act of a
search, failed or not, is a path of such steps, so a fact about all reachable states follows from
one case for each kind.

The relation is taken over the questions that are *allowed*.  An act keeps to them if it starts
from a batch of a class that it does not leave, and trials of that class are allowed:
`Campaign.Admits` says both.

## Main results

* `steps_bisect`, `steps_attemptKills`, `steps_hunt`, `steps_performAll` — the acts as paths, the
  last for any sequence of calls.
* `steps_journal` — a path writes allowed questions only.
-/

namespace MutantHunt

/-! ## Booking an answer -/

namespace Hunt

variable {σ : Type}

/-- What a search books for the answer to a trial: a failed attempt at every mutant of the batch if
nothing was killed, a kill if the batch was one mutant, and nothing if it was more or if the trial
failed. -/
def settle (batch : List MutantId) (answer : Except HuntError Verdict) (hunt : Hunt σ) : Hunt σ :=
  match answer with
  | .error _ => hunt
  | .ok verdict =>
      if verdict.isKill then
        match batch with
        | [m] => hunt.recordKill m verdict
        | _ => hunt
      else hunt.charge batch

@[simp] theorem settle_error (batch : List MutantId) (e : HuntError) (hunt : Hunt σ) :
    hunt.settle batch (.error e) = hunt := rfl

theorem settle_of_not_kill (batch : List MutantId) {verdict : Verdict}
    (hmiss : verdict.isKill = false) (hunt : Hunt σ) :
    hunt.settle batch (.ok verdict) = hunt.charge batch := by
  simp only [settle, hmiss, Bool.false_eq_true, if_false]

theorem settle_singleton (m : MutantId) {verdict : Verdict} (hkill : verdict.isKill = true)
    (hunt : Hunt σ) : hunt.settle [m] (.ok verdict) = hunt.recordKill m verdict := by
  simp only [settle, hkill, if_true]

theorem settle_of_length_ne_one {batch : List MutantId} (hlength : batch.length ≠ 1)
    {verdict : Verdict} (hkill : verdict.isKill = true) (hunt : Hunt σ) :
    hunt.settle batch (.ok verdict) = hunt := by
  simp only [settle, hkill, if_true]
  split
  · exact absurd rfl hlength
  · rfl

/-- All that booking an answer can do. -/
theorem settle_cases (batch : List MutantId) (answer : Except HuntError Verdict) (hunt : Hunt σ) :
    hunt.settle batch answer = hunt ∨
      (∃ m verdict, hunt.settle batch answer = hunt.recordKill m verdict) ∨
      hunt.settle batch answer = hunt.charge batch := by
  cases answer with
  | error e => exact .inl rfl
  | ok verdict =>
      cases hkill : verdict.isKill with
      | false => exact .inr (.inr (settle_of_not_kill batch hkill hunt))
      | true =>
          by_cases hone : batch.length = 1
          · obtain ⟨m, rfl⟩ := List.length_eq_one_iff.mp hone
            exact .inr (.inl ⟨m, verdict, settle_singleton m hkill hunt⟩)
          · exact .inl (settle_of_length_ne_one hone hkill hunt)

/-- Booking an answer touches the scheduler only. -/
theorem settle_eq (batch : List MutantId) (answer : Except HuntError Verdict) (hunt : Hunt σ) :
    hunt.settle batch answer = { hunt with scheduler := (hunt.settle batch answer).scheduler } := by
  rcases hunt.settle_cases batch answer with h | ⟨m, verdict, h⟩ | h
  · rw [h]
  · rw [h]
    rfl
  · rw [h]
    rfl

theorem outside_settle (batch : List MutantId) (answer : Except HuntError Verdict)
    (hunt : Hunt σ) : (hunt.settle batch answer).outside = hunt.outside := by
  rw [settle_eq]

theorem size_settle (batch : List MutantId) (answer : Except HuntError Verdict) (hunt : Hunt σ) :
    (hunt.settle batch answer).scheduler.table.size = hunt.scheduler.table.size := by
  rcases hunt.settle_cases batch answer with h | ⟨m, verdict, h⟩ | h
  · rw [h]
  · rw [h]
    exact Scheduler.size_recordKill _ _ _
  · rw [h]
    exact Scheduler.size_charge _ _

theorem total_settle (batch : List MutantId) (answer : Except HuntError Verdict) (hunt : Hunt σ) :
    (hunt.settle batch answer).scheduler.total = hunt.scheduler.total := by
  rcases hunt.settle_cases batch answer with h | ⟨m, verdict, h⟩ | h
  · rw [h]
  · rw [h]
    exact Scheduler.total_recordKill _ _ _
  · rw [h]
    exact Scheduler.total_charge _ _

theorem round_settle (batch : List MutantId) (answer : Except HuntError Verdict) (hunt : Hunt σ) :
    (hunt.settle batch answer).scheduler.round = hunt.scheduler.round := by
  rcases hunt.settle_cases batch answer with h | ⟨m, verdict, h⟩ | h
  · rw [h]
  · rw [h]
    exact Scheduler.round_recordKill _ _ _
  · rw [h]
    exact Scheduler.round_charge _ _

end Hunt

namespace Campaign

variable {σ α β : Type} (c : Campaign σ)

/-- Tries a batch and books the answer. -/
def tryOut (baseline : Baseline) (batch : List MutantId) (hunt : Hunt σ) : Hunt σ :=
  (c.trial baseline batch hunt).2.settle batch (c.trial baseline batch hunt).1

theorem tryOut_eq {c : Campaign σ} {baseline : Baseline} {batch : List MutantId}
    {hunt after : Hunt σ} {answer : Except HuntError Verdict}
    (hrun : c.trial baseline batch hunt = (answer, after)) :
    c.tryOut baseline batch hunt = after.settle batch answer := by
  rw [tryOut, hrun]

theorem trial_scheduler (baseline : Baseline) (batch : List MutantId) (hunt : Hunt σ) :
    (c.trial baseline batch hunt).2.scheduler = hunt.scheduler := rfl

theorem scheduler_of_trial {c : Campaign σ} {baseline : Baseline} {batch : List MutantId}
    {hunt after : Hunt σ} {answer : Except HuntError Verdict}
    (hrun : c.trial baseline batch hunt = (answer, after)) : after.scheduler = hunt.scheduler := by
  rw [← c.trial_scheduler baseline batch hunt, hrun]

theorem size_tryOut (baseline : Baseline) (batch : List MutantId) (hunt : Hunt σ) :
    (c.tryOut baseline batch hunt).scheduler.table.size = hunt.scheduler.table.size := by
  rw [tryOut, Hunt.size_settle, trial_scheduler]

theorem round_tryOut (baseline : Baseline) (batch : List MutantId) (hunt : Hunt σ) :
    (c.tryOut baseline batch hunt).scheduler.round = hunt.scheduler.round := by
  rw [tryOut, Hunt.round_settle, trial_scheduler]

/-- Trying a batch out writes down the one trial. -/
theorem tryOut_journal (baseline : Baseline) (batch : List MutantId) (hunt : Hunt σ) :
    (c.tryOut baseline batch hunt).journal =
      [.tried baseline batch (c.trial baseline batch hunt).1] ++ hunt.journal := by
  rw [Hunt.journal, tryOut, Hunt.outside_settle]
  rfl

/-! ## Steps -/

/-- One step of a search. -/
inductive Step (allowed : Event → Prop) (hunt : Hunt σ) : Hunt σ → Prop
  /-- A batch of mutants that are alive is tried, and the answer is booked. -/
  | trial (baseline : Baseline) (batch : List MutantId)
      (hallowed : ∀ answer, allowed (.tried baseline batch answer)) (hne : batch ≠ [])
      (hliving : ∀ m ∈ batch, hunt.scheduler.isKilled m = false) :
      Step allowed hunt (c.tryOut baseline batch hunt)
  | select : Step allowed hunt (c.select hunt).2
  /-- A program is made or counted, or miscompilations go through triage. -/
  | aside (after : Hunt σ) (written : List Event) (hscheduler : after.scheduler = hunt.scheduler)
      (hwritten : after.journal = written ++ hunt.journal)
      (hallowed : ∀ event ∈ written, allowed event)
      (hsilent : ∀ event ∈ written, event.trial? = none) : Step allowed hunt after

/-- Any number of steps. -/
abbrev Steps (allowed : Event → Prop) : Hunt σ → Hunt σ → Prop :=
  Relation.ReflTransGen (c.Step allowed)

/-- A class of batches that a search which starts from one does not leave, all of them allowed to
be tried with a baseline. -/
structure Admits (allowed : Event → Prop) (baseline : Baseline) (batches : List MutantId → Prop) :
    Prop where
  /-- Splitting a batch and leaving out the dead stays within the class. -/
  part : ∀ {batch part : List MutantId}, batches batch → part.Sublist batch → batches part
  /-- So does trying the relatives of a mutant after the mutant. -/
  relative : ∀ {m r : MutantId}, batches [m] → r ∈ c.tree.kin m → batches [r]
  /-- The scheduler draws within the class. -/
  drawn : ∀ {s : Scheduler} {batch : List MutantId}, s.table.size = c.tree.mutantCount →
    (Scheduler.select c.tree c.limits.batch s).1 = .ok batch → batches batch
  /-- Its batches may be tried. -/
  tried : ∀ {batch : List MutantId}, batches batch →
    ∀ answer, allowed (.tried baseline batch answer)
  /-- The reducer may be asked. -/
  asked : ∀ {event : Event}, event.asksReducer = true → allowed event

theorem admits_all (baseline : Baseline) :
    c.Admits (fun _ => True) baseline (fun _ => True) where
  part := fun _ _ => trivial
  relative := fun _ _ => trivial
  drawn := fun _ _ => trivial
  tried := fun _ _ => trivial
  asked := fun _ => trivial

variable {c} {allowed : Event → Prop} {baseline : Baseline} {batches : List MutantId → Prop}
  {hunt after : Hunt σ}

/-- Steps keep the number of mutants on record. -/
theorem size_step (hstep : c.Step allowed hunt after) :
    after.scheduler.table.size = hunt.scheduler.table.size := by
  cases hstep with
  | trial baseline batch hallowed hne hliving => exact c.size_tryOut baseline batch hunt
  | select => exact congrArg Array.size (Scheduler.table_select _ _ _)
  | aside _ written hscheduler hwritten hallowed hsilent => rw [hscheduler]

theorem size_steps (hsteps : c.Steps allowed hunt after) :
    after.scheduler.table.size = hunt.scheduler.table.size := by
  induction hsteps with
  | refl => rfl
  | tail _ hstep ih => rw [size_step hstep, ih]

/-- How many mutants there ought to be stays the same. -/
theorem total_step (hstep : c.Step allowed hunt after) :
    after.scheduler.total = hunt.scheduler.total := by
  cases hstep with
  | trial baseline batch hallowed hne hliving => rw [tryOut, Hunt.total_settle, trial_scheduler]
  | select => exact Scheduler.total_select _ _ _
  | aside _ written hscheduler hwritten hallowed hsilent => rw [hscheduler]

theorem total_steps (hsteps : c.Steps allowed hunt after) :
    after.scheduler.total = hunt.scheduler.total := by
  induction hsteps with
  | refl => rfl
  | tail _ hstep ih => rw [total_step hstep, ih]

/-- A step only adds to the journal, and adds allowed questions only. -/
theorem step_journal (hstep : c.Step allowed hunt after) :
    ∃ written, after.journal = written ++ hunt.journal ∧ ∀ event ∈ written, allowed event := by
  cases hstep with
  | trial baseline batch hallowed hne hliving =>
      refine ⟨_, c.tryOut_journal baseline batch hunt, ?_⟩
      intro event hevent
      rw [List.mem_singleton] at hevent
      rw [hevent]
      exact hallowed _
  | select => exact ⟨[], rfl, by simp⟩
  | aside _ written hscheduler hwritten hallowed hsilent => exact ⟨written, hwritten, hallowed⟩

theorem steps_journal (hsteps : c.Steps allowed hunt after) :
    ∃ written, after.journal = written ++ hunt.journal ∧ ∀ event ∈ written, allowed event := by
  induction hsteps with
  | refl => exact ⟨[], rfl, by simp⟩
  | tail _ hstep ih =>
      obtain ⟨first, hfirst, hfirstAllowed⟩ := ih
      obtain ⟨second, hsecond, hsecondAllowed⟩ := step_journal hstep
      refine ⟨second ++ first, by rw [hsecond, hfirst, List.append_assoc], ?_⟩
      intro event hevent
      rcases List.mem_append.mp hevent with h | h
      · exact hsecondAllowed event h
      · exact hfirstAllowed event h

/-! ## Acts as paths -/

/-- Chained acts are chained paths. -/
theorem chains_steps : Chains fun _ hunt outcome => c.Steps allowed hunt outcome.2 where
  same _ _ := .refl
  trans hfirst hsecond := .trans hfirst hsecond
  fail h := h

theorem steps_bind {x : Search σ α} {f : α → Search σ β} (hx : c.Steps allowed hunt (x hunt).2)
    (hf : ∀ a t, x hunt = (.ok a, t) → c.Steps allowed t (f a t).2) :
    c.Steps allowed hunt ((x >>= f) hunt).2 :=
  chains_steps.bind hx hf

/-- An act of the collaborators that tries nothing. -/
theorem steps_outsideAct {act : Act HuntError (Journaled σ) α} {admitted : Event → Prop}
    (hlogs : Act.Logs Journaled.journal admitted act hunt.outside)
    (hallowed : ∀ event, admitted event → allowed event)
    (hsilent : ∀ event, admitted event → event.trial? = none) :
    c.Steps allowed hunt (Hunt.outsideAct act hunt).2 := by
  obtain ⟨written, hwritten, hadmitted, -⟩ := Hunt.logs_outsideAct hlogs
  refine .single (.aside _ written rfl hwritten ?_ ?_)
  · exact fun event h => hallowed event (hadmitted event h)
  · exact fun event h => hsilent event (hadmitted event h)

theorem steps_triage (hasked : ∀ event : Event, event.asksReducer = true → allowed event)
    (queue : List MutantId) : c.Steps allowed hunt (c.triage queue hunt).2 := by
  unfold triage
  split
  · exact .refl
  · refine steps_bind ?_ fun groups t _ => ?_
    · exact steps_outsideAct (c.reducer.logs_triage queue hunt.outside) hasked
        fun event => Event.trial?_of_asksReducer
    · exact .single (.aside _ [] rfl rfl (by simp) (by simp))

/-- Probing a list: the first mutant is passed over if it is dead and tried out if it is not, and
unless that trial failed the rest is probed then. -/
theorem probe_cons (baseline : Baseline) (m : MutantId) (rest : List MutantId) (hunt : Hunt σ) :
    c.probe baseline (m :: rest) hunt =
      if hunt.scheduler.isKilled m then c.probe baseline rest hunt
      else
        match (c.trial baseline [m] hunt).1 with
        | .error e => (.error e, c.tryOut baseline [m] hunt)
        | .ok verdict =>
            ((c.probe baseline rest (c.tryOut baseline [m] hunt)).1.map fun more =>
                if verdict = .miscompilationKill then m :: more else more,
              (c.probe baseline rest (c.tryOut baseline [m] hunt)).2) := by
  simp only [probe]
  by_cases hdead : hunt.scheduler.isKilled m = true
  · rw [if_pos hdead, if_pos hdead]
  · rw [if_neg hdead, if_neg hdead]
    rcases hrun : c.trial baseline [m] hunt with ⟨answer, after⟩
    rw [tryOut_eq hrun]
    cases answer with
    | error e => rfl
    | ok verdict =>
        cases hkill : verdict.isKill with
        | false =>
            have hother : verdict ≠ .miscompilationKill := by
              intro heq
              rw [heq] at hkill
              cases hkill
            rw [Hunt.settle_of_not_kill [m] hkill]
            simp only [hkill, hother, Bool.false_eq_true, if_false]
            rcases c.probe baseline rest (after.charge [m]) with ⟨_ | _, _⟩ <;> rfl
        | true =>
            rw [Hunt.settle_singleton m hkill]
            simp only [hkill, if_true]
            rcases c.probe baseline rest (after.recordKill m verdict) with ⟨_ | _, _⟩ <;> rfl

theorem steps_probe {relatives : List MutantId}
    (hallowed : ∀ r ∈ relatives, ∀ answer, allowed (.tried baseline [r] answer)) :
    c.Steps allowed hunt (c.probe baseline relatives hunt).2 := by
  induction relatives generalizing hunt with
  | nil => exact .refl
  | cons m rest ih =>
      have hrest : ∀ r ∈ rest, ∀ answer, allowed (.tried baseline [r] answer) :=
        fun r hr => hallowed r (List.mem_cons_of_mem m hr)
      rw [probe_cons]
      by_cases hdead : hunt.scheduler.isKilled m = true
      · rw [if_pos hdead]
        exact ih hrest
      · rw [if_neg hdead]
        have hliving : ∀ r ∈ [m], hunt.scheduler.isKilled r = false :=
          List.forall_mem_singleton.mpr (Bool.eq_false_iff.mpr hdead)
        have hstep : c.Step allowed hunt (c.tryOut baseline [m] hunt) :=
          .trial baseline [m] (hallowed m List.mem_cons_self) (List.cons_ne_nil m []) hliving
        cases (c.trial baseline [m] hunt).1 with
        | error e => exact .single hstep
        | ok verdict => exact .head hstep (ih hrest)

/-- The follow-up of a kill tries relatives of the mutant only. -/
theorem steps_consolidate (hadmits : c.Admits allowed baseline batches) {m : MutantId}
    (hm : batches [m]) (verdict : Verdict) :
    c.Steps allowed hunt (c.consolidate m verdict baseline hunt).2 := by
  unfold consolidate
  cases hkin : c.tree.relatives m with
  | error e => exact .refl
  | ok relatives =>
      have hrelatives : ∀ r ∈ relatives, ∀ answer, allowed (.tried baseline [r] answer) := by
        intro r hr
        refine hadmits.tried (hadmits.relative hm ?_)
        rwa [Tree.kin, hkin]
      refine steps_bind .refl fun found t hfound => ?_
      cases hfound
      refine steps_bind (steps_probe hrelatives) fun miscompiled u _ => ?_
      exact steps_triage (fun _ => hadmits.asked) _

theorem isKilled_of_mem_living {hunt : Hunt σ} {part : List MutantId} :
    ∀ m ∈ hunt.living part, hunt.scheduler.isKilled m = false := by
  intro m hm
  have hlives := (List.mem_filter.mp hm).2
  rwa [Bool.not_eq_true'] at hlives

theorem living_of_forall {hunt : Hunt σ} {part : List MutantId}
    (halive : ∀ m ∈ part, hunt.scheduler.isKilled m = false) : hunt.living part = part := by
  rw [Hunt.living, List.filter_eq_self]
  intro m hm
  rw [halive m hm]
  rfl

theorem living_sublist (hunt : Hunt σ) (part : List MutantId) :
    (hunt.living part).Sublist part :=
  List.filter_sublist

theorem eq_singleton_head {batch : List MutantId} (hne : batch ≠ []) (hone : batch.length = 1) :
    batch = [batch.head hne] := by
  obtain ⟨m, rfl⟩ := List.length_eq_one_iff.mp hone
  rfl

/-- A single mutant that dies is followed up. -/
theorem steps_kill (hadmits : c.Admits allowed baseline batches) {m : MutantId}
    (hm : batches [m]) (hliving : hunt.scheduler.isKilled m = false) {verdict : Verdict}
    (hrun : c.trial baseline [m] hunt = (.ok verdict, after)) (hkill : verdict.isKill = true) :
    c.Steps allowed hunt (c.consolidate m verdict baseline (after.recordKill m verdict)).2 := by
  have hstep : c.Step allowed hunt (c.tryOut baseline [m] hunt) :=
    .trial baseline [m] (hadmits.tried hm) (List.cons_ne_nil m [])
      (List.forall_mem_singleton.mpr hliving)
  rw [tryOut_eq hrun, Hunt.settle_singleton m hkill] at hstep
  exact .head hstep (steps_consolidate hadmits hm verdict)

theorem steps_bisectParts (hadmits : c.Admits allowed baseline batches)
    {parts : List (List MutantId)} (hparts : ∀ part ∈ parts, batches part) {found : Bool} :
    c.Steps allowed hunt (c.bisectParts baseline parts found hunt).2 := by
  have hlive : ∀ {hunt : Hunt σ} {part : List MutantId} {parts : List (List MutantId)},
      (∀ p ∈ part :: parts, batches p) → batches (hunt.living part) :=
    fun h => hadmits.part (h _ List.mem_cons_self) (living_sublist _ _)
  have htried : ∀ {hunt : Hunt σ} {part : List MutantId} {parts : List (List MutantId)},
      (∀ p ∈ part :: parts, batches p) → hunt.living part ≠ [] →
      c.Step allowed hunt (c.tryOut baseline (hunt.living part) hunt) :=
    fun h hne => .trial baseline _ (hadmits.tried (hlive h)) hne isKilled_of_mem_living
  -- Along the recursion of `bisectParts`: one case for each way a part can go.
  fun_induction Campaign.bisectParts c baseline parts found hunt with
  | case1 found hunt => exact .refl
  | case2 found hunt part parts live hempty ih =>
      exact ih fun p hp => hparts p (List.mem_cons_of_mem part hp)
  | case3 found hunt part parts live hne e after hrun =>
      have hstep := htried hparts hne
      rw [tryOut_eq hrun, Hunt.settle_error] at hstep
      exact .single hstep
  | case4 found hunt part parts live hne verdict after hrun hmiss ih =>
      have hstep := htried hparts hne
      rw [tryOut_eq hrun, Hunt.settle_of_not_kill _ (by simpa using hmiss)] at hstep
      exact .head hstep (ih fun p hp => hparts p (List.mem_cons_of_mem part hp))
  | case5 found hunt part parts live hne verdict after hrun hkill hone m e last hfail =>
      have hsingle : hunt.living part = [m] := eq_singleton_head hne hone
      rw [show live = [m] from hsingle] at hrun
      have hpath := steps_kill hadmits (hsingle ▸ hlive hparts)
        (isKilled_of_mem_living m (List.head_mem hne)) hrun (by simpa using hkill)
      rwa [hfail] at hpath
  | case6 found hunt part parts live hne verdict after hrun hkill hone m last hdone ih =>
      have hsingle : hunt.living part = [m] := eq_singleton_head hne hone
      rw [show live = [m] from hsingle] at hrun
      have hpath := steps_kill hadmits (hsingle ▸ hlive hparts)
        (isKilled_of_mem_living m (List.head_mem hne)) hrun (by simpa using hkill)
      rw [hdone] at hpath
      exact hpath.trans (ih fun p hp => hparts p (List.mem_cons_of_mem part hp))
  | case7 found hunt part parts live hne verdict after hrun hkill htwo half ih =>
      have hstep := htried hparts hne
      rw [tryOut_eq hrun, Hunt.settle_of_length_ne_one htwo (by simpa using hkill)] at hstep
      refine .head hstep (ih ?_)
      intro p hp
      rcases List.mem_cons.mp hp with rfl | hp
      · exact hadmits.part (hlive hparts) (List.take_sublist _ _)
      rcases List.mem_cons.mp hp with rfl | hp
      · exact hadmits.part (hlive hparts) (List.drop_sublist _ _)
      · exact hparts p (List.mem_cons_of_mem part hp)

theorem bisect_nil (baseline : Baseline) (hunt : Hunt σ) :
    c.bisect baseline [] hunt = (.error .emptyBatch, hunt) := rfl

theorem bisect_eq_bisectParts (baseline : Baseline) {batch : List MutantId} (hne : batch ≠ [])
    (hunt : Hunt σ) : c.bisect baseline batch hunt = c.bisectParts baseline [batch] false hunt := by
  cases batch with
  | nil => exact absurd rfl hne
  | cons m rest => rfl

theorem steps_bisect (hadmits : c.Admits allowed baseline batches) {batch : List MutantId}
    (hbatch : batches batch) :
    c.Steps allowed hunt (c.bisect baseline batch hunt).2 := by
  by_cases hne : batch = []
  · rw [hne, bisect_nil]
  · rw [bisect_eq_bisectParts baseline hne]
    refine steps_bisectParts hadmits fun part hpart => ?_
    rwa [List.mem_singleton.mp hpart]

theorem select_eq_ok {batch : List MutantId} (hok : c.select hunt = (.ok batch, after)) :
    (Scheduler.select c.tree c.limits.batch hunt.scheduler).1 = .ok batch := by
  simp only [select, Prod.mk.injEq] at hok
  cases hdraw : (Scheduler.select c.tree c.limits.batch hunt.scheduler).1 with
  | error e =>
      rw [hdraw] at hok
      cases hok.1
  | ok drawn =>
      rw [hdraw] at hok
      cases hok.1
      rfl

/-- What is between the beginnings of two attempts. -/
theorem steps_attempt (hadmits : c.Admits allowed baseline batches)
    (hsize : hunt.scheduler.table.size = c.tree.mutantCount) {batch : List MutantId}
    {drawn last : Hunt σ} {killed : Bool} (hdraw : c.select hunt = (.ok batch, drawn))
    (hbisect : c.bisect baseline batch drawn = (.ok killed, last)) :
    c.Steps allowed hunt last := by
  have hselected : c.Steps allowed hunt (c.select hunt).2 := .single .select
  have hbisected : c.Steps allowed drawn (c.bisect baseline batch drawn).2 :=
    steps_bisect hadmits (hadmits.drawn hsize (select_eq_ok hdraw))
  rw [hdraw] at hselected
  rw [hbisect] at hbisected
  exact hselected.trans hbisected

theorem steps_attemptKills (hadmits : c.Admits allowed baseline batches)
    (hsize : hunt.scheduler.table.size = c.tree.mutantCount) :
    c.Steps allowed hunt (c.attemptKills baseline hunt).2 := by
  have hattempts : Attempts c baseline (fun _ hunt outcome => c.Steps allowed hunt outcome.2)
      (fun hunt => hunt.scheduler.table.size = c.tree.mutantCount) := by
    constructor
    · exact fun _ => .single .select
    · intro hunt drawn batch hsize hdraw _
      exact steps_bisect hadmits (hadmits.drawn hsize (select_eq_ok hdraw))
    · exact fun _ => .refl
    · intro hunt drawn last batch killed hsize hdraw hbisect
      rw [size_steps (steps_attempt hadmits hsize hdraw hbisect), hsize]
  exact chains_steps.attemptKills hattempts hsize

/-- What a hunt does once its program was made. -/
def work (baseline : Baseline) : Search σ Outcome := do
  Act.modify fun hunt => { hunt with programs := hunt.programs + 1 }
  c.attemptKills baseline

theorem hunt_eq_bind :
    c.hunt = Hunt.outsideAct c.harness.journaled.generate >>= fun baseline => c.work baseline := rfl

theorem logs_generate (s : Journaled σ) :
    Act.Logs Journaled.journal (fun event => ∃ answer, event = .generated answer)
      c.harness.journaled.generate s := by
  show Act.Logs _ _ (Journaled.recording Event.generated c.harness.generate) s
  refine Act.logs_recording _ ?_ ?_ s
  · intro answer
    exact ⟨answer, rfl⟩
  · intro answer
    rfl

/-- To make a program is one question, and leaves the books alone. -/
theorem generate_eq {answer : Except HuntError Baseline}
    (hmade : Hunt.outsideAct c.harness.journaled.generate hunt = (answer, after)) :
    after = { hunt with outside := after.outside } ∧
      after.events = hunt.events ++ [.generated answer] := by
  cases hmade
  exact ⟨rfl, List.reverse_cons⟩

theorem steps_work (hadmits : c.Admits allowed baseline batches)
    (hsize : hunt.scheduler.table.size = c.tree.mutantCount) :
    c.Steps allowed hunt (c.work baseline hunt).2 := by
  unfold work
  refine steps_bind (.single (.aside _ [] rfl rfl (by simp) (by simp))) fun _ _ hcounted => ?_
  cases hcounted
  exact steps_attemptKills hadmits hsize

theorem steps_generate (hgenerated : ∀ answer, allowed (.generated answer)) :
    c.Steps allowed hunt (Hunt.outsideAct c.harness.journaled.generate hunt).2 := by
  refine steps_outsideAct (logs_generate hunt.outside) ?_ ?_
  · rintro event ⟨answer, rfl⟩
    exact hgenerated answer
  · rintro event ⟨answer, rfl⟩
    rfl

/-- A hunt makes a program, and then works it. -/
theorem steps_hunt (hadmits : ∀ baseline, c.Admits allowed baseline batches)
    (hgenerated : ∀ answer, allowed (.generated answer))
    (hsize : hunt.scheduler.table.size = c.tree.mutantCount) :
    c.Steps allowed hunt (c.hunt hunt).2 := by
  rw [hunt_eq_bind]
  have hmade : c.Steps allowed hunt (Hunt.outsideAct c.harness.journaled.generate hunt).2 :=
    steps_generate hgenerated
  refine steps_bind hmade fun baseline made hgenerate => ?_
  rw [hgenerate] at hmade
  exact steps_work (hadmits baseline) (by rw [size_steps hmade, hsize])

end Campaign

/-! ## Sequences of calls -/

/-- What a user of a search can ask of it. -/
inductive Call where
  /-- Find the mutants of a batch that the current program kills. -/
  | bisect (baseline : Baseline) (batch : List MutantId)
  /-- Spend the attempts that the current program is worth. -/
  | attempt (baseline : Baseline)
  /-- Make a program and spend the attempts it is worth. -/
  | hunt
  deriving DecidableEq

namespace Campaign

variable {σ : Type} (c : Campaign σ)

/-- The state that a call leaves, whether it succeeds or fails. -/
def perform (hunt : Hunt σ) : Call → Hunt σ
  | .bisect baseline batch => (c.bisect baseline batch hunt).2
  | .attempt baseline => (c.attemptKills baseline hunt).2
  | .hunt => (c.hunt hunt).2

/-- The state that one call after the other leaves. -/
def performAll (hunt : Hunt σ) (calls : List Call) : Hunt σ :=
  calls.foldl c.perform hunt

variable {c} {allowed : Event → Prop} {batches : List MutantId → Prop} {hunt : Hunt σ}

theorem steps_perform (hadmits : ∀ baseline, c.Admits allowed baseline batches)
    (hgenerated : ∀ answer, allowed (.generated answer))
    (hsize : hunt.scheduler.table.size = c.tree.mutantCount) {call : Call}
    (hcall : ∀ baseline batch, call = .bisect baseline batch → batches batch) :
    c.Steps allowed hunt (c.perform hunt call) := by
  cases call with
  | bisect baseline batch => exact steps_bisect (hadmits baseline) (hcall baseline batch rfl)
  | attempt baseline => exact steps_attemptKills (hadmits baseline) hsize
  | hunt => exact steps_hunt hadmits hgenerated hsize

/-- Calls are a path of steps, as long as the batches they bring along are of the class. -/
theorem steps_performAll (hadmits : ∀ baseline, c.Admits allowed baseline batches)
    (hgenerated : ∀ answer, allowed (.generated answer))
    (hsize : hunt.scheduler.table.size = c.tree.mutantCount) {calls : List Call}
    (hcalls : ∀ baseline batch, .bisect baseline batch ∈ calls → batches batch) :
    c.Steps allowed hunt (c.performAll hunt calls) := by
  induction calls generalizing hunt with
  | nil => exact .refl
  | cons call rest ih =>
      have hfirst : c.Steps allowed hunt (c.perform hunt call) := by
        refine steps_perform hadmits hgenerated hsize fun baseline batch heq => ?_
        exact hcalls baseline batch (heq ▸ List.mem_cons_self)
      refine hfirst.trans (ih (by rw [size_steps hfirst, hsize]) ?_)
      exact fun baseline batch h => hcalls baseline batch (List.mem_cons_of_mem call h)

theorem size_start (hsmall : c.tree.mutantCount < UInt32.size) (seed : UInt64) (world : σ) :
    (c.start seed world).scheduler.table.size = c.tree.mutantCount := by
  simp only [start, Scheduler.new, Array.size_replicate]
  exact Nat.mod_eq_of_lt hsmall

/-- Every sequence of calls is a path of steps from the start. -/
theorem steps_from_start (hsmall : c.tree.mutantCount < UInt32.size) (seed : UInt64) (world : σ)
    (calls : List Call) :
    c.Steps (fun _ => True) (c.start seed world) (c.performAll (c.start seed world) calls) :=
  steps_performAll c.admits_all (fun _ => trivial) (size_start hsmall seed world)
    (fun _ _ _ => trivial)

theorem size_performAll (hsmall : c.tree.mutantCount < UInt32.size) (seed : UInt64) (world : σ)
    (calls : List Call) :
    (c.performAll (c.start seed world) calls).scheduler.table.size = c.tree.mutantCount := by
  rw [size_steps (steps_from_start hsmall seed world calls), size_start hsmall]

end Campaign

/-! ## A small campaign -/

/-- A harness that knows which mutants are deadly.  A batch dies of the first such mutant in it,
with its verdict. -/
def Harness.ofVerdicts (deadly : MutantId → Option Verdict) : Harness Unit where
  generate := pure default
  trial _ batch := pure ((batch.findSome? deadly).getD .noEffect)

/-- A reducer that never gets anywhere. -/
def Reducer.idle : Reducer Unit where
  reduce _ := pure false
  kills _ := pure false
  persist _ := pure default

namespace Campaign

/-- Mutants 0 and 1 of the two small files are deadly, and mutant 2 is not. -/
def deadlyInTwoFiles (m : MutantId) : Option Verdict :=
  if m = 0 then some .miscompilationKill else if m = 1 then some .compileFailKill else none

/-- The campaign against the mutants of two small files. -/
def twoFiles : Campaign Unit where
  tree := .twoFiles
  limits := {}
  harness := .ofVerdicts deadlyInTwoFiles
  reducer := .idle

-- The batch dies and is split, and the relative 0 of mutant 1 is tried after it.
example : (twoFiles.performAll (twoFiles.start 0 ()) [.bisect default [2, 1]]).scheduler.table =
    #[.killed .miscompilationKill, .killed .compileFailKill, .alive 1] := by
  cbv

end Campaign

end MutantHunt
