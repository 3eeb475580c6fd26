import MutantHunt.Proofs.Scheduler.Draw
import MutantHunt.Proofs.Search.Step

/-!
# A search fails only as a collaborator did

Nothing that a bisection does by itself can fail: the batch is not empty, and the relatives of a
mutant of the tree are there to be listed.  Neither can a selection or the check after an attempt
fail, as long as the scheduler knows of the mutants of the tree and of no others.  So if an act
fails then because the last question it asked did, with the same failure, and if it succeeds then
no question failed.  Outcomes of which this holds are called *honest*.

Main results: `honest_bisect`, `honest_attemptKills`, `honest_hunt`.
-/

namespace MutantHunt

variable {σ α : Type}

/-- The outcome of an act that started in `hunt` fails only as the last question since did. -/
abbrev Hunt.Honest (hunt : Hunt σ) (outcome : Except HuntError α × Hunt σ) : Prop :=
  Act.Logged Hunt.journal (fun _ => True) hunt outcome

/-- No question that was asked between two states failed. -/
def Hunt.Undisturbed (before after : Hunt σ) : Prop :=
  ∀ event ∈ after.events.drop before.events.length, event.failure? = none

/-- Undisturbed, an act that fails only as its questions do succeeds. -/
theorem Hunt.Honest.exists_ok {hunt : Hunt σ} {outcome : Except HuntError α × Hunt σ}
    (hhonest : hunt.Honest outcome) (hquiet : hunt.Undisturbed outcome.2) :
    ∃ a, outcome.1 = .ok a := by
  obtain ⟨written, hwritten, -, htells⟩ := hhonest
  cases hresult : outcome.1 with
  | ok a => exact ⟨a, rfl⟩
  | error e =>
      rw [hresult] at htells
      obtain ⟨event, older, rfl, hfailure, -⟩ := htells
      have hnew : event ∈ outcome.2.events.drop hunt.events.length := by
        rw [Hunt.events_eq_append hwritten, List.drop_left]
        simp
      rw [hquiet event hnew] at hfailure
      cases hfailure

namespace Campaign

variable {c : Campaign σ} {baseline : Baseline} {hunt : Hunt σ}

theorem honest_trial (batch : List MutantId) : hunt.Honest (c.trial baseline batch hunt) := by
  apply Hunt.logs_outsideAct
  show Act.Logs _ _ (Journaled.recording (.tried baseline batch) _) _
  refine Act.logs_recording _ ?_ ?_ _
  · intro answer
    trivial
  · intro answer
    rfl

/-- Booking the answer to a trial asks nothing. -/
theorem honest_tryOut (batch : List MutantId) :
    hunt.Honest ((c.trial baseline batch hunt).1, c.tryOut baseline batch hunt) := by
  have htrial : hunt.Honest (c.trial baseline batch hunt) := honest_trial batch
  obtain ⟨written, hjournal, hadmitted, htells⟩ := htrial
  refine ⟨written, ?_, hadmitted, htells⟩
  rw [Hunt.journal, tryOut, Hunt.outside_settle]
  exact hjournal

theorem honest_triage (queue : List MutantId) : hunt.Honest (c.triage queue hunt) := by
  unfold triage
  split
  · exact Act.logs_pure () hunt
  · refine Act.logs_bind ?_ fun groups last _ => ?_
    · exact Hunt.logs_outsideAct ((c.reducer.logs_triage queue _).mono fun _ _ => trivial)
    · exact Act.logged_of_silent rfl

theorem honest_probe (relatives : List MutantId) :
    hunt.Honest (c.probe baseline relatives hunt) := by
  induction relatives generalizing hunt with
  | nil => exact Act.logs_pure [] hunt
  | cons m rest ih =>
      rw [probe_cons]
      by_cases hdead : hunt.scheduler.isKilled m = true
      · rw [if_pos hdead]
        exact ih
      · rw [if_neg hdead]
        have htried : hunt.Honest ((c.trial baseline [m] hunt).1, c.tryOut baseline [m] hunt) :=
          honest_tryOut [m]
        cases hanswer : (c.trial baseline [m] hunt).1 with
        | error e =>
            rw [hanswer] at htried
            exact htried.fail
        | ok verdict =>
            rw [hanswer] at htried
            have hrest : hunt.Honest (c.probe baseline rest (c.tryOut baseline [m] hunt)) :=
              htried.trans ih
            rcases hprobe : c.probe baseline rest (c.tryOut baseline [m] hunt) with ⟨more, last⟩
            rw [hprobe] at hrest
            cases more with
            | error e => exact hrest.fail
            | ok more => exact hrest.succeed _

/-- The follow-up of the kill of a mutant of the tree. -/
theorem honest_consolidate {m : MutantId} (hm : m.toNat < c.tree.mutantCount) (verdict : Verdict) :
    hunt.Honest (c.consolidate m verdict baseline hunt) := by
  unfold consolidate
  rw [Tree.relatives_eq_kin hm]
  refine Act.logs_bind (Act.logged_of_silent rfl) fun relatives last hlift => ?_
  cases hlift
  refine Act.logs_bind (honest_probe _) fun miscompiled last _ => ?_
  exact honest_triage _

theorem honest_kill {batch : List MutantId} {m : MutantId} (hm : m.toNat < c.tree.mutantCount)
    {verdict : Verdict} {after : Hunt σ}
    (hrun : c.trial baseline batch hunt = (.ok verdict, after)) :
    hunt.Honest (c.consolidate m verdict baseline (after.recordKill m verdict)) := by
  have htrial : hunt.Honest (c.trial baseline batch hunt) := honest_trial batch
  rw [hrun] at htrial
  have hfollowed : (after.recordKill m verdict).Honest
      (c.consolidate m verdict baseline (after.recordKill m verdict)) :=
    honest_consolidate hm verdict
  exact htrial.trans hfollowed

theorem honest_bisectParts {parts : List (List MutantId)} {found : Bool}
    (hknown : ∀ part ∈ parts, ∀ m ∈ part, m.toNat < c.tree.mutantCount) :
    hunt.Honest (c.bisectParts baseline parts found hunt) := by
  fun_induction Campaign.bisectParts c baseline parts found hunt with
  | case1 found hunt => exact Act.logs_pure found hunt
  | case2 found hunt part parts live hempty ih =>
      exact ih fun p hp => hknown p (List.mem_cons_of_mem part hp)
  | case3 found hunt part parts live hne e after hrun =>
      have htrial : hunt.Honest (c.trial baseline live hunt) := honest_trial live
      rw [hrun] at htrial
      exact htrial.fail
  | case4 found hunt part parts live hne verdict after hrun hmiss ih =>
      have htrial : hunt.Honest (c.trial baseline live hunt) := honest_trial live
      rw [hrun] at htrial
      exact htrial.trans (ih fun p hp => hknown p (List.mem_cons_of_mem part hp))
  | case5 found hunt part parts live hne verdict after hrun hkill hone m e last hfail =>
      have hm : m.toNat < c.tree.mutantCount :=
        hknown part List.mem_cons_self m ((living_sublist hunt part).subset (List.head_mem hne))
      have hfollowed := honest_kill hm hrun
      rw [hfail] at hfollowed
      exact hfollowed.fail
  | case6 found hunt part parts live hne verdict after hrun hkill hone m last hdone ih =>
      have hm : m.toNat < c.tree.mutantCount :=
        hknown part List.mem_cons_self m ((living_sublist hunt part).subset (List.head_mem hne))
      have hfollowed := honest_kill hm hrun
      rw [hdone] at hfollowed
      exact hfollowed.trans (ih fun p hp => hknown p (List.mem_cons_of_mem part hp))
  | case7 found hunt part parts live hne verdict after hrun hkill htwo half ih =>
      have htrial : hunt.Honest (c.trial baseline live hunt) := honest_trial live
      rw [hrun] at htrial
      refine htrial.trans (ih ?_)
      have hlive : ∀ m ∈ live, m.toNat < c.tree.mutantCount := fun m hm =>
        hknown part List.mem_cons_self m ((living_sublist hunt part).subset hm)
      intro p hp m hm
      rcases List.mem_cons.mp hp with rfl | hp
      · exact hlive m (List.mem_of_mem_take hm)
      rcases List.mem_cons.mp hp with rfl | hp
      · exact hlive m (List.mem_of_mem_drop hm)
      · exact hknown p (List.mem_cons_of_mem part hp) m hm

/-- A bisection of a batch of mutants of the tree. -/
theorem honest_bisect {batch : List MutantId} (hne : batch ≠ [])
    (hknown : ∀ m ∈ batch, m.toNat < c.tree.mutantCount) :
    hunt.Honest (c.bisect baseline batch hunt) := by
  rw [bisect_eq_bisectParts baseline hne]
  refine honest_bisectParts fun part hpart => ?_
  rwa [List.mem_singleton.mp hpart]

/-! ## Attempts -/

theorem chains_honest : Chains fun _ (hunt : Hunt σ) outcome => hunt.Honest outcome where
  same a hunt := Act.logs_pure a hunt
  trans := Act.Logged.trans
  fail := Act.Logged.fail

/-- The scheduler has the mutants of the tree on record, and ought to. -/
structure InOrder (c : Campaign σ) (hunt : Hunt σ) : Prop where
  size : hunt.scheduler.table.size = c.tree.mutantCount
  total : hunt.scheduler.total = c.tree.mutantCount

theorem inOrder_steps {allowed : Event → Prop} {after : Hunt σ} (horder : c.InOrder hunt)
    (hsteps : c.Steps allowed hunt after) : c.InOrder after where
  size := by rw [size_steps hsteps, horder.size]
  total := by rw [total_steps hsteps, horder.total]

theorem inOrder_performAll (hsmall : c.tree.mutantCount < UInt32.size) (seed : UInt64) (world : σ)
    (calls : List Call) : c.InOrder (c.performAll (c.start seed world) calls) :=
  inOrder_steps ⟨size_start hsmall seed world, rfl⟩ (steps_from_start hsmall seed world calls)

theorem InOrder.check (horder : c.InOrder hunt) : hunt.scheduler.check = .ok () := by
  rw [Scheduler.check_eq_ok_iff, horder.size, horder.total]

theorem honest_select (hsize : hunt.scheduler.table.size = c.tree.mutantCount) :
    hunt.Honest (c.select hunt) := by
  obtain ⟨batch, hdraw⟩ := Scheduler.exists_select_eq_ok c.limits.batch hsize
  have hok : (c.select hunt).1 = .ok batch := by
    show (Scheduler.select c.tree c.limits.batch hunt.scheduler).1.mapError HuntError.tree = _
    rw [hdraw]
    rfl
  rw [← Prod.eta (c.select hunt), hok]
  exact Act.logged_of_silent rfl

theorem honest_attemptKills {description : Description} (hbuilt : c.tree.BuiltFrom description)
    (horder : c.InOrder hunt) : hunt.Honest (c.attemptKills baseline hunt) := by
  have hattempts : Attempts c baseline (fun _ hunt outcome => hunt.Honest outcome) c.InOrder := by
    constructor
    · exact fun horder => honest_select horder.size
    · intro hunt drawn batch horder hdraw hne
      refine honest_bisect hne fun m hm => ?_
      obtain ⟨-, -, hwaiting, -⟩ := Scheduler.select_ok hbuilt (select_eq_ok hdraw)
      rw [← horder.size]
      exact Scheduler.lt_size_of_attempts? (hwaiting m hm)
    · intro hunt horder
      rw [horder.check]
      exact Act.logs_pure () hunt
    · intro hunt drawn last batch killed horder hdraw hbisect
      exact inOrder_steps horder
        (steps_attempt (c.admits_all baseline) horder.size hdraw hbisect)
  exact chains_honest.attemptKills hattempts horder

theorem honest_hunt {description : Description} (hbuilt : c.tree.BuiltFrom description)
    (horder : c.InOrder hunt) : hunt.Honest (c.hunt hunt) := by
  rw [hunt_eq_bind]
  have hmade : hunt.Honest (Hunt.outsideAct c.harness.journaled.generate hunt) :=
    Hunt.logs_outsideAct ((logs_generate hunt.outside).mono fun _ _ => trivial)
  refine chains_honest.bind hmade fun baseline made hgenerate => ?_
  have hready : c.InOrder made := by
    rw [(generate_eq hgenerate).1]
    exact ⟨horder.size, horder.total⟩
  have hcounted : made.Honest (.ok (), { made with programs := made.programs + 1 }) :=
    Act.logged_of_silent rfl
  exact hcounted.trans (honest_attemptKills hbuilt ⟨hready.size, hready.total⟩)

end Campaign

end MutantHunt
