import MutantHunt.Proofs.Search.Step

/-!
# What a search leaves alone

A search changes its scheduler and the list of groups, and lets its collaborators act on their
world.  Whatever else there is stays as it is: the number of programs while one program is worked,
and the part of the world that the collaborators do not touch.  `Act.Keeps` says that an act leaves
such a part alone, and `Campaign.LeavesAlone` that the smallest acts of a search do; then all acts
that work a program do.

## Main results

* `keeps_attemptKills` — working a program leaves alone what trials, bookings and triages do.
* `leavesAlone_programs` — the number of programs is such a part.
* `Sheltered.leavesAlone` — so is a part of the world that the collaborators do not touch.
-/

namespace MutantHunt

namespace Act

variable {ε S τ α β : Type} {view : S → τ}

/-- The act leaves that part of the state as it is, also where it fails. -/
def Keeps (view : S → τ) (act : Act ε S α) : Prop :=
  ∀ s, view (act s).2 = view s

theorem keeps_pure (a : α) : Keeps view (Pure.pure a : Act ε S α) :=
  fun _ => rfl

theorem keeps_lift (result : Except ε α) : Keeps view (lift result : Act ε S α) :=
  fun _ => rfl

theorem keeps_bind {x : Act ε S α} {f : α → Act ε S β} (hx : Keeps view x)
    (hf : ∀ a, Keeps view (f a)) : Keeps view (x >>= f) := by
  intro s
  have hfirst := hx s
  rcases hrun : x s with ⟨result, t⟩
  rw [hrun] at hfirst
  cases result with
  | error e => rw [bind_of_error hrun, hfirst]
  | ok a => rw [bind_of_ok hrun, hf a t, hfirst]

end Act

open Act

/-! ## Collaborators -/

namespace Reducer

variable {σ τ : Type} {reducer : Reducer σ} {view : σ → τ}

/-- The reducer leaves that part of the world alone, whatever it is asked. -/
structure LeavesAlone (reducer : Reducer σ) (view : σ → τ) : Prop where
  reduce : ∀ m, Keeps view (reducer.reduce m)
  kills : ∀ m, Keeps view (reducer.kills m)
  persist : ∀ ms, Keeps view (reducer.persist ms)

theorem LeavesAlone.journaled (h : reducer.LeavesAlone view) :
    reducer.journaled.LeavesAlone fun s => view s.world where
  reduce m s := h.reduce m s.world
  kills m s := h.kills m s.world
  persist ms s := h.persist ms s.world

theorem keeps_sift (h : reducer.LeavesAlone view) (ms : List MutantId) :
    Keeps view (reducer.sift ms) := by
  induction ms with
  | nil => exact keeps_pure _
  | cons m rest ih =>
      unfold sift
      exact keeps_bind (h.kills m) fun _ => keeps_bind ih fun _ => keeps_pure _

theorem keeps_triageUpTo (h : reducer.LeavesAlone view) (n : Nat) (queue : List MutantId) :
    Keeps view (reducer.triageUpTo n queue) := by
  induction n generalizing queue with
  | zero => exact keeps_pure _
  | succ n ih =>
      unfold triageUpTo
      cases queue.getLast? with
      | none => exact keeps_pure _
      | some m =>
          refine keeps_bind (h.reduce m) fun done => ?_
          cases done with
          | false => exact ih _
          | true =>
              refine keeps_bind (keeps_sift h _) fun split => ?_
              obtain ⟨hits, misses⟩ := split
              refine keeps_bind (h.persist _) fun path => ?_
              exact keeps_bind (ih misses) fun groups => keeps_pure _

end Reducer

namespace Campaign

variable {σ τ : Type} {c : Campaign σ} {view : Hunt σ → τ}

/-- Trials, bookings and triages leave that part of a search alone. -/
structure LeavesAlone (c : Campaign σ) (view : Hunt σ → τ) : Prop where
  trial : ∀ baseline batch, Keeps view (c.trial baseline batch)
  scheduler : ∀ f hunt, view (Hunt.updateScheduler f hunt) = view hunt
  triage : ∀ queue, Keeps view (c.triage queue)

namespace LeavesAlone

variable (h : c.LeavesAlone view) (baseline : Baseline)
include h

theorem view_tryOut (batch : List MutantId) (hunt : Hunt σ) :
    view (c.tryOut baseline batch hunt) = view hunt := by
  have htrial := h.trial baseline batch hunt
  rw [← htrial, tryOut]
  rcases Hunt.settle_cases batch (c.trial baseline batch hunt).1 (c.trial baseline batch hunt).2
    with hsame | ⟨m, verdict, hkill⟩ | hcharge
  · rw [hsame]
  · rw [hkill]
    exact h.scheduler _ _
  · rw [hcharge]
    exact h.scheduler _ _

theorem keeps_probe (relatives : List MutantId) : Keeps view (c.probe baseline relatives) := by
  intro hunt
  induction relatives generalizing hunt with
  | nil => rfl
  | cons m rest ih =>
      rw [probe_cons]
      by_cases hdead : hunt.scheduler.isKilled m = true
      · rw [if_pos hdead]
        exact ih hunt
      · rw [if_neg hdead]
        cases (c.trial baseline [m] hunt).1 with
        | error e => exact h.view_tryOut baseline [m] hunt
        | ok verdict => exact (ih _).trans (h.view_tryOut baseline [m] hunt)

theorem keeps_consolidate (m : MutantId) (verdict : Verdict) :
    Keeps view (c.consolidate m verdict baseline) := by
  unfold consolidate
  refine keeps_bind (keeps_lift _) fun relatives => ?_
  exact keeps_bind (h.keeps_probe baseline relatives) fun _ => h.triage _

theorem keeps_bisectParts (parts : List (List MutantId)) (found : Bool) (hunt : Hunt σ) :
    view (c.bisectParts baseline parts found hunt).2 = view hunt := by
  have htried {batch hunt answer after} (hrun : c.trial baseline batch hunt = (answer, after)) :
      view after = view hunt := by
    have hkept := h.trial baseline batch hunt
    rwa [hrun] at hkept
  have hfollowed {m verdict hunt result after}
      (hrun : c.consolidate m verdict baseline (hunt.recordKill m verdict) = (result, after)) :
      view after = view hunt := by
    have hkept := h.keeps_consolidate baseline m verdict (hunt.recordKill m verdict)
    rw [hrun] at hkept
    exact hkept.trans (h.scheduler _ hunt)
  -- Along the recursion of `bisectParts`: one case for each way a part can go.
  fun_induction Campaign.bisectParts c baseline parts found hunt with
  | case1 found hunt => rfl
  | case2 found hunt part parts live hempty ih => exact ih
  | case3 found hunt part parts live hne e after hrun => exact htried hrun
  | case4 found hunt part parts live hne verdict after hrun hmiss ih =>
      exact ih.trans ((h.scheduler _ after).trans (htried hrun))
  | case5 found hunt part parts live hne verdict after hrun hkill hone m e last hfail =>
      exact (hfollowed hfail).trans (htried hrun)
  | case6 found hunt part parts live hne verdict after hrun hkill hone m last hdone ih =>
      exact ih.trans ((hfollowed hdone).trans (htried hrun))
  | case7 found hunt part parts live hne verdict after hrun hkill htwo half ih =>
      exact ih.trans (htried hrun)

theorem keeps_bisect (batch : List MutantId) : Keeps view (c.bisect baseline batch) := by
  intro hunt
  by_cases hne : batch = []
  · rw [hne, bisect_nil]
  · rw [bisect_eq_bisectParts baseline hne]
    exact h.keeps_bisectParts baseline [batch] false hunt

/-- To work a program leaves such a part alone. -/
theorem keeps_attemptKills : Keeps view (c.attemptKills baseline) := by
  have hchains : Chains fun _ (hunt : Hunt σ) outcome => view outcome.2 = view hunt := by
    constructor
    · exact fun _ _ => rfl
    · exact fun hfirst hsecond => hsecond.trans hfirst
    · exact fun hfail => hfail
  have hattempts : Attempts c baseline (fun _ hunt outcome => view outcome.2 = view hunt)
      (fun _ => True) := by
    constructor
    · exact fun {hunt} _ => h.scheduler (fun s => (Scheduler.select c.tree c.limits.batch s).2) hunt
    · exact fun {hunt drawn batch} _ _ _ => h.keeps_bisect baseline batch drawn
    · exact fun _ => rfl
    · exact fun _ _ _ => trivial
  exact fun hunt => hchains.attemptKills hattempts trivial

end LeavesAlone

/-! ## Parts of a search that are left alone -/

/-- Programs are counted when they are made, and at no other time. -/
theorem leavesAlone_programs (c : Campaign σ) : c.LeavesAlone Hunt.programs where
  trial _ _ _ := rfl
  scheduler _ _ := rfl
  triage queue := by
    unfold triage
    split
    · exact keeps_pure _
    · exact keeps_bind (fun _ => rfl) fun _ _ => rfl

/-- All collaborators leave that part of their world alone. -/
structure Sheltered (c : Campaign σ) (view : σ → τ) : Prop where
  generate : Keeps view c.harness.generate
  trial : ∀ baseline batch, Keeps view (c.harness.trial baseline batch)
  reducer : c.reducer.LeavesAlone view

theorem Sheltered.leavesAlone {view : σ → τ} (h : c.Sheltered view) :
    c.LeavesAlone fun hunt => view hunt.outside.world where
  trial baseline batch hunt := h.trial baseline batch hunt.outside.world
  scheduler _ _ := rfl
  triage queue := by
    have hasked : Keeps (fun s => view s.world) (c.reducer.journaled.triage queue) :=
      Reducer.keeps_triageUpTo h.reducer.journaled _ queue
    unfold triage
    split
    · exact keeps_pure _
    · exact keeps_bind (fun hunt => hasked hunt.outside) fun _ _ => rfl

/-- A whole hunt leaves it alone then. -/
theorem Sheltered.keeps_hunt {view : σ → τ} (h : c.Sheltered view) :
    Keeps (fun hunt => view hunt.outside.world) c.hunt := by
  rw [hunt_eq_bind]
  refine keeps_bind (fun hunt => h.generate hunt.outside.world) fun baseline => ?_
  exact keeps_bind (fun _ => rfl) fun _ => h.leavesAlone.keeps_attemptKills baseline

end Campaign

end MutantHunt
