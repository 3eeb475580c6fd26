import MutantHunt.Proofs.Search.Step

/-!
# A bisection is a recursion

A bisection keeps the parts of the batch that it has yet to look at on a list, and works the list
down from its head.  What one has in mind is a recursion: try the batch, and if it dies, do the same
with its first half and then with what is alive of the second.  The two look at the dead at
different moments.  The list holds halves that were made long before they are taken up, and only
then are the dead left out, while the recursion leaves them out of a half before it turns to it.

`Campaign.halve` is the recursion.  What the list does with its first part is what `halve` does with
those of it who are alive by then, and with the outcome it goes on to the rest of the list
(`bisectParts_cons`).  A half that is put on the list comes to its turn with nobody dead that the
recursion has not seen die, so an induction on the length of the part carries this from the halves
to the whole.

For what holds all along a bisection, a list is a state and `Campaign.Pop` is one round of work on
it.

## Main results

* `bisectParts_cons` — the first part of a list, and the rest.
* `exists_halt` — a bisection is a number of rounds, and one of three ways to halt.
* `bisect_eq_halve` — bisection is recursion.
-/

namespace MutantHunt

namespace Campaign

variable {σ : Type} (c : Campaign σ)

/-- Finds out which mutants of a batch the current program kills, by recursion. -/
def halve (baseline : Baseline) (batch : List MutantId) : Search σ Bool :=
  if hnone : batch = [] then pure false
  else do
    let verdict ← c.trial baseline batch
    if !verdict.isKill then
      Act.modify (Hunt.charge batch)
      pure false
    else if hone : batch.length = 1 then
      let m := batch.head hnone
      Act.modify (Hunt.recordKill m verdict)
      c.consolidate m verdict baseline
      pure true
    else
      let half := batch.length / 2
      let first ← halve baseline (batch.take half)
      let hunt ← Act.get
      let second ← halve baseline (hunt.living (batch.drop half))
      pure (first || second)
termination_by batch.length
decreasing_by
  all_goals
    have hpos : 0 < batch.length := List.length_pos_iff.2 hnone
  · rw [List.length_take]
    omega
  · have hle := hunt.length_living_le (batch.drop (batch.length / 2))
    rw [List.length_drop] at hle
    omega

variable {c} {baseline : Baseline} {part batch : List MutantId} {parts : List (List MutantId)}
  {found : Bool} {hunt after : Hunt σ} {verdict : Verdict}

/-! ## The first part of a list -/

theorem bisectParts_nil (c : Campaign σ) (baseline : Baseline) (found : Bool) (hunt : Hunt σ) :
    c.bisectParts baseline [] found hunt = (.ok found, hunt) := by
  rw [bisectParts]

theorem bisectParts_of_dead (hdead : hunt.living part = []) :
    c.bisectParts baseline (part :: parts) found hunt =
      c.bisectParts baseline parts found hunt := by
  rw [bisectParts, dif_pos hdead]

theorem bisectParts_of_error (hne : hunt.living part ≠ []) {e : HuntError}
    (hrun : c.trial baseline (hunt.living part) hunt = (.error e, after)) :
    c.bisectParts baseline (part :: parts) found hunt = (.error e, after) := by
  rw [bisectParts, dif_neg hne, hrun]

theorem bisectParts_of_miss (hne : hunt.living part ≠ [])
    (hrun : c.trial baseline (hunt.living part) hunt = (.ok verdict, after))
    (hmiss : verdict.isKill = false) :
    c.bisectParts baseline (part :: parts) found hunt =
      c.bisectParts baseline parts found (after.charge (hunt.living part)) := by
  rw [bisectParts, dif_neg hne, hrun]
  simp only [hmiss, Bool.not_false, if_true]

theorem bisectParts_of_kill {m : MutantId} (hone : hunt.living part = [m])
    (hrun : c.trial baseline [m] hunt = (.ok verdict, after)) (hkill : verdict.isKill = true) :
    c.bisectParts baseline (part :: parts) found hunt =
      match c.consolidate m verdict baseline (after.recordKill m verdict) with
      | (.error e, last) => (.error e, last)
      | (.ok (), last) => c.bisectParts baseline parts true last := by
  have hne : hunt.living part ≠ [] := by
    rw [hone]
    exact List.cons_ne_nil m []
  rw [← hone] at hrun
  rw [bisectParts, dif_neg hne, hrun]
  rcases hlast : c.consolidate m verdict baseline (after.recordKill m verdict)
    with ⟨_ | _, last⟩ <;>
    simp only [hkill, hone, hlast, Bool.not_true, Bool.false_eq_true, if_false,
      List.length_singleton, dite_true, List.head_cons]

theorem bisectParts_of_split (hne : hunt.living part ≠ []) (htwo : (hunt.living part).length ≠ 1)
    (hrun : c.trial baseline (hunt.living part) hunt = (.ok verdict, after))
    (hkill : verdict.isKill = true) :
    c.bisectParts baseline (part :: parts) found hunt =
      c.bisectParts baseline
        ((hunt.living part).take ((hunt.living part).length / 2) ::
          (hunt.living part).drop ((hunt.living part).length / 2) :: parts) found after := by
  rw [bisectParts, dif_neg hne, hrun]
  simp [hkill, htwo]

/-! ## The recursion, case by case -/

theorem halve_nil (c : Campaign σ) (baseline : Baseline) (hunt : Hunt σ) :
    c.halve baseline [] hunt = (.ok false, hunt) := by
  rw [halve, dif_pos rfl, Act.pure_apply]

theorem halve_of_error (hne : batch ≠ []) {e : HuntError}
    (hrun : c.trial baseline batch hunt = (.error e, after)) :
    c.halve baseline batch hunt = (.error e, after) := by
  rw [halve, dif_neg hne, Act.bind_of_error hrun]

theorem halve_of_miss (hne : batch ≠ [])
    (hrun : c.trial baseline batch hunt = (.ok verdict, after)) (hmiss : verdict.isKill = false) :
    c.halve baseline batch hunt = (.ok false, after.charge batch) := by
  rw [halve, dif_neg hne, Act.bind_of_ok hrun, if_pos (by rw [hmiss]; rfl)]
  rfl

theorem halve_of_kill {m : MutantId} (hrun : c.trial baseline [m] hunt = (.ok verdict, after))
    (hkill : verdict.isKill = true) :
    c.halve baseline [m] hunt =
      match c.consolidate m verdict baseline (after.recordKill m verdict) with
      | (.error e, last) => (.error e, last)
      | (.ok (), last) => (.ok true, last) := by
  rw [halve, dif_neg (List.cons_ne_nil m []), Act.bind_of_ok hrun]
  simp only [hkill, Bool.not_true, Bool.false_eq_true, if_false, List.length_singleton,
    dite_true, List.head_cons]
  rw [Act.bind_of_ok (Act.modify_apply _ after), Act.bind_apply]
  rcases c.consolidate m verdict baseline (after.recordKill m verdict) with ⟨_ | _, last⟩ <;> rfl

theorem halve_of_split (hne : batch ≠ []) (htwo : batch.length ≠ 1)
    (hrun : c.trial baseline batch hunt = (.ok verdict, after)) (hkill : verdict.isKill = true) :
    c.halve baseline batch hunt =
      match c.halve baseline (batch.take (batch.length / 2)) after with
      | (.error e, last) => (.error e, last)
      | (.ok first, middle) =>
          match c.halve baseline (middle.living (batch.drop (batch.length / 2))) middle with
          | (.error e, last) => (.error e, last)
          | (.ok second, last) => (.ok (first || second), last) := by
  rw [halve, dif_neg hne, Act.bind_of_ok hrun]
  simp only [hkill, Bool.not_true, Bool.false_eq_true, if_false, dif_neg htwo]
  rw [Act.bind_apply]
  rcases c.halve baseline (batch.take (batch.length / 2)) after with ⟨_ | first, middle⟩
  · rfl
  · simp only [Act.bind_apply, Act.get_apply]
    rcases c.halve baseline (middle.living (batch.drop (batch.length / 2))) middle with
      ⟨_ | second, last⟩ <;> rfl

/-! ## The list and the recursion -/

/-- Nobody dies in a trial: of those who were alive before it, everybody is. -/
theorem living_of_trial {answer : Except HuntError Verdict}
    (hrun : c.trial baseline batch hunt = (answer, after)) {ms : List MutantId}
    (hms : ms ⊆ hunt.living part) : after.living ms = ms := by
  refine living_of_forall fun m hm => ?_
  rw [scheduler_of_trial hrun]
  exact isKilled_of_mem_living m (hms hm)

/-- The list does with its first part what the recursion does with those of it who are alive, and
goes on to the rest. -/
theorem bisectParts_cons (c : Campaign σ) (baseline : Baseline) (part : List MutantId)
    (parts : List (List MutantId)) (found : Bool) (hunt : Hunt σ) :
    c.bisectParts baseline (part :: parts) found hunt =
      match c.halve baseline (hunt.living part) hunt with
      | (.error e, last) => (.error e, last)
      | (.ok killed, last) => c.bisectParts baseline parts (found || killed) last := by
  induction hlength : part.length using Nat.strong_induction_on
    generalizing part parts found hunt with
  | h n ih =>
      subst hlength
      by_cases hne : hunt.living part = []
      · rw [bisectParts_of_dead hne, hne, halve_nil]
        simp only [Bool.or_false]
      rcases hrun : c.trial baseline (hunt.living part) hunt with ⟨answer, after⟩
      cases answer with
      | error e => rw [bisectParts_of_error hne hrun, halve_of_error hne hrun]
      | ok verdict =>
          cases hkill : verdict.isKill with
          | false =>
              rw [bisectParts_of_miss hne hrun hkill, halve_of_miss hne hrun hkill]
              simp only [Bool.or_false]
          | true =>
              by_cases hone : (hunt.living part).length = 1
              · obtain ⟨m, hsingle⟩ := List.length_eq_one_iff.mp hone
                rw [hsingle] at hrun ⊢
                rw [bisectParts_of_kill hsingle hrun hkill, halve_of_kill hrun hkill]
                rcases c.consolidate m verdict baseline (after.recordKill m verdict) with
                  ⟨_ | _, last⟩
                · rfl
                · simp only [Bool.or_true]
              · -- Both halves are shorter than the part, so the list does with either what the
                -- recursion does: with the first right away, with the second in the state that
                -- the first leaves.
                have hle := hunt.length_living_le part
                have hpos := List.length_pos_iff.mpr hne
                have hstill := living_of_trial hrun
                  (List.take_subset ((hunt.living part).length / 2) (hunt.living part))
                rw [bisectParts_of_split hne hone hrun hkill, halve_of_split hne hone hrun hkill]
                generalize hunt.living part = live at *
                rw [ih _ (by rw [List.length_take]; omega) _ _ _ _ rfl, hstill]
                rcases c.halve baseline (live.take (live.length / 2)) after with
                  ⟨_ | first, middle⟩
                · rfl
                · simp only
                  rw [ih _ (by rw [List.length_drop]; omega) _ _ _ _ rfl]
                  rcases c.halve baseline (middle.living (live.drop (live.length / 2))) middle with
                    ⟨_ | second, last⟩
                  · rfl
                  · simp only [Bool.or_assoc]

/-- Whatever the state of the search and whatever the collaborators answer, to bisect a batch is to
halve those of it who are alive: the result is the same, and so is all that is left behind, with
every question that was asked on the way.  If nobody is alive then nothing is asked. -/
theorem bisect_eq_halve (c : Campaign σ) (baseline : Baseline) {batch : List MutantId}
    (hne : batch ≠ []) (hunt : Hunt σ) :
    c.bisect baseline batch hunt = c.halve baseline (hunt.living batch) hunt ∧
      (hunt.living batch = [] → c.bisect baseline batch hunt = (.ok false, hunt)) := by
  have hsame : c.bisect baseline batch hunt = c.halve baseline (hunt.living batch) hunt := by
    rw [bisect_eq_bisectParts baseline hne, bisectParts_cons]
    rcases c.halve baseline (hunt.living batch) hunt with ⟨_ | killed, last⟩
    · rfl
    · simp only [bisectParts_nil, Bool.false_or]
  refine ⟨hsame, fun hnone => ?_⟩
  rw [hsame, hnone, halve_nil]

/-- Mutant 1 is listed twice and dead when the second half is taken up, and so is mutant 0, which
dies in the follow-up of 1. -/
theorem bisect_eq_halve_twoFiles :
    [(1 : MutantId), 2, 1, 0] ≠ [] ∧
      twoFiles.bisect default [1, 2, 1, 0] (twoFiles.start 0 ()) =
        twoFiles.halve default ((twoFiles.start 0 ()).living [1, 2, 1, 0])
          (twoFiles.start 0 ()) ∧
      ((twoFiles.start 0 ()).living [1, 2, 1, 0] = [] →
        twoFiles.bisect default [1, 2, 1, 0] (twoFiles.start 0 ()) =
          (.ok false, twoFiles.start 0 ())) :=
  ⟨by decide, bisect_eq_halve twoFiles default (by decide) (twoFiles.start 0 ())⟩

example : ((twoFiles.halve default [1, 2, 1, 0] (twoFiles.start 0 ())).2.trials.map Trial.batch) =
    [[1, 2, 1, 0], [1, 2], [1], [0], [2]] := by
  cbv

end Campaign

/-! ## Rounds of work -/

/-- A bisection at work: the parts that it has yet to look at, whether something was killed already,
and the search. -/
structure Worklist (σ : Type) where
  parts : List (List MutantId)
  found : Bool
  hunt : Hunt σ

namespace Campaign

variable {σ : Type} (c : Campaign σ)

/-- One round of work on the list, in which nothing fails. -/
inductive Pop (baseline : Baseline) : Worklist σ → Worklist σ → Prop
  /-- A part of which everybody is dead is passed over. -/
  | dead {part parts found hunt} (hdead : hunt.living part = []) :
      Pop baseline ⟨part :: parts, found, hunt⟩ ⟨parts, found, hunt⟩
  /-- A part that survives its trial is charged. -/
  | miss {part parts found hunt after verdict} (hne : hunt.living part ≠ [])
      (hrun : c.trial baseline (hunt.living part) hunt = (.ok verdict, after))
      (hmiss : verdict.isKill = false) :
      Pop baseline ⟨part :: parts, found, hunt⟩
        ⟨parts, found, after.charge (hunt.living part)⟩
  /-- A single mutant that dies is recorded and followed up. -/
  | kill {part parts found hunt after verdict m last} (hone : hunt.living part = [m])
      (hrun : c.trial baseline [m] hunt = (.ok verdict, after)) (hkill : verdict.isKill = true)
      (hdone : c.consolidate m verdict baseline (after.recordKill m verdict) = (.ok (), last)) :
      Pop baseline ⟨part :: parts, found, hunt⟩ ⟨parts, true, last⟩
  /-- A part of several mutants that dies is split. -/
  | split {part parts found hunt after verdict} (hne : hunt.living part ≠ [])
      (htwo : (hunt.living part).length ≠ 1)
      (hrun : c.trial baseline (hunt.living part) hunt = (.ok verdict, after))
      (hkill : verdict.isKill = true) :
      Pop baseline ⟨part :: parts, found, hunt⟩
        ⟨(hunt.living part).take ((hunt.living part).length / 2) ::
          (hunt.living part).drop ((hunt.living part).length / 2) :: parts, found, after⟩

/-- Any number of rounds. -/
abbrev Pops (baseline : Baseline) : Worklist σ → Worklist σ → Prop :=
  Relation.ReflTransGen (c.Pop baseline)

/-- How the work on a list halts. -/
inductive Halts (baseline : Baseline) : Worklist σ → Except HuntError Bool × Hunt σ → Prop
  /-- No part is left. -/
  | done (found : Bool) (hunt : Hunt σ) : Halts baseline ⟨[], found, hunt⟩ (.ok found, hunt)
  /-- A trial fails. -/
  | untried {part parts found hunt e after} (hne : hunt.living part ≠ [])
      (hrun : c.trial baseline (hunt.living part) hunt = (.error e, after)) :
      Halts baseline ⟨part :: parts, found, hunt⟩ (.error e, after)
  /-- A follow-up fails. -/
  | unfollowed {part parts found hunt after verdict m e last} (hone : hunt.living part = [m])
      (hrun : c.trial baseline [m] hunt = (.ok verdict, after)) (hkill : verdict.isKill = true)
      (hfail : c.consolidate m verdict baseline (after.recordKill m verdict) = (.error e, last)) :
      Halts baseline ⟨part :: parts, found, hunt⟩ (.error e, last)

variable {c} {baseline : Baseline} {work work' : Worklist σ}

/-- A round is a path of steps of the search. -/
theorem steps_of_pop (hpop : c.Pop baseline work work') :
    c.Steps (fun _ => True) work.hunt work'.hunt := by
  have htried {hunt : Hunt σ} {part : List MutantId} (hne : hunt.living part ≠ []) :
      c.Step (fun _ => True) hunt (c.tryOut baseline (hunt.living part) hunt) :=
    .trial baseline _ (fun _ => trivial) hne isKilled_of_mem_living
  cases hpop with
  | dead hdead => exact .refl
  | miss hne hrun hmiss =>
      have hstep := htried hne
      rw [tryOut_eq hrun, Hunt.settle_of_not_kill _ hmiss] at hstep
      exact .single hstep
  | @kill part parts found hunt after verdict m last hone hrun hkill hdone =>
      have hliving : hunt.scheduler.isKilled m = false :=
        isKilled_of_mem_living m (hone ▸ List.mem_singleton_self m : m ∈ hunt.living part)
      have hpath := steps_kill (c.admits_all baseline) trivial hliving hrun hkill
      rwa [hdone] at hpath
  | split hne htwo hrun hkill =>
      have hstep := htried hne
      rw [tryOut_eq hrun, Hunt.settle_of_length_ne_one htwo hkill] at hstep
      exact .single hstep

theorem steps_of_pops (hpops : c.Pops baseline work work') :
    c.Steps (fun _ => True) work.hunt work'.hunt := by
  induction hpops with
  | refl => exact .refl
  | tail _ hpop ih => exact ih.trans (steps_of_pop hpop)

/-- What comes of a list is what comes of it after a round. -/
theorem bisectParts_of_pop (hpop : c.Pop baseline work work') :
    c.bisectParts baseline work.parts work.found work.hunt =
      c.bisectParts baseline work'.parts work'.found work'.hunt := by
  cases hpop with
  | dead hdead => exact bisectParts_of_dead hdead
  | miss hne hrun hmiss => exact bisectParts_of_miss hne hrun hmiss
  | kill hone hrun hkill hdone =>
      rw [bisectParts_of_kill hone hrun hkill]
      simp only [hdone]
  | split hne htwo hrun hkill => exact bisectParts_of_split hne htwo hrun hkill

theorem bisectParts_of_pops (hpops : c.Pops baseline work work') :
    c.bisectParts baseline work.parts work.found work.hunt =
      c.bisectParts baseline work'.parts work'.found work'.hunt := by
  induction hpops with
  | refl => rfl
  | tail _ hpop ih => rw [ih, bisectParts_of_pop hpop]

/-- The work on a list is a number of rounds, and then it halts. -/
theorem exists_halt (c : Campaign σ) (baseline : Baseline) (parts : List (List MutantId))
    (found : Bool) (hunt : Hunt σ) :
    ∃ work, c.Pops baseline ⟨parts, found, hunt⟩ work ∧
      c.Halts baseline work (c.bisectParts baseline parts found hunt) := by
  have hnext {work work' : Worklist σ} {outcome : Except HuntError Bool × Hunt σ}
      (hpop : c.Pop baseline work work')
      (h : ∃ last, c.Pops baseline work' last ∧ c.Halts baseline last outcome) :
      ∃ last, c.Pops baseline work last ∧ c.Halts baseline last outcome := by
    obtain ⟨last, hpops, hhalts⟩ := h
    exact ⟨last, .head hpop hpops, hhalts⟩
  -- Along the recursion of `bisectParts`: each case is a round, or a way to halt.
  fun_induction Campaign.bisectParts c baseline parts found hunt with
  | case1 found hunt => exact ⟨_, .refl, .done found hunt⟩
  | case2 found hunt part parts live hempty ih => exact hnext (.dead hempty) ih
  | case3 found hunt part parts live hne e after hrun => exact ⟨_, .refl, .untried hne hrun⟩
  | case4 found hunt part parts live hne verdict after hrun hmiss ih =>
      exact hnext (.miss hne hrun (by simpa using hmiss)) ih
  | case5 found hunt part parts live hne verdict after hrun hkill hone m e last hfail =>
      have hsingle : live = [m] := eq_singleton_head hne hone
      rw [hsingle] at hrun
      exact ⟨_, .refl, .unfollowed hsingle hrun (by simpa using hkill) hfail⟩
  | case6 found hunt part parts live hne verdict after hrun hkill hone m last hdone ih =>
      have hsingle : live = [m] := eq_singleton_head hne hone
      rw [hsingle] at hrun
      exact hnext (.kill hsingle hrun (by simpa using hkill) hdone) ih
  | case7 found hunt part parts live hne verdict after hrun hkill htwo half ih =>
      exact hnext (.split hne htwo hrun (by simpa using hkill)) ih

/-- A bisection that succeeds works its list down. -/
theorem pops_of_bisect_ok {batch : List MutantId} {hunt last : Hunt σ} {killed : Bool}
    (hok : c.bisect baseline batch hunt = (.ok killed, last)) :
    c.Pops baseline ⟨[batch], false, hunt⟩ ⟨[], killed, last⟩ := by
  have hne : batch ≠ [] := by
    rintro rfl
    cases hok
  rw [bisect_eq_bisectParts baseline hne] at hok
  obtain ⟨work, hpops, hhalts⟩ := c.exists_halt baseline [batch] false hunt
  rw [hok] at hhalts
  cases hhalts with
  | done => exact hpops

end Campaign

end MutantHunt
