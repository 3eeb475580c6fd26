import Mathlib.Algebra.GroupWithZero.Nat
import Mathlib.Data.Finset.Card
import MutantHunt.Proofs.Search.Ledger
import MutantHunt.Proofs.Search.Triage
import MutantHunt.Proofs.Search.Worklist

/-!
# What a bisection costs

A bisection looks at one part of its batch after the other.  A look makes one trial of its own if
anybody of the part is alive, and if that trial kills a single mutant then the relatives of that
one are tried too.  `Campaign.Looks` is a bisection told look by look, and `Look` keeps the two
kinds of trials apart.

Every split makes the list of parts longer, and the dead are left out of a part only when it is
looked at, so neither the length of the list nor the mutants on it tell how long this goes on.  The
work of the list does (`workOfAll`): a part of `n` mutants counts `2n - 1`, and its halves together
count one less.  Each look takes something off it, and no answer of the harness has any say in that.

## Main results

* `workOfAll_lt_of_pop`, `wellFounded_pop` — a round leaves less work, so rounds come to an end.
* `exists_looks` — what a look costs, from one case for each way that a part can go.
* `bisect_thrifty` — how many trials a bisection makes, of its own and in following up.
-/

namespace MutantHunt

/-- The mutant that died in a trial of nothing else. -/
def Trial.singleKill? (t : Trial) : Option MutantId :=
  match t.batch, t.answer with
  | [m], .ok verdict => if verdict.isKill then some m else none
  | _, _ => none

theorem Trial.singleKill?_eq_some_iff {t : Trial} {m : MutantId} :
    t.singleKill? = some m ↔ ∃ verdict, t.KillsAlone m verdict := by
  obtain ⟨baseline, batch, answer⟩ := t
  unfold singleKill? KillsAlone
  constructor
  · intro hkill
    split at hkill
    · next m' verdict hbatch hanswer =>
        split at hkill
        · next hdies =>
            cases hkill
            exact ⟨verdict, hbatch, hanswer, hdies⟩
        · cases hkill
    · cases hkill
  · rintro ⟨verdict, rfl, rfl, hdies⟩
    simp only [hdies, if_true]

/-- The trials of one look at the first part of a list. -/
structure Look where
  /-- The trial of the part, if there is one. -/
  own : List Trial
  /-- The trials of the relatives of what that trial killed. -/
  followUp : List Trial

namespace Look

/-- All trials of a look, oldest first. -/
def trials (look : Look) : List Trial :=
  look.own ++ look.followUp

end Look

/-- The mutants that a bisection killed by these trials of its own. -/
def killedIn (trials : List Trial) : List MutantId :=
  trials.filterMap Trial.singleKill?

namespace Campaign

variable {σ : Type} (c : Campaign σ)

/-- The trial that comes next on a list: that of those of its first part who are alive. -/
def ownTrials (baseline : Baseline) (work : Worklist σ) : List Trial :=
  match work.parts with
  | [] => []
  | part :: _ =>
      let live := work.hunt.living part
      if live = [] then [] else [⟨baseline, live, (c.trial baseline live work.hunt).1⟩]

/-- The trials between a list and the state that a look at it leaves. -/
structure Spends (baseline : Baseline) (work : Worklist σ) (after : Hunt σ) (look : Look) :
    Prop where
  own : look.own = c.ownTrials baseline work
  trials : after.trials = work.hunt.trials ++ look.trials

/-- The work on a list, look by look, and the outcome it halts with. -/
inductive Looks (baseline : Baseline) :
    Worklist σ → List Look → Except HuntError Bool × Hunt σ → Prop
  /-- No part is left. -/
  | done (found : Bool) (hunt : Hunt σ) :
      Looks baseline ⟨[], found, hunt⟩ [] (.ok found, hunt)
  /-- The last look fails. -/
  | fail {work look e after} (hhalts : c.Halts baseline work (.error e, after))
      (hspends : c.Spends baseline work after look) :
      Looks baseline work [look] (.error e, after)
  /-- A look is a round. -/
  | round {work work' look looks outcome} (hpop : c.Pop baseline work work')
      (hspends : c.Spends baseline work work'.hunt look)
      (hrest : Looks baseline work' looks outcome) :
      Looks baseline work (look :: looks) outcome

/-- The follow-up of a look tries relatives of what the look killed, one at a time, and each of them
at most once. -/
def StaysInFamily (look : Look) : Prop :=
  (look.followUp.map Trial.batch).Sublist
    (((killedIn look.own).flatMap c.tree.kin).map fun r => [r])

variable {c} {baseline : Baseline} {part batch : List MutantId} {parts : List (List MutantId)}
  {found : Bool} {hunt after last : Hunt σ} {work work' : Worklist σ} {look : Look}
  {looks : List Look} {outcome : Except HuntError Bool × Hunt σ}

/-! ## Rounds come to an end -/

theorem workOfAll_cons (part : List MutantId) (parts : List (List MutantId)) :
    workOfAll (part :: parts) = workOf part + workOfAll parts := rfl

theorem workOf_pos (part : List MutantId) : 0 < workOf part :=
  Nat.lt_of_lt_of_le Nat.zero_lt_one (Nat.le_max_left _ _)

/-- A round leaves less work than there was. -/
theorem workOfAll_lt_of_pop (hpop : c.Pop baseline work work') :
    workOfAll work'.parts < workOfAll work.parts := by
  cases hpop with
  | @dead part parts found hunt hdead | @miss part parts found hunt after verdict hne hrun hmiss
  | @kill part parts found hunt after verdict m last hone hrun hkill hdone =>
      exact Nat.lt_add_of_pos_left (workOf_pos part)
  | @split part parts found hunt after verdict hne htwo hrun hkill =>
      -- Neither half is empty, so each counts one less than twice its length.
      have hle := hunt.length_living_le part
      have hpos := List.length_pos_iff.mpr hne
      simp only [workOfAll_cons, workOf, List.length_take, List.length_drop]
      omega

/-- No rounds go on forever. -/
theorem wellFounded_pop (c : Campaign σ) (baseline : Baseline) :
    WellFounded fun next work => c.Pop baseline work next :=
  Subrelation.wf (fun hpop => workOfAll_lt_of_pop hpop)
    (measure fun work : Worklist σ => workOfAll work.parts).wf

/-! ## The trials of a follow-up -/

theorem trials_of_trial {answer : Except HuntError Verdict}
    (hrun : c.trial baseline batch hunt = (answer, after)) :
    after.trials = hunt.trials ++ [⟨baseline, batch, answer⟩] := by
  have hjournal : after.journal = [.tried baseline batch answer] ++ hunt.journal := by
    cases hrun
    rfl
  exact Hunt.trials_eq_append hjournal

/-- A triage makes no trials. -/
theorem trials_triage (c : Campaign σ) (queue : List MutantId) (hunt : Hunt σ) :
    (c.triage queue hunt).2.trials = hunt.trials := by
  obtain ⟨asked, groups, hhandles⟩ := c.exists_handles queue hunt
  have hsilent : asked.filterMap Event.trial? = [] :=
    List.filterMap_eq_nil_iff.mpr fun event hevent =>
      Event.trial?_of_asksReducer (hhandles.reducer event hevent)
  rw [Hunt.trials, hhandles.events, List.filterMap_append, hsilent, List.append_nil, Hunt.trials]

/-- Of a list that is probed each member is tried at most once, and alone. -/
theorem exists_trials_probe (c : Campaign σ) (baseline : Baseline) (rs : List MutantId)
    (hunt : Hunt σ) :
    ∃ trials, (c.probe baseline rs hunt).2.trials = hunt.trials ++ trials ∧
      (trials.map Trial.batch).Sublist (rs.map fun r => [r]) := by
  induction rs generalizing hunt with
  | nil => exact ⟨[], (List.append_nil _).symm, .slnil⟩
  | cons r rest ih =>
      rw [probe_cons]
      by_cases hdead : hunt.scheduler.isKilled r = true
      · rw [if_pos hdead]
        obtain ⟨trials, htrials, hsublist⟩ := ih hunt
        exact ⟨trials, htrials, hsublist.cons [r]⟩
      · rw [if_neg hdead]
        have htried := c.trials_tryOut baseline [r] hunt
        cases hanswer : (c.trial baseline [r] hunt).1 with
        | error e =>
            rw [hanswer] at htried
            exact ⟨[_], htried, (List.nil_sublist _).cons_cons [r]⟩
        | ok verdict =>
            obtain ⟨trials, htrials, hsublist⟩ := ih (c.tryOut baseline [r] hunt)
            rw [htried, List.append_assoc] at htrials
            exact ⟨_, htrials, hsublist.cons_cons [r]⟩

/-- A follow-up tries relatives of the mutant. -/
theorem exists_trials_consolidate (c : Campaign σ) (m : MutantId) (verdict : Verdict)
    (baseline : Baseline) (hunt : Hunt σ) :
    ∃ trials, (c.consolidate m verdict baseline hunt).2.trials = hunt.trials ++ trials ∧
      (trials.map Trial.batch).Sublist ((c.tree.kin m).map fun r => [r]) := by
  unfold consolidate
  rcases Nat.lt_or_ge m.toNat c.tree.mutantCount with hm | hm
  · obtain ⟨trials, htrials, hsublist⟩ := c.exists_trials_probe baseline (c.tree.kin m) hunt
    refine ⟨trials, ?_, hsublist⟩
    rw [Tree.relatives_eq_kin hm, Except.mapError, Act.bind_of_ok (Act.lift_apply _ _),
      Act.bind_apply]
    rcases hprobe : c.probe baseline (c.tree.kin m) hunt with ⟨_ | miscompiled, probed⟩
    · rw [hprobe] at htrials
      exact htrials
    · rw [hprobe] at htrials
      simp only [trials_triage]
      exact htrials
  · refine ⟨[], ?_, List.nil_sublist _⟩
    rw [Tree.relatives_eq_error hm, Except.mapError, Act.bind_of_error (Act.lift_apply _ _),
      List.append_nil]

/-! ## The trials of a look -/

theorem ownTrials_of_trial {answer : Except HuntError Verdict} (hne : hunt.living part ≠ [])
    (hrun : c.trial baseline (hunt.living part) hunt = (answer, after)) :
    c.ownTrials baseline ⟨part :: parts, found, hunt⟩ =
      [⟨baseline, hunt.living part, answer⟩] := by
  simp only [ownTrials, if_neg hne, hrun]

theorem length_ownTrials_le (c : Campaign σ) (baseline : Baseline) (work : Worklist σ) :
    (c.ownTrials baseline work).length ≤ 1 := by
  unfold ownTrials
  split
  · exact Nat.zero_le 1
  · simp only
    split
    · exact Nat.zero_le 1
    · exact Nat.le_refl 1

/-- A part of which everybody is dead costs no trial. -/
theorem spends_of_dead (hdead : hunt.living part = []) :
    c.Spends baseline ⟨part :: parts, found, hunt⟩ hunt ⟨[], []⟩ where
  own := by simp only [ownTrials, if_pos hdead]
  trials := (List.append_nil _).symm

/-- A part that nothing follows on costs one trial. -/
theorem spends_of_trial {answer : Except HuntError Verdict} (hne : hunt.living part ≠ [])
    (hrun : c.trial baseline (hunt.living part) hunt = (answer, after))
    (hsame : last.trials = after.trials) :
    c.Spends baseline ⟨part :: parts, found, hunt⟩ last
      ⟨[⟨baseline, hunt.living part, answer⟩], []⟩ where
  own := (ownTrials_of_trial hne hrun).symm
  trials := by
    rw [hsame, trials_of_trial hrun]
    rfl

theorem staysInFamily_of_nil (own : List Trial) : c.StaysInFamily ⟨own, []⟩ :=
  List.nil_sublist _

/-- A single mutant that dies costs its trial, and trials of some of its relatives after it. -/
theorem exists_spends_of_kill {verdict : Verdict} {m : MutantId} {result : Except HuntError Unit}
    (hone : hunt.living part = [m]) (hrun : c.trial baseline [m] hunt = (.ok verdict, after))
    (hkill : verdict.isKill = true)
    (hfollowed : c.consolidate m verdict baseline (after.recordKill m verdict) = (result, last)) :
    ∃ look, c.Spends baseline ⟨part :: parts, found, hunt⟩ last look ∧ c.StaysInFamily look := by
  obtain ⟨trials, htrials, hsublist⟩ :=
    c.exists_trials_consolidate m verdict baseline (after.recordKill m verdict)
  have hrecorded : (after.recordKill m verdict).trials = after.trials := rfl
  have hkilled : killedIn [⟨baseline, [m], .ok verdict⟩] = [m] :=
    List.filterMap_cons_some (Trial.singleKill?_eq_some_iff.mpr ⟨verdict, rfl, rfl, hkill⟩)
  rw [hfollowed, hrecorded, trials_of_trial hrun, List.append_assoc] at htrials
  refine ⟨⟨[⟨baseline, [m], .ok verdict⟩], trials⟩, ⟨?_, htrials⟩, ?_⟩
  · rw [← hone] at hrun ⊢
    exact (ownTrials_of_trial (by rw [hone]; exact List.cons_ne_nil m []) hrun).symm
  · rwa [StaysInFamily, hkilled, List.flatMap_singleton]

/-- What a round spends. -/
theorem exists_spends_of_pop (hpop : c.Pop baseline work work') :
    ∃ look, c.Spends baseline work work'.hunt look ∧ c.StaysInFamily look := by
  cases hpop with
  | dead hdead => exact ⟨_, spends_of_dead hdead, staysInFamily_of_nil _⟩
  | miss hne hrun hmiss => exact ⟨_, spends_of_trial hne hrun rfl, staysInFamily_of_nil _⟩
  | kill hone hrun hkill hdone => exact exists_spends_of_kill hone hrun hkill hdone
  | split hne htwo hrun hkill =>
      exact ⟨_, spends_of_trial hne hrun rfl, staysInFamily_of_nil _⟩

/-- What a look spends that fails. -/
theorem exists_spends_of_halts {e : HuntError} (hhalts : c.Halts baseline work (.error e, after)) :
    ∃ look, c.Spends baseline work after look ∧ c.StaysInFamily look := by
  cases hhalts with
  | untried hne hrun => exact ⟨_, spends_of_trial hne hrun rfl, staysInFamily_of_nil _⟩
  | unfollowed hone hrun hkill hfail => exact exists_spends_of_kill hone hrun hkill hfail

/-! ## All looks together -/

/-- Rounds that halt are so many looks. -/
theorem exists_looks (hpops : c.Pops baseline work work')
    (hhalts : c.Halts baseline work' outcome) :
    ∃ looks, c.Looks baseline work looks outcome ∧ ∀ look ∈ looks, c.StaysInFamily look := by
  induction hpops using Relation.ReflTransGen.head_induction_on with
  | refl =>
      obtain ⟨result, after⟩ := outcome
      cases result with
      | ok killed =>
          cases hhalts
          exact ⟨[], .done _ _, by simp⟩
      | error e =>
          obtain ⟨look, hspends, hfamily⟩ := exists_spends_of_halts hhalts
          exact ⟨[look], .fail hhalts hspends, List.forall_mem_singleton.mpr hfamily⟩
  | head hpop _ ih =>
      obtain ⟨look, hspends, hfamily⟩ := exists_spends_of_pop hpop
      obtain ⟨looks, hlooks, hfamilies⟩ := ih
      exact ⟨look :: looks, .round hpop hspends hlooks,
        List.forall_mem_cons.mpr ⟨hfamily, hfamilies⟩⟩

/-- The trials of a bisection are those of its looks. -/
theorem Looks.trials_eq (hlooks : c.Looks baseline work looks outcome) :
    outcome.2.trials = work.hunt.trials ++ looks.flatMap Look.trials := by
  induction hlooks with
  | done found hunt => exact (List.append_nil _).symm
  | fail hhalts hspends => rw [List.flatMap_singleton, hspends.trials]
  | round hpop hspends hrest ih => rw [ih, hspends.trials, List.flatMap_cons, List.append_assoc]

/-- There are no more looks than there is work. -/
theorem Looks.length_le (hlooks : c.Looks baseline work looks outcome) :
    looks.length ≤ workOfAll work.parts := by
  induction hlooks with
  | done found hunt => exact Nat.zero_le _
  | fail hhalts hspends =>
      cases hhalts with
      | @untried part | @unfollowed part => exact Nat.le_add_right_of_le (workOf_pos part)
  | round hpop hspends hrest ih => exact Nat.lt_of_le_of_lt ih (workOfAll_lt_of_pop hpop)

/-- A look makes one trial of its own at most. -/
theorem Looks.length_own_le (hlooks : c.Looks baseline work looks outcome) :
    (looks.flatMap Look.own).length ≤ looks.length := by
  induction hlooks with
  | done found hunt => exact Nat.le_refl 0
  | @fail work look e after hhalts hspends =>
      rw [List.flatMap_singleton, hspends.own]
      exact c.length_ownTrials_le baseline work
  | @round work work' look looks outcome hpop hspends hrest ih =>
      have hown := c.length_ownTrials_le baseline work
      rw [List.flatMap_cons, List.length_append, List.length_cons, hspends.own]
      omega

/-- All follow-ups together try relatives of what was killed. -/
theorem length_followUp_le (hfamilies : ∀ look ∈ looks, c.StaysInFamily look) :
    (looks.flatMap Look.followUp).length ≤
      ((killedIn (looks.flatMap Look.own)).map fun m => (c.tree.kin m).length).sum := by
  induction looks with
  | nil => exact Nat.le_refl 0
  | cons look looks ih =>
      obtain ⟨hfamily, hrest⟩ := List.forall_mem_cons.mp hfamilies
      have hfirst := hfamily.length_le
      rw [List.length_map, List.length_map, List.length_flatMap] at hfirst
      have hlater := ih hrest
      rw [List.flatMap_cons, List.flatMap_cons, killedIn, List.filterMap_append, List.map_append,
        List.sum_append, List.length_append]
      exact Nat.add_le_add hfirst hlater

/-- What it costs to bisect a batch, look by look. -/
structure Thrifty (c : Campaign σ) (baseline : Baseline) (batch : List MutantId) (hunt : Hunt σ)
    (looks : List Look) : Prop where
  /-- No rounds of work on the batch go on forever. -/
  halts : Acc (fun next work => c.Pop baseline work next) ⟨[batch], false, hunt⟩
  /-- The looks are what the bisection does, from its beginning to its outcome. -/
  told : c.Looks baseline ⟨[batch], false, hunt⟩ looks (c.bisect baseline batch hunt)
  /-- They make all its trials. -/
  trials : (c.bisect baseline batch hunt).2.trials = hunt.trials ++ looks.flatMap Look.trials
  looks_le : looks.length ≤ 2 * batch.length - 1
  /-- The trials of parts are at most twice as many as the mutants, less one. -/
  own_le : (looks.flatMap Look.own).length ≤ 2 * batch.length - 1
  /-- The trials of follow-ups are at most as many as the single mutants that died in those have
  relatives. -/
  followUp_le : (looks.flatMap Look.followUp).length ≤
    ((killedIn (looks.flatMap Look.own)).map fun m => (c.tree.kin m).toFinset.card).sum

/-- A bisection halts, and makes a linear number of trials: whatever the state of the search,
however the collaborators answer or fail, and whoever is on the batch more than once. -/
theorem bisect_thrifty (c : Campaign σ)
    {order : List (MutantId × NodeId) → List (MutantId × NodeId)}
    (horder : ∀ entries, (order entries).Perm entries) {description : Description}
    (hbuilt : Tree.ofDescriptionBy order description = .ok c.tree) (baseline : Baseline)
    {batch : List MutantId} (hne : batch ≠ []) (hunt : Hunt σ) :
    ∃ looks, c.Thrifty baseline batch hunt looks := by
  obtain ⟨work, hpops, hhalts⟩ := c.exists_halt baseline [batch] false hunt
  rw [← bisect_eq_bisectParts baseline hne] at hhalts
  obtain ⟨looks, hlooks, hfamilies⟩ := exists_looks hpops hhalts
  have hwork : workOfAll [batch] = 2 * batch.length - 1 := by
    have hpos := List.length_pos_iff.mpr hne
    simp only [workOfAll, workOf, List.map_cons, List.map_nil, List.foldr_cons, List.foldr_nil]
    omega
  have hmany : looks.length ≤ 2 * batch.length - 1 := hwork ▸ hlooks.length_le
  have hfrom := Tree.builtFrom_of_ofDescriptionBy horder hbuilt
  have hcard : ∀ m, (c.tree.kin m).toFinset.card = (c.tree.kin m).length :=
    fun m => List.toFinset_card_of_nodup (hfrom.nodup_kin m)
  refine ⟨looks, (c.wellFounded_pop baseline).apply _, hlooks, hlooks.trials_eq, hmany,
    hlooks.length_own_le.trans hmany, ?_⟩
  simp only [hcard]
  exact length_followUp_le hfamilies

/-- Mutant 1 is on the batch twice, and the harness of the small campaign kills it and its relative
0. -/
theorem bisect_thrifty_twoFiles :
    (∀ entries : List (MutantId × NodeId), (id entries).Perm entries) ∧
      Tree.ofDescriptionBy id Tree.twoFilesDescription = .ok twoFiles.tree ∧
      [(1 : MutantId), 2, 1, 0] ≠ [] ∧
      ∃ looks, twoFiles.Thrifty default [1, 2, 1, 0] (twoFiles.start 0 ()) looks :=
  ⟨List.Perm.refl, Tree.ofDescriptionBy_twoFiles, by decide,
    bisect_thrifty twoFiles List.Perm.refl Tree.ofDescriptionBy_twoFiles default (by decide)
      (twoFiles.start 0 ())⟩

end Campaign

end MutantHunt
