import MutantHunt.Proofs.Report.FileName
import MutantHunt.Proofs.Search.Desk
import MutantHunt.Reduction

/-!
# Groups of miscompilations over a whole run

A mutant dies once, so it is put into the queue of a desk once, and a triage that takes the queue
files each of its members once.  `Desk.Filed` is the invariant that carries this over the moves of
a search: who was not miscompiled, or waits in the queue still, was not filed yet, and, as long as
nothing was lost, everybody else was.

What is said of groups holds in every state.  That every miscompilation was triaged holds only
while no call failed: what a failure leaves in the queue is nobody's business afterwards.

## Main results

* `filed_move` — each move keeps the invariant.
* `triaged_once` — groups and miscompilations after any sequence of calls.
* `nodup_paths_performAll` — with a real reducer, no reduced program overwrites another.
-/

namespace MutantHunt

variable {σ : Type}

/-- The mutant was not miscompiled, or waits for triage still. -/
def Desk.Pending (desk : Desk σ) (m : MutantId) : Prop :=
  desk.hunt.scheduler.verdict? m = some .miscompilationKill → m ∈ desk.queue

/-- The groups of a run, each with members in ascending order, no two with a member in common, and
all of them saved. -/
structure Reducer.Grouped (reducer : Reducer σ) (groups : List ReducedKill) : Prop where
  ascending : ∀ group ∈ groups, group.mutants ≠ [] ∧ group.mutants.Pairwise (· < ·)
  apart : groups.Pairwise fun a b => a.mutants.Disjoint b.mutants
  saved : ∀ group ∈ groups, reducer.Saves group.mutants group.path

/-- What holds of a queue, of the groups so far and of the questions that were asked. -/
structure Desk.Filed (c : Campaign σ) (lossy : Prop) (desk : Desk σ) : Prop where
  nodup : desk.queue.Nodup
  /-- Who waits for triage was miscompiled. -/
  queued : ∀ m ∈ desk.queue, desk.hunt.scheduler.verdict? m = some .miscompilationKill
  grouped : c.reducer.Grouped desk.hunt.reduced
  /-- Whose triage is pending is in no group. -/
  ungrouped : ∀ m, desk.Pending m → groupsWith m desk.hunt.reduced = 0
  /-- Nobody asked to reduce the program for them either. -/
  unasked : ¬lossy → ∀ m, desk.Pending m →
    desk.hunt.events.filterMap (Event.reduction? m) = []
  /-- Everybody else was triaged. -/
  settled : ¬lossy → ∀ m, ¬desk.Pending m →
    TriagedOnce m desk.hunt.events desk.hunt.reduced

/-- A triage adds groups of its queue, which nobody was in so far. -/
theorem Reducer.Grouped.append {reducer : Reducer σ} {groups groups' : List ReducedKill}
    (h : reducer.Grouped groups) {queue : List MutantId} {asked : List Event}
    (htriaged : reducer.Triaged queue asked groups') (hnodup : queue.Nodup)
    (hungrouped : ∀ m ∈ queue, groupsWith m groups = 0) :
    reducer.Grouped (groups ++ groups') where
  ascending := by
    intro group hgroup
    rcases List.mem_append.mp hgroup with hold | hnew
    · exact h.ascending group hold
    · exact htriaged.ascending hnodup hnew
  apart := by
    refine List.pairwise_append.mpr ⟨h.apart, htriaged.apart hnodup, ?_⟩
    intro old hold new hnew m hm hm'
    exact groupsWith_eq_zero_iff.mp (hungrouped m (htriaged.mem_queue hnew hm')) old hold hm
  saved := by
    intro group hgroup
    rcases List.mem_append.mp hgroup with hold | hnew
    · exact h.saved group hold
    · exact htriaged.saves hnew

namespace Campaign

variable {c : Campaign σ} {lossy : Prop} {desk desk' : Desk σ}

/-- A move that asks for no reduction and leaves everybody's triage as it was. -/
theorem filed_of_silent (h : desk.Filed c lossy) (hnodup : desk'.queue.Nodup)
    (hqueued : ∀ m ∈ desk'.queue, desk'.hunt.scheduler.verdict? m = some .miscompilationKill)
    (hpending : ∀ m, desk'.Pending m ↔ desk.Pending m)
    (hreduced : desk'.hunt.reduced = desk.hunt.reduced) {asked : List Event}
    (hevents : desk'.hunt.events = desk.hunt.events ++ asked)
    (hsilent : ∀ m, ∀ event ∈ asked, event.reduction? m = none) : desk'.Filed c lossy := by
  have hunasked : ∀ m, asked.filterMap (Event.reduction? m) = [] :=
    fun m => List.filterMap_eq_nil_iff.mpr (hsilent m)
  constructor
  · exact hnodup
  · exact hqueued
  · rw [hreduced]
    exact h.grouped
  · intro m hm
    rw [hreduced]
    exact h.ungrouped m ((hpending m).mp hm)
  · intro hkept m hm
    rw [hevents, List.filterMap_append, hunasked, List.append_nil]
    exact h.unasked hkept m ((hpending m).mp hm)
  · intro hkept m hm
    rw [hevents, hreduced]
    exact (h.settled hkept m (mt (hpending m).mpr hm)).append_silent (hunasked m)

/-- What a trial finds was not miscompiled before, and waits now. -/
theorem pending_trial_iff {baseline : Baseline} {batch : List MutantId}
    (hliving : ∀ m ∈ batch, desk.hunt.scheduler.isKilled m = false) (m : MutantId) :
    Desk.Pending ⟨desk.queue ++ c.findings baseline batch desk.hunt,
      c.tryOut baseline batch desk.hunt⟩ m ↔ desk.Pending m := by
  constructor
  · intro hpending hbefore
    refine (List.mem_append.mp (hpending (verdict?_tryOut_of_killed hbefore))).resolve_right ?_
    intro hfound
    have halive := hliving m (mem_findings_iff.mp hfound).1
    rw [Scheduler.isKilled_of_verdict? hbefore] at halive
    cases halive
  · intro hpending hafter
    refine List.mem_append.mpr ?_
    exact (miscompiled_or_mem_findings hafter).imp_left hpending

/-- A queue that is left behind is of no concern, as long as nothing is said of its members. -/
theorem filed_forget (h : desk.Filed c lossy) (hlossy : lossy) {after : Hunt σ}
    (hverdict : ∀ m, after.scheduler.verdict? m = desk.hunt.scheduler.verdict? m)
    (hreduced : after.reduced = desk.hunt.reduced) : Desk.Filed c lossy ⟨[], after⟩ where
  nodup := List.nodup_nil
  queued := by simp
  grouped := by
    rw [hreduced]
    exact h.grouped
  ungrouped := by
    intro m hm
    rw [hreduced]
    refine h.ungrouped m fun hdead => ?_
    exact absurd (hm ((hverdict m).trans hdead)) List.not_mem_nil
  unasked := fun hkept => absurd hlossy hkept
  settled := fun hkept => absurd hlossy hkept

/-- A triage that goes through settles everybody in the queue. -/
theorem filed_triaged (h : desk.Filed c lossy) {asked : List Event} {groups : List ReducedKill}
    (htriaged : c.reducer.Triaged desk.queue asked groups) {after : Hunt σ}
    (hverdict : ∀ m, after.scheduler.verdict? m = desk.hunt.scheduler.verdict? m)
    (hevents : after.events = desk.hunt.events ++ asked)
    (hreduced : after.reduced = desk.hunt.reduced ++ groups) :
    Desk.Filed c lossy ⟨[], after⟩ := by
  -- Whose triage is pending afterwards was not miscompiled, and hence not in the queue.
  have hpending : ∀ m, Desk.Pending ⟨[], after⟩ m → desk.Pending m ∧ m ∉ desk.queue := by
    intro m hm
    have hother : desk.hunt.scheduler.verdict? m ≠ some .miscompilationKill :=
      fun hdead => absurd (hm ((hverdict m).trans hdead)) List.not_mem_nil
    exact ⟨fun hdead => absurd hdead hother, fun hwaits => hother (h.queued m hwaits)⟩
  constructor
  · exact List.nodup_nil
  · simp
  · rw [hreduced]
    exact h.grouped.append htriaged h.nodup fun m hm => h.ungrouped m fun _ => hm
  · intro m hm
    obtain ⟨hbefore, hother⟩ := hpending m hm
    rw [hreduced, groupsWith_append, h.ungrouped m hbefore, (htriaged.untouched hother).ungrouped]
  · intro hkept m hm
    obtain ⟨hbefore, hother⟩ := hpending m hm
    rw [hevents, List.filterMap_append, h.unasked hkept m hbefore,
      (htriaged.untouched hother).unasked]
    rfl
  · intro hkept m hm
    rw [hevents, hreduced]
    by_cases hwaits : m ∈ desk.queue
    · have huntouched : Untouched m desk.hunt.events desk.hunt.reduced :=
        ⟨h.unasked hkept m fun _ => hwaits, h.ungrouped m fun _ => hwaits⟩
      exact huntouched.append_triagedOnce (htriaged.once h.nodup hwaits)
    · have hsettled : ¬desk.Pending m := by
        refine fun hbefore => hm fun hdead => ?_
        exact absurd (hbefore ((hverdict m).symm.trans hdead)) hwaits
      exact (h.settled hkept m hsettled).append_untouched (htriaged.untouched hwaits)

/-- Each move keeps the invariant. -/
theorem filed_move (h : desk.Filed c lossy) (hmove : c.Move lossy desk desk') :
    desk'.Filed c lossy := by
  cases hmove with
  | trial baseline batch hne hliving =>
      refine filed_of_silent h ?_ ?_ (pending_trial_iff hliving) ?_
        (Hunt.events_eq_append (c.tryOut_journal baseline batch desk.hunt)) ?_
      · refine List.nodup_append'.mpr ⟨h.nodup, nodup_findings hliving, ?_⟩
        intro m hm hfound
        have halive := hliving m (mem_findings_iff.mp hfound).1
        rw [Scheduler.isKilled_of_verdict? (h.queued m hm)] at halive
        cases halive
      · intro m hm
        rcases List.mem_append.mp hm with hwaits | hfound
        · exact verdict?_tryOut_of_killed (h.queued m hwaits)
        · exact (mem_findings_iff.mp hfound).2
      · rw [tryOut, Hunt.settle_eq]
        rfl
      · intro m event hevent
        rw [List.mem_reverse, List.mem_singleton] at hevent
        rw [hevent]
        rfl
  | select =>
      have hverdict : ∀ m, (c.select desk.hunt).2.scheduler.verdict? m =
          desk.hunt.scheduler.verdict? m := by
        intro m
        exact congrArg (Option.bind · Standing.verdict?) (Scheduler.standing?_select _ _ _ m)
      refine filed_of_silent h h.nodup ?_ ?_ rfl (List.append_nil _).symm (by simp)
      · intro m hm
        rw [hverdict]
        exact h.queued m hm
      · intro m
        rw [Desk.Pending, hverdict]
        rfl
  | triage hfate =>
      obtain ⟨asked, groups, hhandles⟩ := c.exists_handles desk.queue desk.hunt
      have hverdict : ∀ m, (c.triage desk.queue desk.hunt).2.scheduler.verdict? m =
          desk.hunt.scheduler.verdict? m := by
        intro m
        rw [hhandles.scheduler]
      cases hresult : (c.triage desk.queue desk.hunt).1 with
      | error e =>
          refine filed_forget h (hfate e hresult) hverdict ?_
          rw [hhandles.reduced, hhandles.failed e hresult, List.append_nil]
      | ok done =>
          exact filed_triaged h (hhandles.triaged hresult) hverdict hhandles.events
            hhandles.reduced
  | forget hlossy => exact filed_forget h hlossy (fun _ => rfl) rfl
  | @made baseline after hmade =>
      obtain ⟨hafter, hevents⟩ := generate_eq hmade
      rw [hafter] at hevents ⊢
      refine filed_of_silent h h.nodup h.queued (fun _ => .rfl) rfl hevents ?_
      simp [Event.reduction?]
  | unmade hmade =>
      obtain ⟨hafter, hevents⟩ := generate_eq hmade
      rw [hafter] at hevents ⊢
      refine filed_of_silent h h.nodup h.queued (fun _ => .rfl) rfl hevents ?_
      simp [Event.reduction?]

theorem filed_moves (h : desk.Filed c lossy) (hmoves : c.Moves lossy desk desk') :
    desk'.Filed c lossy := by
  induction hmoves with
  | refl => exact h
  | tail _ hmove ih => exact filed_move ih hmove

theorem filed_start (hsmall : c.tree.mutantCount < UInt32.size) (seed : UInt64) (world : σ) :
    Desk.Filed c lossy ⟨[], c.start seed world⟩ := by
  have hfresh : ∀ m, Desk.Pending ⟨[], c.start seed world⟩ m := by
    intro m hdead
    have hstanding := Scheduler.standing?_new (WyRand.mk seed) hsmall m
    rw [Scheduler.verdict?_eq_some_iff] at hdead
    replace hstanding := hdead.symm.trans hstanding
    split at hstanding
    · cases hstanding
    · cases hstanding
  exact
    { nodup := List.nodup_nil
      queued := by simp
      grouped := ⟨by simp [start], List.Pairwise.nil, by simp [start]⟩
      ungrouped := fun _ _ => rfl
      unasked := fun _ _ _ => rfl
      settled := fun _ m hm => absurd (hfresh m) hm }

/-- After any sequence of calls nothing waits, and what was filed was filed right. -/
theorem filed_performAll {description : Description} (hbuilt : c.tree.BuiltFrom description)
    (hsmall : c.tree.mutantCount < UInt32.size) (seed : UInt64) (world : σ) (calls : List Call) :
    Desk.Filed c (c.failures (c.start seed world) calls ≠ [])
      ⟨[], c.performAll (c.start seed world) calls⟩ :=
  filed_moves (filed_start hsmall seed world)
    (moves_performAll hbuilt (size_start hsmall seed world) id)

end Campaign

/-! ## Paths -/

/-- If a reducer names programs after their mutants, no two groups have one path. -/
theorem Reducer.Grouped.nodup_paths {reducer : Reducer σ} {groups : List ReducedKill}
    (h : reducer.Grouped groups) (output : String)
    (hnames : ∀ mutants path, reducer.Saves mutants path →
      path = Path.join output (reducedFileName mutants)) :
    (groups.map ReducedKill.path).Nodup := by
  rw [List.nodup_iff_pairwise_ne, List.pairwise_map]
  refine h.apart.imp_of_mem ?_
  intro a b ha hb hapart hpath
  have hsame : a.mutants = b.mutants := by
    rw [hnames _ _ (h.saved a ha), hnames _ _ (h.saved b hb)] at hpath
    exact join_reducedFileName_injective output hpath
  obtain ⟨m, hm⟩ := List.exists_mem_of_ne_nil _ (h.ascending a ha).1
  exact hapart hm (hsame ▸ hm)

/-- A real reducer names programs so. -/
theorem Reduction.path_of_saves {reduction : Reduction σ} {mutants : List MutantId}
    {path : String} (hsaves : reduction.reducer.Saves mutants path) :
    path = Path.join reduction.output (reducedFileName mutants) := by
  obtain ⟨world, hsaves⟩ := hsaves
  obtain ⟨after, hrun⟩ : ∃ after, reduction.persist mutants world = (.ok path, after) :=
    ⟨_, Prod.ext hsaves rfl⟩
  obtain ⟨-, made, -, hrun⟩ := Act.exists_of_bind_eq_ok hrun
  obtain ⟨-, copied, -, hrun⟩ := Act.exists_of_bind_eq_ok hrun
  cases hrun
  rfl

/-- With a real reducer no group's program overwrites that of another. -/
theorem Campaign.nodup_paths_performAll {c : Campaign σ} {reduction : Reduction σ}
    (hreducer : c.reducer = reduction.reducer) {description : Description}
    (hbuilt : c.tree.BuiltFrom description) (hsmall : c.tree.mutantCount < UInt32.size)
    (seed : UInt64) (world : σ) (calls : List Call) :
    ((c.performAll (c.start seed world) calls).reduced.map ReducedKill.path).Nodup := by
  refine (filed_performAll hbuilt hsmall seed world calls).grouped.nodup_paths reduction.output ?_
  intro mutants path hsaves
  rw [hreducer] at hsaves
  exact Reduction.path_of_saves hsaves

/-- What a search has to show for the miscompilations it found. -/
structure Campaign.Groups (c : Campaign σ) (hunt : Hunt σ) : Prop where
  /-- A group has members, in ascending order. -/
  ascending : ∀ group ∈ hunt.reduced, group.mutants ≠ [] ∧ group.mutants.Pairwise (· < ·)
  /-- No mutant is in two groups. -/
  apart : hunt.reduced.Pairwise fun a b => a.mutants.Disjoint b.mutants
  /-- Who is in a group was miscompiled. -/
  miscompiled : ∀ group ∈ hunt.reduced, ∀ m ∈ group.mutants,
    hunt.scheduler.verdict? m = some .miscompilationKill
  /-- If programs are saved in one directory, under names made from their mutants, then each
  group has a path of its own. -/
  paths : ∀ output, (∀ mutants path, c.reducer.Saves mutants path →
    path = Path.join output (reducedFileName mutants)) → (hunt.reduced.map ReducedKill.path).Nodup

namespace Campaign

/-- Whatever was called, with whatever batches, and whatever the collaborators answered: groups
are as they should be, and unless a call failed every miscompilation was triaged once. -/
theorem triaged_once (c : Campaign σ) {description : Description}
    {order : List (MutantId × NodeId) → List (MutantId × NodeId)}
    (horder : ∀ entries, (order entries).Perm entries)
    (hbuilt : Tree.ofDescriptionBy order description = .ok c.tree)
    (hsmall : c.tree.mutantCount < UInt32.size) (seed : UInt64) (world : σ) (calls : List Call) :
    c.Groups (c.performAll (c.start seed world) calls) ∧
      (c.failures (c.start seed world) calls = [] → ∀ m,
        (c.performAll (c.start seed world) calls).scheduler.verdict? m =
            some .miscompilationKill →
          TriagedOnce m (c.performAll (c.start seed world) calls).events
            (c.performAll (c.start seed world) calls).reduced) := by
  have hfiled := filed_performAll (Tree.builtFrom_of_ofDescriptionBy horder hbuilt) hsmall seed
    world calls
  constructor
  · refine ⟨hfiled.grouped.ascending, hfiled.grouped.apart, ?_, hfiled.grouped.nodup_paths⟩
    intro group hgroup m hm
    by_contra hother
    have hnone := hfiled.ungrouped m fun hdead => absurd hdead hother
    exact groupsWith_eq_zero_iff.mp hnone group hgroup hm
  · intro hnone m hdead
    refine hfiled.settled (fun hfailed => hfailed hnone) m fun hpending => ?_
    exact absurd (hpending hdead) List.not_mem_nil

end Campaign

/-- A reducer that always succeeds, and whose programs all mutants kill. -/
def Reducer.saving (name : List MutantId → String) : Reducer Unit where
  reduce _ := pure true
  kills _ := pure true
  persist mutants := pure (name mutants)

namespace Campaign

/-- Mutants 0 and 1 of the two small files are miscompiled, and mutant 2 is not. -/
def twoMiscompilations (name : List MutantId → String) : Campaign Unit where
  tree := .twoFiles
  limits := {}
  harness := .ofVerdicts fun m => if m = 2 then none else some .miscompilationKill
  reducer := .saving name

/-- What a batch of mutants 2 and 1 and a hunt leave of it. -/
def afterTwoMiscompilations (name : List MutantId → String) : Hunt Unit :=
  (twoMiscompilations name).performAll ((twoMiscompilations name).start 0 ())
    [.bisect default [2, 1], .hunt]

-- Mutant 0 is found as a relative of mutant 1, and shares its group.
example (name : List MutantId → String) :
    (afterTwoMiscompilations name).reduced = [⟨[0, 1], name [0, 1]⟩] := by
  cbv

/-- The path of a program in a directory of its own. -/
def pathInOut (mutants : List MutantId) : String :=
  Path.join "out" (reducedFileName mutants)

theorem failures_twoMiscompilations :
    (twoMiscompilations pathInOut).failures ((twoMiscompilations pathInOut).start 0 ())
      [.bisect default [2, 1], .hunt] = [] := by
  decide +kernel

theorem verdict?_afterTwoMiscompilations :
    (afterTwoMiscompilations pathInOut).scheduler.verdict? 0 = some .miscompilationKill := by
  decide +kernel

/-- None of the calls fails, and mutant 0 is in one group. -/
theorem triaged_once_twoMiscompilations :
    (∀ entries : List (MutantId × NodeId), (id entries).Perm entries) ∧
      Tree.ofDescriptionBy id Tree.twoFilesDescription =
        .ok (twoMiscompilations pathInOut).tree ∧
      (twoMiscompilations pathInOut).tree.mutantCount < UInt32.size ∧
      (twoMiscompilations pathInOut).Groups (afterTwoMiscompilations pathInOut) ∧
      ((afterTwoMiscompilations pathInOut).reduced.map ReducedKill.path).Nodup ∧
      (afterTwoMiscompilations pathInOut).scheduler.verdict? 0 = some .miscompilationKill ∧
      TriagedOnce 0 (afterTwoMiscompilations pathInOut).events
        (afterTwoMiscompilations pathInOut).reduced := by
  have hnames : ∀ mutants path, (twoMiscompilations pathInOut).reducer.Saves mutants path →
      path = Path.join "out" (reducedFileName mutants) := by
    rintro mutants path ⟨world, hsaves⟩
    cases hsaves
    rfl
  have hdead := verdict?_afterTwoMiscompilations
  obtain ⟨hgroups, honce⟩ := triaged_once (twoMiscompilations pathInOut) List.Perm.refl
    Tree.ofDescriptionBy_twoFiles (by decide) 0 () [.bisect default [2, 1], .hunt]
  exact ⟨List.Perm.refl, Tree.ofDescriptionBy_twoFiles, by decide, hgroups,
    hgroups.paths "out" hnames, hdead, honce failures_twoMiscompilations 0 hdead⟩

end Campaign

end MutantHunt
