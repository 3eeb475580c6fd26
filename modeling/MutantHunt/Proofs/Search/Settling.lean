import MutantHunt.Proofs.Search.Exact
import MutantHunt.Proofs.Search.Followup
import MutantHunt.Proofs.Search.Snapshot

/-!
# An attempt settles each member of its batch once

However the harness answers, and be its answers ever so contradictory, the parts of a batch that a
bisection has yet to look at hold each mutant at most once, and what it has looked at is settled:
dead, or charged once.  `Campaign.Settling` is this invariant of the work-list.  A round moves
members of the batch from the one side to the other and touches no other member, since the
follow-up of a kill keeps to the relatives of the mutant, and there are none of them in a batch that
was drawn.

That fewer wait in the round afterwards takes more: no relative may be charged into the round.  As
counts only rise it takes an overflow for that, which may come in the middle of a bisection, since a
relative is charged once for each member of the batch that dies.

## Main results

* `settling_pop`, `settling_pops` — a round keeps the invariant, and so does a bisection.
* `attempt_settles_once` — what an attempt makes of its batch, and of those who wait.
* `pending_comes_round` — an overflow makes somebody wait again.
-/

namespace MutantHunt

namespace Hunt

variable {σ : Type}

/-- A mutant that was alive is dead by now, or has one failed attempt more. -/
def HasSettled (before after : Hunt σ) (m : MutantId) : Prop :=
  ∃ n, before.scheduler.standing? m = some (.alive n) ∧
    (after.scheduler.isKilled m = true ∨ after.scheduler.standing? m = some (.alive (n + 1)))

variable {before middle after : Hunt σ} {m : MutantId}

/-- What was done while nobody touched the mutant does not matter. -/
theorem HasSettled.of_same_before
    (hsame : middle.scheduler.standing? m = before.scheduler.standing? m)
    (h : middle.HasSettled after m) : before.HasSettled after m := by
  rwa [HasSettled, ← hsame]

/-- As long as a count has room for one more, that is one more as a number. -/
theorem HasSettled.dead_or_charged (h : before.HasSettled after m) {n : UInt32}
    (hn : before.scheduler.attempts? m = some n) (hroom : n.toNat + 1 < UInt32.size) :
    after.scheduler.isKilled m = true ∨ after.scheduler.isKilled m = false ∧
      (after.scheduler.attempts? m).map UInt32.toNat = some (n.toNat + 1) := by
  obtain ⟨k, hk, hdead | halive⟩ := h
  · exact .inl hdead
  · rw [Scheduler.attempts?_eq_some_iff, hk, Option.some.injEq, Standing.alive.injEq] at hn
    subst hn
    refine .inr ⟨Scheduler.isKilled_of_standing? halive, ?_⟩
    rw [(Scheduler.attempts?_eq_some_iff _ _ _).mpr halive, Option.map_some, UInt32.toNat_add]
    exact congrArg some (Nat.mod_eq_of_lt hroom)

theorem HasSettled.of_same_after
    (hsame : after.scheduler.standing? m = middle.scheduler.standing? m)
    (h : before.HasSettled middle m) : before.HasSettled after m := by
  rwa [HasSettled, Scheduler.isKilled, hsame, ← Scheduler.isKilled]

end Hunt

/-- Who is dead does not wait, and neither does who is past the round. -/
theorem Scheduler.not_mem_eligible {s : Scheduler} {m : MutantId}
    (h : s.isKilled m = true ∨
      s.isKilled m = false ∧ (s.attempts? m).map UInt32.toNat = some (s.round.toNat + 1)) :
    m ∉ s.eligible := by
  rw [mem_eligible_iff]
  intro hwaits
  rcases h with hdead | ⟨-, hcount⟩
  · have halive := (exists_attempts?_iff (lt_size_of_attempts? hwaits)).mp ⟨_, hwaits⟩
    rw [halive] at hdead
    cases hdead
  · rw [hwaits, Option.map_some, Option.some.injEq] at hcount
    omega

/-- Where some who waited do not wait any more, and nobody else does, that many fewer wait. -/
theorem Scheduler.pendingCount_add_le {s t : Scheduler} {batch : List MutantId}
    (hsmall : s.table.size ≤ UInt32.size) (hnodup : batch.Nodup)
    (hbatch : ∀ m ∈ batch, m ∈ t.eligible ∧ m ∉ s.eligible)
    (hothers : ∀ m ∈ s.eligible, m ∈ t.eligible) :
    s.pendingCount + batch.length ≤ t.pendingCount := by
  have hapart : (s.eligible ++ batch).Nodup := by
    refine List.nodup_append.mpr ⟨nodup_eligible hsmall, hnodup, ?_⟩
    rintro m hm k hk rfl
    exact (hbatch m hk).2 hm
  have hsub : s.eligible ++ batch ⊆ t.eligible := by
    intro m hm
    rcases List.mem_append.mp hm with hm | hm
    · exact hothers m hm
    · exact (hbatch m hm).1
  have hle := (List.subperm_of_subset hapart hsub).length_le
  rwa [List.length_append] at hle

namespace Campaign

variable {σ : Type} {c : Campaign σ} {baseline : Baseline} {batch part : List MutantId}
  {parts : List (List MutantId)} {found found' : Bool} {hunt drawn after last : Hunt σ}
  {work work' : Worklist σ}

/-- Of a batch that was drawn, who is left on the list is as they were, and who is not is
settled. -/
structure Settling (c : Campaign σ) (batch : List MutantId) (drawn : Hunt σ)
    (work : Worklist σ) : Prop where
  size : work.hunt.scheduler.table.size = c.tree.mutantCount
  round : work.hunt.scheduler.round = drawn.scheduler.round
  nodup : work.parts.flatten.Nodup
  within : ∀ m ∈ work.parts.flatten, m ∈ batch
  waiting : ∀ m ∈ work.parts.flatten,
    work.hunt.scheduler.standing? m = drawn.scheduler.standing? m
  settled : ∀ m ∈ batch, m ∉ work.parts.flatten → drawn.HasSettled work.hunt m

theorem settling_start (hready : c.Ready drawn batch)
    (hsize : drawn.scheduler.table.size = c.tree.mutantCount) :
    c.Settling batch drawn ⟨[batch], false, drawn⟩ := by
  have hflat : [batch].flatten = batch := by simp
  refine ⟨hsize, rfl, ?_, ?_, fun _ _ => rfl, ?_⟩
  · rw [hflat]
    exact hready.nodup
  · rw [hflat]
    exact fun m hm => hm
  · rw [hflat]
    exact fun m hm hout => absurd hm hout

namespace Settling

/-- Who is on the list is alive. -/
theorem isKilled (h : c.Settling batch drawn work) (hready : c.Ready drawn batch) {m : MutantId}
    (hm : m ∈ work.parts.flatten) : work.hunt.scheduler.isKilled m = false := by
  rw [Scheduler.isKilled, h.waiting m hm, ← Scheduler.isKilled]
  exact hready.alive m (h.within m hm)

theorem exists_alive (h : c.Settling batch drawn work) (hready : c.Ready drawn batch)
    {m : MutantId} (hm : m ∈ work.parts.flatten) :
    ∃ n, work.hunt.scheduler.standing? m = some (.alive n) := by
  have hbound : m.toNat < work.hunt.scheduler.table.size := by
    rw [h.size]
    exact hready.known m (h.within m hm)
  obtain ⟨n, hn⟩ := (Scheduler.exists_attempts?_iff hbound).mpr (h.isKilled hready hm)
  exact ⟨n, (Scheduler.attempts?_eq_some_iff _ m n).mp hn⟩

/-- So a part loses nobody before its turn. -/
theorem living_eq (h : c.Settling batch drawn ⟨part :: parts, found, hunt⟩)
    (hready : c.Ready drawn batch) : hunt.living part = part :=
  living_of_forall fun _ hm =>
    h.isKilled hready (List.mem_flatten_of_mem List.mem_cons_self hm)

/-- A round that settles the first part and touches no other member of the batch. -/
theorem pass (h : c.Settling batch drawn ⟨part :: parts, found, hunt⟩)
    (hsize : last.scheduler.table.size = hunt.scheduler.table.size)
    (hround : last.scheduler.round = hunt.scheduler.round)
    (hpart : ∀ m ∈ part, hunt.HasSettled last m)
    (hothers : ∀ m ∈ batch, m ∉ part →
      last.scheduler.standing? m = hunt.scheduler.standing? m) :
    c.Settling batch drawn ⟨parts, found', last⟩ := by
  obtain ⟨hall, hstill, hnodup, hwithin, hwaiting, hsettled⟩ := h
  rw [List.flatten_cons] at hnodup hwithin hwaiting hsettled
  obtain ⟨-, hrest, hdisjoint⟩ := List.nodup_append.mp hnodup
  constructor
  · exact hsize.trans hall
  · exact hround.trans hstill
  · exact hrest
  · exact fun m hm => hwithin m (List.mem_append_right _ hm)
  · intro m hm
    have hout : m ∉ part := fun hin => hdisjoint m hin m hm rfl
    rw [hothers m (hwithin m (List.mem_append_right _ hm)) hout]
    exact hwaiting m (List.mem_append_right _ hm)
  · -- Who is not on the list any more was settled by this round, or by one before it.
    intro m hm hout
    by_cases hin : m ∈ part
    · exact (hpart m hin).of_same_before (hwaiting m (List.mem_append_left _ hin))
    · have hgone : m ∉ part ++ parts.flatten := by
        rw [List.mem_append, not_or]
        exact ⟨hin, hout⟩
      exact (hsettled m hm hgone).of_same_after (hothers m hm hin)

/-- A part that survives is charged, each member once. -/
theorem miss (h : c.Settling batch drawn ⟨part :: parts, found, hunt⟩)
    (hready : c.Ready drawn batch) {verdict : Verdict}
    (hrun : c.trial baseline part hunt = (.ok verdict, after)) (hmiss : verdict.isKill = false) :
    c.Settling batch drawn ⟨parts, found, after.charge part⟩ := by
  have hbooked : c.tryOut baseline part hunt = after.charge part := by
    rw [tryOut_eq hrun, Hunt.settle_of_not_kill part hmiss]
  have hcharged : ∀ m, (c.tryOut baseline part hunt).scheduler.standing? m =
      (hunt.scheduler.standing? m).map (Standing.chargeBy (part.count m)) := by
    intro m
    rw [standing?_tryOut, hrun, Trial.update_of_not_kill baseline part hmiss]
  have hnodup : part.Nodup := by
    have hall := h.nodup
    rw [List.flatten_cons] at hall
    exact (List.nodup_append.mp hall).1
  rw [← hbooked]
  refine h.pass (c.size_tryOut _ _ _) (c.round_tryOut _ _ _) (fun m hm => ?_) fun m _ hout => ?_
  · obtain ⟨n, hn⟩ := h.exists_alive hready (List.mem_flatten_of_mem List.mem_cons_self hm)
    refine ⟨n, hn, .inr ?_⟩
    rw [hcharged m, hn, List.count_eq_one_of_mem hnodup hm]
    rfl
  · rw [hcharged m, List.count_eq_zero.mpr hout, Standing.chargeBy_zero, Option.map_id, id_eq]

/-- A part that dies is split, which changes nothing for anybody. -/
theorem split (h : c.Settling batch drawn ⟨part :: parts, found, hunt⟩)
    {answer : Except HuntError Verdict} (hrun : c.trial baseline part hunt = (answer, after))
    (half : Nat) :
    c.Settling batch drawn ⟨part.take half :: part.drop half :: parts, found, after⟩ := by
  have hscheduler : after.scheduler = hunt.scheduler := scheduler_of_trial hrun
  have hflat : (part.take half :: part.drop half :: parts).flatten = (part :: parts).flatten := by
    rw [List.flatten_cons, List.flatten_cons, ← List.append_assoc, List.take_append_drop,
      List.flatten_cons]
  obtain ⟨hsize, hround, hnodup, hwithin, hwaiting, hsettled⟩ := h
  constructor
  · rwa [hscheduler]
  · rwa [hscheduler]
  · rwa [hflat]
  · rwa [hflat]
  · rwa [hflat, hscheduler]
  · rw [hflat]
    exact fun m hm hout => (hsettled m hm hout).of_same_after (by rw [hscheduler])

end Settling

/-! ## Selections -/

theorem scheduler_of_select {result : Except HuntError (List MutantId)}
    (hdraw : c.select hunt = (result, drawn)) :
    drawn.scheduler = (Scheduler.select c.tree c.limits.batch hunt.scheduler).2 := by
  cases hdraw
  rfl

theorem table_of_select {result : Except HuntError (List MutantId)}
    (hdraw : c.select hunt = (result, drawn)) : drawn.scheduler.table = hunt.scheduler.table := by
  rw [scheduler_of_select hdraw, Scheduler.table_select]

theorem standing?_of_select {result : Except HuntError (List MutantId)}
    (hdraw : c.select hunt = (result, drawn)) (m : MutantId) :
    drawn.scheduler.standing? m = hunt.scheduler.standing? m := by
  rw [scheduler_of_select hdraw, Scheduler.standing?_select]

theorem round_of_select {result : Except HuntError (List MutantId)}
    (hdraw : c.select hunt = (result, drawn)) :
    drawn.scheduler.round = hunt.scheduler.advance.round := by
  rw [scheduler_of_select hdraw, Scheduler.round_select]

section Built

variable {description : Description} (hbuilt : c.tree.BuiltFrom description)
include hbuilt

/-- A single mutant dies, and the follow-up keeps to its relatives, none of which is in the
batch. -/
theorem Settling.kill {m : MutantId} (h : c.Settling batch drawn ⟨[m] :: parts, found, hunt⟩)
    (hready : c.Ready drawn batch) {verdict : Verdict}
    (hrun : c.trial baseline [m] hunt = (.ok verdict, after)) (hkill : verdict.isKill = true)
    (hdone : c.consolidate m verdict baseline (after.recordKill m verdict) = (.ok (), last)) :
    c.Settling batch drawn ⟨parts, true, last⟩ := by
  have hlisted : m ∈ ([m] :: parts).flatten :=
    List.mem_flatten_of_mem List.mem_cons_self (List.mem_singleton_self m)
  have hm : m ∈ batch := h.within m hlisted
  have halive : hunt.living [m] = [m] := h.living_eq hready
  have hpop : c.Pop baseline ⟨[m] :: parts, found, hunt⟩ ⟨parts, true, last⟩ :=
    .kill halive hrun hkill hdone
  have hsize : last.scheduler.table.size = hunt.scheduler.table.size :=
    size_steps (steps_of_pop hpop)
  obtain ⟨answers, asked, groups, hfollows⟩ := exists_followsUp hbuilt h.size
    (hready.known m hm) (h.isKilled hready hlisted) hrun hkill hdone
  refine h.pass hsize hfollows.round (fun k hk => ?_) fun k hk hout => ?_
  · rw [List.mem_singleton.mp hk]
    obtain ⟨n, hn⟩ := h.exists_alive hready hlisted
    have hdead := hfollows.killed (m, verdict) List.mem_cons_self hkill
    exact ⟨n, hn, .inl (Scheduler.isKilled_of_verdict? hdead)⟩
  · refine hfollows.others k (fun heq => hout (List.mem_singleton.mpr heq)) fun hkin => ?_
    exact hready.apart m hm k hk (Hunt.mem_living_iff.mp hkin).1

/-- A round keeps the invariant. -/
theorem settling_pop (hready : c.Ready drawn batch) (h : c.Settling batch drawn work)
    (hpop : c.Pop baseline work work') : c.Settling batch drawn work' := by
  cases hpop with
  | dead hdead =>
      rw [h.living_eq hready] at hdead
      subst hdead
      exact h.pass rfl rfl (fun m hm => absurd hm List.not_mem_nil) fun _ _ _ => rfl
  | miss hne hrun hmiss =>
      rw [h.living_eq hready] at hrun ⊢
      exact h.miss hready hrun hmiss
  | kill hone hrun hkill hdone =>
      rw [h.living_eq hready] at hone
      subst hone
      exact h.kill hbuilt hready hrun hkill hdone
  | split hne htwo hrun hkill =>
      rw [h.living_eq hready] at hrun ⊢
      exact h.split hrun _

theorem settling_pops (hready : c.Ready drawn batch) (h : c.Settling batch drawn work)
    (hpops : c.Pops baseline work work') : c.Settling batch drawn work' := by
  induction hpops with
  | refl => exact h
  | tail _ hpop ih => exact settling_pop hbuilt hready ih hpop

/-- What a selection hands over to the bisection, and that nobody waits in another round. -/
theorem ready_of_select (hsize : hunt.scheduler.table.size = c.tree.mutantCount)
    (hdraw : c.select hunt = (.ok batch, drawn)) :
    c.Ready drawn batch ∧ drawn.scheduler.table.size = c.tree.mutantCount ∧
      ∀ m ∈ batch, drawn.scheduler.attempts? m = some drawn.scheduler.round := by
  obtain ⟨hnodup, -, hwaiting, hapart⟩ := Scheduler.select_ok hbuilt (select_eq_ok hdraw)
  have hwaits : ∀ m ∈ batch, drawn.scheduler.attempts? m = some drawn.scheduler.round := by
    intro m hm
    rw [Scheduler.attempts?, standing?_of_select hdraw, round_of_select hdraw]
    exact hwaiting m hm
  have hlast : drawn.scheduler.table.size = c.tree.mutantCount := by
    rw [table_of_select hdraw, hsize]
  have hknown : ∀ m ∈ batch, m.toNat < drawn.scheduler.table.size :=
    fun m hm => Scheduler.lt_size_of_attempts? (hwaits m hm)
  refine ⟨⟨hnodup, fun m hm => ?_, hlast ▸ hknown, hapart⟩, hlast, hwaits⟩
  exact (Scheduler.exists_attempts?_iff (hknown m hm)).mp ⟨_, hwaits m hm⟩

/-- So a bisection that succeeds settles every member of a batch that was drawn. -/
theorem settling_of_bisect_ok (hready : c.Ready drawn batch)
    (hsize : drawn.scheduler.table.size = c.tree.mutantCount) {killed : Bool}
    (hok : c.bisect baseline batch drawn = (.ok killed, last)) :
    c.Settling batch drawn ⟨[], killed, last⟩ :=
  settling_pops hbuilt hready (settling_start hready hsize) (pops_of_bisect_ok hok)

end Built

/-- Counts only rise.  So if nobody is behind the round, who waits later waits when the batch is
drawn, unless the count came round. -/
theorem waiting_of_steps {allowed : Event → Prop} {m : MutantId} (hledger : hunt.Ledger)
    (hbehind : missesIn hunt.trials m < UInt32.size → hunt.scheduler.NotBehind m)
    (hdraw : c.select hunt = (.ok batch, drawn)) (hsteps : c.Steps allowed hunt last)
    (hround : last.scheduler.round = drawn.scheduler.round)
    (hfew : missesIn last.trials m < UInt32.size) (hstill : m ∈ last.scheduler.eligible) :
    m ∈ drawn.scheduler.eligible := by
  rw [Scheduler.mem_eligible_iff] at hstill ⊢
  rw [hround, round_of_select hdraw] at hstill
  rw [round_of_select hdraw, Scheduler.attempts?, standing?_of_select hdraw, ← Scheduler.attempts?]
  have hless := missesIn_le_of_steps hsteps m
  have hfewer := Nat.lt_of_le_of_lt hless hfew
  obtain ⟨k, hk⟩ := exists_attempts?_of_steps hsteps hstill
  have hadvanced := (ledger_steps hledger hsteps).toNat_attempts? hfew hstill
  have hcount := hledger.toNat_attempts? hfewer hk
  have hle := UInt32.le_iff_toNat_le.mp (Scheduler.round_advance_le (hbehind hfewer) hk)
  -- The round is at most the count in `hunt`, that one at most the count in `last`, and the count
  -- in `last` is the round.
  have hsame : k = hunt.scheduler.advance.round := by
    rw [← UInt32.toNat_inj]
    omega
  rw [hk, hsame]

/-- What an attempt makes of its batch: `before` it, when the batch was `drawn`, and at `last`. -/
structure SettlesOnce (batch : List MutantId) (before drawn last : Hunt σ) : Prop where
  /-- Each member had as many failed attempts as the round says.  It is dead, or it is alive and has
  one more. -/
  members : ∀ m ∈ batch, before.scheduler.attempts? m = some drawn.scheduler.round ∧
    (last.scheduler.isKilled m = true ∨ last.scheduler.isKilled m = false ∧
      (last.scheduler.attempts? m).map UInt32.toNat = some (drawn.scheduler.round.toNat + 1))
  round : last.scheduler.round = drawn.scheduler.round
  /-- No member waits in the round any more. -/
  passed : ∀ m ∈ batch, m ∉ last.scheduler.eligible
  /-- Who waits did so all along, unless it was charged so often that its count came round. -/
  waiting : ∀ m ∈ last.scheduler.eligible, missesIn last.trials m < UInt32.size →
    m ∈ drawn.scheduler.eligible ∧ m ∉ batch
  /-- If that happened to nobody who waits, fewer wait than before, at least by the size of the
  batch. -/
  pending : (∀ m ∈ last.scheduler.eligible, missesIn last.trials m < UInt32.size) →
    last.scheduler.pendingCount + batch.length ≤ drawn.scheduler.pendingCount

/-- Whatever the harness and the reducer answer, an attempt that starts in a reachable state in
which no count is at its largest value settles each member of its batch once, if its bisection
succeeds. -/
theorem attempt_settles_once (c : Campaign σ) {description : Description}
    {order : List (MutantId × NodeId) → List (MutantId × NodeId)}
    (horder : ∀ entries, (order entries).Perm entries)
    (hbuilt : Tree.ofDescriptionBy order description = .ok c.tree)
    (hsmall : c.tree.mutantCount < UInt32.size) (seed : UInt64) (world : σ) (calls : List Call)
    (hroom : ∀ m n, (c.performAll (c.start seed world) calls).scheduler.attempts? m = some n →
      n.toNat + 1 < UInt32.size)
    {batch : List MutantId} {drawn : Hunt σ}
    (hdraw : c.select (c.performAll (c.start seed world) calls) = (.ok batch, drawn))
    {baseline : Baseline} {killed : Bool} {last : Hunt σ}
    (hok : c.bisect baseline batch drawn = (.ok killed, last)) :
    SettlesOnce batch (c.performAll (c.start seed world) calls) drawn last := by
  have hfrom := Tree.builtFrom_of_ofDescriptionBy horder hbuilt
  have hsize := size_performAll hsmall seed world calls
  have hledger := ledger_performAll hsmall seed world calls
  have hbehind := fun m => notBehind_performAll (m := m) hsmall seed world calls
  generalize c.performAll (c.start seed world) calls = hunt at *
  obtain ⟨hready, hsize', hwaits⟩ := ready_of_select hfrom hsize hdraw
  have hsettling := settling_of_bisect_ok hfrom hready hsize' hok
  have hsteps : c.Steps (fun _ => True) hunt last :=
    steps_attempt (c.admits_all baseline) hsize hdraw hok
  have hmembers : ∀ m ∈ batch, hunt.scheduler.attempts? m = some drawn.scheduler.round ∧
      (last.scheduler.isKilled m = true ∨ last.scheduler.isKilled m = false ∧
        (last.scheduler.attempts? m).map UInt32.toNat =
          some (drawn.scheduler.round.toNat + 1)) := by
    intro m hm
    have hbefore : hunt.scheduler.attempts? m = some drawn.scheduler.round := by
      rw [← hwaits m hm, Scheduler.attempts?, Scheduler.attempts?, standing?_of_select hdraw]
    exact ⟨hbefore, (hsettling.settled m hm List.not_mem_nil).dead_or_charged (hwaits m hm)
      (hroom m _ hbefore)⟩
  have hpassed : ∀ m ∈ batch, m ∉ last.scheduler.eligible := by
    intro m hm
    refine Scheduler.not_mem_eligible ?_
    rw [hsettling.round]
    exact (hmembers m hm).2
  have hwaiting : ∀ m ∈ last.scheduler.eligible, missesIn last.trials m < UInt32.size →
      m ∈ drawn.scheduler.eligible ∧ m ∉ batch := by
    intro m hstill hfew
    exact ⟨waiting_of_steps hledger (hbehind m) hdraw hsteps hsettling.round hfew hstill,
      fun hm => hpassed m hm hstill⟩
  refine ⟨hmembers, hsettling.round, hpassed, hwaiting, fun hfew => ?_⟩
  refine Scheduler.pendingCount_add_le ?_ hready.nodup (fun m hm => ?_) fun m hm => ?_
  · rw [hsettling.size]
    exact Nat.le_of_lt hsmall
  · exact ⟨(Scheduler.mem_eligible_iff _ m).mpr (hwaits m hm), hpassed m hm⟩
  · exact (hwaiting m hm (hfew m hm)).1

/-- The first batch against the two small files is of mutants 1 and 2.  The one dies, and the other
is charged. -/
theorem attempt_settles_once_twoFiles :
    (∀ entries : List (MutantId × NodeId), (id entries).Perm entries) ∧
      Tree.ofDescriptionBy id Tree.twoFilesDescription = .ok twoFiles.tree ∧
      twoFiles.tree.mutantCount < UInt32.size ∧
      (∀ m n, (twoFiles.performAll (twoFiles.start 0 ()) []).scheduler.attempts? m = some n →
        n.toNat + 1 < UInt32.size) ∧
      twoFiles.select (twoFiles.performAll (twoFiles.start 0 ()) []) =
        (.ok [1, 2], (twoFiles.select (twoFiles.start 0 ())).2) ∧
      twoFiles.bisect default [1, 2] (twoFiles.select (twoFiles.start 0 ())).2 =
        (.ok true, (twoFiles.bisect default [1, 2] (twoFiles.select (twoFiles.start 0 ())).2).2) ∧
      SettlesOnce [1, 2] (twoFiles.performAll (twoFiles.start 0 ()) [])
        (twoFiles.select (twoFiles.start 0 ())).2
        (twoFiles.bisect default [1, 2] (twoFiles.select (twoFiles.start 0 ())).2).2 := by
  have hroom : ∀ m n,
      (twoFiles.performAll (twoFiles.start 0 ()) []).scheduler.attempts? m = some n →
        n.toNat + 1 < UInt32.size := by
    intro m n hn
    rw [Scheduler.attempts?_eq_some_iff] at hn
    have hsmall : twoFiles.tree.mutantCount < UInt32.size := by decide
    have hnew := hn.symm.trans (Scheduler.standing?_new (WyRand.mk 0) hsmall m)
    split at hnew
    · cases hnew
      decide
    · cases hnew
  have hdraw : twoFiles.select (twoFiles.performAll (twoFiles.start 0 ()) []) =
      (.ok [1, 2], (twoFiles.select (twoFiles.start 0 ())).2) :=
    Prod.ext (by decide +kernel) rfl
  have hok : twoFiles.bisect default [1, 2] (twoFiles.select (twoFiles.start 0 ())).2 =
      (.ok true, (twoFiles.bisect default [1, 2] (twoFiles.select (twoFiles.start 0 ())).2).2) :=
    Prod.ext (by decide +kernel) rfl
  exact ⟨List.Perm.refl, Tree.ofDescriptionBy_twoFiles, by decide, hroom, hdraw, hok,
    attempt_settles_once twoFiles List.Perm.refl Tree.ofDescriptionBy_twoFiles (by decide) 0 () []
      hroom hdraw hok⟩

example :
    (twoFiles.bisect default [1, 2] (twoFiles.select (twoFiles.start 0 ())).2).2.scheduler.table =
      #[.killed .miscompilationKill, .killed .compileFailKill, .alive 1] := by
  cbv

/-! ## A count that comes round -/

/-- One file: mutants 1 and 2 sit inside the place of mutant 0. -/
def familyDescription : Description where
  files := [.mk [.mk [] [.removeStmt 1], .mk [] [.removeStmt 2]] [.removeStmt 0]]

/-- The campaign against these mutants, of which 1 and 2 are deadly. -/
def family : Campaign Unit where
  tree :=
    { nodes := #[⟨[0], [1, 2]⟩, ⟨[1], []⟩, ⟨[2], []⟩]
      parents := #[none, some 0, some 0]
      roots := [0]
      owners := #[0, 1, 2] }
  limits := {}
  harness := .ofVerdicts fun m => if m = 0 then none else some .runFailKill
  reducer := .idle

theorem ofDescriptionBy_family :
    Tree.ofDescriptionBy id familyDescription = .ok family.tree := by
  have hfresh : firstRepeated {}
      ((Layout.plantForest none {} familyDescription.files).1.entries.map Prod.fst) = none :=
    (firstRepeated_eq_none_iff _ _).mpr ⟨by decide, by simp⟩
  simp only [Tree.ofDescriptionBy, hfresh]
  rfl

/-- The scheduler of the family after so many failed attempts at mutant 0. -/
def worn (attempts : Nat) : Scheduler where
  total := 3
  table := #[.alive (UInt32.ofNat attempts), .alive 0, .alive 0]
  round := 0
  rng := ⟨0⟩

/-- What the journal says of a program that mutant 0 survived alone. -/
def harmlessTrial : Event :=
  .tried default [0] (.ok .noEffect)

theorem bisect_harmless {hunt : Hunt Unit} (halive : hunt.scheduler.isKilled 0 = false) :
    family.bisect default [0] hunt = (.ok false,
      { hunt with
        scheduler := hunt.scheduler.charge [0]
        outside := ⟨(), harmlessTrial :: hunt.outside.journal⟩ }) := by
  have hlive : hunt.living [0] = [0] := living_of_forall (by simpa using halive)
  have hrun : family.trial default (hunt.living [0]) hunt = (.ok .noEffect,
      { hunt with outside := ⟨(), harmlessTrial :: hunt.outside.journal⟩ }) := by
    rw [hlive]
    rfl
  rw [bisect_eq_bisectParts _ (List.cons_ne_nil _ _),
    bisectParts_of_miss (by simp [hlive]) hrun rfl, hlive, bisectParts]
  rfl

/-- The family after so many programs that mutant 0 survived alone. -/
def survived (programs : Nat) : Hunt Unit :=
  family.performAll (family.start 0 ()) (List.replicate programs (.bisect default [0]))

theorem survived_eq (programs : Nat) :
    survived programs = ⟨worn programs, [], 0, (), List.replicate programs harmlessTrial⟩ := by
  induction programs with
  | zero => rfl
  | succ programs ih =>
      have hlast : survived (programs + 1) = (family.bisect default [0] (survived programs)).2 := by
        rw [survived, List.replicate_succ', performAll, List.foldl_concat]
        rfl
      rw [hlast, bisect_harmless (by rw [ih]; rfl), ih]
      simp only [worn, UInt32.ofNat_add, List.replicate_succ]
      rfl

theorem room_of_worn {m : MutantId} {n : UInt32}
    (hn : (worn 4294967294).attempts? m = some n) : n.toNat + 1 < UInt32.size := by
  have hm : m.toNat < 3 := Scheduler.lt_size_of_attempts? hn
  have hcases : m = 0 ∨ m = 1 ∨ m = 2 := by
    simp only [← UInt32.toNat_inj, UInt32.reduceToNat]
    omega
  rcases hcases with rfl | rfl | rfl <;> cases hn <;> decide

/-- The family with two failed attempts at mutant 0 less than a count can hold. -/
def wornOut : Hunt Unit :=
  ⟨worn 4294967294, [], 0, (), List.replicate 4294967294 harmlessTrial⟩

/-- The next batch is of the other two mutants.  Both die, and the follow-up of each death charges
mutant 0: the second charge brings its count round. -/
theorem wornOut_comes_round :
    (family.select wornOut).1 = .ok [2, 1] ∧
      (family.bisect default [2, 1] (family.select wornOut).2).1 = .ok true ∧
      (family.select wornOut).2.scheduler.pendingCount = 2 ∧
      (family.bisect default [2, 1] (family.select wornOut).2).2.scheduler.pendingCount = 1 := by
  -- None of the four looks into the journal, so evaluating them never builds it.
  decide +kernel

/-- No count is at its largest value, and the next batch of two is settled, and yet only one mutant
fewer waits in the round: mutant 0 has come round to it. -/
theorem pending_comes_round :
    Tree.ofDescriptionBy id familyDescription = .ok family.tree ∧
      family.tree.mutantCount < UInt32.size ∧
      (∀ m n, (survived 4294967294).scheduler.attempts? m = some n → n.toNat + 1 < UInt32.size) ∧
      ∃ drawn last, family.select (survived 4294967294) = (.ok [2, 1], drawn) ∧
        family.bisect default [2, 1] drawn = (.ok true, last) ∧
        ¬last.scheduler.pendingCount + [2, 1].length ≤ drawn.scheduler.pendingCount := by
  have hworn : survived 4294967294 = wornOut := survived_eq 4294967294
  obtain ⟨hdraw, hok, hbefore, hafter⟩ := wornOut_comes_round
  rw [hworn]
  refine ⟨ofDescriptionBy_family, by decide, fun m n hn => room_of_worn hn, _, _,
    Prod.ext hdraw rfl, Prod.ext hok rfl, ?_⟩
  rw [hbefore, hafter]
  decide

end Campaign

end MutantHunt
