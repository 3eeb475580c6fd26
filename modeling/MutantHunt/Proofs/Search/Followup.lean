import MutantHunt.Proofs.Search.Failure
import MutantHunt.Proofs.Search.Ledger
import MutantHunt.Proofs.Search.Triage
import MutantHunt.Proofs.Search.Worklist

/-!
# What follows a kill

When a bisection is down to a single mutant and that one dies, its relatives come next.  Each of
them who is alive is tried alone, in ascending order, and then the miscompilations among all of
these answers, the mutant's own first, are handed to triage.

Whether a relative is alive is looked up when its turn comes, in a table that the trials before it
have changed.  But the list of relatives lists nobody twice, so no trial of one changes what is
known of another (`Hunt.Probed.cons`), and who is asked is settled beforehand.

## Main results

* `exists_probed` — what probing a list of relatives asks and makes of the table.
* `consolidate_eq_ok` — a follow-up that succeeds is a probe and a triage.
* `kill_followed_up` — all that lies between a kill and the next part of the batch.
-/

namespace MutantHunt

namespace Standing

/-- What a trial of a mutant alone makes of its standing. -/
def settle (verdict : Verdict) : Standing → Standing :=
  if verdict.isKill then kill verdict else chargeBy 1

theorem settle_alive_of_kill {verdict : Verdict} (hkill : verdict.isKill = true) (n : UInt32) :
    settle verdict (alive n) = killed verdict := by
  rw [settle, if_pos hkill]
  rfl

theorem settle_alive_of_miss {verdict : Verdict} (hmiss : verdict.isKill = false) (n : UInt32) :
    settle verdict (alive n) = alive (n + 1) := by
  rw [settle, hmiss]
  rfl

end Standing

/-- The mutants whose answer was that they are miscompiled, in the order they were asked about. -/
def miscompiledIn (answers : List (MutantId × Verdict)) : List MutantId :=
  (answers.filter fun answer => answer.2 = .miscompilationKill).map Prod.fst

theorem miscompiledIn_cons (m : MutantId) (verdict : Verdict)
    (answers : List (MutantId × Verdict)) :
    miscompiledIn ((m, verdict) :: answers) =
      if verdict = .miscompilationKill then m :: miscompiledIn answers
      else miscompiledIn answers := by
  by_cases h : verdict = .miscompilationKill
  · simp [miscompiledIn, h]
  · simp [miscompiledIn, h]

theorem miscompiledIn_eq_nil_iff {answers : List (MutantId × Verdict)} :
    miscompiledIn answers = [] ↔ ∀ answer ∈ answers, answer.2 ≠ .miscompilationKill := by
  rw [miscompiledIn, List.map_eq_nil_iff, List.filter_eq_nil_iff]
  simp

/-- The trials of one mutant each that were answered so. -/
def probes (baseline : Baseline) (answers : List (MutantId × Verdict)) : List Event :=
  answers.map fun answer => .tried baseline [answer.1] (.ok answer.2)

/-- Only of an empty queue a triage asks nothing. -/
theorem Reducer.Triaged.asked_eq_nil_iff {σ : Type} {reducer : Reducer σ}
    {queue : List MutantId} {asked : List Event} {groups : List ReducedKill}
    (h : reducer.Triaged queue asked groups) : asked = [] ↔ queue = [] := by
  cases h with
  | done => simp
  | dropped m hrest => simp
  | grouped m answers path hsaved hrest => simp [questionsFor]

namespace Hunt

variable {σ : Type}

/-- What lies between two states if a list of relatives was probed to its end with these answers. -/
structure Probed (baseline : Baseline) (relatives : List MutantId)
    (answers : List (MutantId × Verdict)) (before after : Hunt σ) : Prop where
  /-- Those of the list who were alive are asked about, in the order of the list. -/
  asked : answers.map Prod.fst = before.living relatives
  events : after.events = before.events ++ probes baseline answers
  reduced : after.reduced = before.reduced
  round : after.scheduler.round = before.scheduler.round
  answered : ∀ answer ∈ answers, after.scheduler.standing? answer.1 =
    (before.scheduler.standing? answer.1).map (Standing.settle answer.2)
  others : ∀ m, m ∉ before.living relatives →
    after.scheduler.standing? m = before.scheduler.standing? m

theorem mem_living_iff {hunt : Hunt σ} {ms : List MutantId} {m : MutantId} :
    m ∈ hunt.living ms ↔ m ∈ ms ∧ hunt.scheduler.isKilled m = false := by
  rw [living, List.mem_filter, Bool.not_eq_true']

theorem living_cons_of_dead {hunt : Hunt σ} {m : MutantId} (ms : List MutantId)
    (hdead : hunt.scheduler.isKilled m = true) : hunt.living (m :: ms) = hunt.living ms :=
  List.filter_cons_of_neg (by simp [hdead])

theorem living_cons_of_alive {hunt : Hunt σ} {m : MutantId} (ms : List MutantId)
    (halive : hunt.scheduler.isKilled m = false) : hunt.living (m :: ms) = m :: hunt.living ms :=
  List.filter_cons_of_pos (by simp [halive])

/-- Who is alive on a list is a matter of the standings of its members. -/
theorem living_congr {before after : Hunt σ} {ms : List MutantId}
    (hsame : ∀ m ∈ ms, after.scheduler.standing? m = before.scheduler.standing? m) :
    after.living ms = before.living ms := by
  refine List.filter_congr fun m hm => ?_
  rw [Scheduler.isKilled, hsame m hm, Scheduler.isKilled]

/-- Who was asked about was alive, and is settled by the answer. -/
theorem Probed.exists_attempts {baseline : Baseline} {relatives : List MutantId}
    {answers : List (MutantId × Verdict)} {before after : Hunt σ}
    (h : before.Probed baseline relatives answers after)
    (hknown : ∀ r ∈ relatives, r.toNat < before.scheduler.table.size)
    {answer : MutantId × Verdict} (hmem : answer ∈ answers) :
    ∃ n, before.scheduler.attempts? answer.1 = some n ∧
      after.scheduler.standing? answer.1 = some (Standing.settle answer.2 (.alive n)) := by
  have hlisted : answer.1 ∈ before.living relatives := by
    rw [← h.asked]
    exact List.mem_map_of_mem hmem
  obtain ⟨hrelative, halive⟩ := mem_living_iff.mp hlisted
  obtain ⟨n, hn⟩ := (Scheduler.exists_attempts?_iff (hknown _ hrelative)).mpr halive
  refine ⟨n, hn, ?_⟩
  rw [h.answered answer hmem, (Scheduler.attempts?_eq_some_iff _ _ _).mp hn, Option.map_some]

end Hunt

namespace Campaign

variable {σ : Type} {c : Campaign σ} {baseline : Baseline} {hunt last : Hunt σ}
  {verdict : Verdict}

/-! ## A trial of one mutant -/

/-- A trial of one mutant settles that mutant, and no other. -/
theorem standing?_tryOut_singleton {r : MutantId}
    (hanswer : (c.trial baseline [r] hunt).1 = .ok verdict) (m : MutantId) :
    (c.tryOut baseline [r] hunt).scheduler.standing? m =
      if r = m then (hunt.scheduler.standing? m).map (Standing.settle verdict)
      else hunt.scheduler.standing? m := by
  rw [standing?_tryOut, hanswer]
  cases hkill : verdict.isKill with
  | true =>
      rw [Trial.update_singleton baseline r hkill, Standing.settle, if_pos hkill]
      by_cases hsame : r = m
      · rw [if_pos hsame, if_pos hsame]
      · rw [if_neg hsame, if_neg hsame, Option.map_id, id_eq]
  | false =>
      rw [Trial.update_of_not_kill baseline [r] hkill, Standing.settle, hkill]
      by_cases hsame : r = m
      · rw [if_pos hsame, hsame, List.count_singleton_self]
        rfl
      · have hcount : [r].count m = 0 := by
          rw [List.count_eq_zero, List.mem_singleton]
          exact Ne.symm hsame
        rw [if_neg hsame, hcount, Standing.chargeBy_zero, Option.map_id, id_eq]

theorem events_tryOut (baseline : Baseline) (batch : List MutantId) (hunt : Hunt σ) :
    (c.tryOut baseline batch hunt).events =
      hunt.events ++ [.tried baseline batch (c.trial baseline batch hunt).1] := by
  rw [Hunt.events_eq_append (c.tryOut_journal baseline batch hunt), List.reverse_singleton]

theorem reduced_tryOut (baseline : Baseline) (batch : List MutantId) (hunt : Hunt σ) :
    (c.tryOut baseline batch hunt).reduced = hunt.reduced := by
  rw [tryOut, Hunt.settle_eq]
  rfl

/-! ## Probing the relatives -/

/-- A probe whose first mutant is alive, and that succeeds: the trial of that mutant was answered,
and the rest was probed. -/
theorem exists_of_probe_cons_eq_ok {r : MutantId} {rest found : List MutantId}
    (halive : hunt.scheduler.isKilled r = false)
    (hok : c.probe baseline (r :: rest) hunt = (.ok found, last)) :
    ∃ verdict more, (c.trial baseline [r] hunt).1 = .ok verdict ∧
      c.probe baseline rest (c.tryOut baseline [r] hunt) = (.ok more, last) ∧
      found = if verdict = .miscompilationKill then r :: more else more := by
  rw [probe_cons, if_neg (by rw [halive]; exact Bool.false_ne_true)] at hok
  cases hanswer : (c.trial baseline [r] hunt).1 with
  | error e =>
      rw [hanswer] at hok
      cases hok
  | ok verdict =>
      rw [hanswer] at hok
      simp only at hok
      rcases hrest : c.probe baseline rest (c.tryOut baseline [r] hunt) with ⟨result, state⟩
      rw [hrest] at hok
      cases result with
      | error e => cases hok
      | ok more =>
          cases hok
          exact ⟨verdict, more, rfl, rfl, rfl⟩

theorem probed_nil (baseline : Baseline) (hunt : Hunt σ) : hunt.Probed baseline [] [] hunt where
  asked := rfl
  events := (List.append_nil _).symm
  reduced := rfl
  round := rfl
  answered := by simp
  others := fun _ _ => rfl

/-- The dead are passed over. -/
theorem probed_cons_of_dead {r : MutantId} {rest : List MutantId}
    {answers : List (MutantId × Verdict)} (hdead : hunt.scheduler.isKilled r = true)
    (h : hunt.Probed baseline rest answers last) :
    hunt.Probed baseline (r :: rest) answers last := by
  have hsame := Hunt.living_cons_of_dead rest hdead
  exact { h with asked := by rw [hsame, h.asked], others := by rw [hsame]; exact h.others }

/-- A mutant that is tried alone comes before the rest, and is none of them. -/
theorem probed_cons {r : MutantId} {rest : List MutantId} {answers : List (MutantId × Verdict)}
    (hfresh : r ∉ rest) (halive : hunt.scheduler.isKilled r = false)
    (hanswer : (c.trial baseline [r] hunt).1 = .ok verdict)
    (h : (c.tryOut baseline [r] hunt).Probed baseline rest answers last) :
    hunt.Probed baseline (r :: rest) ((r, verdict) :: answers) last := by
  have hsettled := standing?_tryOut_singleton hanswer
  have hevents := c.events_tryOut baseline [r] hunt
  rw [hanswer] at hevents
  have hreduced := c.reduced_tryOut baseline [r] hunt
  have hround := c.round_tryOut baseline [r] hunt
  generalize c.tryOut baseline [r] hunt = next at h hsettled hevents hreduced hround
  have hkept : ∀ m ∈ rest, next.scheduler.standing? m = hunt.scheduler.standing? m := by
    intro m hm
    rw [hsettled m, if_neg]
    rintro rfl
    exact hfresh hm
  have hliving : next.living rest = hunt.living rest := Hunt.living_congr hkept
  have hlisted : ∀ m ∈ next.living rest, m ∈ rest := fun m hm => (Hunt.mem_living_iff.mp hm).1
  constructor
  · rw [List.map_cons, h.asked, hliving, Hunt.living_cons_of_alive rest halive]
  · rw [h.events, hevents, List.append_assoc]
    rfl
  · rw [h.reduced, hreduced]
  · rw [h.round, hround]
  · intro answer hmem
    rcases List.mem_cons.mp hmem with rfl | hmem
    · rw [h.others r fun hr => hfresh (hlisted r hr), hsettled r, if_pos rfl]
    · have hother : answer.1 ∈ next.living rest := by
        rw [← h.asked]
        exact List.mem_map_of_mem hmem
      rw [h.answered answer hmem, hkept _ (hlisted _ hother)]
  · intro m hm
    rw [Hunt.living_cons_of_alive rest halive, List.mem_cons, not_or] at hm
    rw [h.others m (hliving ▸ hm.2), hsettled m, if_neg (Ne.symm hm.1)]

/-- What probing a list asks and leaves, if the list lists nobody twice and no trial fails. -/
theorem exists_probed {relatives found : List MutantId} (hnodup : relatives.Nodup)
    (hok : c.probe baseline relatives hunt = (.ok found, last)) :
    ∃ answers, hunt.Probed baseline relatives answers last ∧ found = miscompiledIn answers := by
  induction relatives generalizing hunt found with
  | nil =>
      cases hok
      exact ⟨[], probed_nil baseline _, rfl⟩
  | cons r rest ih =>
      obtain ⟨hfresh, hrest⟩ := List.nodup_cons.mp hnodup
      cases hdead : hunt.scheduler.isKilled r with
      | true =>
          rw [probe_cons, if_pos hdead] at hok
          obtain ⟨answers, hprobed, hfound⟩ := ih hrest hok
          exact ⟨answers, probed_cons_of_dead hdead hprobed, hfound⟩
      | false =>
          obtain ⟨verdict, more, hanswer, hprobe, rfl⟩ := exists_of_probe_cons_eq_ok hdead hok
          obtain ⟨answers, hprobed, rfl⟩ := ih hrest hprobe
          exact ⟨(r, verdict) :: answers, probed_cons hfresh hdead hanswer hprobed,
            (miscompiledIn_cons r verdict answers).symm⟩

/-! ## The follow-up as a whole -/

section Built

variable {description : Description} (hbuilt : c.tree.BuiltFrom description)
include hbuilt

/-- A follow-up that succeeds probes the relatives, and triages what was miscompiled. -/
theorem consolidate_eq_ok {m : MutantId} (hm : m.toNat < c.tree.mutantCount)
    (hok : c.consolidate m verdict baseline hunt = (.ok (), last)) :
    ∃ answers probed, hunt.Probed baseline (c.tree.kin m) answers probed ∧
      c.triage (miscompiledIn ((m, verdict) :: answers)) probed = (.ok (), last) := by
  unfold consolidate at hok
  rw [Tree.relatives_eq_kin hm, Except.mapError, Act.bind_of_ok (Act.lift_apply _ _)] at hok
  obtain ⟨found, probed, hprobe, htriage⟩ := Act.exists_of_bind_eq_ok hok
  obtain ⟨answers, hprobed, rfl⟩ := exists_probed (hbuilt.nodup_kin m) hprobe
  refine ⟨answers, probed, hprobed, ?_⟩
  rwa [miscompiledIn_cons]

end Built

/-- A triage that succeeds is one run of the reducer, whose groups are kept. -/
theorem exists_groups_of_triage_eq_ok {queue : List MutantId}
    (hok : c.triage queue hunt = (.ok (), last)) :
    ∃ asked groups, c.reducer.journaled.triage queue hunt.outside = (.ok groups, last.outside) ∧
      last.scheduler = hunt.scheduler ∧ last.reduced = hunt.reduced ++ groups ∧
      last.events = hunt.events ++ asked ∧ (∀ event ∈ asked, event.asksReducer = true) ∧
      (asked = [] ↔ queue = []) := by
  obtain ⟨asked, groups, hhandles⟩ := c.exists_handles queue hunt
  have hscheduler := hhandles.scheduler
  have hevents := hhandles.events
  have hreduced := hhandles.reduced
  have htriaged := hhandles.triaged
  have happly := c.triage_apply queue hunt
  rw [hok] at hscheduler hevents hreduced htriaged happly
  refine ⟨asked, groups, ?_, hscheduler, hreduced, hevents, hhandles.reducer,
    (htriaged rfl).asked_eq_nil_iff⟩
  rcases hrun : c.reducer.journaled.triage queue hunt.outside with ⟨result, outside⟩
  rw [hrun] at happly
  cases result with
  | error e => cases happly
  | ok groups' =>
      cases happly
      rw [List.append_cancel_left hreduced]

/-- What a kill of a single mutant brings about, from the state before its trial to the state in
which the bisection goes on. -/
structure FollowsUp (c : Campaign σ) (baseline : Baseline) (m : MutantId) (verdict : Verdict)
    (before : Hunt σ) (answers : List (MutantId × Verdict)) (asked : List Event)
    (groups : List ReducedKill) (after : Hunt σ) : Prop where
  relatives : c.tree.relatives m = .ok (c.tree.kin m)
  /-- The relatives that were alive are asked about, each once. -/
  probed : answers.map Prod.fst = before.living (c.tree.kin m)
  ascending : (answers.map Prod.fst).Pairwise (· < ·)
  /-- Directly behind the trial of the mutant stand the trials of these relatives, and then the
  questions of the triage. -/
  events : after.events =
    before.events ++ .tried baseline [m] (.ok verdict) :: probes baseline answers ++ asked
  /-- The triage is that of the miscompilations among the answers, and starts where the trials left
  the world. -/
  triage : ∃ outside : Journaled σ, outside.journal.reverse =
      before.events ++ .tried baseline [m] (.ok verdict) :: probes baseline answers ∧
    c.reducer.journaled.triage (miscompiledIn ((m, verdict) :: answers)) outside =
      (.ok groups, after.outside)
  reducer : ∀ event ∈ asked, event.asksReducer = true
  asked_iff : asked ≠ [] ↔
    verdict = .miscompilationKill ∨ ∃ answer ∈ answers, answer.2 = .miscompilationKill
  reduced : after.reduced = before.reduced ++ groups
  round : after.scheduler.round = before.scheduler.round
  /-- The mutant has its verdict, and so have the relatives that died. -/
  killed : ∀ answer ∈ (m, verdict) :: answers, answer.2.isKill = true →
    after.scheduler.verdict? answer.1 = some answer.2
  /-- A relative that survived has one failed attempt more. -/
  charged : ∀ answer ∈ answers, answer.2.isKill = false →
    ∃ n, before.scheduler.attempts? answer.1 = some n ∧
      after.scheduler.attempts? answer.1 = some (n + 1)
  /-- Nothing changes for the others, be they no relatives of the mutant or dead already. -/
  others : ∀ k, k ≠ m → k ∉ before.living (c.tree.kin m) →
    after.scheduler.standing? k = before.scheduler.standing? k

section Built

variable {description : Description} (hbuilt : c.tree.BuiltFrom description)
  (hsize : hunt.scheduler.table.size = c.tree.mutantCount)
include hbuilt hsize

/-- The kill of a mutant whose follow-up succeeds.  The mutant is none of its own relatives, so its
trial and the probe are one probe of the mutant and its relatives. -/
theorem exists_followsUp {m : MutantId} (hm : m.toNat < c.tree.mutantCount)
    (halive : hunt.scheduler.isKilled m = false) {tried : Hunt σ}
    (hrun : c.trial baseline [m] hunt = (.ok verdict, tried)) (hkill : verdict.isKill = true)
    (hok : c.consolidate m verdict baseline (tried.recordKill m verdict) = (.ok (), last)) :
    ∃ answers asked groups, c.FollowsUp baseline m verdict hunt answers asked groups last := by
  have hbooked : c.tryOut baseline [m] hunt = tried.recordKill m verdict := by
    rw [tryOut_eq hrun, Hunt.settle_singleton m hkill]
  rw [← hbooked] at hok
  obtain ⟨answers, probed, hrelatives, htriage⟩ := consolidate_eq_ok hbuilt hm hok
  have hprobed : hunt.Probed baseline (m :: c.tree.kin m) ((m, verdict) :: answers) probed :=
    probed_cons (c.tree.not_mem_kin_self m) halive (congrArg Prod.fst hrun) hrelatives
  obtain ⟨asked, groups, hrun', hscheduler, hreduced, hevents, hreducer, hnone⟩ :=
    exists_groups_of_triage_eq_ok htriage
  have hliving := Hunt.living_cons_of_alive (c.tree.kin m) halive
  have hasked : answers.map Prod.fst = hunt.living (c.tree.kin m) := by
    have hall := hprobed.asked
    rw [hliving, List.map_cons, List.cons.injEq] at hall
    exact hall.2
  have hknown : ∀ r ∈ m :: c.tree.kin m, r.toNat < hunt.scheduler.table.size := by
    rw [hsize]
    exact List.forall_mem_cons.mpr ⟨hm, fun r hr => hbuilt.lt_of_mem_kin hr⟩
  refine ⟨answers, asked, groups, Tree.relatives_eq_kin hm, hasked, ?_, ?_, ?_, hreducer, ?_, ?_,
    ?_, ?_, ?_, ?_⟩
  · rw [hasked]
    exact (hbuilt.pairwise_lt_kin m).sublist (living_sublist _ _)
  · rw [hevents, hprobed.events]
    rfl
  · exact ⟨probed.outside, hprobed.events, hrun'⟩
  · rw [ne_eq, hnone, miscompiledIn_eq_nil_iff, List.forall_mem_cons]
    simp only [not_and_or, ne_eq, not_not, not_forall, exists_prop]
  · rw [hreduced, hprobed.reduced]
  · rw [hscheduler, hprobed.round]
  · intro answer hmem hdies
    obtain ⟨n, -, hafter⟩ := hprobed.exists_attempts hknown hmem
    rw [Standing.settle_alive_of_kill hdies, ← hscheduler] at hafter
    exact (Scheduler.verdict?_eq_some_iff _ _ _).mpr hafter
  · intro answer hmem hlives
    obtain ⟨n, hbefore, hafter⟩ := hprobed.exists_attempts hknown (List.mem_cons_of_mem _ hmem)
    rw [Standing.settle_alive_of_miss hlives, ← hscheduler] at hafter
    exact ⟨n, hbefore, (Scheduler.attempts?_eq_some_iff _ _ _).mpr hafter⟩
  · intro k hother hk
    rw [hscheduler]
    refine hprobed.others k ?_
    rw [hliving, List.mem_cons, not_or]
    exact ⟨hother, hk⟩

end Built

/-- Whenever a bisection of a batch, which may list whom it likes, is down to a mutant of the tree
that dies alone, the follow-up is just this as long as no question of it fails, and then the
bisection goes on with the parts that are left.  All that is asked of the state is that it has the
mutants of the tree on record. -/
theorem kill_followed_up (c : Campaign σ) {description : Description}
    {order : List (MutantId × NodeId) → List (MutantId × NodeId)}
    (horder : ∀ entries, (order entries).Perm entries)
    (hbuilt : Tree.ofDescriptionBy order description = .ok c.tree) {hunt : Hunt σ}
    (hsize : hunt.scheduler.table.size = c.tree.mutantCount) {baseline : Baseline}
    {batch : List MutantId} (hne : batch ≠ []) {part : List MutantId}
    {parts : List (List MutantId)} {found : Bool} {moment tried : Hunt σ}
    (hpops : c.Pops baseline ⟨[batch], false, hunt⟩ ⟨part :: parts, found, moment⟩)
    {m : MutantId} (hone : moment.living part = [m]) (hm : m.toNat < c.tree.mutantCount)
    {verdict : Verdict} (hrun : c.trial baseline [m] moment = (.ok verdict, tried))
    (hkill : verdict.isKill = true)
    (hquiet : (tried.recordKill m verdict).Undisturbed
      (c.consolidate m verdict baseline (tried.recordKill m verdict)).2) :
    ∃ answers asked groups after,
      c.FollowsUp baseline m verdict moment answers asked groups after ∧
      c.bisect baseline batch hunt = c.bisectParts baseline parts true after := by
  have hfrom := Tree.builtFrom_of_ofDescriptionBy horder hbuilt
  have halive : moment.scheduler.isKilled m = false := by
    have hlisted : m ∈ moment.living part := by
      rw [hone]
      exact List.mem_singleton_self m
    exact (Hunt.mem_living_iff.mp hlisted).2
  obtain ⟨⟨⟩, hanswer⟩ := (honest_consolidate hm verdict).exists_ok hquiet
  have hdone : c.consolidate m verdict baseline (tried.recordKill m verdict) =
      (.ok (), (c.consolidate m verdict baseline (tried.recordKill m verdict)).2) :=
    Prod.ext hanswer rfl
  obtain ⟨answers, asked, groups, hfollows⟩ := exists_followsUp hfrom
    (by rw [size_steps (steps_of_pops hpops), hsize]) hm halive hrun hkill hdone
  refine ⟨answers, asked, groups, _, hfollows, ?_⟩
  rw [bisect_eq_bisectParts baseline hne]
  exact bisectParts_of_pops (hpops.tail (.kill hone hrun hkill hdone))

/-- A batch of mutants 1 and 2 of the two small files has died and is to be split. -/
def halfway : Hunt Unit :=
  (twoFiles.trial default [1, 2] (twoFiles.start 0 ())).2

/-- Mutant 1 dies alone, and its relative 0 is miscompiled. -/
theorem kill_followed_up_halfway :
    (∀ entries : List (MutantId × NodeId), (id entries).Perm entries) ∧
      Tree.ofDescriptionBy id Tree.twoFilesDescription = .ok twoFiles.tree ∧
      (twoFiles.start 0 ()).scheduler.table.size = twoFiles.tree.mutantCount ∧
      [(1 : MutantId), 2] ≠ [] ∧
      twoFiles.Pops default ⟨[[1, 2]], false, twoFiles.start 0 ()⟩ ⟨[[1], [2]], false, halfway⟩ ∧
      halfway.living [1] = [1] ∧ (1 : MutantId).toNat < twoFiles.tree.mutantCount ∧
      twoFiles.trial default [1] halfway =
        (.ok .compileFailKill, (twoFiles.trial default [1] halfway).2) ∧
      Verdict.compileFailKill.isKill = true ∧
      ((twoFiles.trial default [1] halfway).2.recordKill 1 .compileFailKill).Undisturbed
        (twoFiles.consolidate 1 .compileFailKill default
          ((twoFiles.trial default [1] halfway).2.recordKill 1 .compileFailKill)).2 ∧
      ∃ answers asked groups after,
        twoFiles.FollowsUp default 1 .compileFailKill halfway answers asked groups after ∧
        twoFiles.bisect default [1, 2] (twoFiles.start 0 ()) =
          twoFiles.bisectParts default [[2]] true after := by
  have hliving : (twoFiles.start 0 ()).living [1, 2] = [1, 2] := by decide +kernel
  have hpops : twoFiles.Pops default ⟨[[1, 2]], false, twoFiles.start 0 ()⟩
      ⟨[[1], [2]], false, halfway⟩ := by
    have hsplit := @Pop.split Unit twoFiles default [1, 2] [] false (twoFiles.start 0 ()) halfway
      .compileFailKill (by rw [hliving]; decide) (by rw [hliving]; decide) (by rw [hliving]; rfl)
      rfl
    rw [hliving] at hsplit
    exact .single hsplit
  have hone : halfway.living [1] = [1] := by decide +kernel
  have hquiet : ((twoFiles.trial default [1] halfway).2.recordKill 1 .compileFailKill).Undisturbed
      (twoFiles.consolidate 1 .compileFailKill default
        ((twoFiles.trial default [1] halfway).2.recordKill 1 .compileFailKill)).2 := by
    have hevents : List.filterMap Event.failure? ((twoFiles.consolidate 1 .compileFailKill default
        ((twoFiles.trial default [1] halfway).2.recordKill 1 .compileFailKill)).2.events.drop
        ((twoFiles.trial default [1] halfway).2.recordKill 1 .compileFailKill).events.length) =
          [] := by
      decide +kernel
    exact List.filterMap_eq_nil_iff.mp hevents
  exact ⟨List.Perm.refl, Tree.ofDescriptionBy_twoFiles, by decide, by decide, hpops, hone,
    by decide, rfl, rfl, hquiet, kill_followed_up twoFiles List.Perm.refl Tree.ofDescriptionBy_twoFiles
      (by decide) (by decide) hpops hone (by decide) rfl rfl hquiet⟩

end Campaign

end MutantHunt
