import Mathlib.Data.List.Nodup
import MutantHunt.Proofs.Search.Journal
import MutantHunt.Proofs.Tree.Build

/-!
# What a triage makes of its queue

A triage that nothing interrupts takes the mutants of its queue one by one, the last first.  It
drops a mutant that the reducer gives up on; otherwise it groups it with the mutants that the
reduced program kills as well, and goes on with those it does not.  `Reducer.Triaged` is that rule
as a relation between a queue, the questions that are asked, and the groups that come of it.

Of a queue that lists nobody twice, each member ends up in exactly one group, or is dropped after
its one reduction, and nobody else is looked at.  `TriagedOnce` and `Untouched` say so of a mutant,
the questions and the groups; both add up over several triages, so the same words serve for a
whole run.

## Main results

* `triaged_of_ok` — a triage that succeeds follows the rule.
* `Triaged.once`, `Triaged.untouched` — what becomes of a mutant.
* `Triaged.apart`, `Triaged.ascending` — what groups look like.
* `Campaign.exists_handles` — all that a triage does to a search.
-/

namespace MutantHunt

namespace Event

/-- The group that a question saved. -/
def group? : Event → Option ReducedKill
  | persisted mutants (.ok path) => some { mutants, path }
  | _ => none

/-- The answer to a question to reduce the program for the mutant. -/
def reduction? (m : MutantId) : Event → Option (Except HuntError Bool)
  | reduced m' answer => if m' = m then some answer else none
  | _ => none

end Event

/-- The groups that a triage saved which asked these questions, if none of them failed. -/
def groupsOfTriage (asked : List Event) : List ReducedKill :=
  if asked.all fun event => event.failure?.isNone then asked.filterMap Event.group? else []

/-- The groups of all triages among the questions of a search of which no question failed.  The
reducer is asked by triages only, and between any two of them there is a question to the harness.
-/
def groupsIn (asked : List Event) : List ReducedKill :=
  (asked.splitOnP fun event => !event.asksReducer).flatMap groupsOfTriage

theorem groupsIn_nil : groupsIn [] = [] := rfl

/-- A question to the harness sets apart what the triages before and after it save. -/
theorem groupsIn_append_cons (before : List Event) {event : Event}
    (hother : event.asksReducer = false) (asked : List Event) :
    groupsIn (before ++ event :: asked) = groupsIn before ++ groupsIn asked := by
  rw [groupsIn, List.splitOnP_append_cons _ _ (by rw [hother]; rfl), List.flatMap_append]
  rfl

theorem groupsIn_concat (before : List Event) {event : Event}
    (hother : event.asksReducer = false) : groupsIn (before ++ [event]) = groupsIn before := by
  rw [groupsIn_append_cons before hother, groupsIn_nil, List.append_nil]

/-- After a question to the harness, a triage adds what it saves. -/
theorem groupsIn_append_triage (before : List Event) {event : Event}
    (hother : event.asksReducer = false) {asked : List Event}
    (hreducer : ∀ event ∈ asked, event.asksReducer = true) :
    groupsIn (before ++ [event] ++ asked) =
      groupsIn (before ++ [event]) ++ groupsOfTriage asked := by
  have hwhole : (asked.splitOnP fun event => !event.asksReducer) = [asked] :=
    List.splitOnP_eq_singleton fun event hevent => by rw [hreducer event hevent]; rfl
  rw [groupsIn_concat before hother, List.append_assoc, List.singleton_append,
    groupsIn_append_cons before hother, groupsIn, groupsIn, hwhole, List.flatMap_singleton]

-- The triage of mutant 2 fails after a group of it was saved already.
example : groupsIn [.tried default [0] (.ok .miscompilationKill), .reduced 0 (.ok true),
    .persisted [0] (.ok "first"), .tried default [1] (.ok .miscompilationKill),
    .reduced 2 (.ok true), .checked 1 (.ok false), .persisted [2] (.ok "second"),
    .reduced 1 (.error .emptyBatch)] = [⟨[0], "first"⟩] := by
  cbv

/-! ## One mutant -/

/-- How many groups hold the mutant. -/
def groupsWith (m : MutantId) (groups : List ReducedKill) : Nat :=
  groups.countP fun group => m ∈ group.mutants

/-- Nobody asked to reduce the program for the mutant, and it is in no group. -/
structure Untouched (m : MutantId) (asked : List Event) (groups : List ReducedKill) : Prop where
  unasked : asked.filterMap (Event.reduction? m) = []
  ungrouped : groupsWith m groups = 0

/-- The mutant is in exactly one group, and its own reduction did not fail if there was one; or it
is in none, and its one reduction failed. -/
def TriagedOnce (m : MutantId) (asked : List Event) (groups : List ReducedKill) : Prop :=
  (groupsWith m groups = 1 ∧ (asked.filterMap (Event.reduction? m) = [] ∨
      asked.filterMap (Event.reduction? m) = [.ok true])) ∨
    (groupsWith m groups = 0 ∧ asked.filterMap (Event.reduction? m) = [.ok false])

section Append

variable {m : MutantId} {asked asked' : List Event} {groups groups' : List ReducedKill}

theorem groupsWith_append (m : MutantId) (groups groups' : List ReducedKill) :
    groupsWith m (groups ++ groups') = groupsWith m groups + groupsWith m groups' :=
  List.countP_append

theorem groupsWith_eq_zero_iff :
    groupsWith m groups = 0 ↔ ∀ group ∈ groups, m ∉ group.mutants := by
  rw [groupsWith, List.countP_eq_zero]
  simp

theorem untouched_nil (m : MutantId) : Untouched m [] [] :=
  ⟨rfl, rfl⟩

theorem Untouched.append (hbefore : Untouched m asked groups)
    (hafter : Untouched m asked' groups') : Untouched m (asked ++ asked') (groups ++ groups') where
  unasked := by rw [List.filterMap_append, hbefore.unasked, hafter.unasked, List.append_nil]
  ungrouped := by rw [groupsWith_append, hbefore.ungrouped, hafter.ungrouped]

theorem TriagedOnce.append_untouched (hbefore : TriagedOnce m asked groups)
    (hafter : Untouched m asked' groups') :
    TriagedOnce m (asked ++ asked') (groups ++ groups') := by
  rw [TriagedOnce, groupsWith_append, List.filterMap_append, hafter.unasked, hafter.ungrouped,
    List.append_nil, Nat.add_zero]
  exact hbefore

theorem Untouched.append_triagedOnce (hbefore : Untouched m asked groups)
    (hafter : TriagedOnce m asked' groups') :
    TriagedOnce m (asked ++ asked') (groups ++ groups') := by
  rw [TriagedOnce, groupsWith_append, List.filterMap_append, hbefore.unasked, hbefore.ungrouped,
    List.nil_append, Nat.zero_add]
  exact hafter

theorem TriagedOnce.append_silent (h : TriagedOnce m asked groups)
    (hsilent : asked'.filterMap (Event.reduction? m) = []) :
    TriagedOnce m (asked ++ asked') groups := by
  have hafter : Untouched m asked' [] := ⟨hsilent, rfl⟩
  simpa only [List.append_nil] using h.append_untouched hafter

/-- Questions that are no reductions for the mutant touch it not. -/
theorem untouched_of_silent (hsilent : ∀ event ∈ asked, event.reduction? m = none) :
    Untouched m asked [] :=
  ⟨List.filterMap_eq_nil_iff.mpr hsilent, rfl⟩

end Append

namespace Reducer

variable {σ : Type}

/-- The reducer can save a program for these mutants under that path. -/
def Saves (reducer : Reducer σ) (mutants : List MutantId) (path : String) : Prop :=
  ∃ world, (reducer.persist mutants world).1 = .ok path

/-- The mutants that got an answer. -/
def answered (hit : Bool) (answers : List (MutantId × Bool)) : List MutantId :=
  (answers.filter fun answer => answer.2 == hit).map Prod.fst

/-- The questions with these answers. -/
def checks (answers : List (MutantId × Bool)) : List Event :=
  answers.map fun answer => .checked answer.1 (.ok answer.2)

/-- A mutant with those that its reduced program kills as well. -/
def groupOf (m : MutantId) (answers : List (MutantId × Bool)) : List MutantId :=
  (m :: answered true answers).mergeSort

/-- What is asked to make a group. -/
def questionsFor (m : MutantId) (answers : List (MutantId × Bool)) (path : String) : List Event :=
  .reduced m (.ok true) :: checks answers ++ [.persisted (groupOf m answers) (.ok path)]

/-- A queue, what is asked when nothing fails, oldest first, and the groups that come of it. -/
inductive Triaged (reducer : Reducer σ) :
    List MutantId → List Event → List ReducedKill → Prop
  | done : Triaged reducer [] [] []
  /-- The reducer gives up on the last mutant. -/
  | dropped (m : MutantId) {queue : List MutantId} {asked : List Event}
      {groups : List ReducedKill} (hrest : Triaged reducer queue asked groups) :
      Triaged reducer (queue ++ [m]) (.reduced m (.ok false) :: asked) groups
  /-- The last mutant makes a group with the others that its program kills. -/
  | grouped (m : MutantId) (answers : List (MutantId × Bool)) (path : String) {asked : List Event}
      {groups : List ReducedKill} (hsaved : reducer.Saves (groupOf m answers) path)
      (hrest : Triaged reducer (answered false answers) asked groups) :
      Triaged reducer (answers.map Prod.fst ++ [m]) (questionsFor m answers path ++ asked)
        ({ mutants := groupOf m answers, path } :: groups)

theorem mem_answered_iff {hit : Bool} {answers : List (MutantId × Bool)} {m : MutantId} :
    m ∈ answered hit answers ↔ (m, hit) ∈ answers := by
  simp only [answered, List.mem_map, List.mem_filter, beq_iff_eq, Prod.exists]
  constructor
  · rintro ⟨m', hit', ⟨hmem, rfl⟩, rfl⟩
    exact hmem
  · intro hmem
    exact ⟨m, hit, ⟨hmem, rfl⟩, rfl⟩

theorem answered_subset (hit : Bool) (answers : List (MutantId × Bool)) :
    answered hit answers ⊆ answers.map Prod.fst := by
  intro m hm
  exact List.mem_map.mpr ⟨(m, hit), mem_answered_iff.mp hm, rfl⟩

theorem answered_cons (hit : Bool) (m : MutantId) (answer : Bool)
    (answers : List (MutantId × Bool)) :
    answered hit ((m, answer) :: answers) =
      if answer = hit then m :: answered hit answers else answered hit answers := by
  by_cases h : answer = hit
  · simp [answered, h]
  · simp [answered, h]

/-! ## A triage follows the rule -/

/-- Sifting asks of each mutant, and sorts them by the answers. -/
theorem sift_eq_ok (reducer : Reducer σ) {ms hits misses : List MutantId} {s t : Journaled σ}
    (hok : reducer.journaled.sift ms s = (.ok (hits, misses), t)) :
    ∃ answers, answers.map Prod.fst = ms ∧ hits = answered true answers ∧
      misses = answered false answers ∧ t.journal = (checks answers).reverse ++ s.journal := by
  induction ms generalizing s t hits misses with
  | nil =>
      cases hok
      exact ⟨[], rfl, rfl, rfl, rfl⟩
  | cons m rest ih =>
      obtain ⟨hit, u, hasked, hok⟩ := Act.exists_of_bind_eq_ok hok
      obtain ⟨⟨hits', misses'⟩, v, hrest, hok⟩ := Act.exists_of_bind_eq_ok hok
      obtain ⟨answers, hmap, rfl, rfl, hjournal⟩ := ih hrest
      obtain ⟨-, hquestion⟩ := Act.recording_eq hasked
      refine ⟨(m, hit) :: answers, by rw [List.map_cons, hmap], ?_⟩
      cases hit with
      | true =>
          cases hok
          refine ⟨by simp [answered_cons], by simp [answered_cons], ?_⟩
          rw [hjournal, hquestion]
          simp [checks]
      | false =>
          cases hok
          refine ⟨by simp [answered_cons], by simp [answered_cons], ?_⟩
          rw [hjournal, hquestion]
          simp [checks]

theorem triaged_of_triageUpTo (reducer : Reducer σ) {n : Nat} {queue : List MutantId}
    (hn : queue.length ≤ n) {s t : Journaled σ} {groups : List ReducedKill}
    (hok : reducer.journaled.triageUpTo n queue s = (.ok groups, t)) :
    ∃ asked, t.journal = asked.reverse ++ s.journal ∧ reducer.Triaged queue asked groups := by
  induction n generalizing queue s t groups with
  | zero =>
      cases List.eq_nil_of_length_eq_zero (Nat.le_zero.mp hn)
      cases hok
      exact ⟨[], rfl, .done⟩
  | succ n ih =>
      unfold triageUpTo at hok
      cases hlast : queue.getLast? with
      | none =>
          cases List.getLast?_eq_none_iff.mp hlast
          cases hok
          exact ⟨[], rfl, .done⟩
      | some m =>
          obtain ⟨others, rfl⟩ := List.getLast?_eq_some_iff.mp hlast
          rw [hlast] at hok
          simp only [List.dropLast_concat] at hok
          rw [List.length_append, List.length_singleton] at hn
          obtain ⟨done, u, hreduced, hok⟩ := Act.exists_of_bind_eq_ok hok
          obtain ⟨-, hreduction⟩ := Act.recording_eq hreduced
          cases done with
          | false =>
              obtain ⟨asked, hjournal, hrest⟩ := ih (by omega) hok
              refine ⟨.reduced m (.ok false) :: asked, ?_, hrest.dropped m⟩
              rw [hjournal, hreduction]
              simp
          | true =>
              obtain ⟨⟨hits, misses⟩, v, hsift, hok⟩ := Act.exists_of_bind_eq_ok hok
              obtain ⟨path, w, hpersist, hok⟩ := Act.exists_of_bind_eq_ok hok
              obtain ⟨later, x, hlater, hok⟩ := Act.exists_of_bind_eq_ok hok
              obtain ⟨answers, rfl, rfl, rfl, hchecked⟩ := reducer.sift_eq_ok hsift
              obtain ⟨hsaved, hpersisted⟩ := Act.recording_eq hpersist
              have hfewer : (answered false answers).length ≤ n := by
                have hle := List.length_filter_le (fun answer => answer.2 == false) answers
                rw [List.length_map] at hn
                rw [answered, List.length_map]
                omega
              obtain ⟨asked, hjournal, hrest⟩ := ih hfewer hlater
              cases hok
              refine ⟨_, ?_, .grouped m answers path ⟨_, hsaved⟩ hrest⟩
              rw [hjournal, hpersisted, hchecked, hreduction]
              simp [questionsFor, groupOf]

/-- A triage that succeeds follows the rule. -/
theorem triaged_of_ok (reducer : Reducer σ) {queue : List MutantId} {s t : Journaled σ}
    {groups : List ReducedKill} (hok : reducer.journaled.triage queue s = (.ok groups, t)) :
    ∃ asked, t.journal = asked.reverse ++ s.journal ∧ reducer.Triaged queue asked groups :=
  reducer.triaged_of_triageUpTo (Nat.le_refl _) hok

/-! ## What the rule makes of a mutant -/

section Questions

variable {m m' : MutantId} {answers : List (MutantId × Bool)}

theorem mem_groupOf_iff : m ∈ groupOf m' answers ↔ m = m' ∨ m ∈ answered true answers := by
  rw [groupOf, List.mem_mergeSort, List.mem_cons]

theorem nodup_answered (hnodup : (answers.map Prod.fst).Nodup) (hit : Bool) :
    (answered hit answers).Nodup :=
  hnodup.sublist (List.filter_sublist.map Prod.fst)

/-- A mutant that is asked about once gets one answer. -/
theorem not_mem_answered_of_hit (hnodup : (answers.map Prod.fst).Nodup)
    (hhit : m ∈ answered true answers) : m ∉ answered false answers := by
  intro hmissed
  have heq := List.inj_on_of_nodup_map hnodup (mem_answered_iff.mp hhit)
    (mem_answered_iff.mp hmissed) rfl
  cases heq

theorem filterMap_questionsFor (m m' : MutantId) (answers : List (MutantId × Bool))
    (path : String) :
    (questionsFor m' answers path).filterMap (Event.reduction? m) =
      if m' = m then [.ok true] else [] := by
  have hchecks : (checks answers).filterMap (Event.reduction? m) = [] := by
    rw [List.filterMap_eq_nil_iff]
    intro event hevent
    obtain ⟨answer, -, rfl⟩ := List.mem_map.mp hevent
    rfl
  by_cases h : m' = m
  · simp [questionsFor, Event.reduction?, hchecks, h]
  · simp [questionsFor, Event.reduction?, hchecks, h]

/-- To make a group touches its members only. -/
theorem untouched_questionsFor (hother : m ∉ groupOf m' answers) (path : String) :
    Untouched m (questionsFor m' answers path) [{ mutants := groupOf m' answers, path }] := by
  have hne : m' ≠ m := fun heq => hother (mem_groupOf_iff.mpr (.inl heq.symm))
  constructor
  · rw [filterMap_questionsFor, if_neg hne]
  · simpa [groupsWith_eq_zero_iff] using hother

/-- Its members are triaged by it. -/
theorem triagedOnce_questionsFor (hmember : m ∈ groupOf m' answers) (path : String) :
    TriagedOnce m (questionsFor m' answers path) [{ mutants := groupOf m' answers, path }] := by
  refine .inl ⟨by simp [groupsWith, hmember], ?_⟩
  rw [filterMap_questionsFor]
  by_cases h : m' = m
  · exact .inr (if_pos h)
  · exact .inl (if_neg h)

end Questions

namespace Triaged

variable {reducer : Reducer σ} {queue : List MutantId} {asked : List Event}
  {groups : List ReducedKill}

/-- A mutant that is not in the queue is not looked at. -/
theorem untouched (h : reducer.Triaged queue asked groups) {m : MutantId} (hm : m ∉ queue) :
    Untouched m asked groups := by
  induction h with
  | done => exact untouched_nil m
  | dropped m' hrest ih =>
      rw [List.mem_append, List.mem_singleton, not_or] at hm
      have hne : m' ≠ m := fun heq => hm.2 heq.symm
      have hdropped : Untouched m [.reduced m' (.ok false)] [] :=
        untouched_of_silent (by simp [Event.reduction?, hne])
      exact hdropped.append (ih hm.1)
  | grouped m' answers path hsaved hrest ih =>
      rw [List.mem_append, List.mem_singleton, not_or] at hm
      have hother : m ∉ groupOf m' answers := by
        rw [mem_groupOf_iff, not_or]
        exact ⟨hm.2, fun hhit => hm.1 (answered_subset true answers hhit)⟩
      exact (untouched_questionsFor hother path).append
        (ih fun hmissed => hm.1 (answered_subset false answers hmissed))

/-- Of a queue without repetitions, each member is triaged once. -/
theorem once (h : reducer.Triaged queue asked groups) (hnodup : queue.Nodup) {m : MutantId}
    (hm : m ∈ queue) : TriagedOnce m asked groups := by
  induction h with
  | done => cases hm
  | dropped m' hrest ih =>
      rw [List.nodup_append_comm, List.singleton_append, List.nodup_cons] at hnodup
      rw [List.mem_append, List.mem_singleton] at hm
      by_cases hsame : m' = m
      · subst hsame
        have hdropped : TriagedOnce m' [.reduced m' (.ok false)] [] :=
          .inr ⟨rfl, by simp [Event.reduction?]⟩
        exact hdropped.append_untouched (hrest.untouched hnodup.1)
      · have hdropped : Untouched m [.reduced m' (.ok false)] [] :=
          untouched_of_silent (by simp [Event.reduction?, hsame])
        have hother : m ≠ m' := fun heq => hsame heq.symm
        exact hdropped.append_triagedOnce (ih hnodup.2 (hm.resolve_right hother))
  | grouped m' answers path hsaved hrest ih =>
      rw [List.nodup_append_comm, List.singleton_append, List.nodup_cons] at hnodup
      rw [List.mem_append, List.mem_singleton] at hm
      by_cases hmember : m ∈ groupOf m' answers
      · have hgone : m ∉ answered false answers := by
          rcases mem_groupOf_iff.mp hmember with rfl | hhit
          · exact fun hmissed => hnodup.1 (answered_subset false answers hmissed)
          · exact not_mem_answered_of_hit hnodup.2 hhit
        exact (triagedOnce_questionsFor hmember path).append_untouched (hrest.untouched hgone)
      · have hmissed : m ∈ answered false answers := by
          rw [mem_groupOf_iff, not_or] at hmember
          obtain ⟨⟨m, hit⟩, hanswer, rfl⟩ := List.mem_map.mp (hm.resolve_right hmember.1)
          cases hit with
          | true => exact absurd (mem_answered_iff.mpr hanswer) hmember.2
          | false => exact mem_answered_iff.mpr hanswer
        exact (untouched_questionsFor hmember path).append_triagedOnce
          (ih (nodup_answered hnodup.2 false) hmissed)

/-- A group holds members of the queue only. -/
theorem mem_queue (h : reducer.Triaged queue asked groups) {group : ReducedKill}
    (hgroup : group ∈ groups) {m : MutantId} (hm : m ∈ group.mutants) : m ∈ queue := by
  by_contra hother
  exact groupsWith_eq_zero_iff.mp (h.untouched hother).ungrouped group hgroup hm

theorem saves (h : reducer.Triaged queue asked groups) {group : ReducedKill}
    (hgroup : group ∈ groups) : reducer.Saves group.mutants group.path := by
  induction h with
  | done => cases hgroup
  | dropped m hrest ih => exact ih hgroup
  | grouped m answers path hsaved hrest ih =>
      rcases List.mem_cons.mp hgroup with rfl | hlater
      · exact hsaved
      · exact ih hlater

/-- No two groups share a member. -/
theorem apart (h : reducer.Triaged queue asked groups) (hnodup : queue.Nodup) :
    groups.Pairwise fun a b => a.mutants.Disjoint b.mutants := by
  induction h with
  | done => exact .nil
  | dropped m hrest ih =>
      rw [List.nodup_append_comm, List.singleton_append, List.nodup_cons] at hnodup
      exact ih hnodup.2
  | grouped m answers path hsaved hrest ih =>
      rw [List.nodup_append_comm, List.singleton_append, List.nodup_cons] at hnodup
      refine List.pairwise_cons.mpr ⟨?_, ih (nodup_answered hnodup.2 false)⟩
      intro later hlater m' hmember hm'
      have hmissed := hrest.mem_queue hlater hm'
      rcases mem_groupOf_iff.mp hmember with rfl | hhit
      · exact hnodup.1 (answered_subset false answers hmissed)
      · exact not_mem_answered_of_hit hnodup.2 hhit hmissed

/-- A group has members, in ascending order. -/
theorem ascending (h : reducer.Triaged queue asked groups) (hnodup : queue.Nodup)
    {group : ReducedKill} (hgroup : group ∈ groups) :
    group.mutants ≠ [] ∧ group.mutants.Pairwise (· < ·) := by
  induction h with
  | done => cases hgroup
  | dropped m hrest ih =>
      rw [List.nodup_append_comm, List.singleton_append, List.nodup_cons] at hnodup
      exact ih hnodup.2 hgroup
  | grouped m answers path hsaved hrest ih =>
      rw [List.nodup_append_comm, List.singleton_append, List.nodup_cons] at hnodup
      rcases List.mem_cons.mp hgroup with rfl | hlater
      · refine ⟨List.ne_nil_of_mem (mem_groupOf_iff.mpr (.inl rfl)), ?_⟩
        have hfresh : m ∉ answered true answers :=
          fun hhit => hnodup.1 (answered_subset true answers hhit)
        exact pairwise_lt_mergeSort (List.nodup_cons.mpr ⟨hfresh, nodup_answered hnodup.2 true⟩)
      · exact ih (nodup_answered hnodup.2 false) hlater

/-- The groups are those that were saved. -/
theorem filterMap_group? (h : reducer.Triaged queue asked groups) :
    asked.filterMap Event.group? = groups := by
  have hchecks : ∀ answers, (checks answers).filterMap Event.group? = [] := by
    intro answers
    rw [List.filterMap_eq_nil_iff]
    intro event hevent
    obtain ⟨answer, -, rfl⟩ := List.mem_map.mp hevent
    rfl
  induction h with
  | done => rfl
  | dropped m hrest ih => exact ih
  | grouped m answers path hsaved hrest ih =>
      rw [List.filterMap_append, ih, questionsFor, List.cons_append,
        List.filterMap_cons_none rfl, List.filterMap_append, hchecks]
      rfl

end Triaged

end Reducer

/-! ## The triages of a search -/

namespace Campaign

variable {σ : Type}

/-- What the triage of a queue asks, and the groups it adds. -/
structure Handles (c : Campaign σ) (queue : List MutantId) (hunt : Hunt σ) (asked : List Event)
    (groups : List ReducedKill) : Prop where
  scheduler : (c.triage queue hunt).2.scheduler = hunt.scheduler
  programs : (c.triage queue hunt).2.programs = hunt.programs
  events : (c.triage queue hunt).2.events = hunt.events ++ asked
  reduced : (c.triage queue hunt).2.reduced = hunt.reduced ++ groups
  /-- Only the reducer is asked. -/
  reducer : ∀ event ∈ asked, event.asksReducer = true
  groups_eq : groups = groupsOfTriage asked
  /-- No groups come of a triage that fails. -/
  failed : ∀ e, (c.triage queue hunt).1 = .error e → groups = []
  /-- One that succeeds follows the rule. -/
  triaged : (c.triage queue hunt).1 = .ok () → c.reducer.Triaged queue asked groups

/-- A triage runs the reducer, and adds the groups that come of it. -/
theorem triage_apply (c : Campaign σ) (queue : List MutantId) (hunt : Hunt σ) :
    c.triage queue hunt =
      match c.reducer.journaled.triage queue hunt.outside with
      | (.ok groups, outside) => (.ok (), { hunt with outside, reduced := hunt.reduced ++ groups })
      | (.error e, outside) => (.error e, { hunt with outside }) := by
  by_cases hempty : queue = []
  · subst hempty
    show ((.ok (), hunt) : Except HuntError Unit × Hunt σ) =
      (.ok (), { hunt with reduced := hunt.reduced ++ [] })
    rw [List.append_nil]
  · rw [triage, if_neg (by rwa [List.isEmpty_iff]), Act.bind_apply, Hunt.outsideAct, Act.zoom]
    rcases c.reducer.journaled.triage queue hunt.outside with ⟨_ | _, _⟩ <;> rfl

theorem exists_handles (c : Campaign σ) (queue : List MutantId) (hunt : Hunt σ) :
    ∃ asked groups, c.Handles queue hunt asked groups := by
  have happly := c.triage_apply queue hunt
  obtain ⟨written, hwritten, hreducer, htells⟩ := c.reducer.logs_triage queue hunt.outside
  have hfollows := @Reducer.triaged_of_ok _ c.reducer queue hunt.outside
  rcases hrun : c.reducer.journaled.triage queue hunt.outside with ⟨result, outside⟩
  rw [hrun] at happly hwritten htells
  -- What was written, if the triage succeeded, is what the rule asks.
  have hrule : ∀ groups, result = .ok groups →
      c.reducer.Triaged queue written.reverse groups := by
    rintro groups rfl
    obtain ⟨asked, hjournal, htriaged⟩ := hfollows hrun
    have hsame := List.append_cancel_right (hwritten.symm.trans hjournal)
    rwa [hsame, List.reverse_reverse]
  refine ⟨written.reverse, result.toOption.getD [], ?_⟩
  constructor
  · rw [happly]
    cases result <;> rfl
  · rw [happly]
    cases result <;> rfl
  · refine Hunt.events_eq_append (Eq.trans ?_ hwritten)
    rw [happly]
    cases result <;> rfl
  · rw [happly]
    cases result with
    | error e => exact (List.append_nil _).symm
    | ok groups => rfl
  · exact fun event hevent => hreducer event (List.mem_reverse.mp hevent)
  · cases result with
    | error e =>
        obtain ⟨event, older, rfl, hfailure, -⟩ := htells
        rw [groupsOfTriage, if_neg (by simp [hfailure])]
        rfl
    | ok groups =>
        have hnone : (written.reverse.all fun event => event.failure?.isNone) = true := by
          rw [List.all_eq_true]
          intro event hevent
          rw [htells event (List.mem_reverse.mp hevent)]
          rfl
        rw [groupsOfTriage, if_pos hnone, (hrule groups rfl).filterMap_group?]
        rfl
  · rw [happly]
    cases result with
    | error e => exact fun _ _ => rfl
    | ok groups =>
        intro e herror
        cases herror
  · rw [happly]
    cases result with
    | error e =>
        intro hok
        cases hok
    | ok groups => exact fun _ => hrule groups rfl

end Campaign

end MutantHunt
