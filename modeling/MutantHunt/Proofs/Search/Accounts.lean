import MutantHunt.Proofs.Scheduler.Maximal
import MutantHunt.Proofs.Search.Settling

/-!
# The accounts of a program

To work a program is to make one attempt after the other, until there have been as many as may be,
too many in a row have failed, or there is nobody left to try.  `Campaign.Works` is the chain of
attempts without the rule that ends it, and `Campaign.Accounts` tells what the outcome says of the
chain, and why it is as long as it is.

The outcome counts the attempts that killed something by what each bisection tells, and the kills by
the table.  The two agree since a bisection tells of a kill iff somebody dies in it
(`Campaign.Tally`): the mutants of a batch that was drawn are on record and alive, so each kill that
it comes across is news.

## Main results

* `tally_pop`, `killed_iff_of_bisect_ok` — what a bisection tells of.
* `exists_worked` — the attempts that are made, and the rule that ends them.
* `program_accounted` — the outcome of a program.
-/

namespace MutantHunt

namespace Scheduler

variable {s t : Scheduler}

/-! ## Counting the dead -/

@[simp] theorem isKilled_charge (s : Scheduler) (ms : List MutantId) (m : MutantId) :
    (s.charge ms).isKilled m = s.isKilled m := by
  rw [isKilled, standing?_charge, isKilled]
  cases s.standing? m with
  | none => rfl
  | some standing => cases standing <;> rfl

/-- A kill is on record if the mutant is. -/
theorem isKilled_recordKill (s : Scheduler) {m : MutantId} (hm : m.toNat < s.table.size)
    (verdict : Verdict) : (s.recordKill m verdict).2.isKilled m = true := by
  have hbefore : s.standing? m = some s.table[m.toNat] := Array.getElem?_eq_getElem hm
  have hafter := s.standing?_recordKill m m verdict
  rw [if_pos rfl, hbefore, Option.map_some] at hafter
  rw [isKilled_of_standing? hafter]
  cases s.table[m.toNat] <;> rfl

theorem killedCount_eq_length (hsmall : s.table.size ≤ UInt32.size) :
    s.killedCount = (s.mutants.filter s.isKilled).length := by
  rw [← length_kills hsmall, kills, List.length_filterMap_eq_countP, List.countP_eq_length_filter]
  congr 1
  refine List.filter_congr fun m _ => ?_
  rw [Option.isSome_map, isKilled, verdict?]
  cases s.standing? m with
  | none => rfl
  | some standing => cases standing <;> rfl

/-- Where nobody comes to life, the dead from before are among the dead. -/
theorem killed_sublist (hsize : t.table.size = s.table.size)
    (hkept : ∀ m, s.isKilled m = true → t.isKilled m = true) :
    (s.mutants.filter s.isKilled).Sublist (t.mutants.filter t.isKilled) := by
  have hmutants : t.mutants = s.mutants := by rw [mutants, hsize, mutants]
  rw [hmutants]
  exact List.monotone_filter_right s.mutants hkept

theorem killedCount_le (hsize : t.table.size = s.table.size) (hsmall : s.table.size ≤ UInt32.size)
    (hkept : ∀ m, s.isKilled m = true → t.isKilled m = true) : s.killedCount ≤ t.killedCount := by
  rw [killedCount_eq_length hsmall, killedCount_eq_length (hsize ▸ hsmall)]
  exact (killed_sublist hsize hkept).length_le

/-- The count rises iff somebody dies. -/
theorem killedCount_lt_iff (hsize : t.table.size = s.table.size)
    (hsmall : s.table.size ≤ UInt32.size)
    (hkept : ∀ m, s.isKilled m = true → t.isKilled m = true) :
    s.killedCount < t.killedCount ↔ ∃ m, s.isKilled m = false ∧ t.isKilled m = true := by
  have hsub := killed_sublist hsize hkept
  rw [killedCount_eq_length hsmall, killedCount_eq_length (hsize ▸ hsmall)]
  constructor
  · intro hless
    by_contra hnobody
    have hback : (t.mutants.filter t.isKilled).Sublist (s.mutants.filter s.isKilled) := by
      refine killed_sublist hsize.symm fun m hdead => ?_
      cases halive : s.isKilled m with
      | true => rfl
      | false => exact absurd ⟨m, halive, hdead⟩ hnobody
    exact Nat.not_lt.mpr hback.length_le hless
  · -- The lists of the dead would be the same if they were of one length, but `m` is on the second
    -- and not on the first.
    rintro ⟨m, halive, hdead⟩
    refine Nat.lt_of_le_of_ne hsub.length_le fun hlength => ?_
    have hlisted : m ∈ t.mutants := by
      obtain ⟨verdict, hkilled⟩ := (isKilled_eq_true_iff t m).mp hdead
      refine mem_mutants_iff.mpr ⟨m.toNat, ?_, UInt32.ofNat_toNat⟩
      exact (Array.getElem?_eq_some_iff.mp hkilled).1
    have hm : m ∈ t.mutants.filter t.isKilled := List.mem_filter.mpr ⟨hlisted, hdead⟩
    rw [← hsub.eq_of_length hlength, List.mem_filter, halive] at hm
    exact Bool.false_ne_true hm.2

/-- Unless all are dead somebody is alive. -/
theorem exists_attempts?_of_allKilled (hsmall : s.table.size ≤ UInt32.size)
    (halive : s.allKilled = false) : ∃ m n, s.attempts? m = some n := by
  obtain ⟨standing, hmem, hlives⟩ := List.all_eq_false.mp halive
  obtain ⟨i, hi, rfl⟩ := List.mem_iff_getElem.mp hmem
  have hlt : i < s.table.size := by rwa [Array.length_toList] at hi
  have hm : (UInt32.ofNat i).toNat = i :=
    UInt32.toNat_ofNat_of_lt' (Nat.lt_of_lt_of_le hlt hsmall)
  refine ⟨UInt32.ofNat i, (exists_attempts?_iff (by rwa [hm])).mpr ?_⟩
  rw [isKilled, standing?, hm, Array.getElem?_eq_getElem hlt]
  simpa using hlives

end Scheduler

namespace Campaign

variable {σ : Type} {c : Campaign σ} {baseline : Baseline} {batch part : List MutantId}
  {parts : List (List MutantId)} {found : Bool} {hunt drawn after last : Hunt σ}
  {work work' : Worklist σ}

theorem isKilled_of_steps {allowed : Event → Prop} (hsteps : c.Steps allowed hunt last)
    {m : MutantId} (hdead : hunt.scheduler.isKilled m = true) :
    last.scheduler.isKilled m = true := by
  rw [Scheduler.isKilled_eq_true_iff] at hdead ⊢
  obtain ⟨verdict, hkilled⟩ := hdead
  exact ⟨verdict, standing?_of_steps_of_killed hsteps hkilled⟩

/-! ## What a bisection tells of -/

/-- A bisection that started in `drawn` has found something iff somebody has died since. -/
structure Tally (c : Campaign σ) (drawn : Hunt σ) (work : Worklist σ) : Prop where
  steps : c.Steps (fun _ => True) drawn work.hunt
  known : ∀ part ∈ work.parts, ∀ m ∈ part, m.toNat < drawn.scheduler.table.size
  found_iff : work.found = true ↔
    ∃ m, drawn.scheduler.isKilled m = false ∧ work.hunt.scheduler.isKilled m = true

/-- The kill of a mutant that was alive and on record is on record after its follow-up. -/
theorem isKilled_of_followed_up {m : MutantId} {verdict : Verdict}
    (hm : m.toNat < hunt.scheduler.table.size)
    (hdone : c.consolidate m verdict baseline (hunt.recordKill m verdict) = (.ok (), last)) :
    last.scheduler.isKilled m = true := by
  have hdead : (hunt.recordKill m verdict).scheduler.isKilled m = true :=
    hunt.scheduler.isKilled_recordKill hm verdict
  have hsteps : c.Steps (fun _ => True) (hunt.recordKill m verdict)
      (c.consolidate m verdict baseline (hunt.recordKill m verdict)).2 :=
    steps_consolidate (c.admits_all baseline) trivial verdict
  rw [hdone] at hsteps
  exact isKilled_of_steps hsteps hdead

namespace Tally

/-- Who is dead when nobody has died is who was dead. -/
theorem found_iff_of_same (h : c.Tally drawn work)
    (hsame : ∀ m, last.scheduler.isKilled m = work.hunt.scheduler.isKilled m) :
    work.found = true ↔
      ∃ m, drawn.scheduler.isKilled m = false ∧ last.scheduler.isKilled m = true := by
  simp only [hsame]
  exact h.found_iff

theorem known_tail (h : c.Tally drawn ⟨part :: parts, found, hunt⟩) :
    ∀ p ∈ parts, ∀ m ∈ p, m.toNat < drawn.scheduler.table.size :=
  fun p hp => h.known p (List.mem_cons_of_mem part hp)

theorem known_halves (h : c.Tally drawn ⟨part :: parts, found, hunt⟩) (half : Nat) :
    ∀ p ∈ (hunt.living part).take half :: (hunt.living part).drop half :: parts,
      ∀ m ∈ p, m.toNat < drawn.scheduler.table.size := by
  have hpart : ∀ m ∈ hunt.living part, m.toNat < drawn.scheduler.table.size :=
    fun m hm => h.known part List.mem_cons_self m (Hunt.mem_living_iff.mp hm).1
  refine List.forall_mem_cons.mpr ⟨fun m hm => hpart m (List.mem_of_mem_take hm), ?_⟩
  exact List.forall_mem_cons.mpr ⟨fun m hm => hpart m (List.mem_of_mem_drop hm), h.known_tail⟩

/-- A single mutant that dies was alive before the round, and so it was at the start. -/
theorem exists_died (h : c.Tally drawn ⟨part :: parts, found, hunt⟩) {m : MutantId}
    (hone : hunt.living part = [m]) {verdict : Verdict}
    (hrun : c.trial baseline [m] hunt = (.ok verdict, after))
    (hdone : c.consolidate m verdict baseline (after.recordKill m verdict) = (.ok (), last)) :
    ∃ m, drawn.scheduler.isKilled m = false ∧ last.scheduler.isKilled m = true := by
  have hlisted : m ∈ hunt.living part := hone ▸ List.mem_singleton_self m
  obtain ⟨hm, halive⟩ := Hunt.mem_living_iff.mp hlisted
  refine ⟨m, ?_, isKilled_of_followed_up ?_ hdone⟩
  · cases hbefore : drawn.scheduler.isKilled m with
    | false => rfl
    | true =>
        rw [isKilled_of_steps h.steps hbefore] at halive
        cases halive
  · rw [scheduler_of_trial hrun, size_steps h.steps]
    exact h.known part List.mem_cons_self m hm

end Tally

/-- A round that kills somebody tells so, and after any other the same are dead as before. -/
theorem tally_pop (h : c.Tally drawn work) (hpop : c.Pop baseline work work') :
    c.Tally drawn work' := by
  have hsteps := h.steps.trans (steps_of_pop hpop)
  cases hpop with
  | dead hdead => exact ⟨hsteps, h.known_tail, h.found_iff⟩
  | @miss part parts found hunt after verdict hne hrun hmiss =>
      refine ⟨hsteps, h.known_tail, h.found_iff_of_same fun m => ?_⟩
      rw [← scheduler_of_trial hrun]
      exact Scheduler.isKilled_charge after.scheduler (hunt.living part) m
  | kill hone hrun hkill hdone =>
      exact ⟨hsteps, h.known_tail, fun _ => h.exists_died hone hrun hdone, fun _ => rfl⟩
  | split hne htwo hrun hkill =>
      refine ⟨hsteps, h.known_halves _, h.found_iff_of_same fun m => ?_⟩
      rw [scheduler_of_trial hrun]

/-- A bisection tells of a kill iff the table of kills has grown. -/
theorem killed_iff_of_bisect_ok (hsmall : drawn.scheduler.table.size ≤ UInt32.size)
    (hknown : ∀ m ∈ batch, m.toNat < drawn.scheduler.table.size) {killed : Bool}
    (hok : c.bisect baseline batch drawn = (.ok killed, last)) :
    killed = true ↔ drawn.scheduler.killedCount < last.scheduler.killedCount := by
  have hstart : c.Tally drawn ⟨[batch], false, drawn⟩ := by
    refine ⟨.refl, fun p hp => ?_, ⟨fun hfound => absurd hfound Bool.false_ne_true, ?_⟩⟩
    · rwa [List.mem_singleton.mp hp]
    · rintro ⟨m, halive, hdead⟩
      rw [halive] at hdead
      cases hdead
  have hend : c.Tally drawn ⟨[], killed, last⟩ := by
    have hpops := pops_of_bisect_ok hok
    generalize (⟨[], killed, last⟩ : Worklist σ) = work' at hpops
    induction hpops with
    | refl => exact hstart
    | tail _ hpop ih => exact tally_pop ih hpop
  rw [Scheduler.killedCount_lt_iff (size_steps hend.steps) hsmall
    fun m hdead => isKilled_of_steps hend.steps hdead]
  exact hend.found_iff

end Campaign

/-! ## Attempts -/

/-- One attempt at a program. -/
structure Attempt (σ : Type) where
  /-- The search when the attempt is started. -/
  before : Hunt σ
  batch : List MutantId
  /-- The search when the batch is drawn. -/
  drawn : Hunt σ
  /-- What the bisection tells. -/
  killed : Bool
  after : Hunt σ

/-- How many attempts at the end of a row have failed. -/
def failuresInARow {σ : Type} (attempts : List (Attempt σ)) : Nat :=
  (attempts.reverse.takeWhile fun attempt => !attempt.killed).length

theorem failuresInARow_concat {σ : Type} (attempts : List (Attempt σ)) (attempt : Attempt σ) :
    failuresInARow (attempts ++ [attempt]) =
      if attempt.killed then 0 else failuresInARow attempts + 1 := by
  rw [failuresInARow, List.reverse_append, List.reverse_singleton, List.singleton_append,
    List.takeWhile_cons]
  cases attempt.killed <;> rfl

namespace Campaign

variable {σ : Type} (c : Campaign σ)

/-- An attempt that is made: a batch of some mutants is drawn and bisected. -/
structure Makes (baseline : Baseline) (attempt : Attempt σ) : Prop where
  select : c.select attempt.before = (.ok attempt.batch, attempt.drawn)
  nonempty : attempt.batch ≠ []
  bisect : c.bisect baseline attempt.batch attempt.drawn = (.ok attempt.killed, attempt.after)

/-- Attempts that are made one after the other lead from one state to another. -/
inductive Works (baseline : Baseline) : Hunt σ → List (Attempt σ) → Hunt σ → Prop
  | none (hunt : Hunt σ) : Works baseline hunt [] hunt
  | more {attempt : Attempt σ} {rest : List (Attempt σ)} {last : Hunt σ}
      (hmade : c.Makes baseline attempt) (hrest : Works baseline attempt.after rest last) :
      Works baseline attempt.before (attempt :: rest) last

variable {c} {baseline : Baseline} {attempt : Attempt σ} {attempts earlier : List (Attempt σ)}
  {hunt after stop : Hunt σ}

namespace Makes

section Sized

variable (h : c.Makes baseline attempt)
  (hsize : attempt.before.scheduler.table.size = c.tree.mutantCount)
include h hsize

theorem steps : c.Steps (fun _ => True) attempt.before attempt.after :=
  steps_attempt (c.admits_all baseline) hsize h.select h.bisect

theorem size_after : attempt.after.scheduler.table.size = c.tree.mutantCount := by
  rw [size_steps (h.steps hsize), hsize]

variable (hsmall : c.tree.mutantCount < UInt32.size)
include hsmall

theorem killedCount_le :
    attempt.before.scheduler.killedCount ≤ attempt.after.scheduler.killedCount := by
  have hsteps := h.steps hsize
  refine Scheduler.killedCount_le (size_steps hsteps) ?_ fun m => isKilled_of_steps hsteps
  rw [hsize]
  exact Nat.le_of_lt hsmall

/-- An attempt tells of a kill iff the table of kills has grown in it. -/
theorem killed_iff : attempt.killed = true ↔
    attempt.before.scheduler.killedCount < attempt.after.scheduler.killedCount := by
  have hdrawn : attempt.drawn.scheduler.table = attempt.before.scheduler.table :=
    table_of_select h.select
  have hcount : attempt.drawn.scheduler.killedCount = attempt.before.scheduler.killedCount := by
    rw [Scheduler.killedCount, hdrawn, Scheduler.killedCount]
  rw [← hcount]
  refine killed_iff_of_bisect_ok ?_ (fun m hm => ?_) h.bisect
  · rw [hdrawn, hsize]
    exact Nat.le_of_lt hsmall
  · rw [hdrawn]
    exact Scheduler.lt_size_of_attempts?
      (Scheduler.attempts?_of_mem_select (select_eq_ok h.select) hm)

end Sized

end Makes

namespace Works

section Sized

variable (h : c.Works baseline hunt attempts stop)
  (hsize : hunt.scheduler.table.size = c.tree.mutantCount)
include h hsize

theorem steps : c.Steps (fun _ => True) hunt stop := by
  induction h with
  | none hunt => exact .refl
  | more hmade hrest ih => exact (hmade.steps hsize).trans (ih (hmade.size_after hsize))

/-- Every attempt of a row is made, in a state with all mutants on record. -/
theorem makes : ∀ attempt ∈ attempts, c.Makes baseline attempt ∧
    attempt.before.scheduler.table.size = c.tree.mutantCount := by
  induction h with
  | none hunt => exact fun _ h => absurd h List.not_mem_nil
  | more hmade hrest ih =>
      exact List.forall_mem_cons.mpr ⟨⟨hmade, hsize⟩, ih (hmade.size_after hsize)⟩

variable (hsmall : c.tree.mutantCount < UInt32.size)
include hsmall

/-- The table of kills grows in each attempt that tells of a kill, and in no other. -/
theorem killedCount_add_le :
    hunt.scheduler.killedCount + attempts.countP Attempt.killed ≤ stop.scheduler.killedCount ∧
      (attempts.countP Attempt.killed = 0 →
        stop.scheduler.killedCount = hunt.scheduler.killedCount) := by
  induction h with
  | none hunt => exact ⟨Nat.le_refl _, fun _ => rfl⟩
  | @more attempt rest last hmade hrest ih =>
      obtain ⟨hle, hsame⟩ := ih (hmade.size_after hsize)
      have hgrows := hmade.killed_iff hsize hsmall
      have hmore := hmade.killedCount_le hsize hsmall
      rw [List.countP_cons]
      cases hkilled : attempt.killed with
      | true =>
          have hless := hgrows.mp hkilled
          simp only [if_true]
          exact ⟨by omega, fun h => by omega⟩
      | false =>
          have hnone : ¬attempt.before.scheduler.killedCount <
              attempt.after.scheduler.killedCount := by
            rw [← hgrows, hkilled]
            exact Bool.false_ne_true
          simp only [Bool.false_eq_true, if_false, Nat.add_zero]
          exact ⟨by omega, fun h => by rw [hsame h]; omega⟩

end Sized

end Works

/-! ## The rule that ends them -/

/-- With nobody drawn although somebody is alive, there was room for nobody. -/
theorem batch_eq_zero_of_select_nil (hsmall : stop.scheduler.table.size ≤ UInt32.size)
    (hdraw : c.select stop = (.ok [], after)) (halive : stop.scheduler.allKilled = false) :
    c.limits.batch = 0 := by
  by_contra hroom
  obtain ⟨m, n, hn⟩ := Scheduler.exists_attempts?_of_allKilled hsmall halive
  obtain ⟨m', hwaits⟩ := Scheduler.exists_waiting hn
  rcases Scheduler.covers_of_select_ok (select_eq_ok hdraw) (Nat.pos_of_ne_zero hroom) hwaits with
    hin | ⟨chosen, hin, -⟩
  · cases hin
  · cases hin

/-- Attempts that are made after some earlier ones, at most `left` of them, and why there are no
more. -/
structure Worked (c : Campaign σ) (baseline : Baseline) (left : Nat) (earlier : List (Attempt σ))
    (before : Hunt σ) (attempts : List (Attempt σ)) (after : Hunt σ) : Prop where
  made : ∃ stop, c.Works baseline before attempts stop ∧
    (after = stop ∨ c.select stop = (.ok [], after))
  limited : attempts.length ≤ left
  started : ∀ front attempt back, attempts = front ++ attempt :: back →
    attempt.before.scheduler.allKilled = false ∧
      failuresInARow (earlier ++ front) < c.limits.failures
  stopped : attempts.length = left ∨ failuresInARow (earlier ++ attempts) = c.limits.failures ∨
    after.scheduler.allKilled = true ∨ c.limits.batch = 0

namespace Worked

section Sized

variable {left : Nat} (h : c.Worked baseline left earlier hunt attempts after)
  (hsize : hunt.scheduler.table.size = c.tree.mutantCount)
include h hsize

/-- The attempts are a path, and so is the batch of nobody that may be drawn at their end. -/
theorem steps : c.Steps (fun _ => True) hunt after := by
  obtain ⟨stop, hworks, hend⟩ := h.made
  refine (hworks.steps hsize).trans ?_
  rcases hend with rfl | hdraw
  · exact .refl
  · rw [show after = (c.select stop).2 by rw [hdraw]]
    exact .single .select

variable (hsmall : c.tree.mutantCount < UInt32.size)
include hsmall

theorem killed_iff : ∀ attempt ∈ attempts, attempt.killed = true ↔
    attempt.before.scheduler.killedCount < attempt.after.scheduler.killedCount := by
  obtain ⟨stop, hworks, -⟩ := h.made
  intro attempt hmem
  obtain ⟨hmade, hsize'⟩ := hworks.makes hsize attempt hmem
  exact hmade.killed_iff hsize' hsmall

theorem killedCount_add_le :
    hunt.scheduler.killedCount + attempts.countP Attempt.killed ≤ after.scheduler.killedCount ∧
      (attempts.countP Attempt.killed = 0 →
        after.scheduler.killedCount = hunt.scheduler.killedCount) := by
  obtain ⟨stop, hworks, hend⟩ := h.made
  have htable : after.scheduler.table = stop.scheduler.table := by
    rcases hend with rfl | hdraw
    · rfl
    · exact table_of_select hdraw
  have hcount : after.scheduler.killedCount = stop.scheduler.killedCount := by
    rw [Scheduler.killedCount, htable, Scheduler.killedCount]
  rw [hcount]
  exact hworks.killedCount_add_le hsize hsmall

end Sized

end Worked

theorem worked_none {left : Nat} (hlast : after = hunt ∨ c.select hunt = (.ok [], after))
    (hstopped : 0 = left ∨ failuresInARow earlier = c.limits.failures ∨
      after.scheduler.allKilled = true ∨ c.limits.batch = 0) :
    c.Worked baseline left earlier hunt [] after := by
  refine ⟨⟨hunt, .none hunt, hlast⟩, Nat.zero_le _, fun front a back heq => ?_, ?_⟩
  · simp at heq
  · rwa [List.append_nil]

theorem worked_more {left : Nat} (hmade : c.Makes baseline attempt)
    (halive : attempt.before.scheduler.allKilled = false)
    (hfew : failuresInARow earlier < c.limits.failures)
    (hrest : c.Worked baseline left (earlier ++ [attempt]) attempt.after attempts after) :
    c.Worked baseline (left + 1) earlier attempt.before (attempt :: attempts) after := by
  obtain ⟨⟨stop, hworks, hlast⟩, hlimited, hstarted, hstopped⟩ := hrest
  refine ⟨⟨stop, .more hmade hworks, hlast⟩, Nat.succ_le_succ hlimited, ?_, ?_⟩
  · rintro (_ | ⟨first, front⟩) a back heq
    · cases heq
      rw [List.append_nil]
      exact ⟨halive, hfew⟩
    · cases heq
      have hlater := hstarted front a back rfl
      rwa [List.append_assoc] at hlater
  · rw [List.append_assoc] at hstopped
    exact hstopped.imp_left (congrArg (· + 1))

/-- What is left to do after an attempt is what there is to do with one attempt fewer. -/
theorem attemptUpTo_succ_cases {left failures : Nat} {outcome result : Outcome}
    (hok : c.attemptUpTo baseline (left + 1) failures outcome hunt = (.ok result, after)) :
    ((c.limits.failures ≤ failures ∨ hunt.scheduler.allKilled = true) ∧
        result = outcome ∧ after = hunt) ∨
      (failures < c.limits.failures ∧ hunt.scheduler.allKilled = false ∧
        ((c.select hunt = (.ok [], after) ∧ result = outcome) ∨
          ∃ attempt, attempt.before = hunt ∧ c.Makes baseline attempt ∧
            c.attemptUpTo baseline left (if attempt.killed then 0 else failures + 1)
              { outcome with
                attempts := outcome.attempts + 1
                successful := outcome.successful + if attempt.killed then 1 else 0 }
              attempt.after = (.ok result, after))) := by
  unfold attemptUpTo at hok
  rw [Act.bind_of_ok (Act.get_apply hunt)] at hok
  split at hok
  · rename_i hstop
    cases hok
    exact .inl ⟨hstop, rfl, rfl⟩
  · rename_i hgoes
    rw [not_or, Nat.not_le, Bool.not_eq_true] at hgoes
    obtain ⟨batch, drawn, hdraw, hok⟩ := Act.exists_of_bind_eq_ok hok
    refine .inr ⟨hgoes.1, hgoes.2, ?_⟩
    split at hok
    · rename_i hempty
      rw [List.isEmpty_iff] at hempty
      subst hempty
      cases hok
      exact .inl ⟨hdraw, rfl⟩
    · rename_i hsome
      obtain ⟨killed, last, hbisect, hok⟩ := Act.exists_of_bind_eq_ok hok
      rw [Act.bind_of_ok (Act.get_apply last)] at hok
      obtain ⟨_, checked, hcheck, hok⟩ := Act.exists_of_bind_eq_ok hok
      cases (Prod.mk.inj hcheck).2
      refine .inr ⟨⟨hunt, batch, drawn, killed, last⟩, rfl,
        ⟨hdraw, fun hempty => hsome (List.isEmpty_iff.mpr hempty), hbisect⟩, ?_⟩
      cases killed with
      | true => exact hok
      | false => exact hok

/-- What the attempts at a program are, and what is counted of them.  By induction on how many there
may be.  The program carries the count of failures in a row along; here it is read off the earlier
attempts. -/
theorem exists_worked (hsmall : c.tree.mutantCount < UInt32.size)
    (hsize : hunt.scheduler.table.size = c.tree.mutantCount) {left : Nat}
    {outcome result : Outcome} (hfew : failuresInARow earlier ≤ c.limits.failures)
    (hok : c.attemptUpTo baseline left (failuresInARow earlier) outcome hunt =
      (.ok result, after)) :
    ∃ attempts, c.Worked baseline left earlier hunt attempts after ∧
      result = { outcome with
        attempts := outcome.attempts + attempts.length
        successful := outcome.successful + attempts.countP Attempt.killed } := by
  induction left generalizing hunt earlier outcome with
  | zero =>
      cases hok
      exact ⟨[], worked_none (.inl rfl) (.inl rfl), rfl⟩
  | succ left ih =>
      rcases attemptUpTo_succ_cases hok with
        ⟨hstop, rfl, rfl⟩ | ⟨hless, halive, ⟨hdraw, rfl⟩ | ⟨attempt, rfl, hmade, hrest⟩⟩
      · refine ⟨[], worked_none (.inl rfl) (.inr ?_), rfl⟩
        rcases hstop with hmany | hdead
        · exact .inl (Nat.le_antisymm hfew hmany)
        · exact .inr (.inl hdead)
      · refine ⟨[], worked_none (.inr hdraw) (.inr (.inr (.inr ?_))), rfl⟩
        exact batch_eq_zero_of_select_nil (hsize ▸ Nat.le_of_lt hsmall) hdraw halive
      · rw [← failuresInARow_concat] at hrest
        have hfew' : failuresInARow (earlier ++ [attempt]) ≤ c.limits.failures := by
          rw [failuresInARow_concat]
          split <;> omega
        obtain ⟨attempts, hworked, rfl⟩ := ih (hmade.size_after hsize) hfew' hrest
        refine ⟨attempt :: attempts, worked_more hmade halive hless hworked, ?_⟩
        simp only [List.length_cons, List.countP_cons, Outcome.mk.injEq, and_true]
        omega

/-- Working a program is to make attempts at it, none earlier, and to compare the tables of kills. -/
theorem exists_worked_of_attemptKills_ok (hsmall : c.tree.mutantCount < UInt32.size)
    (hsize : hunt.scheduler.table.size = c.tree.mutantCount) {outcome : Outcome}
    (hok : c.attemptKills baseline hunt = (.ok outcome, after)) :
    ∃ attempts, c.Worked baseline c.limits.attempts [] hunt attempts after ∧
      outcome.attempts = attempts.length ∧
      outcome.successful = attempts.countP Attempt.killed ∧
      outcome.kills = after.scheduler.killedCount - hunt.scheduler.killedCount := by
  unfold attemptKills at hok
  rw [Act.bind_of_ok (Act.get_apply hunt)] at hok
  obtain ⟨result, last, hattempts, hok⟩ := Act.exists_of_bind_eq_ok hok
  rw [Act.bind_of_ok (Act.get_apply last)] at hok
  cases hok
  have hnone : failuresInARow ([] : List (Attempt σ)) ≤ c.limits.failures := Nat.zero_le _
  obtain ⟨attempts, hworked, rfl⟩ := exists_worked hsmall hsize hnone hattempts
  exact ⟨attempts, hworked, Nat.zero_add _, Nat.zero_add _, rfl⟩

/-- What the outcome of working a program tells of the attempts that were made. -/
structure Accounts (c : Campaign σ) (baseline : Baseline) (before : Hunt σ)
    (attempts : List (Attempt σ)) (outcome : Outcome) (after : Hunt σ) : Prop where
  /-- The attempts were made one after the other, and after the last of them no other batch was
  drawn. -/
  made : ∃ stop, c.Works baseline before attempts stop ∧
    (after = stop ∨ c.select stop = (.ok [], after))
  limited : outcome.attempts ≤ c.limits.attempts
  counted : outcome.attempts = attempts.length
  successful : outcome.successful = attempts.countP Attempt.killed
  /-- A bisection told of a kill in just those attempts in which the table of kills grew. -/
  grew : ∀ attempt ∈ attempts, attempt.killed = true ↔
    attempt.before.scheduler.killedCount < attempt.after.scheduler.killedCount
  /-- No kill is ever taken back. -/
  lasting : ∀ m verdict, before.scheduler.verdict? m = some verdict →
    after.scheduler.verdict? m = some verdict
  kills : after.scheduler.killedCount = before.scheduler.killedCount + outcome.kills
  successful_le : outcome.successful ≤ outcome.kills
  kills_eq_zero_iff : outcome.kills = 0 ↔ outcome.successful = 0
  /-- Each attempt was started with somebody alive, and after few enough attempts, failures in a row
  among them. -/
  started : ∀ earlier attempt later, attempts = earlier ++ attempt :: later →
    attempt.before.scheduler.allKilled = false ∧ earlier.length < c.limits.attempts ∧
      failuresInARow earlier < c.limits.failures
  stopped : outcome.attempts = c.limits.attempts ∨ failuresInARow attempts = c.limits.failures ∨
    after.scheduler.allKilled = true ∨ c.limits.batch = 0

/-- Whatever the limits and the collaborators, if a program is worked to its end from a reachable
state then the outcome accounts for the attempts that were made. -/
theorem program_accounted (c : Campaign σ) (hsmall : c.tree.mutantCount < UInt32.size)
    (seed : UInt64) (world : σ) (calls : List Call) {baseline : Baseline} {outcome : Outcome}
    {after : Hunt σ}
    (hok : c.attemptKills baseline (c.performAll (c.start seed world) calls) =
      (.ok outcome, after)) :
    ∃ attempts, c.Accounts baseline (c.performAll (c.start seed world) calls) attempts outcome
      after := by
  have hsize := size_performAll hsmall seed world calls
  generalize c.performAll (c.start seed world) calls = hunt at *
  obtain ⟨attempts, hworked, hcounted, hsuccessful, hkills⟩ :=
    exists_worked_of_attemptKills_ok hsmall hsize hok
  obtain ⟨hle, hsame⟩ := hworked.killedCount_add_le hsize hsmall
  refine ⟨attempts, hworked.made, ?_, hcounted, hsuccessful, hworked.killed_iff hsize hsmall, ?_,
    ?_, ?_, ?_, ?_, ?_⟩
  · rw [hcounted]
    exact hworked.limited
  · intro m verdict hdead
    rw [Scheduler.verdict?_eq_some_iff] at hdead ⊢
    exact standing?_of_steps_of_killed (hworked.steps hsize) hdead
  · omega
  · omega
  · rw [hsuccessful, hkills]
    constructor
    · intro hnobody
      omega
    · intro hfailed
      rw [hsame hfailed, Nat.sub_self]
  · intro earlier attempt later heq
    obtain ⟨halive, hfew⟩ := hworked.started earlier attempt later heq
    have hlimited := hworked.limited
    rw [heq, List.length_append, List.length_cons] at hlimited
    exact ⟨halive, by omega, hfew⟩
  · rw [hcounted]
    exact hworked.stopped

/-- The program kills mutant 1 with its relative 0 in one attempt, and is given up after ten more at
mutant 2. -/
theorem program_accounted_twoFiles :
    twoFiles.tree.mutantCount < UInt32.size ∧
      twoFiles.attemptKills default
          (twoFiles.performAll (twoFiles.start 0 ()) [.bisect default [2]]) =
        (.ok ⟨11, 1, 2⟩, (twoFiles.attemptKills default
          (twoFiles.performAll (twoFiles.start 0 ()) [.bisect default [2]])).2) ∧
      ∃ attempts, twoFiles.Accounts default
        (twoFiles.performAll (twoFiles.start 0 ()) [.bisect default [2]]) attempts ⟨11, 1, 2⟩
        (twoFiles.attemptKills default
          (twoFiles.performAll (twoFiles.start 0 ()) [.bisect default [2]])).2 := by
  have hok : twoFiles.attemptKills default
      (twoFiles.performAll (twoFiles.start 0 ()) [.bisect default [2]]) =
        (.ok ⟨11, 1, 2⟩, (twoFiles.attemptKills default
          (twoFiles.performAll (twoFiles.start 0 ()) [.bisect default [2]])).2) :=
    Prod.ext (by decide +kernel) rfl
  exact ⟨by decide, hok, program_accounted twoFiles (by decide) 0 () _ hok⟩

end Campaign

end MutantHunt
