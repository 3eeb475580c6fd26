import Mathlib.Logic.Function.Iterate
import MutantHunt.Proofs.Search.Frame
import MutantHunt.Proofs.Search.Orderly

/-!
# A run, turn by turn

A run hunts with one program after the other and hands its report over to be stored after each.
Such a *turn* is a function on states, so what a run did is told by the number of its turns: it
ended in the state after `k` turns because nothing was left to hunt for, or it broke off in the
hunt of turn `k + 1`.  What is known after `k` turns (`Campaign.AfterTurns`) is what one turn makes
of what was known before it.

The report that is stored is read off the journal, as the last that was handed over.  A hunt writes
no report, so in a run that breaks off it is still that of the turn before.  Where a stored report
can be read back from the world, and the collaborators leave it alone there, the journal and the
world agree (`Campaign.Shelved`).

## Main results

* `counts_hunt`, `afterTurns_turn` — what a hunt adds to the journal, and what a turn makes of it.
* `exists_ending` — the three ways a run can end.
* `run_in_turns` — all that is known of a run from the start.
-/

namespace MutantHunt

/-! ## The last report -/

/-- The report that was handed over, if the event is that one was. -/
def Event.report? : Event → Option Report
  | stored report => some report
  | _ => none

/-- The report that was handed over last. -/
def lastStored (events : List Event) : Option Report :=
  (events.filterMap Event.report?).getLast?

theorem lastStored_append_of_none (events : List Event) {more : List Event}
    (hnone : ∀ event ∈ more, event.report? = none) :
    lastStored (events ++ more) = lastStored events := by
  have hmore : more.filterMap Event.report? = [] := List.filterMap_eq_nil_iff.mpr hnone
  rw [lastStored, List.filterMap_append, hmore, List.append_nil, lastStored]

theorem lastStored_concat (events : List Event) (report : Report) :
    lastStored (events ++ [.stored report]) = some report := by
  rw [lastStored, List.filterMap_append]
  exact List.getLast?_concat

theorem countP_generates_eq_zero {asked : List Event}
    (hnone : ∀ event ∈ asked, event.generates = false) : asked.countP Event.generates = 0 := by
  rw [List.countP_eq_zero]
  intro event hevent
  rw [hnone event hevent]
  exact Bool.false_ne_true

namespace Hunt

variable {σ : Type}

/-- Something is left to hunt for: a mutant is alive, and fewer programs were used than may be. -/
def GoesOn (maxPrograms : Option UInt64) (hunt : Hunt σ) : Prop :=
  hunt.scheduler.unkilledCount ≠ 0 ∧ ∀ limit, maxPrograms = some limit → hunt.programs < limit

end Hunt

namespace Campaign

variable {σ : Type}

theorem report?_of_keepsTo {baseline : Baseline} {event : Event}
    (h : KeepsTo baseline event) : event.report? = none := by
  rcases h with hreducer | ⟨batch, answer, rfl⟩
  · cases event <;> first | rfl | cases hreducer
  · rfl

theorem isOver_eq_true_iff (maxPrograms : Option UInt64) (hunt : Hunt σ) :
    isOver maxPrograms hunt = true ↔ hunt.scheduler.unkilledCount = 0 ∨
      ∃ limit, maxPrograms = some limit ∧ limit ≤ hunt.programs := by
  rw [isOver, Bool.or_eq_true, Scheduler.allKilled_iff, Option.any_eq_true]
  simp

theorem goesOn_iff (maxPrograms : Option UInt64) (hunt : Hunt σ) :
    hunt.GoesOn maxPrograms ↔ ¬isOver maxPrograms hunt = true := by
  rw [isOver_eq_true_iff, not_or, Hunt.GoesOn]
  simp

variable (c : Campaign σ) (save : Report → σ → σ) (maxPrograms : Option UInt64)

/-- One turn of a run: a hunt, whose report is handed over to be stored. -/
def turn (hunt : Hunt σ) : Hunt σ :=
  store save (c.hunt hunt).2

theorem report_store (hunt : Hunt σ) : (store save hunt).report = hunt.report := rfl

theorem events_store (hunt : Hunt σ) :
    (store save hunt).events = hunt.events ++ [.stored hunt.report] :=
  List.reverse_cons

/-! ## One hunt -/

/-- Whether the harness has a program for the next hunt. -/
def makesNext (hunt : Hunt σ) : Bool :=
  (c.harness.generate hunt.outside.world).1.isOk

/-- A hunt counts the program that it gets, and only that. -/
theorem programs_hunt (hunt : Hunt σ) :
    (c.hunt hunt).2.programs =
      if c.makesNext hunt then hunt.programs + 1 else hunt.programs := by
  rw [hunt_eq_match, makesNext]
  cases (c.harness.generate hunt.outside.world).1 with
  | error e => rfl
  | ok baseline => exact (leavesAlone_programs c).keeps_attemptKills baseline _

/-- A hunt that succeeds got its program. -/
theorem makesNext_of_hunt_eq_ok {hunt : Hunt σ} {hunted : Outcome}
    (hok : (c.hunt hunt).1 = .ok hunted) : c.makesNext hunt = true := by
  rw [hunt_eq_match] at hok
  rw [makesNext]
  cases hanswer : (c.harness.generate hunt.outside.world).1 with
  | error e =>
      rw [hanswer] at hok
      cases hok
  | ok baseline => rfl

variable {c save maxPrograms} {hunt : Hunt σ}

/-- What a hunt adds to the journal: one question for a program, and no report. -/
theorem counts_hunt (hsize : hunt.scheduler.table.size = c.tree.mutantCount) :
    (c.hunt hunt).2.events.countP Event.generates = hunt.events.countP Event.generates + 1 ∧
      (c.hunt hunt).2.events.countP Event.makesProgram =
        hunt.events.countP Event.makesProgram + (if c.makesNext hunt then 1 else 0) ∧
      lastStored (c.hunt hunt).2.events = lastStored hunt.events := by
  obtain ⟨rest, hevents, hkeeps⟩ := exists_events_hunt hsize
  have hasked : ∀ event ∈ rest, event.generates = false ∧ event.report? = none := by
    intro event hevent
    obtain ⟨baseline, -, hkept⟩ := hkeeps event hevent
    exact ⟨generates_of_keepsTo hkept, report?_of_keepsTo hkept⟩
  have hnone : ∀ event ∈ rest, event.generates = false := fun event h => (hasked event h).1
  rw [hevents]
  refine ⟨?_, ?_, ?_⟩
  · rw [List.countP_append, List.countP_cons, countP_generates_eq_zero hnone]
    rfl
  · rw [List.countP_append, List.countP_cons, countP_makesProgram_eq_zero hnone, Nat.zero_add]
    rfl
  · refine lastStored_append_of_none _ (List.forall_mem_cons.mpr ⟨rfl, ?_⟩)
    exact fun event h => (hasked event h).2

theorem size_hunt (hsize : hunt.scheduler.table.size = c.tree.mutantCount) :
    (c.hunt hunt).2.scheduler.table.size = c.tree.mutantCount := by
  rw [size_steps (steps_hunt c.admits_all (fun _ => trivial) hsize), hsize]

/-! ## One turn -/

/-- What is known of a run after so many turns, all of which succeeded. -/
structure AfterTurns (c : Campaign σ) (turns : Nat) (hunt : Hunt σ) : Prop where
  size : hunt.scheduler.table.size = c.tree.mutantCount
  programs : hunt.programs = UInt64.ofNat turns
  asked : hunt.events.countP Event.generates = turns
  made : hunt.events.countP Event.makesProgram = turns
  /-- The report of the last turn is the one that is stored. -/
  stored : lastStored hunt.events = if turns = 0 then none else some hunt.report

theorem afterTurns_start (hsmall : c.tree.mutantCount < UInt32.size) (seed : UInt64) (world : σ) :
    c.AfterTurns 0 (c.start seed world) :=
  ⟨size_start hsmall seed world, rfl, rfl, rfl, rfl⟩

/-- One more turn. -/
theorem afterTurns_turn {turns : Nat} (h : c.AfterTurns turns hunt)
    (hok : ∃ hunted, (c.hunt hunt).1 = .ok hunted) :
    c.AfterTurns (turns + 1) (c.turn save hunt) := by
  obtain ⟨hunted, hok⟩ := hok
  have hmakes := c.makesNext_of_hunt_eq_ok hok
  obtain ⟨hasked, hmade, -⟩ := counts_hunt h.size
  rw [hmakes, if_pos rfl] at hmade
  constructor
  · exact size_hunt h.size
  · show (c.hunt hunt).2.programs = _
    rw [programs_hunt, hmakes, if_pos rfl, h.programs, UInt64.ofNat_add]
    rfl
  · rw [turn, events_store, List.countP_append, hasked, h.asked]
    rfl
  · rw [turn, events_store, List.countP_append, hmade, h.made]
    rfl
  · rw [turn, events_store, lastStored_concat, if_neg (Nat.succ_ne_zero turns), report_store]

/-- Below a limit on programs there are fewer turns than that. -/
theorem AfterTurns.lt_limit {turns : Nat} (h : c.AfterTurns turns hunt) {limit : UInt64}
    (hle : turns ≤ limit.toNat) (hgoes : hunt.GoesOn (some limit)) : turns < limit.toNat := by
  have hless := UInt64.lt_iff_toNat_lt.mp (hgoes.2 limit rfl)
  rwa [h.programs, UInt64.toNat_ofNat_of_lt' (Nat.lt_of_le_of_lt hle limit.toNat_lt_size)] at hless

/-- At a limit on programs there are as many turns as that. -/
theorem AfterTurns.programs_eq_limit {turns : Nat} (h : c.AfterTurns turns hunt) {limit : UInt64}
    (hle : turns ≤ limit.toNat) (hover : limit ≤ hunt.programs) : hunt.programs = limit := by
  have hsmall : turns < UInt64.size := Nat.lt_of_le_of_lt hle limit.toNat_lt_size
  rw [h.programs] at hover ⊢
  have hmore := UInt64.le_iff_toNat_le.mp hover
  rw [UInt64.toNat_ofNat_of_lt' hsmall] at hmore
  rw [← UInt64.toNat_inj, UInt64.toNat_ofNat_of_lt' hsmall]
  exact Nat.le_antisymm hle hmore

/-- What can be read in the world is the report that was stored last, or what was there at first. -/
def Shelved (read : σ → Option Report) (first : Option Report) (hunt : Hunt σ) : Prop :=
  read hunt.outside.world = (lastStored hunt.events).or first

section Shelf

variable {read : σ → Option Report} {first : Option Report}

theorem shelved_hunt (hsheltered : c.Sheltered read)
    (hsize : hunt.scheduler.table.size = c.tree.mutantCount) (h : Shelved read first hunt) :
    Shelved read first (c.hunt hunt).2 := by
  obtain ⟨-, -, hstored⟩ := counts_hunt hsize
  rw [Shelved, hstored, ← h]
  exact hsheltered.keeps_hunt hunt

theorem shelved_store (hread : ∀ report world, read (save report world) = some report) :
    Shelved read first (store save hunt) := by
  rw [Shelved, events_store, lastStored_concat, Option.some_or]
  exact hread hunt.report hunt.outside.world

end Shelf

/-! ## Any number of turns -/

/-- All of so many turns are taken: before each there is something left to hunt for, and each hunt
succeeds. -/
def Takes (c : Campaign σ) (save : Report → σ → σ) (maxPrograms : Option UInt64) (first : Hunt σ)
    (turns : Nat) : Prop :=
  ∀ j < turns, ((c.turn save)^[j] first).GoesOn maxPrograms ∧
    ∃ hunted, (c.hunt ((c.turn save)^[j] first)).1 = .ok hunted

/-- How a run of at most `most` turns ends after `turns` of them, which led to the state `last`. -/
inductive Ending (c : Campaign σ) (save : Report → σ → σ) (maxPrograms : Option UInt64) (most : Nat)
    (turns : Nat) (last : Hunt σ) : Except HuntError (Option Report) × Hunt σ → Prop
  /-- Nothing is left to hunt for. -/
  | done (hover : isOver maxPrograms last = true) :
      Ending c save maxPrograms most turns last (.ok (some last.report), store save last)
  /-- The next hunt fails. -/
  | broken {e : HuntError} {after : Hunt σ} (hless : turns < most)
      (hgoes : last.GoesOn maxPrograms) (hfail : c.hunt last = (.error e, after)) :
      Ending c save maxPrograms most turns last (.error e, after)
  /-- There may be no more turns. -/
  | unfinished (hall : turns = most) (hgoes : last.GoesOn maxPrograms) :
      Ending c save maxPrograms most turns last (.ok none, last)

theorem runUpTo_of_isOver (hover : isOver maxPrograms hunt = true) (most : Nat) :
    c.runUpTo save maxPrograms most hunt = (.ok (some hunt.report), store save hunt) := by
  cases most with
  | zero => exact if_pos hover
  | succ most => exact if_pos hover

theorem runUpTo_zero_of_goesOn (hgoes : hunt.GoesOn maxPrograms) :
    c.runUpTo save maxPrograms 0 hunt = (.ok none, hunt) :=
  if_neg ((goesOn_iff _ _).mp hgoes)

/-- Where a run goes on, it takes a turn, or breaks off in the hunt of that turn. -/
theorem runUpTo_succ_of_goesOn (hgoes : hunt.GoesOn maxPrograms) (most : Nat) :
    c.runUpTo save maxPrograms (most + 1) hunt =
      match c.hunt hunt with
      | (.error e, after) => (.error e, after)
      | (.ok _, after) => c.runUpTo save maxPrograms most (store save after) :=
  if_neg ((goesOn_iff _ _).mp hgoes)

/-- A run is a number of turns and an ending.  By induction on how many there may be. -/
theorem exists_ending (c : Campaign σ) (save : Report → σ → σ) (maxPrograms : Option UInt64)
    (most : Nat) (hunt : Hunt σ) :
    ∃ turns ≤ most, c.Takes save maxPrograms hunt turns ∧
      c.Ending save maxPrograms most turns ((c.turn save)^[turns] hunt)
        (c.runUpTo save maxPrograms most hunt) := by
  have hnone : ∀ hunt, c.Takes save maxPrograms hunt 0 :=
    fun hunt j hj => absurd hj (Nat.not_lt_zero j)
  induction most generalizing hunt with
  | zero =>
      refine ⟨0, Nat.le_refl 0, hnone hunt, ?_⟩
      by_cases hover : isOver maxPrograms hunt = true
      · rw [runUpTo_of_isOver hover]
        exact .done hover
      · have hgoes := (goesOn_iff maxPrograms hunt).mpr hover
        rw [runUpTo_zero_of_goesOn hgoes]
        exact .unfinished rfl hgoes
  | succ most ih =>
      by_cases hover : isOver maxPrograms hunt = true
      · rw [runUpTo_of_isOver hover]
        exact ⟨0, Nat.zero_le _, hnone hunt, .done hover⟩
      · have hgoes := (goesOn_iff maxPrograms hunt).mpr hover
        rw [runUpTo_succ_of_goesOn hgoes]
        rcases hrun : c.hunt hunt with ⟨result, after⟩
        cases result with
        | error e => exact ⟨0, Nat.zero_le _, hnone hunt, .broken (Nat.succ_pos most) hgoes hrun⟩
        | ok hunted =>
            have hturn : store save after = c.turn save hunt := by rw [turn, hrun]
            obtain ⟨turns, hle, htakes, hending⟩ := ih (c.turn save hunt)
            refine ⟨turns + 1, Nat.succ_le_succ hle, ?_, ?_⟩
            · rintro (_ | j) hj
              · exact ⟨hgoes, hunted, congrArg Prod.fst hrun⟩
              · exact htakes j (Nat.lt_of_succ_lt_succ hj)
            · -- The ending is that of the turns behind the first one.
              simp only [hturn, Function.iterate_succ_apply]
              generalize c.runUpTo save maxPrograms most (c.turn save hunt) = outcome at hending ⊢
              cases hending with
              | done hover => exact .done hover
              | broken hless hgoes hfail => exact .broken (Nat.succ_lt_succ hless) hgoes hfail
              | unfinished hall hgoes => exact .unfinished (congrArg (· + 1) hall) hgoes

/-- Along turns that are taken, what is known of one turn adds up. -/
theorem afterTurns_iterate {first : Hunt σ} (hfirst : c.AfterTurns 0 first) {turns : Nat}
    (htakes : c.Takes save maxPrograms first turns) :
    ∀ j ≤ turns, c.AfterTurns j ((c.turn save)^[j] first) := by
  intro j hj
  induction j with
  | zero => exact hfirst
  | succ j ih =>
      rw [Function.iterate_succ_apply']
      exact afterTurns_turn (ih (Nat.le_of_succ_le hj)) (htakes j hj).2

theorem le_limit {first : Hunt σ} (hfirst : c.AfterTurns 0 first) {turns : Nat} {limit : UInt64}
    (htakes : c.Takes save (some limit) first turns) : ∀ j ≤ turns, j ≤ limit.toNat := by
  intro j hj
  induction j with
  | zero => exact Nat.zero_le _
  | succ j ih =>
      have hless := Nat.le_of_succ_le hj
      exact (afterTurns_iterate hfirst htakes j hless).lt_limit (ih hless) (htakes j hj).1

/-- After any number of turns what is stored can be read back: a turn ends with storing. -/
theorem shelved_iterate {first : Hunt σ} (hfirst : c.AfterTurns 0 first)
    {read : σ → Option Report} (hread : ∀ report world, read (save report world) = some report)
    (turns : Nat) : Shelved read (read first.outside.world) ((c.turn save)^[turns] first) := by
  cases turns with
  | zero =>
      rw [Function.iterate_zero_apply, Shelved, hfirst.stored, if_pos rfl, Option.none_or]
  | succ turns =>
      rw [Function.iterate_succ_apply', turn]
      exact shelved_store hread

/-! ## The end of a run -/

namespace Ending

variable {most turns : Nat} {last : Hunt σ} {outcome : Except HuntError (Option Report) × Hunt σ}

section Known

variable (hending : c.Ending save maxPrograms most turns last outcome)
  (hlast : c.AfterTurns turns last)
include hending hlast

/-- A run that fails made one more hunt than it took turns. -/
theorem asked : outcome.2.events.countP Event.generates =
    if outcome.1.isOk then turns else turns + 1 := by
  cases hending with
  | done hover =>
      rw [events_store, List.countP_append, hlast.asked]
      rfl
  | @broken e after hless hgoes hfail =>
      obtain ⟨hasked, -, -⟩ := counts_hunt hlast.size
      rwa [hfail, hlast.asked] at hasked
  | unfinished hall hgoes => exact hlast.asked

/-- Every program is counted that was made, also in a hunt that fails. -/
theorem counted :
    outcome.2.programs = UInt64.ofNat (outcome.2.events.countP Event.makesProgram) := by
  cases hending with
  | done hover =>
      rw [events_store, List.countP_append, hlast.made]
      exact hlast.programs
  | @broken e after hless hgoes hfail =>
      obtain ⟨-, hmade, -⟩ := counts_hunt hlast.size
      have hprograms := c.programs_hunt last
      rw [hfail] at hmade hprograms
      rw [hmade, hprograms, hlast.made, hlast.programs, UInt64.ofNat_add]
      cases c.makesNext last with
      | false => exact (UInt64.add_zero _).symm
      | true => rfl
  | unfinished hall hgoes => rw [hlast.made, hlast.programs]

/-- No more programs are made than may be. -/
theorem made_le {limit : UInt64} (hlimit : maxPrograms = some limit)
    (hle : turns ≤ limit.toNat) : outcome.2.events.countP Event.makesProgram ≤ limit.toNat := by
  cases hending with
  | done hover =>
      rw [events_store, List.countP_append, hlast.made]
      exact hle
  | @broken e after hless hgoes hfail =>
      obtain ⟨-, hmade, -⟩ := counts_hunt hlast.size
      have hless := hlast.lt_limit hle (hlimit ▸ hgoes)
      rw [hfail, hlast.made] at hmade
      rw [hmade]
      split <;> omega
  | unfinished hall hgoes => rwa [hlast.made]

/-- Nothing that was stored gets lost on the way to the end. -/
theorem shelved {read : σ → Option Report} {first : Option Report}
    (hread : ∀ report world, read (save report world) = some report)
    (hsheltered : c.Sheltered read) (h : Shelved read first last) :
    Shelved read first outcome.2 := by
  cases hending with
  | done hover => exact shelved_store hread
  | @broken e after hless hgoes hfail =>
      have hhunt := shelved_hunt hsheltered hlast.size h
      rwa [hfail] at hhunt
  | unfinished hall hgoes => exact h

/-- The report that a run returns is the one that is stored then, and it says why the run is
over. -/
theorem returned (hlimited : ∀ limit, maxPrograms = some limit → turns ≤ limit.toNat)
    {report : Report} (hok : outcome.1 = .ok (some report)) :
    outcome.2 = store save last ∧ report = last.report ∧
      lastStored outcome.2.events = some report ∧
      (report.unkilled = 0 ∨ maxPrograms = some report.programs) := by
  cases hending with
  | broken hless hgoes hfail => cases hok
  | unfinished hall hgoes => cases hok
  | done hover =>
      cases hok
      refine ⟨rfl, rfl, ?_, ?_⟩
      · rw [events_store, lastStored_concat]
      · rw [isOver_eq_true_iff] at hover
        refine hover.imp (fun hdead => ?_) fun hreached => ?_
        · rw [Hunt.report, hdead]
          rfl
        · obtain ⟨limit, hlimit, hreached⟩ := hreached
          rw [hlimit, Option.some.injEq]
          exact (hlast.programs_eq_limit (hlimited limit hlimit) hreached).symm

/-- A run fails as its last hunt did.  Stored is what the last turn stored. -/
theorem failed {e : HuntError} (herror : outcome.1 = .error e) :
    last.GoesOn maxPrograms ∧ c.hunt last = (.error e, outcome.2) ∧
      lastStored outcome.2.events = if turns = 0 then none else some last.report := by
  cases hending with
  | done hover => cases herror
  | unfinished hall hgoes => cases herror
  | @broken e' after hless hgoes hfail =>
      cases herror
      obtain ⟨-, -, hstored⟩ := counts_hunt hlast.size
      rw [hfail, hlast.stored] at hstored
      exact ⟨hgoes, hfail, hstored⟩

end Known

/-- A run without an end takes all the turns that it may. -/
theorem unfinished_of_eq_none (hending : c.Ending save maxPrograms most turns last outcome)
    (hnone : outcome.1 = .ok none) : turns = most ∧ last.GoesOn maxPrograms := by
  cases hending with
  | done hover => cases hnone
  | broken hless hgoes hfail => cases hnone
  | unfinished hall hgoes => exact ⟨hall, hgoes⟩

end Ending

/-- How a run goes that starts in `first`, may take `most` turns and takes so many of them. -/
structure RunsInTurns (c : Campaign σ) (save : Report → σ → σ) (maxPrograms : Option UInt64)
    (most turns : Nat) (first : Hunt σ) (outcome : Except HuntError (Option Report) × Hunt σ) :
    Prop where
  /-- The hunt of each turn was started with something left to hunt for, and succeeded. -/
  takes : c.Takes save maxPrograms first turns
  /-- Each turn made a program, which is counted. -/
  programs : ∀ j ≤ turns,
    ((c.turn save)^[j] first).events.countP Event.makesProgram = j ∧
      ((c.turn save)^[j] first).programs = UInt64.ofNat j
  /-- After each hunt, the report of the state that it left is stored. -/
  stored : ∀ j < turns, lastStored ((c.turn save)^[j + 1] first).events =
    some (c.hunt ((c.turn save)^[j] first)).2.report
  /-- What is returned is what was stored last, and tells that all are dead or the limit is
  reached. -/
  returns : ∀ report, outcome.1 = .ok (some report) →
    outcome.2 = store save ((c.turn save)^[turns] first) ∧
      report = ((c.turn save)^[turns] first).report ∧
      lastStored outcome.2.events = some report ∧
      (report.unkilled = 0 ∨ maxPrograms = some report.programs)
  /-- A failure is that of the one hunt behind all turns.  Stored is the report of the state before
  that hunt, or none by this run if it was the first. -/
  fails : ∀ e, outcome.1 = .error e →
    ((c.turn save)^[turns] first).GoesOn maxPrograms ∧
      c.hunt ((c.turn save)^[turns] first) = (.error e, outcome.2) ∧
      lastStored outcome.2.events =
        if turns = 0 then none else some ((c.turn save)^[turns] first).report
  /-- Without an end in sight, it is the number of turns that the run was bounded by. -/
  unfinished : outcome.1 = .ok none →
    turns = most ∧ ((c.turn save)^[turns] first).GoesOn maxPrograms
  /-- There was no other hunt. -/
  hunts : outcome.2.events.countP Event.generates = if outcome.1.isOk then turns else turns + 1
  counted : outcome.2.programs = UInt64.ofNat (outcome.2.events.countP Event.makesProgram)
  /-- A limit on programs is kept, and it ends a run that may take as many turns. -/
  limited : ∀ limit, maxPrograms = some limit →
    outcome.2.events.countP Event.makesProgram ≤ limit.toNat ∧ outcome.2.programs ≤ limit ∧
      (limit.toNat ≤ most → outcome.1 ≠ .ok none)
  /-- Where storing succeeds, what is stored can be read back after each turn.  So it can at the end,
  if the collaborators leave it alone in a hunt that fails. -/
  shelved : ∀ read : σ → Option Report,
    (∀ report world, read (save report world) = some report) →
      (∀ j ≤ turns, Shelved read (read first.outside.world) ((c.turn save)^[j] first)) ∧
        (c.Sheltered read → Shelved read (read first.outside.world) outcome.2)

/-- Whatever the collaborators answer and however reports are stored, a run goes in turns.  The run
of a search is the one of at most `2 ^ 64` turns. -/
theorem run_in_turns (c : Campaign σ) (hsmall : c.tree.mutantCount < UInt32.size)
    (save : Report → σ → σ) (maxPrograms : Option UInt64) (seed : UInt64) (world : σ)
    (most : Nat) :
    ∃ turns ≤ most, c.RunsInTurns save maxPrograms most turns (c.start seed world)
      (c.runUpTo save maxPrograms most (c.start seed world)) := by
  obtain ⟨turns, hmost, htakes, hending⟩ :=
    c.exists_ending save maxPrograms most (c.start seed world)
  have hfirst := afterTurns_start hsmall seed world
  generalize c.start seed world = first at *
  have hat := afterTurns_iterate hfirst htakes
  have hlast := hat turns (Nat.le_refl turns)
  have hlimited : ∀ limit, maxPrograms = some limit → turns ≤ limit.toNat := by
    intro limit hlimit
    subst hlimit
    exact le_limit hfirst htakes turns (Nat.le_refl turns)
  refine ⟨turns, hmost, htakes, ?_, ?_, fun report => hending.returned hlast hlimited,
    fun e => hending.failed hlast, hending.unfinished_of_eq_none, hending.asked hlast,
    hending.counted hlast, ?_, ?_⟩
  · exact fun j hj => ⟨(hat j hj).made, (hat j hj).programs⟩
  · intro j hj
    rw [(hat (j + 1) hj).stored, if_neg (Nat.succ_ne_zero j), Function.iterate_succ_apply', turn,
      report_store]
  · intro limit hlimit
    have hle := hlimited limit hlimit
    have hmade := hending.made_le hlast hlimit hle
    refine ⟨hmade, ?_, fun henough hnone => ?_⟩
    · rw [hending.counted hlast, UInt64.le_iff_toNat_le,
        UInt64.toNat_ofNat_of_lt' (Nat.lt_of_le_of_lt hmade limit.toNat_lt_size)]
      exact hmade
    · obtain ⟨hall, hgoes⟩ := hending.unfinished_of_eq_none hnone
      have hless := hlast.lt_limit hle (hlimit ▸ hgoes)
      omega
  · intro read hread
    have hshelved := fun j => shelved_iterate hfirst hread j
    exact ⟨fun j _ => hshelved j, fun hsheltered =>
      hending.shelved hlast hread hsheltered (hshelved turns)⟩

end Campaign

/-! ## A run that breaks off -/

/-- A world with a shelf for the latest report, and so many programs in stock. -/
structure Stock where
  shelf : Option Report
  left : Nat

namespace Campaign

/-- The campaign against the mutants of two small files, while the stock lasts. -/
def stocked : Campaign Stock where
  tree := .twoFiles
  limits := {}
  harness :=
    { generate := fun world =>
        match world.left with
        | 0 => (.error .noProgram, world)
        | left + 1 => (.ok default, { world with left })
      trial := fun _ batch => pure ((batch.findSome? deadlyInTwoFiles).getD .noEffect) }
  reducer :=
    { reduce := fun _ => pure false
      kills := fun _ => pure false
      persist := fun _ => pure default }

/-- Puts a report on the shelf. -/
def shelve (report : Report) (world : Stock) : Stock :=
  { world with shelf := some report }

theorem sheltered_stocked : stocked.Sheltered Stock.shelf where
  generate world := by
    obtain ⟨shelf, left⟩ := world
    cases left <;> rfl
  trial _ _ _ := rfl
  reducer := ⟨fun _ _ => rfl, fun _ _ => rfl, fun _ _ => rfl⟩

-- Mutant 2 survives, so there is a third hunt, for which there is no program.
example : ((stocked.runUpTo shelve none 5 (stocked.start 0 ⟨none, 2⟩)).1,
    (stocked.runUpTo shelve none 5 (stocked.start 0 ⟨none, 2⟩)).2.outside.world.shelf.map
      Report.programs) = (.error .noProgram, some 2) := by
  cbv

theorem run_in_turns_stocked :
    stocked.tree.mutantCount < UInt32.size ∧
      (∀ report world, (shelve report world).shelf = some report) ∧
      stocked.Sheltered Stock.shelf ∧
      ∃ turns ≤ 5, stocked.RunsInTurns shelve none 5 turns (stocked.start 0 ⟨none, 2⟩)
        (stocked.runUpTo shelve none 5 (stocked.start 0 ⟨none, 2⟩)) :=
  ⟨by decide, fun _ _ => rfl, sheltered_stocked,
    run_in_turns stocked (by decide) shelve none 0 ⟨none, 2⟩ 5⟩

end Campaign

end MutantHunt
