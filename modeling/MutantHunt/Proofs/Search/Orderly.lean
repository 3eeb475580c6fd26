import MutantHunt.Proofs.Search.Desk
import MutantHunt.Proofs.Search.Failure
import MutantHunt.Proofs.Search.Legality

/-!
# A failure leaves the books in order

Attempts and hunts have nothing of their own to fail by: every failure is that of the last question
they asked.  What was booked before stays, and nothing is booked for the question that failed.
`Hunt.Orderly` says this of an outcome and the questions that led to it, and says of each part of
the state how it follows from the questions: the tables from the trials, the groups from the
triages that went through, and the number of programs from the question for one.

## Main results

* `accounted_move` — each move of a search books what its questions tell.
* `errors_orderly` — attempts and hunts are orderly in every reachable state.
-/

namespace MutantHunt

/-- What trials, oldest first, make of the standing of a mutant. -/
def Standing.retell (trials : List Trial) (m : MutantId) (standing : Standing) : Standing :=
  trials.foldl (fun standing t => t.update m standing) standing

namespace Event

/-- Whether the question was for a program. -/
def generates : Event → Bool
  | generated _ => true
  | _ => false

/-- Whether a program was made. -/
def makesProgram : Event → Bool
  | generated answer => answer.isOk
  | _ => false

theorem generates_of_asksReducer {event : Event} (h : event.asksReducer = true) :
    event.generates = false := by
  cases event <;> first | rfl | cases h

theorem makesProgram_of_generates {event : Event} (h : event.generates = false) :
    event.makesProgram = false := by
  cases event <;> first | rfl | cases h

end Event

theorem countP_makesProgram_eq_zero {asked : List Event}
    (hnone : ∀ event ∈ asked, event.generates = false) :
    asked.countP Event.makesProgram = 0 := by
  rw [List.countP_eq_zero]
  intro event hevent
  rw [Event.makesProgram_of_generates (hnone event hevent)]
  exact Bool.false_ne_true

/-- The outcome of an act that started in `before` and asked these questions, oldest first. -/
structure Hunt.Orderly {σ α : Type} (before : Hunt σ) (asked : List Event)
    (outcome : Except HuntError α × Hunt σ) : Prop where
  /-- Nothing else was asked. -/
  events : outcome.2.events = before.events ++ asked
  /-- If the act succeeded then so did every question. -/
  succeeds : ∀ a, outcome.1 = .ok a → ∀ event ∈ asked, event.failure? = none
  /-- If it failed then it did so as the last question, the only one that failed, and the tables
  are what the trials before that question make of them. -/
  fails : ∀ e, outcome.1 = .error e → ∃ earlier last, asked = earlier ++ [last] ∧
    last.failure? = some e ∧ (∀ event ∈ earlier, event.failure? = none) ∧
    ∀ m, outcome.2.scheduler.standing? m =
      (before.scheduler.standing? m).map (Standing.retell (earlier.filterMap Event.trial?) m)
  /-- Either way the tables are what all of the trials make of them. -/
  tables : ∀ m, outcome.2.scheduler.standing? m =
    (before.scheduler.standing? m).map (Standing.retell (asked.filterMap Event.trial?) m)
  /-- The groups that are new are those of the triages that went through. -/
  reduced : outcome.2.reduced = before.reduced ++ groupsIn asked
  check : outcome.2.scheduler.check = .ok ()

/-- What was asked is what the journal says, read from the other end. -/
theorem Hunt.asked_eq_reverse {σ : Type} {before after : Hunt σ} {asked written : List Event}
    (hevents : after.events = before.events ++ asked)
    (hwritten : after.journal = written ++ before.journal) : asked = written.reverse :=
  List.append_cancel_left (hevents.symm.trans (Hunt.events_eq_append hwritten))

/-! ## The books, move by move -/

/-- What a search that started in `before` and is at a desk now has booked for its questions. -/
structure Desk.Accounted {σ : Type} (before : Hunt σ) (asked : List Event) (desk : Desk σ) :
    Prop where
  events : desk.hunt.events = before.events ++ asked
  reduced : desk.hunt.reduced = before.reduced ++ groupsIn asked
  programs : desk.hunt.programs =
    before.programs + UInt64.ofNat (asked.countP Event.makesProgram)
  /-- What waits for triage came of a question to the harness, and the next triage is another one
  than the last. -/
  waiting : desk.queue ≠ [] →
    ∃ earlier event, asked = earlier ++ [event] ∧ event.asksReducer = false

namespace Desk.Accounted

variable {σ : Type} {before : Hunt σ} {asked : List Event} {desk : Desk σ}

/-- A question to the harness that changes neither the groups nor the number of programs. -/
theorem concat (h : desk.Accounted before asked) {event : Event}
    (hother : event.asksReducer = false) (hprogram : event.makesProgram = false)
    {queue : List MutantId} {after : Hunt σ} (hevents : after.events = desk.hunt.events ++ [event])
    (hreduced : after.reduced = desk.hunt.reduced)
    (hprograms : after.programs = desk.hunt.programs) :
    Desk.Accounted before (asked ++ [event]) ⟨queue, after⟩ where
  events := by rw [hevents, h.events, List.append_assoc]
  reduced := by rw [hreduced, h.reduced, groupsIn_concat asked hother]
  programs := by
    rw [hprograms, h.programs, List.countP_append, List.countP_singleton, hprogram]
    rfl
  waiting := fun _ => ⟨asked, event, rfl, hother⟩

/-- Nothing is said of an empty queue. -/
theorem emptied (h : desk.Accounted before asked) : Desk.Accounted before asked ⟨[], desk.hunt⟩ :=
  ⟨h.events, h.reduced, h.programs, fun hne => absurd rfl hne⟩

end Desk.Accounted

namespace Campaign

variable {σ : Type} {c : Campaign σ} {lossy : Prop} {before : Hunt σ} {asked : List Event}
  {desk desk' : Desk σ}

/-- Each move books what it asks. -/
theorem accounted_move (h : desk.Accounted before asked) (hmove : c.Move lossy desk desk') :
    ∃ more, desk'.Accounted before (asked ++ more) := by
  cases hmove with
  | trial baseline batch hne hliving =>
      refine ⟨_, h.concat rfl rfl (Hunt.events_eq_append (c.tryOut_journal _ _ _)) ?_ ?_⟩
      · rw [tryOut, Hunt.settle_eq]
        rfl
      · rw [tryOut, Hunt.settle_eq]
        rfl
  | select =>
      refine ⟨[], ?_⟩
      rw [List.append_nil]
      exact ⟨h.events, h.reduced, h.programs, h.waiting⟩
  | triage hfate =>
      by_cases hempty : desk.queue = []
      · refine ⟨[], ?_⟩
        rw [List.append_nil, hempty]
        exact h.emptied
      · obtain ⟨more, groups, hhandles⟩ := c.exists_handles desk.queue desk.hunt
        obtain ⟨earlier, event, hlast, hother⟩ := h.waiting hempty
        have hsilent : more.countP Event.makesProgram = 0 := countP_makesProgram_eq_zero
          fun event hevent => Event.generates_of_asksReducer (hhandles.reducer event hevent)
        refine ⟨more, ?_, ?_, ?_, fun hne => absurd rfl hne⟩
        · rw [hhandles.events, h.events, List.append_assoc]
        · rw [hhandles.reduced, h.reduced, hhandles.groups_eq, hlast, List.append_assoc,
            groupsIn_append_triage earlier hother hhandles.reducer]
        · rw [hhandles.programs, h.programs, List.countP_append, hsilent, Nat.add_zero]
  | forget hlossy =>
      refine ⟨[], ?_⟩
      rw [List.append_nil]
      exact h.emptied
  | @made baseline after hmade =>
      obtain ⟨hafter, hevents⟩ := generate_eq hmade
      refine ⟨[.generated (.ok baseline)], ?_, ?_, ?_, fun _ => ⟨asked, _, rfl, rfl⟩⟩
      · show after.events = _
        rw [hevents, h.events, List.append_assoc]
      · show after.reduced = _
        rw [hafter, groupsIn_concat asked rfl, h.reduced]
      · show after.programs + 1 = _
        rw [hafter, List.countP_append, UInt64.ofNat_add, ← UInt64.add_assoc, ← h.programs]
        rfl
  | unmade hmade =>
      obtain ⟨hafter, hevents⟩ := generate_eq hmade
      refine ⟨_, h.concat rfl rfl hevents ?_ ?_⟩
      · rw [hafter]
      · rw [hafter]

theorem accounted_moves (hmoves : c.Moves lossy ⟨[], before⟩ desk) :
    ∃ asked, desk.Accounted before asked := by
  induction hmoves with
  | refl =>
      refine ⟨[], (List.append_nil _).symm, (List.append_nil _).symm, ?_, fun hne => absurd rfl hne⟩
      exact (UInt64.add_zero _).symm
  | tail _ hmove ih =>
      obtain ⟨asked, h⟩ := ih
      obtain ⟨more, hmore⟩ := accounted_move h hmove
      exact ⟨asked ++ more, hmore⟩

/-! ## The tables -/

/-- A question that failed makes nothing of a standing. -/
theorem retell_concat_of_failed (earlier : List Event) {last : Event} {e : HuntError}
    (hfailed : last.failure? = some e) (m : MutantId) :
    Standing.retell ((earlier ++ [last]).filterMap Event.trial?) m =
      Standing.retell (earlier.filterMap Event.trial?) m := by
  rw [List.filterMap_append]
  cases last with
  | tried baseline batch answer =>
      cases answer with
      | ok verdict => cases hfailed
      | error e' =>
          funext standing
          exact List.foldl_append
  | generated _ | reduced _ _ | checked _ _ | persisted _ _ | stored _ =>
      exact congrArg (fun trials => Standing.retell trials m) (List.append_nil _)

/-- Two ledgers differ by the trials in between. -/
theorem standing?_eq_retell {after : Hunt σ} (hbefore : before.Ledger) (hafter : after.Ledger)
    (hsize : after.scheduler.table.size = before.scheduler.table.size) {trials : List Trial}
    (htrials : after.trials = before.trials ++ trials) (m : MutantId) :
    after.scheduler.standing? m =
      (before.scheduler.standing? m).map (Standing.retell trials m) := by
  rcases Nat.lt_or_ge m.toNat before.scheduler.table.size with hm | hm
  · rw [hbefore.standing m hm, hafter.standing m (hsize ▸ hm), htrials, Option.map_some,
      standingIn, List.foldl_append]
    rfl
  · rw [(Scheduler.standing?_eq_none_iff _ m).mpr hm,
      (Scheduler.standing?_eq_none_iff _ m).mpr (hsize ▸ hm), Option.map_none]

/-! ## Orderly acts -/

/-- An act that is honest and made of moves is orderly, and counts the programs it made. -/
theorem exists_orderly {α : Type} {outcome : Except HuntError α × Hunt σ}
    (horder : c.InOrder before) (hledger : before.Ledger) (hhonest : before.Honest outcome)
    (hmoves : c.Moves lossy ⟨[], before⟩ ⟨[], outcome.2⟩) :
    ∃ asked, before.Orderly asked outcome ∧
      outcome.2.programs = before.programs + UInt64.ofNat (asked.countP Event.makesProgram) := by
  obtain ⟨asked, haccounted⟩ := accounted_moves hmoves
  obtain ⟨written, hwritten, -, htells⟩ := hhonest
  have hasked : asked = written.reverse := Hunt.asked_eq_reverse haccounted.events hwritten
  have hsteps := steps_of_moves hmoves
  have hlast : c.InOrder outcome.2 := inOrder_steps horder hsteps
  have htables : ∀ m, outcome.2.scheduler.standing? m = (before.scheduler.standing? m).map
      (Standing.retell (asked.filterMap Event.trial?) m) := by
    refine standing?_eq_retell hledger (ledger_steps hledger hsteps) (size_steps hsteps) ?_
    rw [hasked]
    exact Hunt.trials_eq_append hwritten
  refine ⟨asked, ⟨haccounted.events, ?_, ?_, htables, haccounted.reduced, hlast.check⟩,
    haccounted.programs⟩
  · intro a hok event hevent
    rw [hok] at htells
    exact htells event (List.mem_reverse.mp (hasked ▸ hevent))
  · intro e herror
    rw [herror] at htells
    obtain ⟨event, older, rfl, hfailure, holder⟩ := htells
    rw [List.reverse_cons] at hasked
    refine ⟨older.reverse, event, hasked, hfailure, ?_, fun m => ?_⟩
    · exact fun earlier hearlier => holder earlier (List.mem_reverse.mp hearlier)
    · rw [htables m, hasked, retell_concat_of_failed older.reverse hfailure]

theorem generates_of_keepsTo {baseline : Baseline} {event : Event}
    (h : KeepsTo baseline event) : event.generates = false := by
  rcases h with hreducer | ⟨batch, result, rfl⟩
  · exact Event.generates_of_asksReducer hreducer
  · rfl

end Campaign

/-- How attempts and hunts that start in a state fail. -/
structure Campaign.FailsOrderly {σ : Type} (c : Campaign σ) (before : Hunt σ) : Prop where
  /-- Attempts make no program. -/
  attempt : ∀ baseline, ∃ asked, before.Orderly asked (c.attemptKills baseline before) ∧
    (∀ event ∈ asked, event.generates = false) ∧
    (c.attemptKills baseline before).2.programs = before.programs
  /-- A hunt asks for one program first, which counts if it was made. -/
  hunt : ∃ answer asked, before.Orderly (.generated answer :: asked) (c.hunt before) ∧
    (∀ event ∈ asked, event.generates = false) ∧
    (c.hunt before).2.programs = if answer.isOk then before.programs + 1 else before.programs

namespace Campaign

variable {σ : Type}

/-- Whatever was called before, with whatever batches, and whatever the collaborators answered:
attempts and hunts fail by their collaborators only, and leave the books in order. -/
theorem errors_orderly (c : Campaign σ) {description : Description}
    {order : List (MutantId × NodeId) → List (MutantId × NodeId)}
    (horder : ∀ entries, (order entries).Perm entries)
    (hbuilt : Tree.ofDescriptionBy order description = .ok c.tree)
    (hsmall : c.tree.mutantCount < UInt32.size) (seed : UInt64) (world : σ) (calls : List Call) :
    c.FailsOrderly (c.performAll (c.start seed world) calls) := by
  have hfrom := Tree.builtFrom_of_ofDescriptionBy horder hbuilt
  have hready : c.InOrder (c.performAll (c.start seed world) calls) :=
    inOrder_performAll hsmall seed world calls
  have hledger : (c.performAll (c.start seed world) calls).Ledger :=
    ledger_performAll hsmall seed world calls
  generalize c.performAll (c.start seed world) calls = before at hready hledger
  constructor
  · intro baseline
    have htidy : c.Tidy True before (c.attemptKills baseline before) :=
      tidy_attemptKills hfrom hready.size
    obtain ⟨asked, horderly, hprograms⟩ := exists_orderly hready hledger
      (honest_attemptKills hfrom hready) (htidy fun _ _ => trivial)
    have hnone : ∀ event ∈ asked, event.generates = false := by
      obtain ⟨written, hwritten, hkeeps⟩ :=
        steps_journal (steps_attemptKills (c.admits_keepsTo baseline) hready.size)
      have hasked : asked = written.reverse := Hunt.asked_eq_reverse horderly.events hwritten
      intro event hevent
      exact generates_of_keepsTo (hkeeps event (List.mem_reverse.mp (hasked ▸ hevent)))
    refine ⟨asked, horderly, hnone, ?_⟩
    rw [hprograms, countP_makesProgram_eq_zero hnone]
    exact UInt64.add_zero _
  · have htidy : c.Tidy True before (c.hunt before) := tidy_hunt hfrom hready.size
    obtain ⟨asked, horderly, hprograms⟩ := exists_orderly hready hledger
      (honest_hunt hfrom hready) (htidy fun _ _ => trivial)
    obtain ⟨answer, rest, hevents, hkeeps⟩ := events_hunt hready.size
    have hasked : asked = .generated answer :: rest :=
      List.append_cancel_left (horderly.events.symm.trans hevents)
    have hnone : ∀ event ∈ rest, event.generates = false := by
      intro event hevent
      obtain ⟨baseline, -, hkept⟩ := hkeeps event hevent
      exact generates_of_keepsTo hkept
    refine ⟨answer, rest, hasked ▸ horderly, hnone, ?_⟩
    rw [hprograms, hasked, List.countP_cons, countP_makesProgram_eq_zero hnone]
    cases answer with
    | error e => exact UInt64.add_zero _
    | ok baseline => rfl

/-- A call that fails for want of mutants comes first, and a hunt after it. -/
theorem errors_orderly_twoFiles :
    (∀ entries : List (MutantId × NodeId), (id entries).Perm entries) ∧
      Tree.ofDescriptionBy id Tree.twoFilesDescription = .ok twoFiles.tree ∧
      twoFiles.tree.mutantCount < UInt32.size ∧
      twoFiles.FailsOrderly
        (twoFiles.performAll (twoFiles.start 5 ()) [.bisect default [], .hunt]) :=
  ⟨List.Perm.refl, Tree.ofDescriptionBy_twoFiles, by decide,
    errors_orderly twoFiles List.Perm.refl Tree.ofDescriptionBy_twoFiles (by decide) 5 () _⟩

end Campaign

end MutantHunt
