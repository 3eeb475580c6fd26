import MutantHunt.Proofs.Scheduler.Draw
import MutantHunt.Proofs.Search.Ledger

/-!
# Only legal batches are tried

A batch is legal if it names mutants that exist, each once, no more of them than may be enabled
together, and no two relatives.  In a built tree the scheduler draws legal batches only; a part of
a legal batch is legal; and so is a relative by itself.  So a search that is not handed a batch
from outside never leaves the class, which is what `Campaign.Admits` asks for.

That the members are alive when they are tried is part of what a step is.  `exists_moment` finds,
for each trial in the journal, the state in which the search asked for it.

Main result: `batches_legal`, about the trials of every run and the baselines of every hunt.
-/

namespace MutantHunt

namespace Campaign

variable {σ : Type}

/-- A batch that may be enabled together, as far as the tree and the limits tell. -/
structure Legal (c : Campaign σ) (batch : List MutantId) : Prop where
  /-- Each mutant is listed once. -/
  nodup : batch.Nodup
  /-- There are no more of them than may be enabled at a time. -/
  short : batch.length ≤ c.limits.batch
  /-- They are mutants of the tree. -/
  known : ∀ m ∈ batch, m.toNat < c.tree.mutantCount
  /-- No two of them are relatives. -/
  apart : ∀ a ∈ batch, ∀ b ∈ batch, b ∉ c.tree.kin a

section Admission

variable {c : Campaign σ} {description : Description} {batch part : List MutantId}

theorem Legal.of_sublist (hlegal : c.Legal batch) (hpart : part.Sublist batch) :
    c.Legal part where
  nodup := hlegal.nodup.sublist hpart
  short := Nat.le_trans hpart.length_le hlegal.short
  known := fun m hm => hlegal.known m (hpart.subset hm)
  apart := fun a ha b hb => hlegal.apart a (hpart.subset ha) b (hpart.subset hb)

/-- Where a mutant may be tried alone, so may its relatives. -/
theorem Legal.of_relative (hbuilt : c.tree.BuiltFrom description) {m r : MutantId}
    (hlegal : c.Legal [m]) (hr : r ∈ c.tree.kin m) : c.Legal [r] := by
  constructor
  · exact List.nodup_singleton r
  · exact hlegal.short
  · intro a ha
    rw [List.mem_singleton.mp ha]
    exact hbuilt.lt_of_mem_kin hr
  · intro a ha b hb
    rw [List.mem_singleton.mp ha, List.mem_singleton.mp hb]
    exact c.tree.not_mem_kin_self r

theorem Legal.of_drawn (hbuilt : c.tree.BuiltFrom description) {s : Scheduler}
    (hsize : s.table.size = c.tree.mutantCount)
    (hdrawn : (Scheduler.select c.tree c.limits.batch s).1 = .ok batch) : c.Legal batch := by
  obtain ⟨hnodup, hshort, hwaiting, hapart⟩ := Scheduler.select_ok hbuilt hdrawn
  refine ⟨hnodup, hshort, ?_, hapart⟩
  intro m hm
  rw [← hsize]
  exact Scheduler.lt_size_of_attempts? (hwaiting m hm)

/-- The questions of a search that tries legal batches only. -/
def AsksLegally (c : Campaign σ) : Event → Prop
  | .tried _ batch _ => c.Legal batch
  | _ => True

theorem admits_legal (hbuilt : c.tree.BuiltFrom description) (baseline : Baseline) :
    c.Admits c.AsksLegally baseline c.Legal where
  part := Legal.of_sublist
  relative := Legal.of_relative hbuilt
  drawn := Legal.of_drawn hbuilt
  tried := fun hlegal _ => hlegal
  asked := fun {event} hasked => by
    cases event with
    | tried baseline batch answer => cases hasked
    | _ => trivial

end Admission

/-! ## The moment of a trial -/

/-- In the state `moment` of a run from `first` to `last`, with the trials `before` in the journal,
the search asked for the trial `t`: of mutants that were alive, and it went on from the answer. -/
structure Asks (c : Campaign σ) (allowed : Event → Prop) (first last : Hunt σ)
    (before : List Trial) (t : Trial) (moment : Hunt σ) : Prop where
  reached : c.Steps allowed first moment
  trials : moment.trials = before
  nonempty : t.batch ≠ []
  alive : ∀ m ∈ t.batch, moment.scheduler.isKilled m = false
  granted : ∀ answer, allowed (.tried t.baseline t.batch answer)
  answered : (c.trial t.baseline t.batch moment).1 = t.answer
  onward : c.Steps allowed (c.tryOut t.baseline t.batch moment) last

section Moment

variable {c : Campaign σ} {allowed : Event → Prop} {first last next : Hunt σ}

/-- Each trial of a run was asked for in some state of the run. -/
theorem exists_moment (hsteps : c.Steps allowed first last) (hfresh : first.trials = [])
    {before rest : List Trial} {t : Trial} (htrials : last.trials = before ++ t :: rest) :
    ∃ moment, c.Asks allowed first last before t moment := by
  induction hsteps generalizing rest with
  | refl =>
      rw [hfresh] at htrials
      simp at htrials
  | @tail mid last hpath hstep ih =>
      -- A trial that stood in the journal before the last step was asked for before it.
      have hearlier : ∀ rest, mid.trials = before ++ t :: rest →
          ∃ moment, c.Asks allowed first last before t moment := by
        intro rest hmid
        obtain ⟨moment, hasks⟩ := ih hmid
        exact ⟨moment, { hasks with onward := hasks.onward.tail hstep }⟩
      cases hstep with
      | trial baseline batch hallowed hne hliving =>
          rw [trials_tryOut] at htrials
          rcases List.eq_nil_or_concat rest with rfl | ⟨others, u, rfl⟩
          · obtain ⟨hbefore, hlast⟩ := List.append_inj' htrials rfl
            cases hlast
            exact ⟨mid, hpath, hbefore, hne, hliving, hallowed, rfl, .refl⟩
          · rw [List.concat_eq_append, ← List.cons_append, ← List.append_assoc] at htrials
            exact hearlier others (List.append_inj' htrials rfl).1
      | select => exact hearlier rest htrials
      | aside _ written hscheduler hwritten hallowed hsilent =>
          rw [trials_aside hwritten hsilent] at htrials
          exact hearlier rest htrials

end Moment

/-! ## The baseline of a hunt -/

/-- A question to the reducer, or a trial with the baseline. -/
def KeepsTo (baseline : Baseline) (event : Event) : Prop :=
  event.asksReducer = true ∨ ∃ batch result, event = .tried baseline batch result

theorem admits_keepsTo (c : Campaign σ) (baseline : Baseline) :
    c.Admits (KeepsTo baseline) baseline (fun _ => True) where
  part := fun _ _ => trivial
  relative := fun _ _ => trivial
  drawn := fun _ _ => trivial
  tried := fun {batch} _ result => .inr ⟨batch, result, rfl⟩
  asked := .inl

/-- A hunt in two parts: it asks for a program, and works it if there is one. -/
theorem hunt_eq_match (c : Campaign σ) (hunt : Hunt σ) :
    c.hunt hunt =
      match (c.harness.generate hunt.outside.world).1 with
      | .error e => (.error e, (Hunt.outsideAct c.harness.journaled.generate hunt).2)
      | .ok baseline =>
          c.work baseline (Hunt.outsideAct c.harness.journaled.generate hunt).2 := by
  rw [hunt_eq_bind]
  rcases hmade : Hunt.outsideAct c.harness.journaled.generate hunt with ⟨answer, made⟩
  have hanswer : (c.harness.generate hunt.outside.world).1 = answer := congrArg Prod.fst hmade
  rw [hanswer]
  cases answer with
  | error e => exact Act.bind_of_error hmade _
  | ok baseline => exact Act.bind_of_ok hmade _

/-- A hunt asks for a program first.  Everything it asks afterwards, it asks the reducer, or it is a
trial with the baseline of that program; without a program there is nothing it asks. -/
theorem exists_events_hunt {c : Campaign σ} {hunt : Hunt σ}
    (hsize : hunt.scheduler.table.size = c.tree.mutantCount) :
    ∃ rest, (c.hunt hunt).2.events =
        hunt.events ++ .generated (c.harness.generate hunt.outside.world).1 :: rest ∧
      ∀ event ∈ rest, ∃ baseline, (c.harness.generate hunt.outside.world).1 = .ok baseline ∧
        KeepsTo baseline event := by
  rw [hunt_eq_match]
  have hmade : (Hunt.outsideAct c.harness.journaled.generate hunt).2.events =
      hunt.events ++ [.generated (c.harness.generate hunt.outside.world).1] :=
    List.reverse_cons
  have hmadeSize : (Hunt.outsideAct c.harness.journaled.generate hunt).2.scheduler.table.size =
      c.tree.mutantCount := hsize
  generalize (Hunt.outsideAct c.harness.journaled.generate hunt).2 = made at hmade hmadeSize ⊢
  cases hanswer : (c.harness.generate hunt.outside.world).1 with
  | error e =>
      rw [hanswer] at hmade
      exact ⟨[], hmade, by simp⟩
  | ok baseline =>
      obtain ⟨written, hwritten, hallowed⟩ :=
        steps_journal (steps_work (c.admits_keepsTo baseline) hmadeSize)
      refine ⟨written.reverse, ?_, ?_⟩
      · rw [Hunt.events_eq_append hwritten, hmade, hanswer, List.append_assoc]
        rfl
      · intro event hevent
        exact ⟨baseline, rfl, hallowed event (List.mem_reverse.mp hevent)⟩

theorem events_hunt {c : Campaign σ} {hunt : Hunt σ}
    (hsize : hunt.scheduler.table.size = c.tree.mutantCount) :
    ∃ answer rest, (c.hunt hunt).2.events = hunt.events ++ .generated answer :: rest ∧
      ∀ event ∈ rest, ∃ baseline, answer = .ok baseline ∧ KeepsTo baseline event :=
  ⟨_, exists_events_hunt hsize⟩

/-- What makes the run of a sequence of calls legal. -/
structure LegalRun (c : Campaign σ) (first : Hunt σ) (calls : List Call) : Prop where
  /-- Each trial is of a legal batch of mutants that were alive when the search asked for it, which
  is to say that none of the trials before it had killed one of them. -/
  batches : ∀ before t rest, (c.performAll first calls).trials = before ++ t :: rest →
    t.batch ≠ [] ∧ c.Legal t.batch ∧
    (∀ m ∈ t.batch, ∀ u ∈ before, ∀ verdict, ¬u.KillsAlone m verdict) ∧
    ∃ moment, c.Asks c.AsksLegally first (c.performAll first calls) before t moment
  /-- All trials of a hunt are made with the baseline that the hunt got for its program. -/
  baselines : ∀ earlier later, calls = earlier ++ .hunt :: later →
    ∃ answer rest,
      (c.performAll first (earlier ++ [.hunt])).events =
        (c.performAll first earlier).events ++ .generated answer :: rest ∧
      ∀ event ∈ rest, ∃ baseline, answer = .ok baseline ∧ KeepsTo baseline event

/-- Every run that is not handed batches from outside is legal. -/
theorem batches_legal (c : Campaign σ) {description : Description}
    {order : List (MutantId × NodeId) → List (MutantId × NodeId)}
    (horder : ∀ entries, (order entries).Perm entries)
    (hbuilt : Tree.ofDescriptionBy order description = .ok c.tree)
    (hsmall : c.tree.mutantCount < UInt32.size) (seed : UInt64) (world : σ) {calls : List Call}
    (hcalls : ∀ baseline batch, .bisect baseline batch ∉ calls) :
    c.LegalRun (c.start seed world) calls := by
  have hfrom := Tree.builtFrom_of_ofDescriptionBy horder hbuilt
  have hstart := size_start hsmall seed world
  have hpath : c.Steps c.AsksLegally (c.start seed world)
      (c.performAll (c.start seed world) calls) :=
    steps_performAll (admits_legal hfrom) (fun _ => trivial) hstart
      (fun baseline batch hcall => absurd hcall (hcalls baseline batch))
  constructor
  · intro before t rest htrials
    obtain ⟨moment, hasks⟩ := exists_moment hpath rfl htrials
    have hlegal : c.Legal t.batch := hasks.granted t.answer
    refine ⟨hasks.nonempty, hlegal, ?_, moment, hasks⟩
    intro m hm
    have hledger : moment.Ledger := ledger_steps (ledger_start hsmall seed world) hasks.reached
    have hlt : m.toNat < moment.scheduler.table.size := by
      rw [size_steps hasks.reached, hstart]
      exact hlegal.known m hm
    have hstanding := hledger.standing m hlt
    rw [hasks.trials] at hstanding
    have halive := hasks.alive m hm
    rw [Scheduler.isKilled_of_standing? hstanding] at halive
    cases hread : standingIn before m with
    | alive n => exact not_killsAlone_of_standingIn hread
    | killed verdict =>
        rw [hread] at halive
        cases halive
  · intro earlier later _
    have hsize := size_performAll hsmall seed world earlier
    have hlast : c.performAll (c.start seed world) (earlier ++ [.hunt]) =
        (c.hunt (c.performAll (c.start seed world) earlier)).2 := by
      rw [performAll, List.foldl_append]
      rfl
    rw [hlast]
    exact events_hunt hsize

/-- Two hunts with a program of their own, and attempts with a made-up baseline in between. -/
theorem batches_legal_twoFiles :
    (∀ entries : List (MutantId × NodeId), (id entries).Perm entries) ∧
      Tree.ofDescriptionBy id Tree.twoFilesDescription = .ok twoFiles.tree ∧
      twoFiles.tree.mutantCount < UInt32.size ∧
      (∀ baseline batch, Call.bisect baseline batch ∉ [.hunt, .attempt default, .hunt]) ∧
      twoFiles.LegalRun (twoFiles.start 3 ()) [.hunt, .attempt default, .hunt] := by
  have hcalls : ∀ baseline batch,
      Call.bisect baseline batch ∉ [.hunt, .attempt default, .hunt] := by
    intro baseline batch hcall
    simp at hcall
  exact ⟨List.Perm.refl, Tree.ofDescriptionBy_twoFiles, by decide, hcalls,
    batches_legal twoFiles List.Perm.refl Tree.ofDescriptionBy_twoFiles (by decide) 3 () hcalls⟩

end Campaign

end MutantHunt
