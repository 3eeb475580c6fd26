import MutantHunt.Hunt

/-!
# What acts write into a journal

A search learns of the world through its collaborators only, and every question to them stands in
the journal with its answer.  `Act.Logs` says of one run of an act what it wrote: the journal only
grew, each new event is of an admitted kind, and the new events tell how the act ended.  It is
closed under chaining acts, so the statement about a whole search follows its text.

## Main results

* `logs_bind` — chaining acts chains what they write, and a failure ends the chain.
* `logs_triage` — a triage asks the reducer only, and fails only as the reducer did last.
-/

namespace MutantHunt

/-- A question to the harness about a batch, with the answer. -/
structure Trial where
  baseline : Baseline
  batch : List MutantId
  answer : Except HuntError Verdict

/-- The failure of a result that failed. -/
def failureOf {α : Type} : Except HuntError α → Option HuntError
  | .ok _ => none
  | .error e => some e

namespace Event

/-- The trial that an event is, if it is one. -/
def trial? : Event → Option Trial
  | tried baseline batch answer => some { baseline, batch, answer }
  | _ => none

/-- The failure a question ended with, if it failed. -/
def failure? : Event → Option HuntError
  | generated answer => failureOf answer
  | tried _ _ answer => failureOf answer
  | reduced _ answer => failureOf answer
  | checked _ answer => failureOf answer
  | persisted _ answer => failureOf answer
  | stored _ => none

/-- Whether the question was one to the reducer. -/
def asksReducer : Event → Bool
  | reduced _ _ | checked _ _ | persisted _ _ => true
  | _ => false

theorem trial?_of_asksReducer {event : Event} (h : event.asksReducer = true) :
    event.trial? = none := by
  cases event <;> first | rfl | cases h

end Event

/-- How the events that an act wrote, latest first, tell how it ended: if it succeeded then none
of them failed, and if it failed then the latest did, with the same failure, and no other. -/
def Tells {α : Type} (result : Except HuntError α) (written : List Event) : Prop :=
  match result with
  | .ok _ => ∀ event ∈ written, event.failure? = none
  | .error e => ∃ event older, written = event :: older ∧ event.failure? = some e ∧
      ∀ event ∈ older, event.failure? = none

namespace Act

variable {S α β : Type} {journal : S → List Event} {admitted : Event → Prop}

/-- What was written on the way from a state to the outcome of an act: only admitted events, which
tell how it ended. -/
def Logged (journal : S → List Event) (admitted : Event → Prop) (s : S)
    (outcome : Except HuntError α × S) : Prop :=
  ∃ written, journal outcome.2 = written ++ journal s ∧ (∀ event ∈ written, admitted event) ∧
    Tells outcome.1 written

/-- What one run of an act wrote. -/
abbrev Logs (journal : S → List Event) (admitted : Event → Prop) (act : Act HuntError S α)
    (s : S) : Prop :=
  Logged journal admitted s (act s)

/-- A success without a question. -/
theorem logged_of_silent {s t : S} {a : α} (hsame : journal t = journal s) :
    Logged journal admitted s (Except.ok a, t) :=
  ⟨[], hsame, by simp, by simp [Tells]⟩

theorem logs_pure (a : α) (s : S) : Logs journal admitted (Pure.pure a) s :=
  logged_of_silent rfl

/-- What comes after a success is written after it. -/
theorem Logged.trans {s t : S} {a : α} {outcome : Except HuntError β × S}
    (hfirst : Logged journal admitted s (Except.ok a, t))
    (hsecond : Logged journal admitted t outcome) : Logged journal admitted s outcome := by
  obtain ⟨first, hjournal, hadmitted, htells⟩ := hfirst
  obtain ⟨second, hjournal', hadmitted', htells'⟩ := hsecond
  refine ⟨second ++ first, ?_, ?_, ?_⟩
  · rw [hjournal', List.append_assoc]
    exact congrArg (second ++ ·) hjournal
  · intro event hevent
    rcases List.mem_append.mp hevent with h | h
    · exact hadmitted' event h
    · exact hadmitted event h
  · unfold Tells at htells' ⊢
    simp only [Tells] at htells
    split at htells'
    · intro event hevent
      rcases List.mem_append.mp hevent with h | h
      · exact htells' event h
      · exact htells event h
    · obtain ⟨event, older, rfl, hfailure, holder⟩ := htells'
      refine ⟨event, older ++ first, rfl, hfailure, ?_⟩
      intro event hevent
      rcases List.mem_append.mp hevent with h | h
      · exact holder event h
      · exact htells event h

/-- A failure is the same failure, whatever the act was to give. -/
theorem Logged.fail {s t : S} {e : HuntError}
    (h : Logged journal admitted s ((Except.error e : Except HuntError α), t)) :
    Logged journal admitted s ((Except.error e : Except HuntError β), t) := by
  obtain ⟨written, hjournal, hadmitted, htells⟩ := h
  exact ⟨written, hjournal, hadmitted, htells⟩

/-- A success is a success, whatever it gives. -/
theorem Logged.succeed {s t : S} {a : α} (b : β) (h : Logged journal admitted s (Except.ok a, t)) :
    Logged journal admitted s (Except.ok b, t) := by
  obtain ⟨written, hjournal, hadmitted, htells⟩ := h
  exact ⟨written, hjournal, hadmitted, htells⟩

theorem Logged.mono {wider : Event → Prop} {s : S} {outcome : Except HuntError α × S}
    (h : Logged journal admitted s outcome) (hwider : ∀ event, admitted event → wider event) :
    Logged journal wider s outcome := by
  obtain ⟨written, hwritten, hadmitted, htells⟩ := h
  exact ⟨written, hwritten, fun event hevent => hwider event (hadmitted event hevent), htells⟩

/-- What a chain of two acts writes is what the second writes after what the first wrote. -/
theorem logs_bind {x : Act HuntError S α} {f : α → Act HuntError S β} {s : S}
    (hx : Logs journal admitted x s)
    (hf : ∀ a t, x s = (.ok a, t) → Logs journal admitted (f a) t) :
    Logs journal admitted (x >>= f) s := by
  rcases hrun : x s with ⟨result, t⟩
  rw [Logs, hrun] at hx
  cases result with
  | error e =>
      rw [Logs, bind_of_error hrun]
      exact hx.fail
  | ok a =>
      rw [Logs, bind_of_ok hrun]
      exact hx.trans (hf a t hrun)

/-- A chain ends with the failure of its first part, or as its second part does. -/
theorem bind_cases {ε σ : Type} {x : Act ε σ α} {f : α → Act ε σ β} {s u : σ}
    {result : Except ε β} (hrun : (x >>= f) s = (result, u)) :
    (∃ e, x s = (.error e, u) ∧ result = .error e) ∨
      ∃ a t, x s = (.ok a, t) ∧ f a t = (result, u) := by
  rcases hfirst : x s with ⟨e | a, t⟩
  · rw [bind_of_error hfirst] at hrun
    cases hrun
    exact .inl ⟨e, rfl, rfl⟩
  · rw [bind_of_ok hfirst] at hrun
    exact .inr ⟨a, t, rfl, hrun⟩

/-- A chain that succeeds does so in both parts. -/
theorem exists_of_bind_eq_ok {ε σ : Type} {x : Act ε σ α} {f : α → Act ε σ β} {s u : σ} {b : β}
    (hok : (x >>= f) s = (.ok b, u)) : ∃ a t, x s = (.ok a, t) ∧ f a t = (.ok b, u) := by
  rcases bind_cases hok with ⟨e, -, hfail⟩ | hboth
  · cases hfail
  · exact hboth

/-- What a question that is written down gives and leaves. -/
theorem recording_eq {σ : Type} {event : Except HuntError α → Event} {act : Act HuntError σ α}
    {s t : Journaled σ} {answer : Except HuntError α}
    (hrun : Journaled.recording event act s = (answer, t)) :
    (act s.world).1 = answer ∧ t.journal = event answer :: s.journal := by
  cases hrun
  exact ⟨rfl, rfl⟩

/-- A question that is written down. -/
theorem logs_recording {σ : Type} {event : Except HuntError α → Event}
    (act : Act HuntError σ α) (hadmitted : ∀ answer, admitted (event answer))
    (hfailure : ∀ answer, (event answer).failure? = failureOf answer) (s : Journaled σ) :
    Logs Journaled.journal admitted (Journaled.recording event act) s := by
  refine ⟨[event (act s.world).1], rfl, ?_, ?_⟩
  · intro x hx
    rw [List.mem_singleton] at hx
    subst hx
    exact hadmitted _
  · have hresult : (Journaled.recording event act s).1 = (act s.world).1 := rfl
    rw [hresult]
    have htold := hfailure (act s.world).1
    cases hanswer : (act s.world).1 with
    | ok a =>
        rw [hanswer] at htold
        intro x hx
        rw [List.mem_singleton] at hx
        subst hx
        exact htold
    | error e =>
        rw [hanswer] at htold
        exact ⟨_, [], rfl, htold, by simp⟩

end Act

/-! ## Triage -/

namespace Reducer

open Act

variable {σ : Type} (reducer : Reducer σ)

/-- A question to the reducer is written down as an event of its kind. -/
theorem logs_asked {α : Type} (event : Except HuntError α → Event) (question : Act HuntError σ α)
    (hasks : ∀ answer, (event answer).asksReducer = true)
    (hfailure : ∀ answer, (event answer).failure? = failureOf answer) (s : Journaled σ) :
    Logs Journaled.journal (Event.asksReducer · = true) (Journaled.recording event question) s :=
  logs_recording question hasks hfailure s

theorem logs_sift (ms : List MutantId) (s : Journaled σ) :
    Logs Journaled.journal (Event.asksReducer · = true) (reducer.journaled.sift ms) s := by
  induction ms generalizing s with
  | nil => exact logs_pure _ s
  | cons m rest ih =>
      unfold sift
      refine logs_bind (logs_asked (.checked m) (reducer.kills m) (fun _ => rfl) (fun _ => rfl) s)
        fun hit t _ => ?_
      exact logs_bind (ih t) fun split u _ => logs_pure _ u

theorem logs_triageUpTo (n : Nat) (queue : List MutantId) (s : Journaled σ) :
    Logs Journaled.journal (Event.asksReducer · = true)
      (reducer.journaled.triageUpTo n queue) s := by
  induction n generalizing queue s with
  | zero => exact logs_pure _ s
  | succ n ih =>
      unfold triageUpTo
      cases queue.getLast? with
      | none => exact logs_pure _ s
      | some m =>
          refine logs_bind (logs_asked (.reduced m) (reducer.reduce m) (fun _ => rfl)
            (fun _ => rfl) s) fun done t _ => ?_
          cases done with
          | false => exact ih _ t
          | true =>
              refine logs_bind (reducer.logs_sift _ t) fun split u _ => ?_
              obtain ⟨hits, misses⟩ := split
              refine logs_bind (logs_asked (.persisted _) (reducer.persist _) (fun _ => rfl)
                (fun _ => rfl) u) fun path v _ => ?_
              exact logs_bind (ih misses v) fun groups w _ => logs_pure _ w

/-- A triage asks the reducer only, and fails only as the reducer did last. -/
theorem logs_triage (queue : List MutantId) (s : Journaled σ) :
    Logs Journaled.journal (Event.asksReducer · = true) (reducer.journaled.triage queue) s :=
  reducer.logs_triageUpTo _ queue s

end Reducer

/-! ## Searches -/

namespace Hunt

variable {σ α : Type}

/-- The questions so far, latest first. -/
def journal (hunt : Hunt σ) : List Event :=
  hunt.outside.journal

/-- The trials so far, oldest first. -/
def trials (hunt : Hunt σ) : List Trial :=
  hunt.events.filterMap Event.trial?

theorem logs_outsideAct {admitted : Event → Prop} {act : Act HuntError (Journaled σ) α}
    {hunt : Hunt σ} (h : Act.Logs Journaled.journal admitted act hunt.outside) :
    Act.Logs Hunt.journal admitted (Hunt.outsideAct act) hunt := by
  obtain ⟨written, hwritten, hadmitted, htells⟩ := h
  exact ⟨written, hwritten, hadmitted, htells⟩

/-- What was written after a search was at `before`, latest first, is what its events lack. -/
theorem events_eq_append {before after : Hunt σ} {written : List Event}
    (hwritten : after.journal = written ++ before.journal) :
    after.events = before.events ++ written.reverse := by
  show after.journal.reverse = before.journal.reverse ++ written.reverse
  rw [hwritten, List.reverse_append]

theorem trials_eq_append {before after : Hunt σ} {written : List Event}
    (hwritten : after.journal = written ++ before.journal) :
    after.trials = before.trials ++ written.reverse.filterMap Event.trial? := by
  rw [trials, events_eq_append hwritten, List.filterMap_append, trials]

end Hunt

end MutantHunt
