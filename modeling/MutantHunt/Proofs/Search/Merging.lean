import Mathlib.Data.Nat.Choose.Basic
import MutantHunt.Proofs.Search.Triage

/-!
# The merging of miscompilations

A triage sorts a queue of mutants into groups that share a minimized program.  Its text carries a
bound for the recursion and sifts the queue on the way.  `Reducer.merge` is the same without either:
it asks of every candidate first and divides the queue by the answers afterwards, and its recursion
is on the queue.  `Reducer.sweep` is the sifting done in place, by an index into a queue from which
the hits are removed.

`Reducer.Merges` relates a queue, the questions that are asked and the result, also of a triage
that a failure of the reducer cuts short.  What can be said of a triage follows from it by induction
along the relation: how often each question is asked, which program it is about, and what becomes of
the members of the queue, which may name one mutant several times.

## Main results

* `triage_eq_merge` — a triage does what its specification does, in every world.
* `sift_eq_sweep` — the candidates are sifted as a loop in place would.
* `exists_merges` — a triage follows the rule, to its end or to a failure.
* `triage_accounted` — both of it, with all that follows from the rule.
-/

namespace MutantHunt

namespace Event

/-- The question to reduce the program for a mutant, with the answer. -/
def reduction : Event → Option (MutantId × Except HuntError Bool)
  | reduced m answer => some (m, answer)
  | _ => none

/-- The mutant that was dropped, since the reducer gave up on it. -/
def dropped? : Event → Option MutantId
  | reduced m (.ok false) => some m
  | _ => none

/-- Whether the question was if the reduced program kills a mutant. -/
def isCheck : Event → Bool
  | checked _ _ => true
  | _ => false

/-- Whether the question was to save the reduced program. -/
def isSave : Event → Bool
  | persisted _ _ => true
  | _ => false

end Event

/-- The latest question to reduce a program, with its answer. -/
def latestReduction (asked : List Event) : Option (MutantId × Except HuntError Bool) :=
  (asked.filterMap Event.reduction).getLast?

/-- Whatever is asked about a reduced program, the latest reduction before was a success. -/
def OnReduced (asked : List Event) : Prop :=
  ∀ earlier event later, asked = earlier ++ event :: later →
    (event.isCheck || event.isSave) = true → ∃ m, latestReduction earlier = some (m, .ok true)

section OnReduced

variable {asked asked' : List Event}

theorem onReduced_nil : OnReduced [] := by
  intro earlier event later hsplit
  simp at hsplit

/-- One reduction asks nothing about the program. -/
theorem onReduced_reduced (m : MutantId) (answer : Except HuntError Bool) :
    OnReduced [.reduced m answer] := by
  intro earlier event later hsplit huses
  have hmember : event ∈ [Event.reduced m answer] := by
    rw [hsplit]
    simp
  rw [List.mem_singleton.mp hmember] at huses
  cases huses

/-- After a reduction that succeeds, its program may be asked about. -/
theorem onReduced_cons (m : MutantId)
    (huses : ∀ event ∈ asked, (event.isCheck || event.isSave) = true) :
    OnReduced (.reduced m (.ok true) :: asked) := by
  intro earlier event later hsplit hevent
  cases earlier with
  | nil =>
      obtain ⟨rfl, -⟩ := List.cons.inj hsplit
      cases hevent
  | cons first earlier =>
      obtain ⟨rfl, hasked⟩ := List.cons.inj hsplit
      have hnone : earlier.filterMap Event.reduction = [] := by
        rw [List.filterMap_eq_nil_iff]
        intro event' hmember
        have huse := huses event' (by rw [hasked]; exact List.mem_append_left _ hmember)
        cases event' <;> first | rfl | cases huse
      refine ⟨m, ?_⟩
      show ((m, .ok true) :: earlier.filterMap Event.reduction).getLast? = _
      rw [hnone]
      rfl

theorem OnReduced.append (hbefore : OnReduced asked) (hafter : OnReduced asked') :
    OnReduced (asked ++ asked') := by
  intro earlier event later hsplit huses
  rcases List.append_eq_append_iff.mp hsplit with ⟨between, rfl, hlater⟩ | ⟨between, rfl, hlater⟩
  · obtain ⟨m, hm⟩ := hafter between event later hlater huses
    refine ⟨m, ?_⟩
    rw [latestReduction, List.filterMap_append, List.getLast?_append]
    rw [latestReduction] at hm
    rw [hm]
    rfl
  · cases between with
    | nil =>
        obtain ⟨m, hm⟩ := hafter [] event later hlater.symm huses
        cases hm
    | cons event' between =>
        obtain ⟨rfl, hlater⟩ := List.cons.inj hlater
        exact hbefore earlier event between rfl huses

end OnReduced

namespace Reducer

variable {σ : Type}

/-! ## The specification -/

theorem length_answered_le (hit : Bool) (answers : List (MutantId × Bool)) :
    (answered hit answers).length ≤ answers.length := by
  rw [answered, List.length_map]
  exact List.length_filter_le _ answers

/-- The candidates with an answer are fewer than the queue they were taken from. -/
theorem length_answered_zip_dropLast_lt {queue : List MutantId} (hqueue : queue ≠ [])
    (hit : Bool) (answers : List Bool) :
    (answered hit (queue.dropLast.zip answers)).length < queue.length := by
  have hfewer := length_answered_le hit (queue.dropLast.zip answers)
  have hpos := List.length_pos_iff.mpr hqueue
  rw [List.length_zip, List.length_dropLast] at hfewer
  omega

/-- Reduces for the last mutant of the queue. If that works, asks of all others whether the program
kills them, saves it for those it kills, and goes on with those it does not. -/
def merge (reducer : Reducer σ) (queue : List MutantId) : Act HuntError σ (List ReducedKill) :=
  if hqueue : queue = [] then pure []
  else do
    let m := queue.getLast hqueue
    if ← reducer.reduce m then
      let answers ← queue.dropLast.mapM reducer.kills
      let asked := queue.dropLast.zip answers
      let path ← reducer.persist (groupOf m asked)
      let groups ← merge reducer (answered false asked)
      pure ({ mutants := groupOf m asked, path } :: groups)
    else merge reducer queue.dropLast
termination_by queue.length
decreasing_by
  · exact length_answered_zip_dropLast_lt hqueue false answers
  · have hpos := List.length_pos_iff.mpr hqueue
    rw [List.length_dropLast]
    omega

theorem merge_nil (reducer : Reducer σ) : reducer.merge [] = pure [] := by
  rw [merge, dif_pos rfl]

theorem merge_concat (reducer : Reducer σ) (candidates : List MutantId) (m : MutantId) :
    reducer.merge (candidates ++ [m]) = (do
      if ← reducer.reduce m then
        let answers ← candidates.mapM reducer.kills
        let asked := candidates.zip answers
        let path ← reducer.persist (groupOf m asked)
        let groups ← reducer.merge (answered false asked)
        pure ({ mutants := groupOf m asked, path } :: groups)
      else reducer.merge candidates) := by
  rw [merge, dif_neg (by simp), List.getLast_concat, List.dropLast_concat]

/-- To sift is to ask of each candidate, and then to divide them by the answers. -/
theorem sift_eq_mapM (reducer : Reducer σ) (ms : List MutantId) :
    reducer.sift ms = (do
      let answers ← ms.mapM reducer.kills
      pure (answered true (ms.zip answers), answered false (ms.zip answers))) := by
  induction ms with
  | nil => rfl
  | cons m rest ih =>
      rw [sift, ih, List.mapM_cons]
      simp only [bind_assoc, pure_bind, List.zip_cons_cons, answered_cons]
      congr 1
      funext hit
      cases hit <;> rfl

theorem triageUpTo_eq_merge (reducer : Reducer σ) {n : Nat} {queue : List MutantId}
    (hn : queue.length ≤ n) : reducer.triageUpTo n queue = reducer.merge queue := by
  induction n generalizing queue with
  | zero =>
      cases List.eq_nil_of_length_eq_zero (Nat.le_zero.mp hn)
      rw [merge_nil]
      rfl
  | succ n ih =>
      rcases List.eq_nil_or_concat' queue with rfl | ⟨candidates, m, rfl⟩
      · rw [merge_nil]
        rfl
      · rw [List.length_append, List.length_singleton] at hn
        have hmissed : ∀ answers, reducer.triageUpTo n (answered false (candidates.zip answers)) =
            reducer.merge (answered false (candidates.zip answers)) := by
          intro answers
          have hfewer := length_answered_le false (candidates.zip answers)
          have hzip : (candidates.zip answers).length ≤ candidates.length := by
            rw [List.length_zip]
            exact Nat.min_le_left _ _
          exact ih (by omega)
        have hdropped : reducer.triageUpTo n candidates = reducer.merge candidates :=
          ih (by omega)
        rw [merge_concat, triageUpTo, List.getLast?_concat, List.dropLast_concat]
        simp only [sift_eq_mapM, bind_assoc, pure_bind, hmissed, hdropped]
        rfl

/-- A triage does what its specification does. -/
theorem triage_eq_merge (reducer : Reducer σ) (queue : List MutantId) :
    reducer.triage queue = reducer.merge queue :=
  reducer.triageUpTo_eq_merge (Nat.le_refl _)

/-! ## Sifting in place -/

/-- Asks of the mutants of a queue, from an index on. Those that are hit are removed where they
stand and noted down; the index moves past the others. -/
def sweep (reducer : Reducer σ) (index : Nat) (queue hits : List MutantId) :
    Act HuntError σ (List MutantId × List MutantId) :=
  if hindex : index < queue.length then do
    if ← reducer.kills queue[index] then
      sweep reducer index (queue.eraseIdx index) (hits ++ [queue[index]])
    else sweep reducer (index + 1) queue hits
  else pure (hits, queue)
termination_by queue.length - index
decreasing_by
  · rw [List.length_eraseIdx_of_lt hindex]
    omega
  · omega

/-- From an index on, a sweep sifts what stands there, and leaves alone what stands before. -/
theorem sweep_eq (reducer : Reducer σ) (index : Nat) (queue hits : List MutantId) :
    reducer.sweep index queue hits = (do
      let (hits', misses) ← reducer.sift (queue.drop index)
      pure (hits ++ hits', queue.take index ++ misses)) := by
  induction hd : queue.length - index generalizing index queue hits with
  | zero =>
      have hindex : ¬index < queue.length := by omega
      rw [sweep, dif_neg hindex, List.drop_of_length_le (by omega),
        List.take_of_length_le (by omega)]
      simp [sift]
  | succ d ih =>
      have hindex : index < queue.length := by omega
      have herased : (queue.eraseIdx index).length - index = d := by
        rw [List.length_eraseIdx_of_lt hindex]
        omega
      -- Removing a hit brings the next candidate to the index, so that it must stay.
      have hdrop : (queue.eraseIdx index).drop index = queue.drop (index + 1) := by
        rw [List.eraseIdx_eq_take_drop_succ, List.drop_left' (by simp; omega)]
      have htake : (queue.eraseIdx index).take index = queue.take index := by
        rw [List.eraseIdx_eq_take_drop_succ, List.take_left' (by simp; omega)]
      rw [sweep, dif_pos hindex, ih index _ _ herased, ih (index + 1) queue hits (by omega),
        hdrop, htake, List.drop_eq_getElem_cons hindex, sift,
        List.take_succ_eq_append_getElem hindex]
      simp only [bind_assoc, pure_bind, List.append_assoc]
      congr 1
      funext hit
      cases hit <;> simp

/-- The candidates are sifted as a sweep over the whole queue does it. -/
theorem sift_eq_sweep (reducer : Reducer σ) (candidates : List MutantId) :
    reducer.sift candidates = reducer.sweep 0 candidates [] := by
  rw [sweep_eq]
  simp

/-! ## The rule -/

/-- A queue, what is asked about it, oldest first, and how that ends. -/
inductive Merges :
    List MutantId → List Event → Except HuntError (List ReducedKill) → Prop
  | done : Merges [] [] (.ok [])
  /-- The reduction for the last mutant fails. -/
  | unreduced (queue : List MutantId) (m : MutantId) (e : HuntError) :
      Merges (queue ++ [m]) [.reduced m (.error e)] (.error e)
  /-- The reducer gives up on the last mutant. -/
  | dropped (m : MutantId) {queue : List MutantId} {asked : List Event}
      {result : Except HuntError (List ReducedKill)} (hrest : Merges queue asked result) :
      Merges (queue ++ [m]) (.reduced m (.ok false) :: asked) result
  /-- Some candidates are asked about, in their order, and for the next one that fails. -/
  | unchecked (m : MutantId) (answers : List (MutantId × Bool)) (next : MutantId)
      (later : List MutantId) (e : HuntError) :
      Merges (answers.map Prod.fst ++ next :: later ++ [m])
        (.reduced m (.ok true) :: (checks answers ++ [.checked next (.error e)])) (.error e)
  /-- The program cannot be saved. -/
  | unsaved (m : MutantId) (answers : List (MutantId × Bool)) (e : HuntError) :
      Merges (answers.map Prod.fst ++ [m])
        (.reduced m (.ok true) :: (checks answers ++ [.persisted (groupOf m answers) (.error e)]))
        (.error e)
  /-- The last mutant makes a group with the others that its program kills. -/
  | grouped (m : MutantId) (answers : List (MutantId × Bool)) (path : String) {asked : List Event}
      {result : Except HuntError (List ReducedKill)}
      (hrest : Merges (answered false answers) asked result) :
      Merges (answers.map Prod.fst ++ [m]) (questionsFor m answers path ++ asked)
        (result.map ({ mutants := groupOf m answers, path } :: ·))

/-- A sifting that fails got answers to the mutants before the one it failed at. -/
theorem sift_eq_error (reducer : Reducer σ) {ms : List MutantId} {s t : Journaled σ}
    {e : HuntError} (herror : reducer.journaled.sift ms s = (.error e, t)) :
    ∃ (answers : List (MutantId × Bool)) (next : MutantId) (later : List MutantId),
      ms = answers.map Prod.fst ++ next :: later ∧
        t.journal = (checks answers ++ [Event.checked next (.error e)]).reverse ++ s.journal := by
  induction ms generalizing s with
  | nil => cases herror
  | cons m rest ih =>
      rcases Act.bind_cases herror with ⟨e', hasked, hresult⟩ | ⟨hit, u, hasked, herror⟩
      · cases hresult
        exact ⟨[], m, rest, rfl, (Act.recording_eq hasked).2⟩
      · have hquestion := (Act.recording_eq hasked).2
        rcases Act.bind_cases herror with ⟨e', hrest, hresult⟩ | ⟨split, v, hrest, hdone⟩
        · cases hresult
          obtain ⟨answers, next, later, rfl, hjournal⟩ := ih hrest
          refine ⟨(m, hit) :: answers, next, later, rfl, ?_⟩
          rw [hjournal, hquestion]
          simp [checks]
        · cases hdone

theorem exists_merges_of_triageUpTo (reducer : Reducer σ) {n : Nat} {queue : List MutantId}
    (hn : queue.length ≤ n) {s t : Journaled σ} {result : Except HuntError (List ReducedKill)}
    (hrun : reducer.journaled.triageUpTo n queue s = (result, t)) :
    ∃ asked, t.journal = asked.reverse ++ s.journal ∧ Merges queue asked result := by
  induction n generalizing queue s t result with
  | zero =>
      cases List.eq_nil_of_length_eq_zero (Nat.le_zero.mp hn)
      cases hrun
      exact ⟨[], rfl, .done⟩
  | succ n ih =>
      rw [triageUpTo] at hrun
      rcases List.eq_nil_or_concat' queue with rfl | ⟨others, m, rfl⟩
      · cases hrun
        exact ⟨[], rfl, .done⟩
      rw [List.length_append, List.length_singleton] at hn
      simp only [List.getLast?_concat, List.dropLast_concat] at hrun
      rcases Act.bind_cases hrun with ⟨e, hreduced, rfl⟩ | ⟨worked, u, hreduced, hrun⟩
      · exact ⟨[.reduced m (.error e)], (Act.recording_eq hreduced).2, .unreduced others m e⟩
      have hreduction := (Act.recording_eq hreduced).2
      cases worked with
      | false =>
          obtain ⟨asked, hjournal, hrest⟩ := ih (show others.length ≤ n by omega) hrun
          refine ⟨.reduced m (.ok false) :: asked, ?_, hrest.dropped m⟩
          rw [hjournal, hreduction]
          simp
      | true =>
          rcases Act.bind_cases hrun with ⟨e, hsift, rfl⟩ | ⟨⟨hits, misses⟩, v, hsift, hrun⟩
          · obtain ⟨answers, next, later, rfl, hchecked⟩ := reducer.sift_eq_error hsift
            refine ⟨_, ?_, .unchecked m answers next later e⟩
            rw [hchecked, hreduction]
            simp
          obtain ⟨answers, rfl, rfl, rfl, hchecked⟩ := reducer.sift_eq_ok hsift
          rcases Act.bind_cases hrun with ⟨e, hpersist, rfl⟩ | ⟨path, w, hpersist, hrun⟩
          · refine ⟨_, ?_, .unsaved m answers e⟩
            rw [(Act.recording_eq hpersist).2, hchecked, hreduction]
            simp [groupOf]
          have hpersisted := (Act.recording_eq hpersist).2
          have hfewer : (answered false answers).length ≤ n := by
            have hle := length_answered_le false answers
            rw [List.length_map] at hn
            omega
          obtain ⟨later, hlater, rfl⟩ : ∃ later,
              reducer.journaled.triageUpTo n (answered false answers) w = (later, t) ∧
                result = later.map ({ mutants := groupOf m answers, path } :: ·) := by
            rcases Act.bind_cases hrun with ⟨e, hlater, rfl⟩ | ⟨groups, x, hlater, hdone⟩
            · exact ⟨.error e, hlater, rfl⟩
            · cases hdone
              exact ⟨.ok groups, hlater, rfl⟩
          obtain ⟨asked, hjournal, hrest⟩ := ih hfewer hlater
          refine ⟨questionsFor m answers path ++ asked, ?_, hrest.grouped m answers path⟩
          rw [hjournal, hpersisted, hchecked, hreduction]
          simp [questionsFor, groupOf]

/-- A triage follows the rule, to its end or to a failure. -/
theorem exists_merges (reducer : Reducer σ) (queue : List MutantId) (s : Journaled σ) :
    ∃ asked, (reducer.journaled.triage queue s).2.journal = asked.reverse ++ s.journal ∧
      Merges queue asked (reducer.journaled.triage queue s).1 :=
  reducer.exists_merges_of_triageUpTo (Nat.le_refl _) rfl

/-! ## What follows from the rule -/

section Checks

variable (answers : List (MutantId × Bool))

theorem isCheck_of_mem_checks {event : Event} (hevent : event ∈ checks answers) :
    event.isCheck = true := by
  obtain ⟨answer, -, rfl⟩ := List.mem_map.mp hevent
  rfl

theorem countP_isCheck_checks : (checks answers).countP Event.isCheck = answers.length := by
  have hall : ∀ event ∈ checks answers, event.isCheck = true := fun event hevent =>
    isCheck_of_mem_checks answers hevent
  rw [List.countP_eq_length.mpr hall, checks, List.length_map]

/-- Of the questions about one reduced program, the first and the last count at most once, if checks
do not count. -/
theorem countP_le_one {p : Event → Bool} (hcheck : ∀ event, event.isCheck = true → p event = false)
    (first last : Event) (hone : p first = true → p last = false) :
    (first :: (checks answers ++ [last])).countP p ≤ 1 := by
  have hchecks : (checks answers).countP p = 0 := by
    rw [List.countP_eq_zero]
    intro event hevent
    rw [hcheck event (isCheck_of_mem_checks answers hevent)]
    exact Bool.false_ne_true
  rw [List.countP_cons, List.countP_append, hchecks, List.countP_singleton]
  by_cases hfirst : p first = true
  · simp [hfirst, hone hfirst]
  · simp only [hfirst]
    split <;> simp

theorem onReduced_checks (m : MutantId) {last : Event}
    (hlast : (last.isCheck || last.isSave) = true) :
    OnReduced (.reduced m (.ok true) :: (checks answers ++ [last])) := by
  apply onReduced_cons
  intro event hevent
  rcases List.mem_append.mp hevent with hcheck | hsave
  · rw [isCheck_of_mem_checks answers hcheck]
    rfl
  · rw [List.mem_singleton.mp hsave]
    exact hlast

/-- Each mutant that was asked about got one answer. -/
theorem answered_append_perm :
    (answered true answers ++ answered false answers).Perm (answers.map Prod.fst) := by
  rw [answered, answered, ← List.map_append]
  apply List.Perm.map
  have hneg : (fun answer : MutantId × Bool => answer.2 == false) =
      fun answer => !(answer.2 == true) := by
    funext answer
    cases answer.2 <;> rfl
  rw [hneg]
  exact List.filter_append_perm _ answers

end Checks

/-- With one more in the queue, there is one more to check each of the others against. -/
theorem choose_two_succ (n : Nat) : (n + 1).choose 2 = n + n.choose 2 := by
  rw [Nat.choose_succ_succ', Nat.choose_one_right]

namespace Merges

variable {queue : List MutantId} {asked : List Event}
  {result : Except HuntError (List ReducedKill)}

/-- A question that is asked at most once about each reduction, and is no check, is asked at most
once for each member of the queue. -/
theorem countP_le (h : Merges queue asked result) {p : Event → Bool}
    (hcheck : ∀ event, event.isCheck = true → p event = false)
    (hone : ∀ m answer mutants saved, p (.reduced m answer) = true →
      p (.persisted mutants saved) = false) : asked.countP p ≤ queue.length := by
  have hsingle : ∀ event, [event].countP p ≤ 1 := fun event => List.countP_le_length
  induction h with
  | done => exact Nat.le_refl 0
  | unreduced queue m e =>
      have hle := hsingle (.reduced m (.error e))
      rw [List.length_append, List.length_singleton]
      omega
  | @dropped m queue asked result hrest ih =>
      have hle := hsingle (.reduced m (.ok false))
      rw [← List.singleton_append, List.countP_append, List.length_append, List.length_singleton]
      omega
  | unchecked m answers next later e =>
      have hle := countP_le_one answers hcheck (.reduced m (.ok true)) (.checked next (.error e))
        fun _ => hcheck _ rfl
      rw [List.length_append, List.length_singleton]
      omega
  | unsaved m answers e =>
      have hle := countP_le_one answers hcheck (.reduced m (.ok true))
        (.persisted (groupOf m answers) (.error e)) fun hfirst => hone _ _ _ _ hfirst
      rw [List.length_append, List.length_singleton]
      omega
  | @grouped m answers path asked result hrest ih =>
      have hle : (questionsFor m answers path).countP p ≤ 1 :=
        countP_le_one answers hcheck _ _ fun hfirst => hone _ _ _ _ hfirst
      have hmissed := length_answered_le false answers
      rw [List.countP_append, List.length_append, List.length_map, List.length_singleton]
      omega

/-- Each member of the queue is reduced for once at most. -/
theorem reductions_le (h : Merges queue asked result) :
    asked.countP (fun event => event.reduction.isSome) ≤ queue.length := by
  apply h.countP_le
  · intro event hcheck
    cases event <;> first | rfl | cases hcheck
  · intro m answer mutants saved _
    rfl

/-- Each member of the queue gives rise to one saved program at most. -/
theorem saves_le (h : Merges queue asked result) :
    asked.countP Event.isSave ≤ queue.length := by
  apply h.countP_le
  · intro event hcheck
    cases event <;> first | rfl | cases hcheck
  · intro m answer mutants saved hreduced
    cases hreduced

/-- No two members of the queue are checked against each other twice. -/
theorem checks_le (h : Merges queue asked result) :
    asked.countP Event.isCheck ≤ queue.length.choose 2 := by
  induction h with
  | done => exact Nat.le_refl 0
  | unreduced queue m e => exact Nat.zero_le _
  | @dropped m queue asked result hrest ih =>
      have hskip : (Event.reduced m (.ok false) :: asked).countP Event.isCheck =
          asked.countP Event.isCheck := List.countP_cons_of_neg Bool.false_ne_true
      rw [hskip, List.length_append, List.length_singleton, choose_two_succ]
      omega
  | unchecked m answers next later e =>
      have hcount : (Event.reduced m (.ok true) ::
          (checks answers ++ [.checked next (.error e)])).countP Event.isCheck =
            answers.length + 1 := by
        rw [List.countP_cons_of_neg Bool.false_ne_true, List.countP_append, countP_isCheck_checks]
        rfl
      rw [hcount, List.length_append, List.length_singleton, choose_two_succ, List.length_append,
        List.length_map, List.length_cons]
      omega
  | unsaved m answers e =>
      have hcount : (Event.reduced m (.ok true) ::
          (checks answers ++ [.persisted (groupOf m answers) (.error e)])).countP Event.isCheck =
            answers.length := by
        rw [List.countP_cons_of_neg Bool.false_ne_true, List.countP_append, countP_isCheck_checks]
        rfl
      rw [hcount, List.length_append, List.length_singleton, choose_two_succ, List.length_map]
      omega
  | @grouped m answers path asked result hrest ih =>
      have hcount : (questionsFor m answers path).countP Event.isCheck = answers.length := by
        rw [questionsFor, List.countP_append, List.countP_cons_of_neg Bool.false_ne_true,
          countP_isCheck_checks]
        rfl
      have hmissed := Nat.choose_le_choose 2 (length_answered_le false answers)
      rw [List.countP_append, hcount, List.length_append, List.length_singleton, choose_two_succ,
        List.length_map]
      omega

/-- Only programs of successful reductions are asked about, and only until the next reduction. -/
theorem onReduced (h : Merges queue asked result) : OnReduced asked := by
  induction h with
  | done => exact onReduced_nil
  | unreduced queue m e => exact onReduced_reduced m (.error e)
  | dropped m hrest ih => exact (onReduced_reduced m (.ok false)).append ih
  | unchecked m answers next later e => exact onReduced_checks answers m rfl
  | unsaved m answers e => exact onReduced_checks answers m rfl
  | grouped m answers path hrest ih =>
      have hgroup : OnReduced (questionsFor m answers path) := onReduced_checks answers m rfl
      exact hgroup.append ih

/-- If nothing fails, each entry of the queue ends up in a group or is dropped. -/
theorem perm (h : Merges queue asked result) {groups : List ReducedKill}
    (hok : result = .ok groups) :
    (groups.flatMap ReducedKill.mutants ++ asked.filterMap Event.dropped?).Perm queue := by
  induction h generalizing groups with
  | done =>
      cases hok
      exact .nil
  | unreduced queue m e => cases hok
  | @dropped m queue asked result hrest ih =>
      calc List.Perm (groups.flatMap ReducedKill.mutants ++ m :: asked.filterMap Event.dropped?)
            (m :: (groups.flatMap ReducedKill.mutants ++ asked.filterMap Event.dropped?)) :=
          List.perm_middle
        List.Perm _ (m :: queue) := (ih hok).cons m
        List.Perm _ (queue ++ [m]) := (List.perm_append_singleton m queue).symm
  | unchecked m answers next later e => cases hok
  | unsaved m answers e => cases hok
  | @grouped m answers path asked result hrest ih =>
      cases result with
      | error e => cases hok
      | ok later =>
          cases hok
          have hnone : (questionsFor m answers path).filterMap Event.dropped? = [] := by
            rw [List.filterMap_eq_nil_iff]
            intro event hevent
            simp only [questionsFor, List.cons_append, List.mem_cons, List.mem_append,
              List.not_mem_nil, or_false] at hevent
            rcases hevent with rfl | hcheck | rfl
            · rfl
            · have hkind := isCheck_of_mem_checks answers hcheck
              cases event <;> first | rfl | cases hkind
            · rfl
          rw [List.flatMap_cons, List.filterMap_append, hnone, List.nil_append, List.append_assoc]
          have hgroup : (groupOf m answers).Perm (m :: answered true answers) :=
            List.mergeSort_perm _ _
          calc List.Perm
                (groupOf m answers ++
                  (later.flatMap ReducedKill.mutants ++ asked.filterMap Event.dropped?))
                (m :: answered true answers ++ answered false answers) := hgroup.append (ih rfl)
            List.Perm _ (m :: answers.map Prod.fst) := (answered_append_perm answers).cons m
            List.Perm _ (answers.map Prod.fst ++ [m]) := (List.perm_append_singleton m _).symm

end Merges

/-! ## The journal leaves the run alone -/

/-- An act that keeps a journal gives what another act gives, and leaves the same world. -/
def Mirrors {α : Type} (act : Act HuntError (Journaled σ) α) (plain : Act HuntError σ α) : Prop :=
  ∀ s, plain s.world = ((act s).1, (act s).2.world)

section Mirrors

variable {α β : Type}

theorem mirrors_pure (a : α) :
    Mirrors (pure a : Act HuntError (Journaled σ) α) (pure a : Act HuntError σ α) := by
  intro s
  rfl

theorem mirrors_recording (event : Except HuntError α → Event) (act : Act HuntError σ α) :
    Mirrors (Journaled.recording event act) act := by
  intro s
  rfl

theorem mirrors_bind {x : Act HuntError (Journaled σ) α} {x' : Act HuntError σ α}
    {f : α → Act HuntError (Journaled σ) β} {f' : α → Act HuntError σ β} (hx : Mirrors x x')
    (hf : ∀ a, Mirrors (f a) (f' a)) : Mirrors (x >>= f) (x' >>= f') := by
  intro s
  have hfirst := hx s
  rcases hrun : x s with ⟨e | a, t⟩
  · rw [hrun] at hfirst
    rw [Act.bind_of_error hrun, Act.bind_of_error hfirst]
  · rw [hrun] at hfirst
    rw [Act.bind_of_ok hrun, Act.bind_of_ok hfirst]
    exact hf a t

theorem mirrors_sift (reducer : Reducer σ) (ms : List MutantId) :
    Mirrors (reducer.journaled.sift ms) (reducer.sift ms) := by
  induction ms with
  | nil => exact mirrors_pure _
  | cons m rest ih =>
      rw [sift, sift]
      apply mirrors_bind
      · exact mirrors_recording _ _
      intro hit
      apply mirrors_bind ih
      intro split
      exact mirrors_pure _

theorem mirrors_triageUpTo (reducer : Reducer σ) (n : Nat) (queue : List MutantId) :
    Mirrors (reducer.journaled.triageUpTo n queue) (reducer.triageUpTo n queue) := by
  induction n generalizing queue with
  | zero => exact mirrors_pure _
  | succ n ih =>
      rw [triageUpTo, triageUpTo]
      cases queue.getLast? with
      | none => exact mirrors_pure _
      | some m =>
          apply mirrors_bind
          · exact mirrors_recording _ _
          intro worked
          cases worked with
          | false => exact ih _
          | true =>
              apply mirrors_bind (reducer.mirrors_sift _)
              intro split
              apply mirrors_bind
              · exact mirrors_recording _ _
              intro path
              apply mirrors_bind (ih _)
              intro groups
              exact mirrors_pure _

end Mirrors

/-! ## Triages -/

/-- How a triage of the queue goes that asks these questions, oldest first. -/
structure Account (reducer : Reducer σ) (queue : List MutantId) (s : Journaled σ)
    (asked : List Event) : Prop where
  journal : (reducer.journaled.triage queue s).2.journal = asked.reverse ++ s.journal
  merges : Merges queue asked (reducer.journaled.triage queue s).1
  reductions : asked.countP (fun event => event.reduction.isSome) ≤ queue.length
  saves : asked.countP Event.isSave ≤ queue.length
  checks : asked.countP Event.isCheck ≤ queue.length * (queue.length - 1) / 2
  /-- Checked and saved are only programs of successful reductions, before the next reduction. -/
  program : OnReduced asked
  perm : ∀ groups, (reducer.journaled.triage queue s).1 = .ok groups →
    (groups.flatMap ReducedKill.mutants ++ asked.filterMap Event.dropped?).Perm queue
  /-- The first question that fails is the last one, and its failure the result. -/
  tells : Tells (reducer.journaled.triage queue s).1 asked.reverse

/-- A triage does what its specification does, with the candidates sifted as in place, and whatever
the reducer answers it asks within the bounds that the rule sets. -/
theorem triage_accounted (reducer : Reducer σ) (queue : List MutantId) :
    reducer.triage queue = reducer.merge queue ∧
      (∀ candidates, reducer.sift candidates = reducer.sweep 0 candidates []) ∧
      ∀ s : Journaled σ,
        reducer.triage queue s.world =
          ((reducer.journaled.triage queue s).1, (reducer.journaled.triage queue s).2.world) ∧
        ∃ asked, reducer.Account queue s asked := by
  refine ⟨reducer.triage_eq_merge queue, reducer.sift_eq_sweep, ?_⟩
  intro s
  refine ⟨reducer.mirrors_triageUpTo _ queue s, ?_⟩
  obtain ⟨asked, hjournal, hmerges⟩ := reducer.exists_merges queue s
  obtain ⟨written, hwritten, -, htells⟩ := reducer.logs_triage queue s
  have hsame : written = asked.reverse := List.append_cancel_right (hwritten.symm.trans hjournal)
  have hchecks := hmerges.checks_le
  rw [Nat.choose_two_right] at hchecks
  refine ⟨asked, ?_⟩
  constructor
  · exact hjournal
  · exact hmerges
  · exact hmerges.reductions_le
  · exact hmerges.saves_le
  · exact hchecks
  · exact hmerges.onReduced
  · exact fun groups hok => hmerges.perm hok
  · rw [← hsame]
    exact htells

end Reducer

end MutantHunt
