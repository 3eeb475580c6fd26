import MutantHunt.Proofs.Scheduler.Draw
import MutantHunt.Proofs.Scheduler.Requests

/-!
# The least tried go first

A selection is the only request that moves the round, and it does so only when nobody waits in it.
The counts that it jumps to are moved by others, in any order and by any amount.  What makes the
jump safe is that no mutant that is alive is ever *behind* the round, that is, has a lower count:
then the lowest count is the round where somebody waits in it, and above it where nobody does.

Counts are kept in words, and one that overflowed would be behind.  `attemptsIn` counts without
bound, so that it can say that none did.

## Main results

* `lowest?_advance` — after it has moved on, the round is the lowest count.
* `notBehind_serveAll` — no mutant gets behind the round, whatever is asked.
* `least_tried_first` — rounds only rise, and who is selected was tried least.
-/

namespace MutantHunt

namespace Request

/-- How many failed attempts a request records for a mutant. -/
def charges (m : MutantId) : Request → Nat
  | charge ms => ms.count m
  | _ => 0

theorem update_alive_eq {request : Request} {m : MutantId}
    (hnone : request.verdictFor? m = none) (n : UInt32) :
    request.update m (.alive n) = .alive (n + UInt32.ofNat (request.charges m)) := by
  cases request with
  | select tree limit => exact congrArg Standing.alive (UInt32.add_zero n).symm
  | charge ms => rfl
  | recordKill m' verdict =>
      have hother : m' ≠ m := by
        intro h
        simp [verdictFor?, h] at hnone
      simp only [update, if_neg hother]
      exact congrArg Standing.alive (UInt32.add_zero n).symm

/-- A mutant that is alive after a request was alive before it, and was charged by it at most. -/
theorem alive_of_update {request : Request} {m : MutantId} {standing : Standing} {n : UInt32}
    (halive : request.update m standing = .alive n) :
    ∃ k, standing = .alive k ∧ request.verdictFor? m = none ∧
      n = k + UInt32.ofNat (request.charges m) := by
  cases standing with
  | killed verdict =>
      rw [update_killed] at halive
      cases halive
  | alive k =>
      rcases request.update_alive m k with ⟨verdict, -, hkilled⟩ | ⟨hnone, -⟩
      · rw [hkilled] at halive
        cases halive
      · rw [update_alive_eq hnone, Standing.alive.injEq] at halive
        exact ⟨k, rfl, hnone, halive.symm⟩

end Request

/-- How many failed attempts at a mutant are recorded before its first kill. -/
def attemptsIn (m : MutantId) : List Request → Nat
  | [] => 0
  | request :: rest =>
      if (request.verdictFor? m).isSome then 0 else request.charges m + attemptsIn m rest

theorem attemptsIn_append_le (m : MutantId) (before later : List Request) :
    attemptsIn m before ≤ attemptsIn m (before ++ later) := by
  induction before with
  | nil => exact Nat.zero_le _
  | cons request rest ih =>
      simp only [List.cons_append, attemptsIn]
      split
      · exact Nat.le_refl 0
      · exact Nat.add_le_add_left ih _

/-- A mutant that is alive still was charged that often, up to the size of a word. -/
theorem foldl_update_alive {requests : List Request} {m : MutantId} {standing : Standing}
    {n : UInt32}
    (halive : requests.foldl (fun standing request => request.update m standing) standing =
      .alive n) :
    ∃ k, standing = .alive k ∧ n = k + UInt32.ofNat (attemptsIn m requests) := by
  induction requests generalizing standing with
  | nil => exact ⟨n, halive, (UInt32.add_zero n).symm⟩
  | cons request rest ih =>
      obtain ⟨j, hupdate, hn⟩ := ih halive
      obtain ⟨k, hstanding, hnone, hj⟩ := Request.alive_of_update hupdate
      refine ⟨k, hstanding, ?_⟩
      have hsum : attemptsIn m (request :: rest) = request.charges m + attemptsIn m rest := by
        simp [attemptsIn, hnone]
      rw [hn, hj, hsum, UInt32.ofNat_add, UInt32.add_assoc]

namespace Scheduler

variable {ρ : Type} {s : Scheduler ρ} {m : MutantId} {n : UInt32}

/-! ## The lowest count -/

theorem mem_counts_iff (s : Scheduler ρ) (n : UInt32) :
    n ∈ s.survivors.map Prod.snd ↔ ∃ m, s.attempts? m = some n := by
  simp only [List.mem_map, Prod.exists, mem_survivors_iff, attempts?_eq_some_iff]
  constructor
  · rintro ⟨m, k, hst, rfl⟩
    exact ⟨m, hst⟩
  · rintro ⟨m, hst⟩
    exact ⟨m, n, hst, rfl⟩

theorem lowest?_eq_some_iff (s : Scheduler ρ) (low : UInt32) :
    s.lowest? = some low ↔
      (∃ m, s.attempts? m = some low) ∧ ∀ m n, s.attempts? m = some n → low ≤ n := by
  rw [lowest?, List.min?_eq_some_iff, mem_counts_iff]
  constructor
  · rintro ⟨hsome, hleast⟩
    exact ⟨hsome, fun m n hn => hleast n ((s.mem_counts_iff n).mpr ⟨m, hn⟩)⟩
  · rintro ⟨hsome, hleast⟩
    refine ⟨hsome, fun n hn => ?_⟩
    obtain ⟨m, hm⟩ := (s.mem_counts_iff n).mp hn
    exact hleast m n hm

theorem exists_lowest? (hn : s.attempts? m = some n) :
    ∃ low, s.lowest? = some low ∧ low ≤ n := by
  cases hlow : s.lowest? with
  | none =>
      have hnone : s.survivors.map Prod.snd = [] := List.min?_eq_none_iff.mp hlow
      have hmem := (s.mem_counts_iff n).mpr ⟨m, hn⟩
      rw [hnone] at hmem
      cases hmem
  | some low => exact ⟨low, rfl, ((s.lowest?_eq_some_iff low).mp hlow).2 m n hn⟩

@[simp] theorem attempts?_advance (s : Scheduler ρ) (m : MutantId) :
    s.advance.attempts? m = s.attempts? m := by
  rw [attempts?, standing?_advance, attempts?]

@[simp] theorem attempts?_select [RandomSource ρ] (tree : Tree) (limit : Nat) (s : Scheduler ρ)
    (m : MutantId) :
    (select tree limit s).2.attempts? m = s.attempts? m := by
  rw [attempts?, standing?_select, attempts?]

@[simp] theorem lowest?_select [RandomSource ρ] (tree : Tree) (limit : Nat) (s : Scheduler ρ) :
    (select tree limit s).2.lowest? = s.lowest? := by
  simp only [lowest?, survivors, mutants, attempts?_select, table_select]

/-- All that moving on does to the round. -/
theorem round_advance_cases (s : Scheduler ρ) :
    ((∃ m, s.attempts? m = some s.round) ∧ s.advance.round = s.round) ∨
      ((∀ m, s.attempts? m ≠ some s.round) ∧ s.advance.round = s.lowest?.getD s.round) := by
  unfold advance
  by_cases hempty : s.eligible = []
  · refine .inr ⟨fun m hm => ?_, by rw [if_pos (List.isEmpty_iff.mpr hempty)]⟩
    have hwaits := (s.mem_eligible_iff m).mpr hm
    rw [hempty] at hwaits
    cases hwaits
  · obtain ⟨m, hm⟩ := List.exists_mem_of_ne_nil _ hempty
    refine .inl ⟨⟨m, (s.mem_eligible_iff m).mp hm⟩, ?_⟩
    rw [if_neg (by rwa [List.isEmpty_iff])]

/-! ## Nobody is behind -/

/-- The mutant, if it is alive, has no lower count than the round. -/
def NotBehind (s : Scheduler ρ) (m : MutantId) : Prop :=
  ∀ n, s.attempts? m = some n → s.round ≤ n

/-- Moving on gets nobody behind. -/
theorem round_advance_le (hm : s.NotBehind m) (hn : s.attempts? m = some n) :
    s.advance.round ≤ n := by
  rcases s.round_advance_cases with ⟨-, hround⟩ | ⟨-, hround⟩
  · rw [hround]
    exact hm n hn
  · obtain ⟨low, hlow, hle⟩ := exists_lowest? hn
    rwa [hround, hlow, Option.getD_some]

/-- Moving on is no step back, as long as nobody is behind. -/
theorem round_le_round_advance (hall : ∀ m, s.NotBehind m) : s.round ≤ s.advance.round := by
  rcases s.round_advance_cases with ⟨-, hround⟩ | ⟨-, hround⟩
  · rw [hround]
    exact UInt32.le_refl _
  · rw [hround]
    cases hlow : s.lowest? with
    | none => exact UInt32.le_refl _
    | some low =>
        obtain ⟨⟨m, hm⟩, -⟩ := (s.lowest?_eq_some_iff low).mp hlow
        exact hall m low hm

/-- After it has moved on, the round is the lowest count of all that are alive. -/
theorem lowest?_advance (hall : ∀ m, s.NotBehind m) (hn : s.attempts? m = some n) :
    s.lowest? = some s.advance.round := by
  rcases s.round_advance_cases with ⟨hwaits, hround⟩ | ⟨-, hround⟩
  · rw [hround, lowest?_eq_some_iff]
    exact ⟨hwaits, fun m n hn => hall m n hn⟩
  · obtain ⟨low, hlow, -⟩ := exists_lowest? hn
    rw [hround, hlow, Option.getD_some]

theorem round_advance_of_all_dead (hdead : ∀ m, s.attempts? m = none) :
    s.advance.round = s.round := by
  rcases s.round_advance_cases with ⟨-, hround⟩ | ⟨-, hround⟩
  · exact hround
  · cases hlow : s.lowest? with
    | none => rw [hround, hlow, Option.getD_none]
    | some low =>
        obtain ⟨⟨m, hm⟩, -⟩ := (s.lowest?_eq_some_iff low).mp hlow
        rw [hdead] at hm
        cases hm

/-! ## Over any requests -/

variable [RandomSource ρ]

theorem serveAll_append (s : Scheduler ρ) (before later : List Request) :
    s.serveAll (before ++ later) = (s.serveAll before).serveAll later :=
  List.foldl_append

theorem serveAll_concat (s : Scheduler ρ) (before : List Request) (request : Request) :
    s.serveAll (before ++ [request]) = (s.serveAll before).serve request := by
  rw [serveAll_append]
  rfl

/-- Only a selection moves the round. -/
theorem round_serve (s : Scheduler ρ) (request : Request) :
    (s.serve request).round = s.round ∨ (s.serve request).round = s.advance.round := by
  cases request with
  | select tree limit => exact .inr (round_select tree limit s)
  | charge ms => exact .inl (s.round_charge ms)
  | recordKill m verdict => exact .inl (s.round_recordKill m verdict)

/-- The count of a mutant that is alive is the number of its failed attempts so far, if that is a
word. -/
theorem toNat_attempts?_serveAll {total : Nat} {rng : ρ} {requests : List Request}
    (hsmall : total < UInt32.size) (hfew : attemptsIn m requests < UInt32.size)
    (hn : ((new total rng).serveAll requests).attempts? m = some n) :
    n.toNat = attemptsIn m requests := by
  rw [attempts?_eq_some_iff, standing?_serveAll, Option.map_eq_some_iff] at hn
  obtain ⟨first, hnew, hfold⟩ := hn
  obtain ⟨k, rfl, hcount⟩ := foldl_update_alive hfold
  rw [standing?_new rng hsmall] at hnew
  split at hnew
  · cases hnew
    rw [hcount, UInt32.zero_add, UInt32.toNat_ofNat_of_lt' hfew]
  · cases hnew

theorem attempts?_of_serve {request : Request}
    (hn : (s.serve request).attempts? m = some n) : ∃ k, s.attempts? m = some k := by
  rw [attempts?_eq_some_iff, standing?_serve, Option.map_eq_some_iff] at hn
  obtain ⟨standing, hbefore, hupdate⟩ := hn
  obtain ⟨k, rfl, -⟩ := Request.alive_of_update hupdate
  exact ⟨k, (s.attempts?_eq_some_iff m k).mpr hbefore⟩

/-- No request gets a mutant behind the round whose count does not overflow. -/
theorem notBehind_serveAll {total : Nat} (hsmall : total < UInt32.size) (rng : ρ)
    {requests : List Request} (hfew : attemptsIn m requests < UInt32.size) :
    ((new total rng).serveAll requests).NotBehind m := by
  induction requests using List.reverseRecOn with
  | nil => exact fun n _ => UInt32.le_iff_toNat_le.mpr (Nat.zero_le _)
  | append_singleton before request ih =>
      have hless := attemptsIn_append_le m before [request]
      have hbefore := ih (Nat.lt_of_le_of_lt hless hfew)
      intro n hn
      have hcount := toNat_attempts?_serveAll hsmall hfew hn
      rw [serveAll_concat] at hn ⊢
      obtain ⟨k, hk⟩ := attempts?_of_serve hn
      have hkn : k ≤ n := by
        rw [UInt32.le_iff_toNat_le, hcount,
          toNat_attempts?_serveAll hsmall (Nat.lt_of_le_of_lt hless hfew) hk]
        exact hless
      rcases round_serve ((new total rng).serveAll before) request with hround | hround
      · rw [hround]
        exact UInt32.le_trans (hbefore k hk) hkn
      · rw [hround]
        exact UInt32.le_trans (round_advance_le hbefore hk) hkn

/-- Rounds rise over requests that get nobody behind in between. -/
theorem round_le_round_serveAll {requests : List Request}
    (hall : ∀ before later, before ++ later = requests → ∀ m, (s.serveAll before).NotBehind m) :
    s.round ≤ (s.serveAll requests).round := by
  induction requests generalizing s with
  | nil => exact UInt32.le_refl _
  | cons request rest ih =>
      have hfirst : s.round ≤ (s.serve request).round := by
        rcases s.round_serve request with hround | hround
        · rw [hround]
          exact UInt32.le_refl _
        · rw [hround]
          exact round_le_round_advance (hall [] _ rfl)
      refine UInt32.le_trans hfirst (ih fun before later hsplit => ?_)
      exact hall (request :: before) later (congrArg (request :: ·) hsplit)

/-- How the round and the counts go together, after some requests to a scheduler. -/
structure LeastFirst (first : Scheduler ρ) (requests : List Request) : Prop where
  /-- The round never decreased. -/
  rises : ∀ before later, before ++ later = requests →
    (first.serveAll before).round ≤ (first.serveAll requests).round
  /-- Nobody who is alive has a lower count than the round. -/
  notBehind : ∀ m, (first.serveAll requests).NotBehind m
  /-- A selection leaves the round at the lowest count of those that are alive, if there are any,
  also when it fails. -/
  lowest : ∀ tree limit m n, (first.serveAll requests).attempts? m = some n →
    (select tree limit (first.serveAll requests)).2.lowest? =
      some (select tree limit (first.serveAll requests)).2.round
  /-- Who is selected is alive, and nobody was tried less. -/
  selected : ∀ tree limit batch, (select tree limit (first.serveAll requests)).1 = .ok batch →
    ∀ m ∈ batch, ∃ k, (first.serveAll requests).attempts? m = some k ∧
      ∀ other n, (first.serveAll requests).attempts? other = some n → k ≤ n
  /-- With nobody alive, a selection leaves the round as it is. -/
  idle : (∀ m, (first.serveAll requests).attempts? m = none) → ∀ tree limit,
    (select tree limit (first.serveAll requests)).2.round = (first.serveAll requests).round

/-- Who is selected waits in the round that the scheduler has moved on to. -/
theorem attempts?_of_mem_select {tree : Tree} {limit : Nat} {batch : List MutantId}
    (hok : (select tree limit s).1 = .ok batch) (hm : m ∈ batch) :
    s.attempts? m = some s.advance.round := by
  simp only [select] at hok
  obtain ⟨-, hpool, -⟩ := draw_ok hok
  have hwaits := (s.advance.mem_eligible_iff m).mp (hpool m hm)
  rwa [attempts?_advance] at hwaits

/-- Whatever is asked of the scheduler, as long as no count overflows the least tried go first. -/
theorem least_tried_first {total : Nat} (hsmall : total < UInt32.size) (rng : ρ)
    {requests : List Request}
    (hfew : ∀ m, m.toNat < total → attemptsIn m requests < UInt32.size) :
    (new total rng).LeastFirst requests := by
  have hall : ∀ before later, before ++ later = requests →
      ∀ m, ((new total rng).serveAll before).NotBehind m := by
    intro before later hsplit m
    by_cases hm : m.toNat < total
    · refine notBehind_serveAll hsmall rng (Nat.lt_of_le_of_lt ?_ (hfew m hm))
      rw [← hsplit]
      exact attemptsIn_append_le m before later
    · intro n hn
      have hlt := lt_size_of_attempts? hn
      rw [size_serveAll, new, Array.size_replicate, Nat.mod_eq_of_lt hsmall] at hlt
      exact absurd hlt hm
  have hlast := hall requests [] (List.append_nil _)
  constructor
  · intro before later hsplit
    rw [← hsplit, serveAll_append]
    refine round_le_round_serveAll fun middle rest hlater => ?_
    rw [← serveAll_append]
    refine hall (before ++ middle) rest ?_
    rw [List.append_assoc, hlater, hsplit]
  · exact hlast
  · intro tree limit m n hn
    rw [lowest?_select, round_select]
    exact lowest?_advance hlast hn
  · intro tree limit batch hok m hm
    have hwaits := attempts?_of_mem_select hok hm
    exact ⟨_, hwaits, fun other n hn => round_advance_le (hlast other) hn⟩
  · intro hdead tree limit
    rw [round_select, round_advance_of_all_dead hdead]

/-- Three mutants are charged twice each, beside one that is not on record, before the first
selection.  Mutant 2 dies after it, and is charged once more. -/
def jumpToTwo : List Request :=
  [.charge [0, 0, 1], .charge [2, 1, 2, 9], .select .twoFiles 2, .recordKill 2 .runFailKill,
    .charge [1, 2], .select .twoFiles 0]

-- The round skips the level that nobody was at in a selection.
example : ((new 3 (WyRand.mk 0)).serveAll jumpToTwo).round = 2 := by
  cbv

theorem least_tried_first_jumpToTwo :
    3 < UInt32.size ∧
      (∀ m : MutantId, m.toNat < 3 → attemptsIn m jumpToTwo < UInt32.size) ∧
      (new 3 (WyRand.mk 0)).LeastFirst jumpToTwo := by
  have hfew : ∀ m : MutantId, m.toNat < 3 → attemptsIn m jumpToTwo < UInt32.size := by
    intro m hm
    have hcases : m = 0 ∨ m = 1 ∨ m = 2 := by
      simp only [← UInt32.toNat_inj, UInt32.reduceToNat]
      omega
    rcases hcases with rfl | rfl | rfl <;> decide
  exact ⟨by decide, hfew, least_tried_first (by decide) (WyRand.mk 0) hfew⟩

end Scheduler

end MutantHunt
