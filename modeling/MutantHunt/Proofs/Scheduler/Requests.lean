import MutantHunt.Proofs.Scheduler.Table

/-!
# What can be asked of a scheduler

Whoever holds a scheduler can select batches, charge mutants and record kills, in any order and
with any arguments: a tree that has nothing to do with the table, mutants that are dead, listed
twice or not on record.  Each of these *requests* does one thing to the standing of one mutant,
`Request.update`, so a whole sequence of them does to it what they do one after the other.  That
one equation tells who is dead, since when, and of what.

## Main results

* `standing?_serveAll` — the standing of a mutant after any requests.
* `standingAfter_eq_killed_iff` — the first kill is the one that counts.
-/

namespace MutantHunt

/-- What can be asked of a scheduler. -/
inductive Request where
  /-- Draw a batch of at most so many mutants, with the relatives of a tree. -/
  | select (tree : Tree) (limit : Nat)
  /-- Record a failed attempt at each of the mutants. -/
  | charge (ms : List MutantId)
  | recordKill (m : MutantId) (verdict : Verdict)

/-- What a request is answered. -/
inductive Answer where
  | batch (result : Except TreeError (List MutantId))
  | charged
  /-- Whether the kill is news. -/
  | killed (news : Bool)

namespace Request

/-- The mutants that a request is about. -/
def mutants : Request → List MutantId
  | select _ _ => []
  | charge ms => ms
  | recordKill m _ => [m]

/-- The verdict of the kill that a request records for a mutant. -/
def verdictFor? (m : MutantId) : Request → Option Verdict
  | recordKill m' verdict => if m' = m then some verdict else none
  | _ => none

/-- What a request does to the standing of a mutant. -/
def update (m : MutantId) : Request → Standing → Standing
  | select _ _ => id
  | charge ms => Standing.chargeBy (ms.count m)
  | recordKill m' verdict => if m' = m then Standing.kill verdict else id

theorem update_killed (request : Request) (m : MutantId) (verdict : Verdict) :
    request.update m (.killed verdict) = .killed verdict := by
  cases request with
  | select tree limit => rfl
  | charge ms => rfl
  | recordKill m' other =>
      by_cases h : m' = m
      · simp [update, h, Standing.kill]
      · simp [update, h]

/-- A mutant that is alive dies of a request only if that records its kill. -/
theorem update_alive (request : Request) (m : MutantId) (n : UInt32) :
    (∃ verdict, request.verdictFor? m = some verdict ∧
        request.update m (.alive n) = .killed verdict) ∨
      (request.verdictFor? m = none ∧ ∃ k, request.update m (.alive n) = .alive k) := by
  cases request with
  | select tree limit => exact .inr ⟨rfl, n, rfl⟩
  | charge ms => exact .inr ⟨rfl, _, rfl⟩
  | recordKill m' verdict =>
      by_cases h : m' = m
      · exact .inl ⟨verdict, by simp [verdictFor?, h], by simp [update, h, Standing.kill]⟩
      · exact .inr ⟨by simp [verdictFor?, h], n, by simp [update, h]⟩

/-- A request leaves a mutant alone that it is not about. -/
theorem update_of_not_mem {request : Request} {m : MutantId} (hother : m ∉ request.mutants) :
    request.update m = id := by
  cases request with
  | select tree limit => rfl
  | charge ms =>
      have hcount : ms.count m = 0 := List.count_eq_zero.mpr hother
      simp [update, hcount]
  | recordKill m' verdict =>
      have hne : m' ≠ m := fun h => hother (by simp [mutants, h])
      simp [update, hne]

end Request

/-- The standing of a mutant after some requests, when it was untried before. -/
def standingAfter (requests : List Request) (m : MutantId) : Standing :=
  requests.foldl (fun standing request => request.update m standing) (.alive 0)

/-- Whatever is asked later, the dead stay as they are. -/
theorem foldl_update_killed (requests : List Request) (m : MutantId) (verdict : Verdict) :
    requests.foldl (fun standing request => request.update m standing) (.killed verdict) =
      .killed verdict := by
  induction requests with
  | nil => rfl
  | cons request rest ih => rw [List.foldl_cons, request.update_killed, ih]

/-- Requests kill a mutant that is alive with the first verdict that they have for it. -/
theorem foldl_update_alive_eq_killed_iff (requests : List Request) (m : MutantId) (n : UInt32)
    (verdict : Verdict) :
    requests.foldl (fun standing request => request.update m standing) (.alive n) =
        .killed verdict ↔ requests.findSome? (·.verdictFor? m) = some verdict := by
  induction requests generalizing n with
  | nil => simp
  | cons request rest ih =>
      rw [List.foldl_cons, List.findSome?_cons]
      rcases request.update_alive m n with ⟨first, hfirst, hkilled⟩ | ⟨hnone, k, halive⟩
      · rw [hkilled, foldl_update_killed, hfirst]
        simp
      · rw [halive, ih, hnone]

theorem standingAfter_eq_killed_iff (requests : List Request) (m : MutantId) (verdict : Verdict) :
    standingAfter requests m = .killed verdict ↔
      requests.findSome? (·.verdictFor? m) = some verdict :=
  foldl_update_alive_eq_killed_iff requests m 0 verdict

namespace Scheduler

variable {ρ : Type}

/-! ## Who is on the lists -/

/-- The mutants that are alive. -/
def living (s : Scheduler ρ) : List MutantId :=
  s.survivors.map Prod.fst

theorem mem_mutants_of_standing? {s : Scheduler ρ} {m : MutantId} {standing : Standing}
    (hst : s.standing? m = some standing) : m ∈ s.mutants :=
  mem_mutants_iff.mpr ⟨m.toNat, (Array.getElem?_eq_some_iff.mp hst).1, UInt32.ofNat_toNat⟩

theorem mem_kills_iff (s : Scheduler ρ) (m : MutantId) (verdict : Verdict) :
    (m, verdict) ∈ s.kills ↔ s.standing? m = some (.killed verdict) := by
  simp only [kills, List.mem_filterMap, Option.map_eq_some_iff, Prod.mk.injEq,
    verdict?_eq_some_iff]
  constructor
  · rintro ⟨m', -, verdict', hst, rfl, rfl⟩
    exact hst
  · intro hst
    exact ⟨m, mem_mutants_of_standing? hst, verdict, hst, rfl, rfl⟩

theorem mem_survivors_iff (s : Scheduler ρ) (m : MutantId) (n : UInt32) :
    (m, n) ∈ s.survivors ↔ s.standing? m = some (.alive n) := by
  simp only [survivors, List.mem_filterMap, Option.map_eq_some_iff, Prod.mk.injEq,
    attempts?_eq_some_iff]
  constructor
  · rintro ⟨m', -, n', hst, rfl, rfl⟩
    exact hst
  · intro hst
    exact ⟨m, mem_mutants_of_standing? hst, n, hst, rfl, rfl⟩

theorem mem_living_iff (s : Scheduler ρ) (m : MutantId) :
    m ∈ s.living ↔ ∃ n, s.standing? m = some (.alive n) := by
  simp only [living, List.mem_map, Prod.exists, mem_survivors_iff]
  constructor
  · rintro ⟨m', n, hst, rfl⟩
    exact ⟨n, hst⟩
  · rintro ⟨n, hst⟩
    exact ⟨m, n, hst, rfl⟩

/-! ## Serving requests -/

variable [RandomSource ρ]

/-- The scheduler that a request leaves, whether it succeeds or fails. -/
def serve (s : Scheduler ρ) : Request → Scheduler ρ
  | .select tree limit => (select tree limit s).2
  | .charge ms => s.charge ms
  | .recordKill m verdict => (s.recordKill m verdict).2

def answer (s : Scheduler ρ) : Request → Answer
  | .select tree limit => .batch (select tree limit s).1
  | .charge _ => .charged
  | .recordKill m verdict => .killed (s.recordKill m verdict).1

/-- The scheduler that one request after the other leaves. -/
def serveAll (s : Scheduler ρ) (requests : List Request) : Scheduler ρ :=
  requests.foldl serve s

theorem standing?_serve (s : Scheduler ρ) (request : Request) (m : MutantId) :
    (s.serve request).standing? m = (s.standing? m).map (request.update m) := by
  cases request with
  | select tree limit =>
      rw [serve, standing?_select, Request.update, Option.map_id, id]
  | charge ms => exact s.standing?_charge ms m
  | recordKill m' verdict =>
      rw [serve, standing?_recordKill, Request.update]
      by_cases h : m' = m
      · rw [if_pos h, if_pos h]
      · rw [if_neg h, if_neg h, Option.map_id, id]

theorem standing?_serveAll (s : Scheduler ρ) (requests : List Request) (m : MutantId) :
    (s.serveAll requests).standing? m =
      (s.standing? m).map fun standing =>
        requests.foldl (fun standing request => request.update m standing) standing := by
  unfold serveAll
  induction requests generalizing s with
  | nil => simp
  | cons request rest ih =>
      rw [List.foldl_cons, ih, standing?_serve, Option.map_map]
      rfl

theorem size_serve (s : Scheduler ρ) (request : Request) :
    (s.serve request).table.size = s.table.size := by
  cases request with
  | select tree limit => rw [serve, table_select]
  | charge ms => exact s.size_charge ms
  | recordKill m verdict => exact s.size_recordKill m verdict

theorem total_serve (s : Scheduler ρ) (request : Request) : (s.serve request).total = s.total := by
  cases request with
  | select tree limit => exact total_select tree limit s
  | charge ms => exact s.total_charge ms
  | recordKill m verdict => exact s.total_recordKill m verdict

theorem size_serveAll (s : Scheduler ρ) (requests : List Request) :
    (s.serveAll requests).table.size = s.table.size := by
  unfold serveAll
  induction requests generalizing s with
  | nil => rfl
  | cons request rest ih => rw [List.foldl_cons, ih, size_serve]

theorem total_serveAll (s : Scheduler ρ) (requests : List Request) :
    (s.serveAll requests).total = s.total := by
  unfold serveAll
  induction requests generalizing s with
  | nil => rfl
  | cons request rest ih => rw [List.foldl_cons, ih, total_serve]

end Scheduler

end MutantHunt
