import Mathlib.Data.List.Sort
import MutantHunt.Proofs.Scheduler.Requests
import Std.Data.TreeMap.Lemmas

/-!
# A register of the living and one of the dead

The standings can be kept in two maps as well: from the mutants that are alive to their failed
attempts, and from the dead to their verdicts.  A kill takes a mutant out of the one and enters it
in the other.  Nothing in the type keeps a mutant from being in both registers, or in neither; only
the operations do.

`Registers` is the scheduler with these two maps, operation by operation.  It `Matches` the
scheduler with one table if both know the same of every mutant.  Each request keeps them matching
and has the same answer, so nobody who asks can tell them apart.

## Main results

* `matches_serve` — each request keeps registers and table matching.
* `Matches.agrees` — then everything that can be read off or asked is the same.
* `agrees_serveAll` — so it is after any requests to a new scheduler.
-/

namespace MutantHunt

/-- What is known of all mutants, as two registers, and the state of the draw. -/
structure Registers (ρ : Type) where
  /-- How many mutants there ought to be. -/
  total : Nat
  /-- The failed attempts at each mutant that is alive. -/
  living : Std.TreeMap MutantId UInt32
  /-- The verdict of each mutant that is dead. -/
  dead : Std.TreeMap MutantId Verdict
  round : UInt32
  rng : ρ

namespace Registers

section Definitions

variable {ρ : Type}

/-- All mutants alive and untried. -/
def new (total : Nat) (rng : ρ) : Registers ρ where
  total
  living := .ofList (((List.range (total % UInt32.size)).map UInt32.ofNat).map (·, (0 : UInt32)))
  dead := ∅
  round := 0
  rng

/-- The mutants that still wait for their attempt in the current round, ascending. -/
def eligible (r : Registers ρ) : List MutantId :=
  (r.living.toList.filter fun entry => entry.2 == r.round).map Prod.fst

/-- Draws a batch among those who wait in the current round. -/
def drawBatch [RandomSource ρ] (tree : Tree) (limit : Nat) :
    Act TreeError (Registers ρ) (List MutantId) := fun r =>
  let pool := r.eligible
  let (batch, rng) := Scheduler.draw tree (min limit pool.length) pool r.rng
  (batch, { r with rng })

/-- Draws a batch.  If nobody waits in the current round, that is set to the lowest count before,
and if nobody is alive either, nothing is drawn. -/
def select [RandomSource ρ] (tree : Tree) (limit : Nat) :
    Act TreeError (Registers ρ) (List MutantId) := fun r =>
  if r.eligible.isEmpty then
    match (r.living.toList.map Prod.snd).min? with
    | none => (.ok [], r)
    | some lowest => drawBatch tree limit { r with round := lowest }
  else drawBatch tree limit r

/-- Counts a failed attempt at a mutant that is in the register of the living. -/
def chargeOne (r : Registers ρ) (m : MutantId) : Registers ρ :=
  { r with living := r.living.modify m (· + 1) }

/-- Counts a failed attempt at each of the mutants. -/
def charge (r : Registers ρ) (ms : List MutantId) : Registers ρ :=
  ms.foldl chargeOne r

/-- Takes a mutant out of the register of the living and enters it in that of the dead.  Tells
whether it was in the first; if not, neither is changed. -/
def recordKill (r : Registers ρ) (m : MutantId) (verdict : Verdict) : Bool × Registers ρ :=
  if r.living.contains m then
    (true, { r with living := r.living.erase m, dead := r.dead.insert m verdict })
  else (false, r)

/-- Fails if the registers together do not have as many entries as there ought to be. -/
def check (r : Registers ρ) : Except HuntError Unit :=
  if r.dead.size + r.living.size = r.total then .ok ()
  else .error (.outOfSync r.dead.size r.living.size r.total)

variable [RandomSource ρ]

/-- The registers that a request leaves, whether it succeeds or fails. -/
def serve (r : Registers ρ) : Request → Registers ρ
  | .select tree limit => (select tree limit r).2
  | .charge ms => r.charge ms
  | .recordKill m verdict => (r.recordKill m verdict).2

def answer (r : Registers ρ) : Request → Answer
  | .select tree limit => .batch (select tree limit r).1
  | .charge _ => .charged
  | .recordKill m verdict => .killed (r.recordKill m verdict).1

/-- The registers that one request after the other leaves. -/
def serveAll (r : Registers ρ) (requests : List Request) : Registers ρ :=
  requests.foldl serve r

end Definitions

variable {ρ : Type} {r : Registers ρ} {s : Scheduler ρ}

/-- The registers and the table know the same of every mutant. -/
structure Matches (r : Registers ρ) (s : Scheduler ρ) : Prop where
  living : ∀ m, r.living[m]? = s.attempts? m
  dead : ∀ m, r.dead[m]? = s.verdict? m
  total : r.total = s.total
  round : r.round = s.round
  rng : r.rng = s.rng
  /-- No row of the table is beyond the numbers that a mutant can have. -/
  small : s.table.size ≤ UInt32.size

/-! ## What can be read off -/

/-- A map in which a list that is ascending can be looked up has just this list for its entries. -/
theorem toList_eq_of_pairwise {α : Type} {map : Std.TreeMap MutantId α}
    {entries : List (MutantId × α)} (hascending : entries.Pairwise fun a b => a.1 < b.1)
    (hentries : ∀ m a, (m, a) ∈ entries ↔ map[m]? = some a) : map.toList = entries := by
  have hordered : map.toList.Pairwise fun a b => a.1 < b.1 :=
    Std.TreeMap.ordered_keys_toList.imp Std.compare_eq_lt.mp
  refine hordered.eq_of_mem_iff hascending fun (m, a) => ?_
  rw [Std.TreeMap.mem_toList_iff_getElem?_eq_some, hentries]

namespace Matches

theorem toList_living (h : r.Matches s) : r.living.toList = s.survivors := by
  refine toList_eq_of_pairwise (Scheduler.pairwise_survivors h.small) fun m n => ?_
  rw [Scheduler.mem_survivors_iff, h.living, Scheduler.attempts?_eq_some_iff]

theorem toList_dead (h : r.Matches s) : r.dead.toList = s.kills := by
  refine toList_eq_of_pairwise (Scheduler.pairwise_kills h.small) fun m verdict => ?_
  rw [Scheduler.mem_kills_iff, h.dead, Scheduler.verdict?_eq_some_iff]

theorem size_living (h : r.Matches s) : r.living.size = s.unkilledCount := by
  rw [← Std.TreeMap.length_toList, h.toList_living, Scheduler.length_survivors h.small]

theorem size_dead (h : r.Matches s) : r.dead.size = s.killedCount := by
  rw [← Std.TreeMap.length_toList, h.toList_dead, Scheduler.length_kills h.small]

theorem check_eq (h : r.Matches s) : r.check = s.check := by
  rw [check, Scheduler.check, h.size_dead, h.size_living, h.total]

theorem eligible_eq (h : r.Matches s) : r.eligible = s.eligible := by
  rw [eligible, h.toList_living, h.round, Scheduler.survivors, Scheduler.eligible,
    List.filter_filterMap, List.map_filterMap, ← List.filterMap_eq_filter]
  refine List.filterMap_congr fun m _ => ?_
  rw [Option.guard]
  cases s.attempts? m with
  | none => rfl
  | some n =>
      by_cases hwaits : n = s.round
      · simp [hwaits]
      · simp [hwaits]

end Matches

/-! ## One request -/

theorem matches_new (total : Nat) (rng : ρ) : (new total rng).Matches (.new total rng) := by
  have hsize : (Scheduler.new total rng).table.size = total % UInt32.size := by
    rw [Scheduler.new, Array.size_replicate]
  have hsmall : (Scheduler.new total rng).table.size ≤ UInt32.size := by
    rw [hsize]
    exact Nat.le_of_lt (Nat.mod_lt _ (by decide))
  have hliving : (new total rng).living =
      .ofList ((Scheduler.new total rng).mutants.map (·, (0 : UInt32))) := by
    rw [Scheduler.mutants, hsize, new]
  have hstanding : ∀ m, (Scheduler.new total rng).standing? m =
      if m.toNat < total % UInt32.size then some (.alive 0) else none := by
    intro m
    simp only [Scheduler.new, Scheduler.standing?, Array.getElem?_replicate]
  refine ⟨fun m => ?_, fun m => ?_, rfl, rfl, rfl, hsmall⟩
  · rw [hliving, Scheduler.attempts?, hstanding]
    by_cases hlt : m.toNat < total % UInt32.size
    · rw [if_pos hlt]
      apply Std.TreeMap.getElem?_ofList_of_mem (k := m) Std.ReflOrd.compare_self
      · refine List.pairwise_map.mpr ((Scheduler.pairwise_mutants hsmall).imp fun hless heq => ?_)
        rw [Std.LawfulEqCmp.compare_eq_iff_eq] at heq
        exact UInt32.ne_of_lt hless heq
      · have hrow := (hstanding m).trans (if_pos hlt)
        exact List.mem_map_of_mem (Scheduler.mem_mutants_of_standing? hrow)
    · rw [if_neg hlt]
      apply Std.TreeMap.getElem?_ofList_of_contains_eq_false
      have hunlisted : m ∉ (Scheduler.new total rng).mutants := by
        intro hm
        obtain ⟨i, hi, rfl⟩ := Scheduler.mem_mutants_iff.mp hm
        rw [UInt32.toNat_ofNat_of_lt' (Nat.lt_of_lt_of_le hi hsmall), ← hsize] at hlt
        exact hlt hi
      simpa [List.contains_eq_mem, Function.comp_def] using hunlisted
  · rw [Scheduler.verdict?, hstanding]
    show (∅ : Std.TreeMap MutantId Verdict)[m]? = _
    rw [Std.TreeMap.getElem?_emptyc]
    split
    · rfl
    · rfl

namespace Matches

theorem chargeOne (h : r.Matches s) (m : MutantId) :
    (r.chargeOne m).Matches (s.chargeOne m) := by
  refine ⟨fun m' => ?_, fun m' => ?_, h.total, h.round, h.rng, ?_⟩
  · simp only [Registers.chargeOne, Std.TreeMap.getElem?_modify, Std.LawfulEqCmp.compare_eq_iff_eq,
      h.living, Scheduler.attempts?, Scheduler.standing?_chargeOne]
    by_cases hsame : m = m'
    · subst hsame
      rw [if_pos rfl, if_pos rfl]
      rcases s.standing? m with _ | n | verdict <;> rfl
    · rw [if_neg hsame, if_neg hsame, Standing.chargeBy_zero, Option.map_id, id]
  · rw [Registers.chargeOne, h.dead, Scheduler.verdict?, Scheduler.verdict?,
      Scheduler.standing?_chargeOne]
    rcases s.standing? m' with _ | n | verdict <;> rfl
  · rw [Scheduler.chargeOne, Array.size_modify]
    exact h.small

theorem charge (h : r.Matches s) (ms : List MutantId) : (r.charge ms).Matches (s.charge ms) := by
  unfold Registers.charge Scheduler.charge
  induction ms generalizing r s with
  | nil => exact h
  | cons m rest ih => exact ih (h.chargeOne m)

theorem recordKill (h : r.Matches s) (m : MutantId) (verdict : Verdict) :
    (r.recordKill m verdict).1 = (s.recordKill m verdict).1 ∧
      (r.recordKill m verdict).2.Matches (s.recordKill m verdict).2 := by
  have hlisted : r.living.contains m = (s.attempts? m).isSome := by
    rw [Std.TreeMap.contains_eq_isSome_getElem?, h.living]
  have hafter := fun m' => s.standing?_recordKill m' m verdict
  have hsize := s.size_recordKill m verdict
  rw [Registers.recordKill, hlisted, Scheduler.attempts?]
  rw [Scheduler.recordKill] at hafter hsize ⊢
  cases hst : s.standing? m with
  | none => exact ⟨rfl, h⟩
  | some standing =>
      rw [hst] at hafter hsize
      cases standing with
      | killed first => exact ⟨rfl, h⟩
      | alive n =>
          refine ⟨rfl, fun m' => ?_, fun m' => ?_, h.total, h.round, h.rng, hsize.trans_le h.small⟩
          · show (r.living.erase m)[m']? = _
            rw [Scheduler.attempts?, hafter]
            simp only [Std.TreeMap.getElem?_erase, Std.LawfulEqCmp.compare_eq_iff_eq, h.living]
            by_cases hsame : m = m'
            · subst hsame
              rw [if_pos rfl, if_pos rfl, hst]
              rfl
            · rw [if_neg hsame, if_neg hsame, Scheduler.attempts?]
          · show (r.dead.insert m verdict)[m']? = _
            rw [Scheduler.verdict?, hafter]
            simp only [Std.TreeMap.getElem?_insert, Std.LawfulEqCmp.compare_eq_iff_eq, h.dead]
            by_cases hsame : m = m'
            · subst hsame
              rw [if_pos rfl, if_pos rfl, hst]
              rfl
            · rw [if_neg hsame, if_neg hsame, Scheduler.verdict?]

theorem setRound (h : r.Matches s) (round : UInt32) :
    ({ r with round } : Registers ρ).Matches { s with round } :=
  ⟨h.living, h.dead, h.total, rfl, h.rng, h.small⟩

variable [RandomSource ρ]

/-- Once the round is where the table moves it to, the draws are the same. -/
theorem drawBatch (h : r.Matches s.advance) (tree : Tree) (limit : Nat) :
    (drawBatch tree limit r).1 = (Scheduler.select tree limit s).1 ∧
      (Registers.drawBatch tree limit r).2.Matches (Scheduler.select tree limit s).2 := by
  simp only [Registers.drawBatch, Scheduler.select, h.eligible_eq, h.rng]
  exact ⟨trivial, h.living, h.dead, h.total, h.round, rfl, h.small⟩

theorem select (h : r.Matches s) (tree : Tree) (limit : Nat) :
    (select tree limit r).1 = (Scheduler.select tree limit s).1 ∧
      (Registers.select tree limit r).2.Matches (Scheduler.select tree limit s).2 := by
  rw [Registers.select, h.eligible_eq, h.toList_living, ← Scheduler.lowest?]
  by_cases hnobody : s.eligible.isEmpty = true
  · have hadvance : s.advance = { s with round := s.lowest?.getD s.round } := if_pos hnobody
    rw [if_pos hnobody]
    cases hlow : s.lowest? with
    | none =>
        -- Nobody is alive, so the table has an empty pool to draw from.
        have hpool : s.eligible = [] := List.isEmpty_iff.mp hnobody
        have hstays : s.advance = s := by rw [hadvance, hlow, Option.getD_none]
        have hdraw : Scheduler.select tree limit s = (.ok [], s) := by
          simp only [Scheduler.select, hstays, hpool, List.length_nil, Nat.min_zero, Scheduler.draw]
        rw [hdraw]
        exact ⟨rfl, h⟩
    | some low =>
        rw [hlow, Option.getD_some] at hadvance
        exact drawBatch (hadvance ▸ h.setRound low) tree limit
  · have hadvance : s.advance = s := if_neg hnobody
    rw [if_neg hnobody]
    exact drawBatch (hadvance.symm ▸ h) tree limit

end Matches

variable [RandomSource ρ]

/-- Each request keeps registers and table matching. -/
theorem matches_serve (h : r.Matches s) (request : Request) :
    (r.serve request).Matches (s.serve request) := by
  cases request with
  | select tree limit => exact (h.select tree limit).2
  | charge ms => exact h.charge ms
  | recordKill m verdict => exact (h.recordKill m verdict).2

theorem matches_serveAll (h : r.Matches s) (requests : List Request) :
    (r.serveAll requests).Matches (s.serveAll requests) := by
  unfold serveAll Scheduler.serveAll
  induction requests generalizing r s with
  | nil => exact h
  | cons request rest ih => exact ih (matches_serve h request)

/-- Everything that can be read off the registers, and what they answer to a request, is as with
the table. -/
structure Agrees (r : Registers ρ) (s : Scheduler ρ) : Prop where
  total : r.total = s.total
  round : r.round = s.round
  kills : r.dead.toList = s.kills
  isKilled : ∀ m, r.dead.contains m = s.isKilled m
  attempts : ∀ m, r.living[m]? = s.attempts? m
  unkilledCount : r.living.size = s.unkilledCount
  allKilled : r.living.isEmpty = s.allKilled
  pendingCount : (r.living.toList.filter fun entry => entry.2 == r.round).length = s.pendingCount
  check : r.check = s.check
  answer : ∀ request, r.answer request = s.answer request

theorem Matches.agrees (h : r.Matches s) : r.Agrees s := by
  refine ⟨h.total, h.round, h.toList_dead, fun m => ?_, h.living, h.size_living, ?_, ?_, h.check_eq,
    fun request => ?_⟩
  · rw [Std.TreeMap.contains_eq_isSome_getElem?, h.dead, Scheduler.verdict?, Scheduler.isKilled]
    rcases s.standing? m with _ | n | verdict <;> rfl
  · rw [Std.TreeMap.isEmpty_eq_size_eq_zero, h.size_living, Bool.eq_iff_iff, beq_iff_eq,
      Scheduler.allKilled_iff]
  · rw [Scheduler.pendingCount, ← h.eligible_eq, eligible, List.length_map]
  · cases request with
    | select tree limit => exact congrArg Answer.batch (h.select tree limit).1
    | charge ms => rfl
    | recordKill m verdict => exact congrArg Answer.killed (h.recordKill m verdict).1

/-- So whatever was asked of a new scheduler, nobody can tell whether it is kept in two registers or
in one table. -/
theorem agrees_serveAll (total : Nat) (rng : ρ) (requests : List Request) :
    ((new total rng).serveAll requests).Agrees ((Scheduler.new total rng).serveAll requests) :=
  (matches_serveAll (matches_new total rng) requests).agrees

end Registers

end MutantHunt
