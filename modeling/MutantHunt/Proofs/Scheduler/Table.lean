import Mathlib.Data.List.Nodup
import Mathlib.Data.List.Range
import MutantHunt.Scheduler

/-!
# The table of standings, mutant by mutant

What each operation of the scheduler does to the standing of one mutant.  Everything else that is
known of a mutant (whether it is killed, its verdict, its failed attempts) is read off the
standing, so these equations are all that proofs about the bookkeeping need.

## Main results

* `standing?_charge` — a charge adds the number of times a mutant is listed.
* `standing?_recordKill` — a kill settles one mutant that is alive, and leaves all others alone.
* `mem_eligible_iff`, `nodup_eligible` — who waits in the current round.
* `length_kills`, `length_survivors` — the lists of the dead and of the living are as long as the
  scheduler counts.
-/

namespace MutantHunt

namespace Standing

/-- A number of failed attempts at once. -/
def chargeBy (k : Nat) : Standing → Standing
  | alive n => alive (n + UInt32.ofNat k)
  | killed verdict => killed verdict

/-- The first kill is the one that counts. -/
def kill (verdict : Verdict) : Standing → Standing
  | alive _ => killed verdict
  | killed first => killed first

@[simp] theorem chargeBy_zero : chargeBy 0 = id := by
  funext st
  cases st with
  | alive n => simp [chargeBy]
  | killed verdict => rfl

theorem chargeBy_chargeBy (st : Standing) (i j : Nat) :
    (st.chargeBy i).chargeBy j = st.chargeBy (i + j) := by
  cases st with
  | alive n => simp only [chargeBy, UInt32.ofNat_add, UInt32.add_assoc]
  | killed verdict => rfl

theorem charge_eq_chargeBy : charge = chargeBy 1 := by
  funext st
  cases st with
  | alive n => rfl
  | killed verdict => rfl

@[simp] theorem verdict?_chargeBy (st : Standing) (k : Nat) :
    (st.chargeBy k).verdict? = st.verdict? := by
  cases st <;> rfl

end Standing

namespace Scheduler

variable {ρ : Type}

/-! ## Reading a standing -/

theorem verdict?_eq_some_iff (s : Scheduler ρ) (m : MutantId) (verdict : Verdict) :
    s.verdict? m = some verdict ↔ s.standing? m = some (.killed verdict) := by
  unfold verdict?
  rcases s.standing? m with _ | _ | _ <;> simp [Standing.verdict?]

theorem attempts?_eq_some_iff (s : Scheduler ρ) (m : MutantId) (n : UInt32) :
    s.attempts? m = some n ↔ s.standing? m = some (.alive n) := by
  unfold attempts?
  rcases s.standing? m with _ | _ | _ <;> simp [Standing.attempts?]

theorem isKilled_eq_true_iff (s : Scheduler ρ) (m : MutantId) :
    s.isKilled m = true ↔ ∃ verdict, s.standing? m = some (.killed verdict) := by
  unfold isKilled
  rcases s.standing? m with _ | _ | _ <;> simp [Standing.isKilled]

theorem isKilled_of_verdict? {s : Scheduler ρ} {m : MutantId} {verdict : Verdict}
    (hdead : s.verdict? m = some verdict) : s.isKilled m = true :=
  (s.isKilled_eq_true_iff m).mpr ⟨verdict, (s.verdict?_eq_some_iff m verdict).mp hdead⟩

theorem isKilled_of_standing? {s : Scheduler ρ} {m : MutantId} {st : Standing}
    (hst : s.standing? m = some st) : s.isKilled m = st.isKilled := by
  simp [isKilled, hst]

/-- A mutant on record is alive iff it is not killed. -/
theorem exists_attempts?_iff {s : Scheduler ρ} {m : MutantId} (hm : m.toNat < s.table.size) :
    (∃ n, s.attempts? m = some n) ↔ s.isKilled m = false := by
  have hst : s.standing? m = some s.table[m.toNat] := Array.getElem?_eq_getElem hm
  rw [isKilled_of_standing? hst]
  simp only [attempts?_eq_some_iff, hst, Option.some.injEq]
  cases s.table[m.toNat] <;> simp [Standing.isKilled]

theorem standing?_eq_none_iff (s : Scheduler ρ) (m : MutantId) :
    s.standing? m = none ↔ s.table.size ≤ m.toNat :=
  Array.getElem?_eq_none_iff

theorem lt_size_of_attempts? {s : Scheduler ρ} {m : MutantId} {n : UInt32}
    (hm : s.attempts? m = some n) : m.toNat < s.table.size := by
  rw [attempts?_eq_some_iff] at hm
  exact (Array.getElem?_eq_some_iff.mp hm).1

/-! ## Writing a standing -/

theorem standing?_new {total : Nat} (rng : ρ) (hsmall : total < UInt32.size) (m : MutantId) :
    (new total rng).standing? m = if m.toNat < total then some (.alive 0) else none := by
  simp only [new, standing?, Nat.mod_eq_of_lt hsmall, Array.getElem?_replicate]

theorem standing?_chargeOne (s : Scheduler ρ) (m m' : MutantId) :
    (s.chargeOne m').standing? m =
      (s.standing? m).map (Standing.chargeBy (if m' = m then 1 else 0)) := by
  have hsame : m'.toNat = m.toNat ↔ m' = m := UInt32.toNat_inj
  simp only [chargeOne, standing?, Array.getElem?_modify, hsame]
  by_cases h : m' = m
  · rw [if_pos h, if_pos h, Standing.charge_eq_chargeBy]
  · rw [if_neg h, if_neg h, Standing.chargeBy_zero, Option.map_id_fun, id]

/-- A charge counts a mutant as often as it is listed. -/
theorem standing?_charge (s : Scheduler ρ) (ms : List MutantId) (m : MutantId) :
    (s.charge ms).standing? m = (s.standing? m).map (Standing.chargeBy (ms.count m)) := by
  unfold charge
  induction ms generalizing s with
  | nil => simp
  | cons m' rest ih =>
      rw [List.foldl_cons, ih, standing?_chargeOne, Option.map_map]
      congr 1
      funext st
      rw [Function.comp_apply, Standing.chargeBy_chargeBy, List.count_cons, Nat.add_comm]
      simp only [beq_iff_eq]

/-- A kill settles the mutant it is of, if that is alive. -/
theorem standing?_recordKill (s : Scheduler ρ) (m m' : MutantId) (verdict : Verdict) :
    (s.recordKill m' verdict).2.standing? m =
      if m' = m then (s.standing? m).map (Standing.kill verdict) else s.standing? m := by
  have hsame : m'.toNat = m.toNat ↔ m' = m := UInt32.toNat_inj
  unfold recordKill
  by_cases h : m' = m
  · subst h
    rw [if_pos rfl]
    split
    · rename_i n hst
      have hlt : m'.toNat < s.table.size := (Array.getElem?_eq_some_iff.mp hst).1
      rw [hst]
      simp [standing?, hlt, Standing.kill]
    · rename_i hdead
      rcases hst : s.standing? m' with _ | n | first
      · rfl
      · exact absurd hst (hdead n)
      · rfl
  · rw [if_neg h]
    split
    · simp only [standing?]
      rw [Array.getElem?_setIfInBounds_ne (fun heq => h (hsame.mp heq))]
    · rfl

@[simp] theorem standing?_advance (s : Scheduler ρ) (m : MutantId) :
    s.advance.standing? m = s.standing? m := by
  rw [standing?, table_advance, standing?]

@[simp] theorem standing?_select [RandomSource ρ] (tree : Tree) (limit : Nat) (s : Scheduler ρ)
    (m : MutantId) :
    (select tree limit s).2.standing? m = s.standing? m := by
  rw [standing?, table_select, standing?]

@[simp] theorem round_charge (s : Scheduler ρ) (ms : List MutantId) :
    (s.charge ms).round = s.round := by
  unfold charge
  induction ms generalizing s with
  | nil => rfl
  | cons m rest ih => rw [List.foldl_cons, ih, chargeOne]

@[simp] theorem round_recordKill (s : Scheduler ρ) (m : MutantId) (verdict : Verdict) :
    (s.recordKill m verdict).2.round = s.round := by
  unfold recordKill
  split <;> rfl

@[simp] theorem total_select [RandomSource ρ] (tree : Tree) (limit : Nat) (s : Scheduler ρ) :
    (select tree limit s).2.total = s.total := by
  simp [select]

@[simp] theorem total_charge (s : Scheduler ρ) (ms : List MutantId) :
    (s.charge ms).total = s.total := by
  unfold charge
  induction ms generalizing s with
  | nil => rfl
  | cons m rest ih => rw [List.foldl_cons, ih, chargeOne]

@[simp] theorem total_recordKill (s : Scheduler ρ) (m : MutantId) (verdict : Verdict) :
    (s.recordKill m verdict).2.total = s.total := by
  unfold recordKill
  split <;> rfl

/-- The dead and the living make up the table. -/
theorem killedCount_add_unkilledCount (s : Scheduler ρ) :
    s.killedCount + s.unkilledCount = s.table.size := by
  rw [killedCount, unkilledCount, ← Array.length_toList,
    List.length_eq_countP_add_countP Standing.isKilled]
  congr 1
  apply List.countP_congr
  intro standing _
  simp

theorem allKilled_iff (s : Scheduler ρ) : s.allKilled = true ↔ s.unkilledCount = 0 := by
  rw [allKilled, unkilledCount, List.all_eq_true, List.countP_eq_zero]
  simp

/-- So the check compares the size of the table with the total. -/
theorem check_eq_ok_iff (s : Scheduler ρ) : s.check = .ok () ↔ s.table.size = s.total := by
  rw [check, killedCount_add_unkilledCount]
  by_cases h : s.table.size = s.total
  · simp [h]
  · simp [h]

/-- Two tables of one size that agree on every number a mutant can have are equal, as long as
every row has such a number. -/
theorem table_ext {s t : Scheduler ρ} (hsize : s.table.size = t.table.size)
    (hsmall : s.table.size ≤ UInt32.size)
    (hst : ∀ m, s.standing? m = t.standing? m) : s.table = t.table := by
  apply Array.ext hsize
  intro i his hit
  have hi := hst (UInt32.ofNat i)
  rw [standing?, standing?, UInt32.toNat_ofNat_of_lt' (Nat.lt_of_lt_of_le his hsmall),
    Array.getElem?_eq_getElem his, Array.getElem?_eq_getElem hit, Option.some.injEq] at hi
  exact hi

/-! ## Who waits in the round -/

theorem mem_mutants_iff {s : Scheduler ρ} {m : MutantId} :
    m ∈ s.mutants ↔ ∃ i, i < s.table.size ∧ UInt32.ofNat i = m := by
  simp only [mutants, List.mem_map, List.mem_range]

theorem mem_eligible_iff (s : Scheduler ρ) (m : MutantId) :
    m ∈ s.eligible ↔ s.attempts? m = some s.round := by
  rw [eligible, List.mem_filter, beq_iff_eq]
  constructor
  · exact fun h => h.2
  · intro h
    exact ⟨mem_mutants_iff.mpr ⟨m.toNat, lt_size_of_attempts? h, UInt32.ofNat_toNat⟩, h⟩

theorem pairwise_mutants {s : Scheduler ρ} (hsmall : s.table.size ≤ UInt32.size) :
    s.mutants.Pairwise (· < ·) := by
  rw [mutants, List.pairwise_map]
  refine List.pairwise_lt_range.imp_of_mem fun {i j} hi hj hlt => ?_
  have hi := Nat.lt_of_lt_of_le (List.mem_range.mp hi) hsmall
  have hj := Nat.lt_of_lt_of_le (List.mem_range.mp hj) hsmall
  rwa [UInt32.lt_iff_toNat_lt, UInt32.toNat_ofNat_of_lt' hi, UInt32.toNat_ofNat_of_lt' hj]

theorem nodup_mutants {s : Scheduler ρ} (hsmall : s.table.size ≤ UInt32.size) : s.mutants.Nodup :=
  (pairwise_mutants hsmall).imp UInt32.ne_of_lt

theorem nodup_eligible {s : Scheduler ρ} (hsmall : s.table.size ≤ UInt32.size) :
    s.eligible.Nodup :=
  (nodup_mutants hsmall).filter _

/-- The round stays where it is as long as somebody waits in it. -/
theorem advance_eq_self {s : Scheduler ρ} {m : MutantId} (hm : s.attempts? m = some s.round) :
    s.advance = s := by
  have hwaiting : s.eligible ≠ [] := List.ne_nil_of_mem ((s.mem_eligible_iff m).mpr hm)
  rw [advance, if_neg]
  rwa [List.isEmpty_iff]

/-! ## The lists of the dead and of the living -/

/-- What is known of mutants is listed in ascending order. -/
theorem pairwise_filterMap_mutants {α : Type} {s : Scheduler ρ}
    (hsmall : s.table.size ≤ UInt32.size) (f : MutantId → Option α) :
    (s.mutants.filterMap fun m => (f m).map (m, ·)).Pairwise fun a b => a.1 < b.1 := by
  refine (pairwise_mutants hsmall).filterMap _ fun m m' hlt => ?_
  intro entry hentry entry' hentry'
  rw [Option.map_eq_some_iff] at hentry hentry'
  obtain ⟨_, -, rfl⟩ := hentry
  obtain ⟨_, -, rfl⟩ := hentry'
  exact hlt

theorem pairwise_kills {s : Scheduler ρ} (hsmall : s.table.size ≤ UInt32.size) :
    s.kills.Pairwise fun a b => a.1 < b.1 :=
  pairwise_filterMap_mutants hsmall s.verdict?

theorem pairwise_survivors {s : Scheduler ρ} (hsmall : s.table.size ≤ UInt32.size) :
    s.survivors.Pairwise fun a b => a.1 < b.1 :=
  pairwise_filterMap_mutants hsmall s.attempts?

/-- If it is known of the mutants of some standing, the list has one entry for each of these. -/
theorem length_filterMap_mutants {α : Type} {s : Scheduler ρ}
    (hsmall : s.table.size ≤ UInt32.size) {f : MutantId → Option α} {p : Standing → Bool}
    (hf : ∀ m, (f m).isSome = (s.standing? m).any p) :
    (s.mutants.filterMap fun m => (f m).map (m, ·)).length = s.table.toList.countP p := by
  have hrows : (List.range s.table.size).map (s.table[·]?) = s.table.toList.map some := by
    apply List.ext_getElem
    · simp
    · intro i hi _
      have hlt : i < s.table.size := by simpa using hi
      simp [hlt]
  rw [List.length_filterMap_eq_countP, mutants, List.countP_map]
  calc
    _ = (List.range s.table.size).countP fun i => (s.table[i]?).any p := by
      apply List.countP_congr
      intro i hi
      have hlt := Nat.lt_of_lt_of_le (List.mem_range.mp hi) hsmall
      rw [Function.comp_apply, Option.isSome_map, hf, standing?, UInt32.toNat_ofNat_of_lt' hlt]
    _ = ((List.range s.table.size).map (s.table[·]?)).countP (Option.any p) := by
      rw [List.countP_map]
      rfl
    _ = s.table.toList.countP p := by
      rw [hrows, List.countP_map]
      rfl

/-- The list of kills is as long as the count of the dead. -/
theorem length_kills {s : Scheduler ρ} (hsmall : s.table.size ≤ UInt32.size) :
    s.kills.length = s.killedCount := by
  refine length_filterMap_mutants hsmall fun m => ?_
  rw [verdict?]
  rcases s.standing? m with _ | _ | _ <;> rfl

/-- And the list of survivors as the count of those who are alive. -/
theorem length_survivors {s : Scheduler ρ} (hsmall : s.table.size ≤ UInt32.size) :
    s.survivors.length = s.unkilledCount := by
  refine length_filterMap_mutants hsmall fun m => ?_
  rw [attempts?]
  rcases s.standing? m with _ | _ | _ <;> rfl

end Scheduler

end MutantHunt
