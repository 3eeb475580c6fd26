import MutantHunt.Proofs.Scheduler.Registers
import MutantHunt.Proofs.Tree.Build

/-!
# The dead and the living, for ever

The two registers share the mutants from the start, and nothing that is asked of a scheduler ever
puts a mutant into both of them or loses it from both.  Since the registers match a table, which
has one standing for each mutant, this comes down to what a whole sequence of requests does to that
standing.

## Main results

* `partition_lasts` — the registers share the mutants, whatever is asked.
-/

namespace MutantHunt.Registers

variable {ρ : Type} {r : Registers ρ} {s : Scheduler ρ}

namespace Matches

theorem getElem?_dead_iff (h : r.Matches s) (m : MutantId) (verdict : Verdict) :
    r.dead[m]? = some verdict ↔ s.standing? m = some (.killed verdict) := by
  rw [h.dead, Scheduler.verdict?_eq_some_iff]

theorem mem_dead_iff (h : r.Matches s) (m : MutantId) :
    m ∈ r.dead ↔ ∃ verdict, s.standing? m = some (.killed verdict) := by
  rw [Std.TreeMap.mem_iff_isSome_getElem?, Option.isSome_iff_exists]
  simp only [h.getElem?_dead_iff]

theorem mem_living_iff (h : r.Matches s) (m : MutantId) :
    m ∈ r.living ↔ ∃ n, s.standing? m = some (.alive n) := by
  rw [Std.TreeMap.mem_iff_isSome_getElem?, Option.isSome_iff_exists, h.living]
  simp only [Scheduler.attempts?_eq_some_iff]

/-- Nobody is in both registers. -/
theorem disjoint (h : r.Matches s) {m : MutantId} (hdead : m ∈ r.dead) : m ∉ r.living := by
  intro hliving
  obtain ⟨verdict, hkilled⟩ := (h.mem_dead_iff m).mp hdead
  obtain ⟨n, halive⟩ := (h.mem_living_iff m).mp hliving
  rw [hkilled] at halive
  cases halive

/-- Whoever has a row in the table is in one of the registers. -/
theorem mem_dead_or_mem_living_iff (h : r.Matches s) (m : MutantId) :
    m ∈ r.dead ∨ m ∈ r.living ↔ ∃ standing, s.standing? m = some standing := by
  rw [h.mem_dead_iff, h.mem_living_iff]
  constructor
  · rintro (⟨verdict, hst⟩ | ⟨n, hst⟩)
    · exact ⟨_, hst⟩
    · exact ⟨_, hst⟩
  · rintro ⟨standing, hst⟩
    cases standing with
    | alive n => exact .inr ⟨n, hst⟩
    | killed verdict => exact .inl ⟨verdict, hst⟩

end Matches

variable [RandomSource ρ]

/-- How the registers share the mutants below `total`, after some requests. -/
structure Shared (total : Nat) (requests : List Request) (r : Registers ρ) : Prop where
  /-- No mutant is in both registers. -/
  disjoint : ∀ m ∈ r.dead, m ∉ r.living
  /-- Together they hold the mutants below the total, and nothing else. -/
  covers : ∀ m : MutantId, m ∈ r.dead ∨ m ∈ r.living ↔ m.toNat < total
  check : r.check = .ok ()
  /-- A kill is news iff the mutant is alive. -/
  news : ∀ m verdict, (r.recordKill m verdict).1 = true ↔ m ∈ r.living
  /-- The dead are those mutants that some request recorded a kill for, each with the verdict of the
  first of these. -/
  first : ∀ (m : MutantId) verdict, r.dead[m]? = some verdict ↔
    m.toNat < total ∧ requests.findSome? (·.verdictFor? m) = some verdict
  /-- They stay dead, with that verdict, whatever is asked. -/
  lasting : ∀ (m : MutantId) verdict, r.dead[m]? = some verdict →
    ∀ later, (r.serveAll later).dead[m]? = some verdict
  /-- A request leaves the entries of all mutants alone that it is not about. -/
  frame : ∀ request (m : MutantId), m ∉ request.mutants →
    (r.serve request).living[m]? = r.living[m]? ∧ (r.serve request).dead[m]? = r.dead[m]?

/-- The registers of the dead and of the living share the mutants for ever, whatever is asked of the
scheduler. -/
theorem partition_lasts {total : Nat} (hsmall : total < UInt32.size) (rng : ρ)
    (requests : List Request) : ((new total rng).serveAll requests).Shared total requests := by
  have hmatches := matches_serveAll (matches_new total rng) requests
  have hsize : ((Scheduler.new total rng).serveAll requests).table.size = total := by
    rw [Scheduler.size_serveAll, Scheduler.new, Array.size_replicate, Nat.mod_eq_of_lt hsmall]
  have htotal : ((Scheduler.new total rng).serveAll requests).total = total :=
    Scheduler.total_serveAll _ requests
  have hstanding : ∀ m, ((Scheduler.new total rng).serveAll requests).standing? m =
      if m.toNat < total then some (standingAfter requests m) else none := by
    intro m
    rw [Scheduler.standing?_serveAll, Scheduler.standing?_new rng hsmall]
    by_cases hlt : m.toNat < total
    · rw [if_pos hlt, if_pos hlt, Option.map_some, standingAfter]
    · rw [if_neg hlt, if_neg hlt, Option.map_none]
  generalize (new total rng).serveAll requests = r at hmatches ⊢
  generalize (Scheduler.new total rng).serveAll requests = s at hmatches hsize htotal hstanding
  constructor
  · exact fun m hdead => hmatches.disjoint hdead
  · intro m
    rw [hmatches.mem_dead_or_mem_living_iff, hstanding]
    by_cases hlt : m.toNat < total
    · simp [hlt]
    · simp [hlt]
  · rw [hmatches.check_eq, Scheduler.check_eq_ok_iff, hsize, htotal]
  · intro m verdict
    rw [recordKill, Std.TreeMap.mem_iff_contains]
    cases r.living.contains m <;> simp
  · intro m verdict
    rw [hmatches.getElem?_dead_iff, hstanding, ← standingAfter_eq_killed_iff]
    by_cases hlt : m.toNat < total
    · simp [hlt]
    · simp [hlt]
  · intro m verdict hdead later
    rw [hmatches.getElem?_dead_iff] at hdead
    rw [(matches_serveAll hmatches later).getElem?_dead_iff, Scheduler.standing?_serveAll, hdead,
      Option.map_some, foldl_update_killed]
  · intro request m hother
    have hsame : (s.serve request).standing? m = s.standing? m := by
      rw [Scheduler.standing?_serve, Request.update_of_not_mem hother, Option.map_id, id]
    have hafter := matches_serve hmatches request
    rw [hafter.living, hafter.dead, hmatches.living, hmatches.dead, Scheduler.attempts?,
      Scheduler.attempts?, Scheduler.verdict?, Scheduler.verdict?, hsame]
    exact ⟨rfl, rfl⟩

/-- Of three mutants one is killed twice, after a selection among the places of a tree and a charge
that lists it twice beside a mutant that is not on record. -/
theorem partition_lasts_three :
    3 < UInt32.size ∧
      ((new 3 (WyRand.mk 0)).serveAll [.select .twoFiles 2, .charge [1, 7, 1],
          .recordKill 1 .runFailKill, .recordKill 1 .compileFailKill,
          .recordKill 9 .runFailKill]).Shared 3
        [.select .twoFiles 2, .charge [1, 7, 1], .recordKill 1 .runFailKill,
          .recordKill 1 .compileFailKill, .recordKill 9 .runFailKill] :=
  ⟨by decide, partition_lasts (by decide) (WyRand.mk 0) _⟩

end MutantHunt.Registers
