import MutantHunt.Hunt

/-!
# Properties that a chain of acts inherits

What there is to know of the acts of a search often relates a state to the outcome of an act that
started in it: a path of steps leads from the one to the other, or the act failed as its last
question did.  `Chains` is what such a property needs for a chain of acts to have it as soon as
each of the acts has it.

The attempts at a program are a chain of selections, bisections and checks.  `Attempts` says of a
property that these have it, and `Chains.attemptKills` is the induction over the attempts, made
once for all such properties.
-/

namespace MutantHunt

variable {σ α β : Type}

/-- A property of outcomes, by the state that an act started in, which chains of acts inherit. -/
structure Chains (P : (α : Type) → Hunt σ → Except HuntError α × Hunt σ → Prop) : Prop where
  /-- To give a value without doing anything has the property. -/
  same : ∀ {α : Type} (a : α) (hunt : Hunt σ), P α hunt (.ok a, hunt)
  /-- So has what comes after a success that has it. -/
  trans : ∀ {α β : Type} {hunt after : Hunt σ} {a : α} {outcome : Except HuntError β × Hunt σ},
    P α hunt (.ok a, after) → P β after outcome → P β hunt outcome
  /-- A failure ends a chain, whatever the chain was to give. -/
  fail : ∀ {α β : Type} {hunt after : Hunt σ} {e : HuntError},
    P α hunt (.error e, after) → P β hunt (.error e, after)

/-- What an attempt is made of has the property, in states that are ready for one. -/
structure Attempts (c : Campaign σ) (baseline : Baseline)
    (P : (α : Type) → Hunt σ → Except HuntError α × Hunt σ → Prop) (ready : Hunt σ → Prop) :
    Prop where
  selection : ∀ {hunt : Hunt σ}, ready hunt → P _ hunt (c.select hunt)
  bisection : ∀ {hunt drawn : Hunt σ} {batch : List MutantId}, ready hunt →
    c.select hunt = (.ok batch, drawn) → batch ≠ [] → P _ drawn (c.bisect baseline batch drawn)
  check : ∀ {hunt : Hunt σ}, ready hunt → P _ hunt (hunt.scheduler.check, hunt)
  /-- An attempt leaves a state that is ready for the next. -/
  again : ∀ {hunt drawn last : Hunt σ} {batch : List MutantId} {killed : Bool}, ready hunt →
    c.select hunt = (.ok batch, drawn) → c.bisect baseline batch drawn = (.ok killed, last) →
    ready last

namespace Chains

variable {P : (α : Type) → Hunt σ → Except HuntError α × Hunt σ → Prop} {hunt : Hunt σ}

theorem bind (hP : Chains P) {x : Search σ α} {f : α → Search σ β} (hx : P α hunt (x hunt))
    (hf : ∀ a t, x hunt = (.ok a, t) → P β t (f a t)) : P β hunt ((x >>= f) hunt) := by
  rcases hrun : x hunt with ⟨result, t⟩
  rw [hrun] at hx
  cases result with
  | error e =>
      rw [Act.bind_of_error hrun]
      exact hP.fail hx
  | ok a =>
      rw [Act.bind_of_ok hrun]
      exact hP.trans hx (hf a t hrun)

variable {c : Campaign σ} {baseline : Baseline} {ready : Hunt σ → Prop}

theorem attemptUpTo (hP : Chains P) (hattempts : Attempts c baseline P ready)
    (hready : ready hunt) (left failures : Nat) (outcome : Outcome) :
    P _ hunt (c.attemptUpTo baseline left failures outcome hunt) := by
  induction left generalizing hunt failures outcome with
  | zero => exact hP.same outcome hunt
  | succ left ih =>
      unfold Campaign.attemptUpTo
      rw [Act.bind_of_ok (Act.get_apply hunt)]
      split
      · exact hP.same outcome hunt
      · refine hP.bind (hattempts.selection hready) fun batch drawn hdraw => ?_
        split
        · exact hP.same outcome drawn
        · rename_i hsome
          have hne : batch ≠ [] := fun hempty => hsome (List.isEmpty_iff.mpr hempty)
          refine hP.bind (hattempts.bisection hready hdraw hne) fun killed last hbisect => ?_
          have hlast : ready last := hattempts.again hready hdraw hbisect
          rw [Act.bind_of_ok (Act.get_apply last)]
          refine hP.bind (hattempts.check hlast) fun _ checked hcheck => ?_
          cases (Prod.mk.inj hcheck).2
          split
          · exact ih hlast 0 _
          · exact ih hlast (failures + 1) _

theorem attemptKills (hP : Chains P) (hattempts : Attempts c baseline P ready)
    (hready : ready hunt) : P _ hunt (c.attemptKills baseline hunt) := by
  unfold Campaign.attemptKills
  rw [Act.bind_of_ok (Act.get_apply hunt)]
  exact hP.bind (hP.attemptUpTo hattempts hready _ _ _) fun outcome last _ => hP.same _ last

end Chains

end MutantHunt
