/-!
# Random choices

A `RandomSource` chooses numbers below a bound, and that they are below it is all that anybody
relies on. `WyRand` is the one that is used.

It is a small generator of 64-bit numbers: the state moves on by a fixed odd step, and each number is
the two halves of a 128-bit product folded together. `WyRand.below` turns its numbers into a choice
below `n` without bias: it takes the high half of the product with `n`, and draws again where the
low half falls into the part that would make some choices likelier than others.

Main statement: the choice is below `n` (`below_lt`).
-/

namespace MutantHunt

/-- The states of a source of random choices. -/
class RandomSource (ρ : Type) where
  /-- Chooses a number below a bound, and moves on to the next state. -/
  below : Nat → ρ → Nat × ρ
  /-- The choice is below the bound, unless that leaves nothing to choose from. -/
  below_lt {n : Nat} (hn : 0 < n) (rng : ρ) : (below n rng).1 < n

/-- A generator, as its state. -/
structure WyRand where
  state : UInt64
  deriving DecidableEq, Repr, Inhabited

namespace WyRand

/-- The step between two states. -/
def stride : UInt64 := 0x2d358dccaa6c78a5

/-- What a state is mixed with before it is multiplied with itself. -/
def mask : UInt64 := 0x8bb84b93962eacc9

/-- Draws a number. -/
def next (g : WyRand) : UInt64 × WyRand :=
  -- The step stands first. Sums are unfolded from the right, which then stops at the state at once
  -- instead of counting the step down.
  let state := stride + g.state
  let product := state.toNat * (state ^^^ mask).toNat
  (UInt64.ofNat product ^^^ UInt64.ofNat (product / UInt64.size), ⟨state⟩)

/-- Draws until the low half of the product with `n` is not below `limit`, and gives the high half.
The step is odd, so `2 ^ 64` draws have seen every state; there is no need for more. -/
def redraw (n limit : Nat) : Nat → WyRand → Nat × WyRand
  | 0, g => (0, g)
  | tries + 1, g =>
    let product := g.next.1.toNat * n
    if product % UInt64.size < limit then redraw n limit tries g.next.2
    else (product / UInt64.size, g.next.2)

/-- Chooses a number below `n`. -/
def below (n : Nat) (g : WyRand) : Nat × WyRand :=
  let product := g.next.1.toNat * n
  if product % UInt64.size < n then redraw n ((UInt64.size - n) % n) UInt64.size g
  else (product / UInt64.size, g.next.2)

private theorem high_lt (r : UInt64) {n : Nat} (hn : 0 < n) : r.toNat * n / UInt64.size < n := by
  rw [Nat.div_lt_iff_lt_mul (by decide), Nat.mul_comm n]
  exact Nat.mul_lt_mul_of_pos_right r.toNat_lt_size hn

private theorem redraw_lt {n : Nat} (hn : 0 < n) (limit tries : Nat) (g : WyRand) :
    (redraw n limit tries g).1 < n := by
  induction tries generalizing g with
  | zero => exact hn
  | succ tries ih =>
    simp only [redraw]
    split
    · exact ih _
    · exact high_lt _ hn

/-- A choice below `n` is below `n`. -/
theorem below_lt {n : Nat} (hn : 0 < n) (g : WyRand) : (g.below n).1 < n := by
  simp only [below]
  split
  · exact redraw_lt hn _ _ _
  · exact high_lt _ hn

instance : RandomSource WyRand where
  below := below
  below_lt := below_lt

end WyRand

end MutantHunt
