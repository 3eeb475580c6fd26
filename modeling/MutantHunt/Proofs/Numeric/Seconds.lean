import Mathlib.Algebra.Order.Field.Power
import Mathlib.Algebra.Order.Ring.Rat
import Mathlib.Tactic.Linarith
import Mathlib.Tactic.Positivity
import MutantHunt.Timeouts

/-!
# Which numbers of seconds are durations

A double that is finite stands for an exact rational number (`Binary64.toRat?`).  So many seconds are
a duration if they are below `2 ^ 64`, and that duration is the nearest one there is: its length in
nanoseconds is the number rounded once, a tie to the even side.

The limit is sharp, since rounding cannot reach it from below: a double below `2 ^ 64` either has no
places behind the point, and then it is at most `2 ^ 64 - 1`, or it is below `2 ^ 53`.

## Main results

* `roundsTo_roundHalfEven` — rounding a ratio goes to the nearest natural number, a tie to the even.
* `isPositiveFinite_iff` — the doubles that stand for a positive number.
* `ofSeconds?_of_lt`, `ofSeconds?_of_le` — the durations of doubles below `2 ^ 64` and above.
-/

namespace MutantHunt

/-- The natural number `m` is nearest to `q`, and if there is another one as near, it is even. -/
structure RoundsTo (q : ℚ) (m : ℕ) : Prop where
  near : |(m : ℚ) - q| ≤ 1 / 2
  even_of_tie : |(m : ℚ) - q| = 1 / 2 → Even m

/-- What a ratio is rounded to. -/
theorem roundsTo_roundHalfEven (n : ℕ) {d : ℕ} (hd : 0 < d) :
    RoundsTo (n / d) (roundHalfEven n d) := by
  have hd' : (0 : ℚ) < d := Nat.cast_pos.mpr hd
  -- The distance is a fraction of `d`, so everything is settled by twice the remainder.
  have hsplit : (n : ℚ) / d = (n / d : ℕ) + (n % d : ℕ) / d := by
    rw [eq_comm, ← eq_sub_iff_add_eq', div_sub' hd'.ne', div_left_inj' hd'.ne', eq_sub_iff_add_eq]
    exact_mod_cast Nat.mod_add_div n d
  have hrest : (0 : ℚ) ≤ (n % d : ℕ) / d := by positivity
  rw [hsplit]
  unfold roundHalfEven
  simp only
  split_ifs with hlow hhigh
  · have hhalf : ((n % d : ℕ) : ℚ) / d < 1 / 2 := by
      rw [div_lt_div_iff₀ hd' two_pos]
      exact_mod_cast (by omega : n % d * 2 < 1 * d)
    have habs : |((n / d : ℕ) : ℚ) - ((n / d : ℕ) + (n % d : ℕ) / d)| = (n % d : ℕ) / d := by
      rw [sub_add_cancel_left, abs_neg, abs_of_nonneg hrest]
    constructor
    · rw [habs]
      exact hhalf.le
    · intro htie
      rw [habs] at htie
      exact absurd htie hhalf.ne
  · have hhalf : 1 / 2 < ((n % d : ℕ) : ℚ) / d := by
      rw [div_lt_div_iff₀ two_pos hd']
      exact_mod_cast (by omega : 1 * d < n % d * 2)
    have hone : ((n % d : ℕ) : ℚ) / d < 1 := by
      rw [div_lt_one hd']
      exact_mod_cast Nat.mod_lt n hd
    have habs : |((n / d + 1 : ℕ) : ℚ) - ((n / d : ℕ) + (n % d : ℕ) / d)| =
        1 - (n % d : ℕ) / d := by
      rw [Nat.cast_add_one, add_sub_add_left_eq_sub, abs_of_pos (sub_pos.mpr hone)]
    constructor
    · rw [habs]
      linarith
    · intro htie
      rw [habs] at htie
      linarith
  · have hhalf : ((n % d : ℕ) : ℚ) / d = 1 / 2 := by
      rw [div_eq_div_iff hd'.ne' two_ne_zero]
      exact_mod_cast (by omega : n % d * 2 = 1 * d)
    constructor
    · rw [hhalf]
      rcases Nat.mod_two_eq_zero_or_one (n / d) with hparity | hparity
      · rw [hparity, add_zero, sub_add_cancel_left, abs_neg, abs_of_pos (by norm_num)]
      · rw [hparity, Nat.cast_add_one, add_sub_add_left_eq_sub]
        norm_num
    · intro _
      rw [Nat.even_iff]
      omega

namespace Binary64

/-- The number that a value stands for, if it is finite. -/
def Value.toRat? : Value → Option ℚ
  | .finite negative significand exponent =>
    some ((if negative then -1 else 1) * (significand * 2 ^ exponent))
  | _ => none

/-- The number that a double stands for, if it is finite. -/
def toRat? (x : Binary64) : Option ℚ :=
  x.value.toRat?

/-- Accepted are the doubles that stand for a positive number. -/
theorem isPositiveFinite_iff {x : Binary64} :
    x.isPositiveFinite = true ↔ ∃ v, x.toRat? = some v ∧ 0 < v := by
  have hpow : ∀ exponent : ℤ, (0 : ℚ) < 2 ^ exponent := fun exponent => zpow_pos two_pos exponent
  unfold isPositiveFinite toRat?
  cases x.value with
  | nan => simp [Value.toRat?]
  | infinite negative => simp [Value.toRat?]
  | finite negative significand exponent =>
      cases negative with
      | false => simp [Value.toRat?, hpow, Nat.pos_iff_ne_zero]
      | true =>
          have hnonneg : (0 : ℚ) ≤ significand * 2 ^ exponent := by positivity
          simpa [Value.toRat?] using hnonneg

/-- A significand has 53 bits. -/
theorem significand_lt {x : Binary64} {negative : Bool} {m : ℕ} {e : ℤ}
    (hvalue : x.value = .finite negative m e) : m < 2 ^ 53 := by
  have hfraction : x.bits.toNat % leadingBit < leadingBit := Nat.mod_lt _ (by decide)
  have hbits : leadingBit + leadingBit = 2 ^ 53 := by decide
  unfold value at hvalue
  simp only at hvalue
  split at hvalue
  · split at hvalue <;> cases hvalue
  · split at hvalue
    · cases hvalue
      omega
    · cases hvalue
      omega

/-- A positive number is a significand of 53 bits times a power of two. -/
theorem exists_value_of_pos {x : Binary64} {v : ℚ} (hv : x.toRat? = some v) (hpos : 0 < v) :
    ∃ m e, x.value = .finite false m e ∧ m < 2 ^ 53 ∧ v = m * 2 ^ e := by
  unfold toRat? at hv
  cases hvalue : x.value with
  | nan | infinite negative =>
      rw [hvalue] at hv
      cases hv
  | finite negative m e =>
      rw [hvalue, Value.toRat?, Option.some.injEq] at hv
      cases negative with
      | false =>
          refine ⟨m, e, rfl, significand_lt hvalue, ?_⟩
          rw [← hv, if_neg Bool.false_ne_true, one_mul]
      | true =>
          have hnonneg : (0 : ℚ) ≤ m * 2 ^ e := by positivity
          rw [if_pos rfl] at hv
          linarith

/-- A number as a numerator and a denominator. -/
theorem ratio_eq (m : ℕ) (e : ℤ) :
    0 < (ratio m e).2 ∧ ((ratio m e).1 : ℚ) / (ratio m e).2 = m * 2 ^ e := by
  unfold ratio
  split_ifs with he
  · refine ⟨Nat.one_pos, ?_⟩
    rw [Nat.shiftLeft_eq, Nat.cast_one, div_one, Nat.cast_mul, Nat.cast_pow, Nat.cast_ofNat,
      ← zpow_natCast, Int.toNat_of_nonneg he]
  · have he' : 0 ≤ -e := by omega
    rw [Nat.shiftLeft_eq, one_mul]
    refine ⟨Nat.two_pow_pos _, ?_⟩
    rw [Nat.cast_pow, Nat.cast_ofNat, ← zpow_natCast, Int.toNat_of_nonneg he', zpow_neg,
      div_inv_eq_mul]

/-- Between the largest whole number below `2 ^ 64` and that power there is no double. -/
theorem le_pred_of_lt {m : ℕ} {e : ℤ} (hm : m < 2 ^ 53) (hlt : (m : ℚ) * 2 ^ e < 2 ^ 64) :
    (m : ℚ) * 2 ^ e ≤ 2 ^ 64 - 1 := by
  rcases le_or_gt 0 e with he | he
  · have hwhole : (m : ℚ) * 2 ^ e = (m * 2 ^ e.toNat : ℕ) := by
      rw [Nat.cast_mul, Nat.cast_pow, Nat.cast_ofNat, ← zpow_natCast, Int.toNat_of_nonneg he]
    rw [hwhole] at hlt ⊢
    have hlt' : m * 2 ^ e.toNat < 2 ^ 64 := by exact_mod_cast hlt
    have hle : m * 2 ^ e.toNat + 1 ≤ 2 ^ 64 := hlt'
    rw [le_sub_iff_add_le]
    exact_mod_cast hle
  · have hsmall : (2 : ℚ) ^ e ≤ 1 := zpow_le_one_of_nonpos₀ one_le_two he.le
    have hm' : (m : ℚ) < 2 ^ 53 := by exact_mod_cast hm
    calc (m : ℚ) * 2 ^ e ≤ m * 1 := mul_le_mul_of_nonneg_left hsmall (Nat.cast_nonneg m)
      _ ≤ 2 ^ 64 - 1 := by linarith

end Binary64

namespace Duration

/-- Nanoseconds whose seconds fit are a duration. -/
theorem exists_ofNanoseconds? {n : ℕ} (hn : n < 2 ^ 64 * 1000000000) :
    ∃ d, ofNanoseconds? n = some d ∧ d.toNanoseconds = n ∧ d.nanoseconds.toNat < 1000000000 := by
  have hseconds : n / 1000000000 < UInt64.size := by
    rw [UInt64.size]
    omega
  refine ⟨⟨UInt64.ofNat (n / 1000000000), UInt32.ofNat (n % 1000000000)⟩, ?_, ?_, ?_⟩
  · rw [ofNanoseconds?, if_pos hseconds]
  · rw [toNanoseconds, UInt64.toNat_ofNat_of_lt' hseconds,
      UInt32.toNat_ofNat_of_lt' (by rw [UInt32.size]; omega)]
    omega
  · rw [UInt32.toNat_ofNat_of_lt' (by rw [UInt32.size]; omega)]
    exact Nat.mod_lt n (by decide)

/-- Nanoseconds whose seconds do not fit are none. -/
theorem ofNanoseconds?_eq_none {n : ℕ} (hn : 2 ^ 64 * 1000000000 ≤ n) :
    ofNanoseconds? n = none := by
  rw [ofNanoseconds?, if_neg]
  rw [UInt64.size]
  omega

/-- Seconds are rounded to nanoseconds, and these make the duration. -/
theorem exists_ofSeconds?_eq {x : Binary64} {v : ℚ} (hv : x.toRat? = some v) (hpos : 0 < v) :
    ∃ n, RoundsTo (v * 1000000000) n ∧ ofSeconds? x = ofNanoseconds? n := by
  obtain ⟨m, e, hvalue, -, rfl⟩ := Binary64.exists_value_of_pos hv hpos
  obtain ⟨hden, hratio⟩ := Binary64.ratio_eq m e
  refine ⟨roundHalfEven ((Binary64.ratio m e).1 * 1000000000) (Binary64.ratio m e).2, ?_, ?_⟩
  · have hrounds := roundsTo_roundHalfEven ((Binary64.ratio m e).1 * 1000000000) hden
    rwa [Nat.cast_mul, Nat.cast_ofNat, mul_div_right_comm, hratio] at hrounds
  · rw [ofSeconds?, hvalue]
    simp

/-- Seconds below `2 ^ 64` are the nearest duration. -/
theorem ofSeconds?_of_lt {x : Binary64} {v : ℚ} (hv : x.toRat? = some v) (hpos : 0 < v)
    (hlt : v < 2 ^ 64) :
    ∃ d, ofSeconds? x = some d ∧ RoundsTo (v * 1000000000) d.toNanoseconds ∧
      d.nanoseconds.toNat < 1000000000 := by
  obtain ⟨n, hrounds, heq⟩ := exists_ofSeconds?_eq hv hpos
  obtain ⟨m, e, -, hm, rfl⟩ := Binary64.exists_value_of_pos hv hpos
  have hle := Binary64.le_pred_of_lt hm hlt
  have hnear := (abs_le.mp hrounds.near).2
  have hn : (n : ℚ) < 2 ^ 64 * 1000000000 := by linarith
  obtain ⟨d, hd, hlength, hnanoseconds⟩ := exists_ofNanoseconds? (n := n) (by exact_mod_cast hn)
  exact ⟨d, heq.trans hd, hlength ▸ hrounds, hnanoseconds⟩

/-- Seconds from `2 ^ 64` on are no duration. -/
theorem ofSeconds?_of_le {x : Binary64} {v : ℚ} (hv : x.toRat? = some v) (hpos : 0 < v)
    (hle : 2 ^ 64 ≤ v) : ofSeconds? x = none := by
  obtain ⟨n, hrounds, heq⟩ := exists_ofSeconds?_eq hv hpos
  have hnear := (abs_le.mp hrounds.near).1
  -- The number is whole, so half of one below the limit it reaches the limit.
  have hn : ((2 ^ 64 * 1000000000 : ℕ) : ℚ) < (n + 1 : ℕ) := by
    push_cast
    linarith
  rw [heq]
  exact ofNanoseconds?_eq_none (Nat.lt_succ_iff.mp (Nat.cast_lt.mp hn))

end Duration

end MutantHunt
