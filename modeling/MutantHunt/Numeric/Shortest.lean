import MutantHunt.Numeric.Binary64

/-!
# The shortest decimal text of a double

`Binary64.shortest` finds the fewest decimal digits that still read back as the same double, and of
those the nearest: for one digit, two digits and so on up to seventeen it looks at the two
neighbours of the number on the decimal grid with that many digits, and takes the first grid that
has a point among the reals that round to the number.

`Binary64.text` lays the digits out: with a point between `10⁻⁵` and `10¹⁶`, with an exponent
otherwise, and always so that the text is seen to be no integer.
-/

namespace MutantHunt.Binary64

/-- The power of ten of the leading digit of `n / d`, for `n / d` not below `10⁻⁴⁰⁰`. -/
def leadingExponent (n d : Nat) : Int :=
  (n * Nat.pow 10 400 / d).repr.length - 401

/-- The point of the grid of multiples of `10 ^ place` that is nearest to `m · 2 ^ e` among those
that round to it, in multiples of `10 ^ place`.

The reals that round to `m · 2 ^ e` reach half a unit of the last place to either side, but only a
quarter down to a neighbour of the next smaller exponent; the ends belong to them iff `m` is even.
-/
def gridPoint? (m : Nat) (e : Int) (place : Int) : Option Nat :=
  let low := 4 * m - if m = leadingBit ∧ -1074 < e then 1 else 2
  let high := 4 * m + 2
  -- `a / b` is a quarter of the last place, in units of the grid
  let (c, d) := ratio 1 (e - 2)
  let (a, b) := if 0 ≤ place then (c, d * Nat.pow 10 place.toNat) else (c * Nat.pow 10 (-place).toNat, d)
  let below := 4 * m * a / b
  let above := below + 1
  let belowFits := if m % 2 = 0 then low * a ≤ below * b else low * a < below * b
  let aboveFits := if m % 2 = 0 then above * b ≤ high * a else above * b < high * a
  let downBy := 4 * m * a - below * b
  let upBy := above * b - 4 * m * a
  if belowFits ∧ aboveFits then
    some (if downBy < upBy ∨ (downBy = upBy ∧ below % 2 = 0) then below else above)
  else if belowFits then some below
  else if aboveFits then some above
  else none

/-- Moves trailing zeros of the digits into the exponent. -/
def dropTrailingZeros : Nat → Nat → Int → Nat × Int
  | 0, digits, exponent => (digits, exponent)
  | n + 1, digits, exponent =>
    if digits ≠ 0 ∧ digits % 10 = 0 then dropTrailingZeros n (digits / 10) (exponent + 1)
    else (digits, exponent)

/-- The fewest digits that read back as `m · 2 ^ e`, and the power of ten of the last of them. -/
def shortest (m : Nat) (e : Int) : Nat × Int :=
  let (n, d) := ratio m e
  let lead := leadingExponent n d
  let found := (List.range 17).findSome? fun (more : Nat) =>
    (gridPoint? m e (lead - Int.ofNat more)).map fun digits => (digits, lead - Int.ofNat more)
  match found with
  | some (digits, exponent) => dropTrailingZeros 17 digits exponent
  | none => (0, 0)

/-- Lays out `digits · 10 ^ exponent`. -/
def layout (digits : Nat) (exponent : Int) : String :=
  let text := digits.repr
  let lead := exponent + text.length - 1
  if -5 ≤ lead ∧ lead < 16 then
    if 0 ≤ exponent then text ++ String.ofList (List.replicate exponent.toNat '0') ++ ".0"
    else if 0 ≤ lead then
      let whole := (lead + 1).toNat
      String.ofList (text.toList.take whole) ++ "." ++ String.ofList (text.toList.drop whole)
    else "0." ++ String.ofList (List.replicate (-lead - 1).toNat '0') ++ text
  else
    let mark := if 0 ≤ lead then "e+" else "e-"
    let rest := String.ofList (text.toList.drop 1)
    String.ofList (text.toList.take 1) ++ (if rest.isEmpty then "" else "." ++ rest) ++ mark
      ++ lead.natAbs.repr

/-- The text a double is shown as. -/
def text (x : Binary64) : String :=
  match x.value with
  | .nan => "NaN"
  | .infinite negative => if negative then "-inf" else "inf"
  | .finite negative m e =>
    let magnitude :=
      if m = 0 then "0.0"
      else
        let (digits, exponent) := shortest m e
        layout digits exponent
    if negative then "-" ++ magnitude else magnitude

end MutantHunt.Binary64
