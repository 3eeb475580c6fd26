/-!
# Double-precision numbers, exactly

A double is its 64 bits. `Binary64.value` reads them as a signed significand times a power of two,
and `Binary64.ofRatio` goes back from any ratio of natural numbers to the nearest double, a tie to
the even significand. Every operation here is its exact result rounded once by `ofRatio`, so
nothing depends on the floating-point unit of the machine that runs it.

Decimal text is read by `Binary64.ofText?`, which also rounds once.
-/

namespace MutantHunt

/-- `n / d` to the nearest natural number, a tie to the even one. -/
def roundHalfEven (n d : Nat) : Nat :=
  let q := n / d
  let r := n % d
  if 2 * r < d then q
  else if d < 2 * r then q + 1
  else q + q % 2

/-- A double-precision number, as its 64 bits. -/
structure Binary64 where
  bits : UInt64
  deriving DecidableEq, Repr, Inhabited

namespace Binary64

/-- What the bits of a double stand for. -/
inductive Value where
  | nan
  | infinite (negative : Bool)
  /-- `± significand · 2 ^ exponent`. -/
  | finite (negative : Bool) (significand : Nat) (exponent : Int)
  deriving DecidableEq, Repr

/-- The bit that holds the sign, `2 ^ 63`. -/
def signBit : Nat := 0x8000000000000000

/-- The leading bit of a significand, `2 ^ 52`, which is also one step of the exponent. -/
def leadingBit : Nat := 0x10000000000000

/-- The number that the bits stand for. -/
def value (x : Binary64) : Value :=
  let n := x.bits.toNat
  let negative := n / signBit == 1
  let biased : Nat := n / leadingBit % 2048
  let fraction := n % leadingBit
  if biased = 2047 then
    if fraction = 0 then .infinite negative else .nan
  else if biased = 0 then .finite negative fraction (-1074)
  else .finite negative (leadingBit + fraction) (Int.ofNat biased - 1075)

/-- Puts the sign bit before the 63 bits of a magnitude. -/
def ofMagnitude (negative : Bool) (magnitude : Nat) : Binary64 :=
  ⟨UInt64.ofNat (magnitude + if negative then signBit else 0)⟩

/-- The infinite doubles. -/
def infinity (negative : Bool) : Binary64 :=
  ofMagnitude negative (2047 * leadingBit)

/-- The double that is no number. -/
def nan : Binary64 :=
  ofMagnitude false (2047 * leadingBit + leadingBit / 2)

/-- `n / d` in units of `2 ^ e`, to the nearest unit. -/
def unitsOf (n d : Nat) (e : Int) : Nat :=
  if 0 ≤ e then roundHalfEven n (d <<< e.toNat) else roundHalfEven (n <<< (-e).toNat) d

/-- `n / d` in units of `2 ^ e`, rounded down. -/
def unitsBelow (n d : Nat) (e : Int) : Nat :=
  if 0 ≤ e then n / (d <<< e.toNat) else (n <<< (-e).toNat) / d

/-- The exponent of the last place of a double near `n / d`: 53 significant bits, and never below
the smallest exponent there is. -/
def lastPlace (n d : Nat) : Int :=
  let guess : Int := max (-1074) ((n.log2 : Int) - d.log2 - 52)
  if unitsBelow n d guess < leadingBit then max (-1074) (guess - 1) else guess

/-- The double nearest to `± n / d`, with a tie to the even significand. What is too large for a
double becomes infinite. -/
def ofRatio (negative : Bool) (n d : Nat) : Binary64 :=
  if n = 0 then ofMagnitude negative 0
  else
    let e := lastPlace n d
    let magnitude := (e + 1074).toNat * leadingBit + unitsOf n d e
    ofMagnitude negative (min magnitude (2047 * leadingBit))

/-- The double nearest to a natural number. -/
def ofNat (n : Nat) : Binary64 :=
  ofRatio false n 1

/-- `significand · 2 ^ exponent` as a numerator and a denominator. -/
def ratio (significand : Nat) (exponent : Int) : Nat × Nat :=
  if 0 ≤ exponent then (significand <<< exponent.toNat, 1)
  else (significand, 1 <<< (-exponent).toNat)

/-- The product, rounded once. -/
def mul (x y : Binary64) : Binary64 :=
  match x.value, y.value with
  | .nan, _ | _, .nan => nan
  | .infinite s, .infinite t => infinity (s != t)
  | .infinite s, .finite t m _ | .finite t m _, .infinite s =>
    if m = 0 then nan else infinity (s != t)
  | .finite s m e, .finite t n f =>
    let (a, b) := ratio (m * n) (e + f)
    ofRatio (s != t) a b

/-- The quotient, rounded once. -/
def div (x y : Binary64) : Binary64 :=
  match x.value, y.value with
  | .nan, _ | _, .nan | .infinite _, .infinite _ => nan
  | .infinite s, .finite t _ _ => infinity (s != t)
  | .finite s _ _, .infinite t => ofMagnitude (s != t) 0
  | .finite s m e, .finite t n f =>
    if n = 0 then
      if m = 0 then nan else infinity (s != t)
    else
      let (a, b) := ratio m e
      let (c, d) := ratio n f
      ofRatio (s != t) (a * d) (b * c)

/-- The sum of two doubles without sign, rounded once. -/
def addMagnitudes (x y : Binary64) : Binary64 :=
  match x.value, y.value with
  | .nan, _ | _, .nan => nan
  | .infinite _, _ | _, .infinite _ => infinity false
  | .finite _ m e, .finite _ n f =>
    let (a, b) := ratio m e
    let (c, d) := ratio n f
    ofRatio false (a * d + c * b) (b * d)

/-- Whether the number is above zero and finite. -/
def isPositiveFinite (x : Binary64) : Bool :=
  match x.value with
  | .finite false m _ => m != 0
  | _ => false

/-! ## Decimal text -/

/-- The double nearest to `± digits · 10 ^ exponent`. Exponents that are out of reach whatever the
digits are settled without computing the power. -/
def ofDecimal (negative : Bool) (digits : Nat) (exponent : Int) : Binary64 :=
  if digits = 0 then ofMagnitude negative 0
  else if 310 < exponent then infinity negative
  else if 0 ≤ exponent then ofRatio negative (digits * Nat.pow 10 exponent.toNat) 1
  else if 400 + (digits.log2 : Int) < -exponent then ofMagnitude negative 0
  else ofRatio negative digits (Nat.pow 10 (-exponent).toNat)

/-- The value of a run of decimal digits. -/
def digitsValue (digits : List Char) : Nat :=
  digits.foldl (fun n c => 10 * n + (c.toNat - '0'.toNat)) 0

/-- Splits an optional sign off. -/
def splitSign : List Char → Bool × List Char
  | '-' :: rest => (true, rest)
  | '+' :: rest => (false, rest)
  | text => (false, text)

/-- A decimal exponent mark with its digits, or nothing at all. -/
def exponentOf? : List Char → Option Int
  | [] => some 0
  | c :: rest =>
    if c = 'e' || c = 'E' then
      let (negative, digits) := splitSign rest
      if digits.isEmpty || !digits.all Char.isDigit then none
      else
        let n := digitsValue digits
        some (if negative then -(n : Int) else n)
    else none

/-- Reads decimal text: an optional sign, digits with an optional point among them, an optional
exponent; or one of the words `inf`, `infinity` and `nan` in any case. -/
def ofText? (text : String) : Option Binary64 :=
  let (negative, body) := splitSign text.toList
  let word := String.ofList (body.map Char.toLower)
  if word = "inf" || word = "infinity" then some (infinity negative)
  else if word = "nan" then some nan
  else
    let whole := body.takeWhile Char.isDigit
    let afterWhole := body.dropWhile Char.isDigit
    let (places, rest) := match afterWhole with
      | '.' :: more => (more.takeWhile Char.isDigit, more.dropWhile Char.isDigit)
      | more => ([], more)
    if whole.isEmpty && places.isEmpty then none
    else
      (exponentOf? rest).map fun exponent =>
        ofDecimal negative (digitsValue (whole ++ places)) (exponent - places.length)

end Binary64

end MutantHunt
