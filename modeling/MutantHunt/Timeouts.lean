import MutantHunt.Numeric.Binary64

/-!
# Durations and the time limits of a trial

A duration is a number of seconds below `2 ^ 64` and a number of nanoseconds below one second.
`Duration.scale?` multiplies one by a double: the duration is turned into seconds as a double, the
product is rounded once, and its exact value is rounded to the nearest nanosecond, a tie to the even
one. It has no result where the product is negative, is no number, or does not fit.

A trial may take a multiple of what the unmutated compiler or program took, but never less than
`Timeouts.minimum`.
-/

namespace MutantHunt

/-- A span of time: whole seconds, and nanoseconds below one second. -/
structure Duration where
  seconds : UInt64
  nanoseconds : UInt32
  deriving DecidableEq, Repr, Inhabited

namespace Duration

/-- The length in nanoseconds. -/
def toNanoseconds (d : Duration) : Nat :=
  d.seconds.toNat * 1000000000 + d.nanoseconds.toNat

/-- The duration of so many nanoseconds, if its seconds fit into 64 bits. -/
def ofNanoseconds? (n : Nat) : Option Duration :=
  if n / 1000000000 < UInt64.size then
    some ⟨UInt64.ofNat (n / 1000000000), UInt32.ofNat (n % 1000000000)⟩
  else none

/-- So many seconds and nanoseconds. Whole seconds among the nanoseconds are carried over. -/
def of (seconds : UInt64) (nanoseconds : UInt32) : Duration :=
  ⟨seconds + (nanoseconds / 1000000000).toUInt64, nanoseconds % 1000000000⟩

/-- A whole number of seconds. -/
def ofSeconds (seconds : UInt64) : Duration := ⟨seconds, 0⟩

/-- A number of milliseconds. -/
def ofMilliseconds (ms : UInt64) : Duration :=
  ⟨ms / 1000, (ms % 1000).toUInt32 * 1000000⟩

/-- The longer of two durations. -/
def max (a b : Duration) : Duration :=
  if a.toNanoseconds < b.toNanoseconds then b else a

/-- The seconds as a double: whole seconds and the fraction are rounded each, then their sum. -/
def toSeconds (d : Duration) : Binary64 :=
  Binary64.addMagnitudes (.ofNat d.seconds.toNat)
    (Binary64.div (.ofNat d.nanoseconds.toNat) (.ofNat 1000000000))

/-- So many seconds, to the nearest nanosecond with a tie to the even one. Only numbers that are
finite, not below zero and whose seconds fit into 64 bits are durations; a negative zero is zero. -/
def ofSeconds? (seconds : Binary64) : Option Duration :=
  match seconds.value with
  | .nan | .infinite _ => none
  | .finite negative m e =>
    if negative ∧ m ≠ 0 then none
    else
      let (n, d) := Binary64.ratio m e
      ofNanoseconds? (roundHalfEven (n * 1000000000) d)

/-- The duration times a number. -/
def scale? (d : Duration) (factor : Binary64) : Option Duration :=
  ofSeconds? (Binary64.mul factor d.toSeconds)

end Duration

/-- How long the steps of a trial may take. -/
structure Timeouts where
  /-- No mutated step is given less than this. -/
  minimum : Duration := .ofSeconds 5
  /-- Compiling may take so many times what it took without mutations. -/
  compileMultiplier : Binary64 := .ofNat 5
  /-- Running may take so many times what it took without mutations. -/
  runMultiplier : Binary64 := .ofNat 10
  /-- The limit for generating, compiling and running a program without mutations. -/
  baseline : Duration := .ofSeconds 10
  deriving DecidableEq, Repr

namespace Timeouts

/-- The limit for compiling under mutations, given the time it took without. -/
def compile? (timeouts : Timeouts) (unmutated : Duration) : Option Duration :=
  (unmutated.scale? timeouts.compileMultiplier).map timeouts.minimum.max

/-- The limit for running under mutations, given the time it took without. -/
def run? (timeouts : Timeouts) (unmutated : Duration) : Option Duration :=
  (unmutated.scale? timeouts.runMultiplier).map timeouts.minimum.max

end Timeouts

end MutantHunt
