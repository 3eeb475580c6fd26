/-!
# Bytes as text

`decode?` reads bytes as UTF-8 and refuses what is not. `decodeLossy` accepts anything: each longest
piece that starts a character and cannot be continued becomes one replacement character.
-/

namespace MutantHunt.Text

/-- The UTF-8 bytes of a text. -/
def encode (text : String) : List UInt8 :=
  text.toUTF8.data.toList

/-- The text whose UTF-8 bytes these are. -/
def decode? (bytes : List UInt8) : Option String :=
  String.fromUTF8? ⟨bytes.toArray⟩

/-- What a first byte announces: how many bytes follow it, and the range the next one must lie in.
-/
def continuation? (b : UInt8) : Option (Nat × UInt8 × UInt8) :=
  if 0xC2 ≤ b && b ≤ 0xDF then some (1, 0x80, 0xBF)
  else if b == 0xE0 then some (2, 0xA0, 0xBF)
  else if b == 0xED then some (2, 0x80, 0x9F)
  else if 0xE1 ≤ b && b ≤ 0xEF then some (2, 0x80, 0xBF)
  else if b == 0xF0 then some (3, 0x90, 0xBF)
  else if b == 0xF4 then some (3, 0x80, 0x8F)
  else if 0xF1 ≤ b && b ≤ 0xF3 then some (3, 0x80, 0xBF)
  else none

/-- The state of a lossy reading: the text so far, last character first, and what is known of the
character being read. -/
structure Lossy where
  done : List Char := []
  /-- The bits of the character being read. -/
  bits : Nat := 0
  /-- How many bytes of it are still to come. -/
  missing : Nat := 0
  low : UInt8 := 0x80
  high : UInt8 := 0xBF

/-- Reads one byte between characters. -/
def Lossy.start (s : Lossy) (b : UInt8) : Lossy :=
  if b < 0x80 then { done := Char.ofNat b.toNat :: s.done }
  else
    match continuation? b with
    | some (missing, low, high) =>
      { done := s.done, bits := b.toNat % (1 <<< (6 - missing)), missing, low, high }
    | none => { done := '\uFFFD' :: s.done }

/-- Reads one byte. -/
def Lossy.step (s : Lossy) (b : UInt8) : Lossy :=
  match s.missing with
  | 0 => s.start b
  | missing + 1 =>
    if s.low ≤ b && b ≤ s.high then
      let bits := s.bits * 64 + b.toNat % 64
      if missing = 0 then { done := Char.ofNat bits :: s.done }
      else { done := s.done, bits, missing }
    else Lossy.start { done := '\uFFFD' :: s.done } b

/-- Reads bytes as UTF-8 and puts a replacement character for each piece that is not. -/
def decodeLossy (bytes : List UInt8) : String :=
  let s := bytes.foldl Lossy.step {}
  String.ofList (if s.missing = 0 then s.done else '\uFFFD' :: s.done).reverse

end MutantHunt.Text
