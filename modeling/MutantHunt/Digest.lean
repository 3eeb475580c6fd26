/-!
# Digests

Two executables count as the same if their SHA-256 digests are equal. The digest of a sequence of
bytes is computed in three steps: the bytes are padded to whole blocks of 64 (`padded`), a running
state of eight words is mixed with one block after the other (`State.absorb`), and the final state is
written in hexadecimal (`fingerprint`).
-/

namespace MutantHunt.Digest

/-- The first 32 bits of the fractional parts of the cube roots of the first 64 primes. -/
def roundConstants : Array UInt32 :=
  #[0x428a2f98, 0x71374491, 0xb5c0fbcf, 0xe9b5dba5, 0x3956c25b, 0x59f111f1, 0x923f82a4, 0xab1c5ed5,
    0xd807aa98, 0x12835b01, 0x243185be, 0x550c7dc3, 0x72be5d74, 0x80deb1fe, 0x9bdc06a7, 0xc19bf174,
    0xe49b69c1, 0xefbe4786, 0x0fc19dc6, 0x240ca1cc, 0x2de92c6f, 0x4a7484aa, 0x5cb0a9dc, 0x76f988da,
    0x983e5152, 0xa831c66d, 0xb00327c8, 0xbf597fc7, 0xc6e00bf3, 0xd5a79147, 0x06ca6351, 0x14292967,
    0x27b70a85, 0x2e1b2138, 0x4d2c6dfc, 0x53380d13, 0x650a7354, 0x766a0abb, 0x81c2c92e, 0x92722c85,
    0xa2bfe8a1, 0xa81a664b, 0xc24b8b70, 0xc76c51a3, 0xd192e819, 0xd6990624, 0xf40e3585, 0x106aa070,
    0x19a4c116, 0x1e376c08, 0x2748774c, 0x34b0bcb5, 0x391c0cb3, 0x4ed8aa4a, 0x5b9cca4f, 0x682e6ff3,
    0x748f82ee, 0x78a5636f, 0x84c87814, 0x8cc70208, 0x90befffa, 0xa4506ceb, 0xbef9a3f7, 0xc67178f2]

/-- The eight words that are mixed with the blocks. -/
structure State where
  a : UInt32
  b : UInt32
  c : UInt32
  d : UInt32
  e : UInt32
  f : UInt32
  g : UInt32
  h : UInt32
  deriving DecidableEq, Repr

/-- The first 32 bits of the fractional parts of the square roots of the first eight primes. -/
def State.initial : State :=
  ⟨0x6a09e667, 0xbb67ae85, 0x3c6ef372, 0xa54ff53a,
    0x510e527f, 0x9b05688c, 0x1f83d9ab, 0x5be0cd19⟩

/-- Moves the bits of a word to the right; those that fall out come back in on the left. -/
def rotate (x n : UInt32) : UInt32 :=
  (x >>> n) ||| (x <<< (32 - n))

/-- The word of four bytes, the highest first. -/
def wordOf (a b c d : UInt8) : UInt32 :=
  (a.toUInt32 <<< 24) ||| (b.toUInt32 <<< 16) ||| (c.toUInt32 <<< 8) ||| d.toUInt32

/-- Groups bytes into words. Bytes that do not fill a word are left out. -/
def wordsOf : List UInt8 → List UInt32
  | a :: b :: c :: d :: rest => wordOf a b c d :: wordsOf rest
  | _ => []

/-- The lowest `count` bytes of a number, the highest of them first. -/
def bigEndian : Nat → Nat → List UInt8
  | 0, _ => []
  | count + 1, n => UInt8.ofNat (n >>> (8 * count)) :: bigEndian count n

/-- The bytes followed by a one bit, as few zeros as make the blocks whole, and the length in bits.
-/
def padded (bytes : List UInt8) : List UInt8 :=
  bytes ++ 0x80 :: List.replicate ((119 - bytes.length % 64) % 64) 0
    ++ bigEndian 8 (bytes.length * 8)

/-- Appends so many words to the words of a block. Each is made from words before it. -/
def expand : Nat → Array UInt32 → Array UInt32
  | 0, words => words
  | n + 1, words =>
    let back (k : Nat) : UInt32 := words.getD (words.size - k) 0
    let older := back 15
    let newer := back 2
    let mixedOlder := rotate older 7 ^^^ rotate older 18 ^^^ (older >>> 3)
    let mixedNewer := rotate newer 17 ^^^ rotate newer 19 ^^^ (newer >>> 10)
    expand n (words.push (back 16 + mixedOlder + back 7 + mixedNewer))

namespace State

/-- One round: mixes a constant and a word into the state. -/
def round (s : State) (constant word : UInt32) : State :=
  let mixed := rotate s.e 6 ^^^ rotate s.e 11 ^^^ rotate s.e 25
  let choice := (s.e &&& s.f) ^^^ (~~~s.e &&& s.g)
  let first := s.h + mixed + choice + constant + word
  let turned := rotate s.a 2 ^^^ rotate s.a 13 ^^^ rotate s.a 22
  let majority := (s.a &&& s.b) ^^^ (s.a &&& s.c) ^^^ (s.b &&& s.c)
  { a := first + (turned + majority), b := s.a, c := s.b, d := s.c
    e := s.d + first, f := s.e, g := s.f, h := s.g }

/-- The sum of two states, word by word. -/
def add (s t : State) : State :=
  ⟨s.a + t.a, s.b + t.b, s.c + t.c, s.d + t.d, s.e + t.e, s.f + t.f, s.g + t.g, s.h + t.h⟩

/-- Mixes the state with one block, given as its 16 words. -/
def compress (s : State) (block : List UInt32) : State :=
  let words := expand 48 block.toArray
  s.add ((List.range 64).foldl (fun t i => t.round (roundConstants.getD i 0) (words.getD i 0)) s)

/-- Mixes the state with so many blocks, given as their words. -/
def absorb : Nat → List UInt32 → State → State
  | 0, _, s => s
  | n + 1, words, s => absorb n (words.drop 16) (s.compress (words.take 16))

/-- The words of the state in order. -/
def words (s : State) : List UInt32 :=
  [s.a, s.b, s.c, s.d, s.e, s.f, s.g, s.h]

end State

/-- The digest of bytes, as eight words. -/
def digest (bytes : List UInt8) : List UInt32 :=
  let words := wordsOf (padded bytes)
  (State.initial.absorb (words.length / 16) words).words

/-- The eight hexadecimal digits of a word. -/
def hexadecimalWord (word : UInt32) : String :=
  String.ofList ((List.range 8).map fun i => Nat.digitChar (word.toNat >>> (4 * (7 - i)) % 16))

/-- The digest of bytes, in hexadecimal. -/
def fingerprint (bytes : List UInt8) : String :=
  String.join ((digest bytes).map hexadecimalWord)

end MutantHunt.Digest
