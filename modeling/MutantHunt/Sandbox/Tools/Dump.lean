import MutantHunt.Digest
import MutantHunt.Sandbox.Shell.Format
import MutantHunt.Sandbox.Tools.Basic

/-!
# Tools that show bytes

`od` prints bytes as numbers or characters, `base64` as letters, and the others sum them up in a number.
-/

namespace MutantHunt.Sandbox.Tools

/-! ## Numbers -/

/-- How bytes are shown. -/
inductive DumpForm where
  /-- As characters, or in octal. -/
  | characters
  /-- As characters with names for the others. -/
  | names
  /-- As unsigned numbers of so many bytes, in a base. -/
  | unsigned (base size : Nat)
  /-- As signed numbers of so many bytes. -/
  | signed (size : Nat)
  deriving DecidableEq, Repr

/-- How many bytes make one number. -/
def DumpForm.size : DumpForm → Nat
  | characters | names => 1
  | unsigned _ size | signed size => size

/-- The number of digits that the largest number of so many bytes has. -/
def digitsOf (base size : Nat) : Nat :=
  (Nat.toDigits base (Nat.pow 256 size - 1)).length

/-- How wide a number is shown, with the space in front. -/
def DumpForm.width : DumpForm → Nat
  | characters | names => 4
  | unsigned base size => digitsOf base size + 1
  | signed size => digitsOf 10 size + 2

/-- The number that bytes give, the lowest first. -/
def littleEndian (bytes : List UInt8) : Nat :=
  bytes.foldr (fun b n => n * 256 + b.toNat) 0

/-- A text with zeros or blanks in front. -/
def padLeft (fill : Char) (width : Nat) (text : String) : String :=
  String.ofList (List.replicate (width - text.length) fill) ++ text

/-- The names of the first characters. -/
def controlNames : List String :=
  ["nul", "soh", "stx", "etx", "eot", "enq", "ack", "bel", "bs", "ht", "nl", "vt", "ff", "cr", "so", "si", "dle",
    "dc1", "dc2", "dc3", "dc4", "nak", "syn", "etb", "can", "em", "sub", "esc", "fs", "gs", "rs", "us", "sp"]

/-- A character as `od -c` shows it. -/
def shownCharacter (b : UInt8) : String :=
  match b.toNat with
  | 0 => "\\0"
  | 7 => "\\a"
  | 8 => "\\b"
  | 9 => "\\t"
  | 10 => "\\n"
  | 11 => "\\v"
  | 12 => "\\f"
  | 13 => "\\r"
  | n =>
    if 32 ≤ n && n < 127 then (Char.ofNat n).toString
    else padLeft '0' 3 (String.ofList (Nat.toDigits 8 n))

/-- Bytes of one number, as it is shown. -/
def DumpForm.shown (form : DumpForm) (bytes : List UInt8) : String :=
  match form with
  | characters => shownCharacter (bytes.headD 0)
  | names =>
    let n := (bytes.headD 0).toNat % 128
    if n = 127 then "del" else controlNames.getD n (Char.ofNat n).toString
  | unsigned base size =>
    let digits := String.ofList (Nat.toDigits base (littleEndian bytes))
    if base = 10 then digits else padLeft '0' (digitsOf base size) digits
  | signed size =>
    let n := littleEndian bytes
    let whole := Nat.pow 256 size
    toString (if 2 * n < whole then (n : Int) else (n : Int) - whole)

/-- The numbers of a row. -/
def DumpForm.row (form : DumpForm) : Nat → List UInt8 → String
  | 0, _ => ""
  | _ + 1, [] => ""
  | n + 1, bytes =>
    padLeft ' ' form.width (form.shown (bytes.take form.size)) ++ form.row n (bytes.drop form.size)

/-- The form that a letter with a size stands for. -/
def DumpForm.ofText? (text : String) : Option DumpForm :=
  let rest := String.ofList ((text.toList.drop 1).filter (· != 'z'))
  let size? : Option Nat :=
    match rest with
    | "" | "I" => some 4
    | "C" => some 1
    | "S" => some 2
    | "L" => some 8
    | _ => rest.toNat?.filter [1, 2, 4, 8].contains
  match text.toList.head?, size? with
  | some 'c', _ => some .characters
  | some 'a', _ => some .names
  | some 'x', some size => some (.unsigned 16 size)
  | some 'o', some size => some (.unsigned 8 size)
  | some 'u', some size => some (.unsigned 10 size)
  | some 'd', some size => some (.signed size)
  | _, _ => none

/-- The forms that old options stand for. -/
def oldForms : List (Char × String) :=
  [('a', "a"), ('b', "o1"), ('c', "c"), ('d', "u2"), ('D', "u4"), ('i', "d4"), ('I', "d8"), ('l', "d8"),
    ('L', "d8"), ('o', "o2"), ('O', "o4"), ('s', "d2"), ('x', "x2"), ('X', "x4"), ('h', "x2"), ('B', "o2")]

/-- The rows of a dump, given the row before. Rows that are equal to the one before are left out, except for a
star. The number bounds how many rows there are. -/
def dumpRows (forms : List DumpForm) (offset : Nat → String) (width : Nat) (all : Bool) :
    Nat → Nat → Option (List UInt8) → (starred : Bool) → List UInt8 → String
  | 0, _, _, _, _ => ""
  | n + 1, position, before, starred, bytes =>
    if bytes.isEmpty then
      let last := offset position
      if last.isEmpty then "" else last ++ "\n"
    else
      let row := bytes.take width
      let further (starred : Bool) : String :=
        dumpRows forms offset width all n (position + row.length) (some row) starred (bytes.drop width)
      if !all && before == some row && row.length = width then
        (if starred then "" else "*\n") ++ further true
      else
        let label := offset position
        let blank := String.ofList (List.replicate label.length ' ')
        String.join (forms.zipIdx.map fun (form, i) =>
            (if i = 0 then label else blank) ++ form.row width row ++ "\n")
          ++ further false

/-- Prints bytes as numbers or characters. -/
def od : Tool := fun process machine =>
  let options := Options.read ['A', 't', 'j', 'N', 'w'] [("address-radix", 'A'), ("format", 't'),
    ("skip-bytes", 'j'), ("read-bytes", 'N'), ("output-duplicates", 'v'), ("width", 'w')] process.arguments
  let texts := options.given.filterMap fun (letter, value) =>
    if letter == 't' then some value else oldForms.lookup letter
  let forms := texts.mapM DumpForm.ofText?
  let (inputs, good, machine) :=
    (if options.has 'N' then sources else wholeSources) process machine options.operands
  match forms with
  | none => fail process machine 1 "invalid type string"
  | some forms =>
    let forms := if forms.isEmpty then [DumpForm.unsigned 8 2] else forms
    let skipped := ((options.value? 'j').bind sizeOf?).getD 0
    let finite := inputs.flatMap fun entry => entry.2.bytes
    let bytes :=
      match (options.value? 'N').bind sizeOf? with
      | some count =>
        let endless := ((inputs.map Prod.snd).find? fun (input : Input) => !input.endless.isEmpty).elim [] Input.endless
        ({ bytes := finite, endless } : Input).take (skipped + count)
      | none => finite
    let offset (n : Nat) : String :=
      match (options.value? 'A').getD "o" with
      | "n" => ""
      | "d" => padLeft '0' 7 n.repr
      | "x" => padLeft '0' 6 (String.ofList (Nat.toDigits 16 n))
      | _ => padLeft '0' 7 (String.ofList (Nat.toDigits 8 n))
    let width := ((options.value? 'w').bind String.toNat?).getD 16
    let text := dumpRows forms offset (max 1 width) (options.has 'v') (bytes.length + 2) skipped none false
      (bytes.drop skipped)
    (if good then 0 else 1, say process machine text)

/-! ## Letters -/

/-- The letters of six bits. -/
def sixBits : List Char :=
  "ABCDEFGHIJKLMNOPQRSTUVWXYZabcdefghijklmnopqrstuvwxyz0123456789+/".toList

/-- The letter of six bits. -/
def letterOf (n : Nat) : Char :=
  sixBits.getD (n % 64) 'A'

/-- Three bytes as four letters, and so on. Missing bytes are marked. -/
def letters : List UInt8 → List Char
  | a :: b :: c :: rest =>
    let n := a.toNat * 65536 + b.toNat * 256 + c.toNat
    letterOf (n / 262144) :: letterOf (n / 4096) :: letterOf (n / 64) :: letterOf n :: letters rest
  | [a, b] =>
    let n := a.toNat * 65536 + b.toNat * 256
    [letterOf (n / 262144), letterOf (n / 4096), letterOf (n / 64), '=']
  | [a] =>
    let n := a.toNat * 65536
    [letterOf (n / 262144), letterOf (n / 4096), '=', '=']
  | [] => []

/-- The bytes that groups of four letters stand for. The flag tells whether they stand for any. -/
def bytesOfLetters : List Char → List UInt8 × Bool
  | a :: b :: c :: d :: rest =>
    match [a, b, c, d].mapM fun letter => if letter == '=' then some 0 else sixBits.idxOf? letter with
    | some values =>
      let n := values.foldl (fun n v => n * 64 + v) 0
      let all := [UInt8.ofNat (n / 65536), UInt8.ofNat (n / 256), UInt8.ofNat n]
      let kept := if c == '=' then all.take 1 else if d == '=' then all.take 2 else all
      let (more, good) := bytesOfLetters rest
      (kept ++ more, good)
    | none => ([], false)
  | [] => ([], true)
  | _ => ([], false)

/-- Cuts characters into lines. The number bounds how many lines there are. -/
def cutLines (width : Nat) : Nat → List Char → List (List Char)
  | 0, _ => []
  | n + 1, chars => if chars.isEmpty then [] else chars.take width :: cutLines width n (chars.drop width)

/-- Prints bytes as letters, or the bytes that letters stand for. -/
def base64 : Tool := fun process machine =>
  let options := Options.read ['w'] [("decode", 'd'), ("wrap", 'w'), ("ignore-garbage", 'i')] process.arguments
  let (inputs, good, machine) := wholeSources process machine (options.operands.take 1)
  let bytes := inputs.flatMap fun entry => entry.2.bytes
  if !good then (1, machine)
  else if options.has 'd' then
    let chars := (ByteText.ofBytes bytes).toList.filter (· != '\n')
    let chars := if options.has 'i' then chars.filter fun c => sixBits.contains c || c == '=' else chars
    let (bytes, good) := bytesOfLetters chars
    let machine := pass process machine { bytes }
    if good then (0, machine) else fail process machine 1 "invalid input"
  else
    let chars := letters bytes
    match ((options.value? 'w').bind String.toNat?).getD 76 with
    | 0 => (0, say process machine (String.ofList chars))
    | width => (0, say process machine (unlines (cutLines width (chars.length + 1) chars)))

/-! ## Sums -/

/-- One step of a cyclic sum. -/
def cyclicBit (sum : UInt32) : UInt32 :=
  if 0x80000000 ≤ sum then (sum <<< 1) ^^^ 0x04c11db7 else sum <<< 1

/-- Takes one byte into a cyclic sum. -/
def cyclicByte (sum : UInt32) (b : UInt8) : UInt32 :=
  (List.range 8).foldl (fun sum _ => cyclicBit sum) (sum ^^^ (b.toUInt32 <<< 24))

/-- The bytes of a length, the lowest first. -/
def lengthBytes : Nat → Nat → List UInt8
  | 0, _ => []
  | fuel + 1, n => if n = 0 then [] else UInt8.ofNat n :: lengthBytes fuel (n / 256)

/-- The cyclic sum of bytes and of their number. -/
def cyclicSum (bytes : List UInt8) : Nat :=
  (~~~((bytes ++ lengthBytes 9 bytes.length).foldl cyclicByte 0)).toNat

/-- Prints cyclic sums. -/
def cksum : Tool := fun process machine =>
  let options := Options.read [] [] process.arguments
  let (inputs, good, machine) := wholeSources process machine options.operands
  let lines := inputs.map fun (name, input) =>
    let title := if options.operands.isEmpty then "" else " " ++ name
    ((cyclicSum input.bytes).repr ++ " " ++ input.bytes.length.repr ++ title).toList
  (if good then 0 else 1, say process machine (unlines lines))

/-- Moves the bits of a word to the left; those that fall out come back in on the right. -/
def rotateLeft (x : UInt32) (n : Nat) : UInt32 :=
  (x <<< UInt32.ofNat n) ||| (x >>> UInt32.ofNat (32 - n))

/-- Bytes in whole blocks, with their length in bits at the end. -/
def blocks (lengthFirst : Bool) (bytes : List UInt8) : List UInt8 :=
  let length := Digest.bigEndian 8 (bytes.length * 8)
  bytes ++ 0x80 :: List.replicate ((119 - bytes.length % 64) % 64) 0
    ++ if lengthFirst then length else length.reverse

/-- The words of bytes, the highest byte first or last. -/
def wordsIn (highFirst : Bool) : List UInt8 → List UInt32
  | a :: b :: c :: d :: rest =>
    (if highFirst then Digest.wordOf a b c d else Digest.wordOf d c b a) :: wordsIn highFirst rest
  | _ => []

/-- Splits words into blocks of sixteen. The number bounds how many there are. -/
def blocksOf : Nat → List UInt32 → List (Array UInt32)
  | 0, _ => []
  | n + 1, words => if words.isEmpty then [] else (words.take 16).toArray :: blocksOf n (words.drop 16)

/-- The whole parts of the sines of 1, 2, 3 and so on, times 2 to the power of 32. -/
def sines : Array UInt32 :=
  #[0xd76aa478, 0xe8c7b756, 0x242070db, 0xc1bdceee, 0xf57c0faf, 0x4787c62a, 0xa8304613, 0xfd469501,
    0x698098d8, 0x8b44f7af, 0xffff5bb1, 0x895cd7be, 0x6b901122, 0xfd987193, 0xa679438e, 0x49b40821,
    0xf61e2562, 0xc040b340, 0x265e5a51, 0xe9b6c7aa, 0xd62f105d, 0x02441453, 0xd8a1e681, 0xe7d3fbc8,
    0x21e1cde6, 0xc33707d6, 0xf4d50d87, 0x455a14ed, 0xa9e3e905, 0xfcefa3f8, 0x676f02d9, 0x8d2a4c8a,
    0xfffa3942, 0x8771f681, 0x6d9d6122, 0xfde5380c, 0xa4beea44, 0x4bdecfa9, 0xf6bb4b60, 0xbebfbc70,
    0x289b7ec6, 0xeaa127fa, 0xd4ef3085, 0x04881d05, 0xd9d4d039, 0xe6db99e5, 0x1fa27cf8, 0xc4ac5665,
    0xf4292244, 0x432aff97, 0xab9423a7, 0xfc93a039, 0x655b59c3, 0x8f0ccc92, 0xffeff47d, 0x85845dd1,
    0x6fa87e4f, 0xfe2ce6e0, 0xa3014314, 0x4e0811a1, 0xf7537e82, 0xbd3af235, 0x2ad7d2bb, 0xeb86d391]

/-- How far the words are turned in each round of four. -/
def turns : List (List Nat) :=
  [[7, 12, 17, 22], [5, 9, 14, 20], [4, 11, 16, 23], [6, 10, 15, 21]]

/-- Mixes four words with a block. -/
def mixFour (state : UInt32 × UInt32 × UInt32 × UInt32) (block : Array UInt32) :
    UInt32 × UInt32 × UInt32 × UInt32 :=
  let (a₀, b₀, c₀, d₀) := state
  let (a, b, c, d) := (List.range 64).foldl
    (fun (a, b, c, d) i =>
      let (f, g) : UInt32 × Nat :=
        if i < 16 then ((b &&& c) ||| (~~~b &&& d), i)
        else if i < 32 then ((d &&& b) ||| (~~~d &&& c), (5 * i + 1) % 16)
        else if i < 48 then (b ^^^ c ^^^ d, (3 * i + 5) % 16)
        else (c ^^^ (b ||| ~~~d), (7 * i) % 16)
      let turned := rotateLeft (a + f + sines.getD i 0 + block.getD g 0) ((turns.getD (i / 16) []).getD (i % 4) 0)
      (d, b + turned, b, c))
    state
  (a₀ + a, b₀ + b, c₀ + c, d₀ + d)

/-- The digest of four words of bytes. -/
def digestOfFour (bytes : List UInt8) : String :=
  let words := wordsIn false (blocks false bytes)
  let (a, b, c, d) := (blocksOf (words.length + 1) words).foldl mixFour
    (0x67452301, 0xefcdab89, 0x98badcfe, 0x10325476)
  let turned (x : UInt32) : UInt32 :=
    let part (n : Nat) : UInt32 := (x >>> UInt32.ofNat n) % 256
    (part 0 <<< 24) ||| (part 8 <<< 16) ||| (part 16 <<< 8) ||| part 24
  String.join ([a, b, c, d].map fun x => Digest.hexadecimalWord (turned x))

/-- Appends so many words to those of a block. -/
def spread : Nat → Array UInt32 → Array UInt32
  | 0, words => words
  | n + 1, words =>
    let back (k : Nat) : UInt32 := words.getD (words.size - k) 0
    spread n (words.push (rotateLeft (back 3 ^^^ back 8 ^^^ back 14 ^^^ back 16) 1))

/-- Mixes five words with a block. -/
def mixFive (state : UInt32 × UInt32 × UInt32 × UInt32 × UInt32) (block : Array UInt32) :
    UInt32 × UInt32 × UInt32 × UInt32 × UInt32 :=
  let (a₀, b₀, c₀, d₀, e₀) := state
  let words := spread 64 block
  let (a, b, c, d, e) := (List.range 80).foldl
    (fun (a, b, c, d, e) i =>
      let (f, k) : UInt32 × UInt32 :=
        if i < 20 then ((b &&& c) ||| (~~~b &&& d), 0x5a827999)
        else if i < 40 then (b ^^^ c ^^^ d, 0x6ed9eba1)
        else if i < 60 then ((b &&& c) ||| (b &&& d) ||| (c &&& d), 0x8f1bbcdc)
        else (b ^^^ c ^^^ d, 0xca62c1d6)
      (rotateLeft a 5 + f + e + k + words.getD i 0, a, rotateLeft b 30, c, d))
    state
  (a₀ + a, b₀ + b, c₀ + c, d₀ + d, e₀ + e)

/-- The digest of five words of bytes. -/
def digestOfFive (bytes : List UInt8) : String :=
  let words := wordsIn true (blocks true bytes)
  let (a, b, c, d, e) := (blocksOf (words.length + 1) words).foldl mixFive
    (0x67452301, 0xefcdab89, 0x98badcfe, 0x10325476, 0xc3d2e1f0)
  String.join ([a, b, c, d, e].map Digest.hexadecimalWord)

/-- Prints the digests of operands, or checks those that they list. -/
def digests (digest : List UInt8 → String) : Tool := fun process machine =>
  let options := Options.read [] [("check", 'c'), ("quiet", 'q'), ("status", 's'), ("binary", 'b')]
    process.arguments
  let (inputs, good, machine) := wholeSources process machine options.operands
  if options.has 'c' then
    let lines := inputs.flatMap fun entry => linesOf entry.2.bytes
    lines.foldl
      (fun (status, machine) line =>
        let expected := String.ofList (line.takeWhile (· != ' '))
        let name := String.ofList (line.drop (expected.length + 2))
        let (result, machine) := source process machine name
        let right :=
          match result with
          | .ok input => digest input.bytes == expected
          | .error _ => false
        let opened := result.toOption.isSome
        let message := name ++ ": " ++ (if right then "OK" else if opened then "FAILED" else "FAILED open or read")
        let machine :=
          if options.has 's' || options.has 'q' && right then machine else say process machine (message ++ "\n")
        (if right then status else 1, machine))
      (if good then 0 else 1, machine)
  else
    let lines := inputs.map fun (name, input) =>
      (digest input.bytes ++ (if options.has 'b' then " *" else "  ") ++ name).toList
    (if good then 0 else 1, say process machine (unlines lines))

end MutantHunt.Sandbox.Tools
