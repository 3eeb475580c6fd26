import MutantHunt.Json.Fault
import MutantHunt.Text.Unicode

/-!
# Words, numbers and strings of JSON

The readers of this library work on the bytes of a text. Each takes what is left of the input and
gives back a result with what is left after it, so a text is read from the front to the back once.

This module reads the parts without structure: blanks, the three words, numbers and strings.
Numbers and strings occur in two ways. Where a value is asked for they are read in full
(`readNumber`, `readText`); where a value is passed over only its grammar is checked (`passNumber`,
`passText`), which accepts more.
-/

namespace MutantHunt.Json

/-- What is left of a text, as bytes. -/
abbrev Bytes := List UInt8

/-- Reads something from the front of the input. -/
abbrev Reader (α : Type) := StateT Bytes (Except Fault) α

@[match_pattern] abbrev quoteMark : UInt8 := 0x22
@[match_pattern] abbrev backslash : UInt8 := 0x5C
@[match_pattern] abbrev comma : UInt8 := 0x2C
@[match_pattern] abbrev colonMark : UInt8 := 0x3A
@[match_pattern] abbrev openBracket : UInt8 := 0x5B
@[match_pattern] abbrev closeBracket : UInt8 := 0x5D
@[match_pattern] abbrev openBrace : UInt8 := 0x7B
@[match_pattern] abbrev closeBrace : UInt8 := 0x7D
@[match_pattern] abbrev minusSign : UInt8 := 0x2D
@[match_pattern] abbrev plusSign : UInt8 := 0x2B
@[match_pattern] abbrev point : UInt8 := 0x2E
@[match_pattern] abbrev zero : UInt8 := 0x30
@[match_pattern] abbrev letterN : UInt8 := 0x6E
@[match_pattern] abbrev letterT : UInt8 := 0x74
@[match_pattern] abbrev letterF : UInt8 := 0x66
@[match_pattern] abbrev letterU : UInt8 := 0x75

/-! ## Blanks and words -/

/-- The four blanks of JSON: space, tab, line feed and carriage return. -/
def isBlankByte (b : UInt8) : Bool :=
  b == 0x20 || b == 0x09 || b == 0x0A || b == 0x0D

/-- Drops the blanks at the front. -/
def skipBlanks (input : Bytes) : Bytes :=
  input.dropWhile isBlankByte

/-- Reads the rest of a word. -/
def completeWord : List UInt8 → Bytes → Except Fault Bytes
  | [], input => .ok input
  | _ :: _, [] => .error SyntaxFault.endInValue
  | w :: word, b :: input =>
    if w = b then completeWord word input else .error SyntaxFault.expectedIdent

/-- What follows the first letter of `null`. -/
def restOfNull : List UInt8 := [0x75, 0x6C, 0x6C]

/-- What follows the first letter of `true`. -/
def restOfTrue : List UInt8 := [0x72, 0x75, 0x65]

/-- What follows the first letter of `false`. -/
def restOfFalse : List UInt8 := [0x61, 0x6C, 0x73, 0x65]

/-! ## Numbers -/

/-- Whether a byte is a decimal digit. -/
def isDigit (b : UInt8) : Bool :=
  0x30 ≤ b && b ≤ 0x39

/-- Whether a byte starts an exponent. -/
def isExponentMark (b : UInt8) : Bool :=
  b == 0x65 || b == 0x45

/-- Whether the input goes on with a digit. -/
def startsWithDigit : Bytes → Bool
  | [] => false
  | b :: _ => isDigit b

/-- A number that was read: an integer where the text writes one that fits, else a double. -/
inductive Number where
  | integer (value : Int)
  | floating (value : Binary64)
  deriving DecidableEq, Repr

/-- A number as something that was met in the wrong place. -/
def Number.found : Number → Found
  | integer n => .integer n
  | floating x => .floating x

/-- Appends digits to a significand for as long as it fits into 64 bits. Gives the significand and
how many digits went in; the first one that does not fit ends it. -/
def absorb (significand : Nat) : List UInt8 → Nat × Nat
  | [] => (significand, 0)
  | d :: digits =>
    let next := significand * 10 + (d.toNat - 0x30)
    if next < UInt64.size then
      let (total, count) := absorb next digits
      (total, count + 1)
    else (significand, 0)

/-- The double for `± significand · 10 ^ exponent`, by one multiplication or division with a power
of ten where the exponent is at most 308 either way, and by a division with `10 ^ 308` before that
where it is smaller. Nothing where the result is too large. -/
def scaled? (negative : Bool) (significand : Nat) (exponent : Int) : Option Binary64 :=
  let power (n : Nat) : Binary64 := .ofNat (Nat.pow 10 n)
  let signed (x : Binary64) : Binary64 := if negative then .mul (.ofMagnitude true (1023 * Binary64.leadingBit)) x else x
  let start : Binary64 := .ofNat significand
  if significand = 0 then some (signed start)
  else if 308 < exponent then none
  else if 0 ≤ exponent then
    let x := start.mul (power exponent.toNat)
    match x.value with
    | .infinite _ => none
    | _ => some (signed x)
  else if -308 ≤ exponent then some (signed (start.div (power (-exponent).toNat)))
  else if -616 ≤ exponent then
    some (signed ((start.div (power 308)).div (power (-exponent - 308).toNat)))
  else some (signed (.ofNat 0))

/-- A double from its decimal parts, or a fault where it is too large. -/
def floatingOf (negative : Bool) (significand : Nat) (exponent : Int) : Except Fault Number :=
  match scaled? negative significand exponent with
  | some x => .ok (.floating x)
  | none => .error SyntaxFault.numberOutOfRange

/-- Splits an optional sign off, and tells whether it was a minus. -/
def splitSign : Bytes → Bool × Bytes
  | minusSign :: rest => (true, rest)
  | plusSign :: rest => (false, rest)
  | input => (false, input)

/-- Reads what follows the mark of an exponent and finishes the number. -/
def readExponent (negative : Bool) (significand : Nat) (exponent : Int) (input : Bytes) :
    Except Fault (Number × Bytes) :=
  let (below, input) := splitSign input
  match input with
  | [] => .error SyntaxFault.endInValue
  | b :: _ =>
    if isDigit b then
      let digits := input.takeWhile isDigit
      let rest := input.dropWhile isDigit
      let n : Nat := digits.foldl (fun n d => n * 10 + (d.toNat - 0x30)) 0
      if 0x80000000 ≤ n then
        if significand ≠ 0 ∧ !below then .error SyntaxFault.numberOutOfRange
        else (floatingOf negative 0 0).map (·, rest)
      else
        let total := if below then exponent - n else exponent + n
        (floatingOf negative significand total).map (·, rest)
    else .error SyntaxFault.invalidNumber

/-- Reads what follows the point of a number and finishes the number. -/
def readPlaces (negative : Bool) (significand : Nat) (exponent : Int) (input : Bytes) :
    Except Fault (Number × Bytes) :=
  let places := input.takeWhile isDigit
  let rest := input.dropWhile isDigit
  let (significand, count) := absorb significand places
  let exponent := exponent - count
  match places, rest with
  | [], [] => .error SyntaxFault.endInValue
  | [], _ :: _ => .error SyntaxFault.invalidNumber
  | _ :: _, [] => (floatingOf negative significand exponent).map (·, rest)
  | _ :: _, b :: more =>
    if isExponentMark b then readExponent negative significand exponent more
    else (floatingOf negative significand exponent).map (·, rest)

/-- An integer, or a double where it does not fit into 64 bits with its sign. There is no negative
integer zero. -/
def integerOf (negative : Bool) (significand : Nat) : Number :=
  if !negative then .integer significand
  else if significand = 0 ∨ Binary64.signBit < significand then
    .floating (.ofRatio true significand 1)
  else .integer (-(significand : Int))

/-- Finishes a number after its whole part, of which `dropped` digits did not fit. -/
def readFraction (negative : Bool) (significand dropped : Nat) (input : Bytes) :
    Except Fault (Number × Bytes) :=
  let plain : Except Fault (Number × Bytes) :=
    if dropped = 0 then .ok (integerOf negative significand, input)
    else (floatingOf negative significand dropped).map (·, input)
  match input with
  | [] => plain
  | b :: rest =>
    if b = point then readPlaces negative significand dropped rest
    else if isExponentMark b then readExponent negative significand dropped rest
    else plain

/-- Reads a number after its sign. -/
def readNumber (negative : Bool) (input : Bytes) : Except Fault (Number × Bytes) :=
  match input with
  | [] => .error SyntaxFault.endInValue
  | b :: rest =>
    if b = zero then
      if startsWithDigit rest then .error SyntaxFault.invalidNumber
      else readFraction negative 0 0 rest
    else if isDigit b then
      let digits := input.takeWhile isDigit
      let (significand, count) := absorb 0 digits
      readFraction negative significand (digits.length - count) (input.dropWhile isDigit)
    else .error SyntaxFault.invalidNumber

/-- Passes over what follows the mark of an exponent. -/
def passExponent (input : Bytes) : Except Fault Bytes :=
  let (_, input) := splitSign input
  if startsWithDigit input then .ok (input.dropWhile isDigit)
  else .error SyntaxFault.invalidNumber

/-- Passes over what follows the whole part of a number. -/
def passFraction (input : Bytes) : Except Fault Bytes :=
  match input with
  | [] => .ok []
  | b :: rest =>
    if b = point then
      if startsWithDigit rest then
        match rest.dropWhile isDigit with
        | [] => .ok []
        | c :: more => if isExponentMark c then passExponent more else .ok (c :: more)
      else .error SyntaxFault.invalidNumber
    else if isExponentMark b then passExponent rest
    else .ok (b :: rest)

/-- Passes over a number after its sign, whatever its size. -/
def passNumber (input : Bytes) : Except Fault Bytes :=
  match input with
  | [] => .error SyntaxFault.invalidNumber
  | b :: rest =>
    if b = zero then
      if startsWithDigit rest then .error SyntaxFault.invalidNumber else passFraction rest
    else if isDigit b then passFraction (rest.dropWhile isDigit)
    else .error SyntaxFault.invalidNumber

/-! ## Strings -/

/-- The value of a hexadecimal digit. -/
def hexValue? (b : UInt8) : Option Nat :=
  if 0x30 ≤ b && b ≤ 0x39 then some (b.toNat - 0x30)
  else if 0x41 ≤ b && b ≤ 0x46 then some (b.toNat - 0x41 + 10)
  else if 0x61 ≤ b && b ≤ 0x66 then some (b.toNat - 0x61 + 10)
  else none

/-- The 16 bits that four hexadecimal digits write. -/
def unit? (a b c d : UInt8) : Option Nat :=
  match hexValue? a, hexValue? b, hexValue? c, hexValue? d with
  | some a, some b, some c, some d => some (((a * 16 + b) * 16 + c) * 16 + d)
  | _, _, _, _ => none

/-- The byte that a one-letter escape stands for. -/
def shortEscape? (b : UInt8) : Option UInt8 :=
  if b == 0x22 || b == 0x5C || b == 0x2F then some b
  else if b == 0x62 then some 0x08
  else if b == 0x66 then some 0x0C
  else if b == 0x6E then some 0x0A
  else if b == 0x72 then some 0x0D
  else if b == 0x74 then some 0x09
  else none

/-- The character that is complete with the 16 bits of an escape, where `high` is a first half that
stands before them. There is none yet if they are a first half themselves. -/
def joinUnit (high : Option Nat) (unit : Nat) : Except Fault (Option Char) :=
  match high with
  | some high =>
    if 0xDC00 ≤ unit ∧ unit ≤ 0xDFFF then
      .ok (some (Char.ofNat ((high - 0xD800) * 0x400 + (unit - 0xDC00) + 0x10000)))
    else .error SyntaxFault.loneSurrogate
  | none =>
    if 0xDC00 ≤ unit ∧ unit ≤ 0xDFFF then .error SyntaxFault.loneSurrogate
    else if 0xD800 ≤ unit ∧ unit ≤ 0xDBFF then .ok none
    else .ok (some (Char.ofNat unit))

/-- Reads the bytes of a string up to its closing quote. `high` is the first half of a character that
is waiting for the other half, and `taken` holds the bytes so far, last first. -/
def readStringBytes : Option Nat → List UInt8 → Bytes → Except Fault (List UInt8 × Bytes)
  | _, _, [] => .error SyntaxFault.endInString
  | high, taken, b :: rest =>
    if b = backslash then
      match rest with
      | [] => .error SyntaxFault.endInString
      | c :: rest =>
        if c = letterU then
          match rest with
          | w :: x :: y :: z :: rest =>
            match unit? w x y z with
            | none => .error SyntaxFault.invalidEscape
            | some unit =>
              match joinUnit high unit with
              | .error fault => .error fault
              | .ok none => readStringBytes (some unit) taken rest
              | .ok (some char) =>
                readStringBytes none ((String.utf8EncodeChar char).reverse ++ taken) rest
          | _ => .error SyntaxFault.endInString
        else
          match high, shortEscape? c with
          | some _, _ => .error SyntaxFault.endOfSurrogatePair
          | none, some byte => readStringBytes none (byte :: taken) rest
          | none, none => .error SyntaxFault.invalidEscape
    else if high.isSome then .error SyntaxFault.endOfSurrogatePair
    else if b = quoteMark then .ok (taken.reverse, rest)
    else if b < 0x20 then .error SyntaxFault.controlCharacter
    else readStringBytes none (b :: taken) rest

/-- Reads a string after its opening quote. It has to be text. -/
def readText (input : Bytes) : Except Fault (String × Bytes) := do
  let (bytes, rest) ← readStringBytes none [] input
  match Text.decode? bytes with
  | some text => .ok (text, rest)
  | none => .error SyntaxFault.invalidText

/-- Passes over a string after its opening quote, whatever its bytes stand for. -/
def passText : Bytes → Except Fault Bytes
  | [] => .error SyntaxFault.endInString
  | b :: rest =>
    if b = quoteMark then .ok rest
    else if b = backslash then
      match rest with
      | [] => .error SyntaxFault.endInString
      | c :: rest =>
        if c = letterU then
          match rest with
          | w :: x :: y :: z :: rest =>
            if (unit? w x y z).isSome then passText rest else .error SyntaxFault.invalidEscape
          | _ => .error SyntaxFault.endInString
        else if (shortEscape? c).isSome then passText rest
        else .error SyntaxFault.invalidEscape
    else if b < 0x20 then .error SyntaxFault.controlCharacter
    else passText rest

end MutantHunt.Json
