import MutantHunt.Numeric.Binary64
import MutantHunt.Sandbox.Shell.Word

/-!
# Printed text in scripts

What `printf` and `echo` make of their arguments. A backslash starts an escape, which may be a byte
given by number; in the format of `printf`, a percent sign starts a field that takes an argument. The
format is used again as long as there are arguments left. Which escapes there are depends on who prints
(`Escapes`). What `printf` gives is a row of texts and faults, in the order in which they come up (`Piece`).
-/

namespace MutantHunt.Sandbox.Shell.Format

/-- Whether a character is an octal digit. -/
def isOctal (c : Char) : Bool :=
  '0' ≤ c && c ≤ '7'

/-- The byte that octal digits give. -/
def octalByte (digits : List Char) : Char :=
  Char.ofNat (digits.foldl (fun n c => n * 8 + (c.toNat - 48)) 0 % 256)

/-- The characters of the escapes that are one letter. -/
def letterEscape? (c : Char) : Option Char :=
  match c with
  | 'a' => some '\x07'
  | 'b' => some '\x08'
  | 'f' => some '\x0c'
  | 'n' => some '\n'
  | 'r' => some '\r'
  | 't' => some '\t'
  | 'v' => some '\x0b'
  | '\\' => some '\\'
  | _ => none

/-- Which escapes are known. -/
structure Escapes where
  /-- Whether a byte in octal may come without a zero in front. -/
  bare : Bool
  /-- Whether there are escapes for numbers in other bases. -/
  rich : Bool
  /-- Whether there are quoted fields. -/
  quotes : Bool := false
  deriving Repr

/-- Reads an escape that only some know, behind its backslash. -/
def richEscape? (escapes : Escapes) (text : List Char) : Option (List Char × List Char) :=
  match text with
  | c :: _ =>
    if escapes.rich && "eExuU".toList.contains c then
      let (chars, rest) := readEscape text
      if chars.head? == some '\\' then none else some (chars, rest)
    else none
  | [] => none

/-- Replaces escapes in an argument. In arguments a byte in octal may start with a zero, and `\c` ends all
output: then the flag is set. The number bounds how many characters are left. -/
def unescapeUpTo (escapes : Escapes) : Nat → List Char → List Char × Bool
  | 0, _ => ([], false)
  | _ + 1, [] => ([], false)
  | n + 1, '\\' :: c :: rest =>
    let further (chars rest : List Char) : List Char × Bool :=
      let (more, ended) := unescapeUpTo escapes n rest
      (chars ++ more, ended)
    match letterEscape? c, richEscape? escapes (c :: rest) with
    | some d, _ => further [d] rest
    | none, some (chars, rest) => further chars rest
    | none, none =>
      if c == 'c' then ([], true)
      else if c == '0' then
        let digits := (rest.take 3).takeWhile isOctal
        further [octalByte digits] (rest.drop digits.length)
      else if escapes.bare && isOctal c then
        let digits := ((c :: rest).take 3).takeWhile isOctal
        further [octalByte digits] ((c :: rest).drop digits.length)
      else further ['\\'] (c :: rest)
  | n + 1, c :: rest =>
    let (more, ended) := unescapeUpTo escapes n rest
    (c :: more, ended)

/-- Replaces escapes in an argument, and tells whether all output ends with it. -/
def unescape (escapes : Escapes) (text : String) : String × Bool :=
  let (chars, ended) := unescapeUpTo escapes (text.length + 1) text.toList
  (String.ofList chars, ended)

/-- What `echo` prints. Where no escapes are known, backslashes stand for themselves. -/
def echo (escapes : Option Escapes) (newline : Bool) (words : List String) : String :=
  let text := " ".intercalate words
  let (text, ended) :=
    match escapes with
    | some escapes => unescape escapes text
    | none => (text, false)
  if newline && !ended then text ++ "\n" else text

/-! ## Fields -/

/-- How a field is laid out. -/
structure Layout where
  left : Bool := false
  zero : Bool := false
  plus : Bool := false
  space : Bool := false
  alternate : Bool := false
  width : Nat := 0
  precision : Option Nat := none

/-- Fills a text up to the width of a field. -/
def Layout.fill (layout : Layout) (text : String) : String :=
  let missing := String.ofList (List.replicate (layout.width - text.length) ' ')
  if layout.left then text ++ missing else missing ++ text

/-- Fills the digits of a number up to precision and width, behind its sign. -/
def Layout.fillNumber (layout : Layout) (sign digits : String) : String :=
  let wanted :=
    match layout.precision with
    | some p => p
    | none => if layout.zero && !layout.left then layout.width - sign.length else 0
  let zeros := String.ofList (List.replicate (wanted - digits.length) '0')
  layout.fill (sign ++ zeros ++ digits)

/-- The digits of a number in a base. -/
def digitsIn (base n : Nat) : String :=
  String.ofList (Nat.toDigits base n)

/-- Reads a whole number with an optional sign, as far as it goes. Tells whether that was all. -/
def leadingNumber (text : String) : Int × Bool :=
  let chars := text.toList.dropWhile Char.isWhitespace
  let (negative, chars) :=
    match chars with
    | '-' :: rest => (true, rest)
    | '+' :: rest => (false, rest)
    | rest => (false, rest)
  let hex (c : Char) : Option Nat :=
    if c.isDigit then some (c.toNat - 48)
    else if 'a' ≤ c && c ≤ 'f' then some (c.toNat - 87)
    else if 'A' ≤ c && c ≤ 'F' then some (c.toNat - 55) else none
  let (base, digits) :=
    match chars with
    | '0' :: 'x' :: rest | '0' :: 'X' :: rest => (16, rest)
    | '0' :: rest => (8, '0' :: rest)
    | rest => (10, rest)
  let good := digits.takeWhile fun c => (hex c).any (· < base)
  let value := good.foldl (fun n c => n * base + (hex c).getD 0) 0
  (if negative then -(value : Int) else value, good.length == digits.length && !digits.isEmpty)

/-- The number an argument of a numeric field stands for: after a quote, the code of a character. -/
def numericArgument (text : String) : Int × Bool :=
  match text.toList with
  | [] => (0, true)
  | '\x27' :: c :: _ | '"' :: c :: _ => (c.toNat, true)
  | _ => leadingNumber text

/-- A number with a point, and whether it was one. -/
structure Measured where
  negative : Bool
  digits : String
  good : Bool

/-! ## Faults -/

/-- What is wrong with a format or an argument. -/
inductive Fault where
  /-- An argument is no number. A part of it may be one. -/
  | noNumber (argument : String)
  | outOfRange (argument : String)
  /-- No field ends with the last character of this one. -/
  | noField (field : String)
  /-- The format ends in the midst of a field. -/
  | unfinished (field : String)
  deriving DecidableEq, Repr, Inhabited

/-- A fault in the words of one of the shells. -/
def Fault.plainWording : Fault → String
  | noNumber argument =>
    let chars := argument.toList.dropWhile Char.isWhitespace
    let digits := if chars.head? == some '-' || chars.head? == some '+' then chars.drop 1 else chars
    argument
      ++ if (digits.head?).any Char.isDigit then ": not completely converted" else ": expected numeric value"
  | outOfRange argument => argument ++ ": Numerical result out of range"
  | noField field => field ++ ": invalid directive"
  | unfinished _ => "missing format character"

/-- A fault in the words of the other shell. -/
def Fault.richWording : Fault → String
  | noNumber argument =>
    argument ++ match argument.toList with
      | '0' :: 'x' :: _ | '0' :: 'X' :: _ => ": invalid hex number"
      | '0' :: c :: _ => if c.isDigit then ": invalid octal number" else ": invalid number"
      | _ => ": invalid number"
  | outOfRange argument => "warning: " ++ argument ++ ": Numerical result out of range"
  | noField field => "\x60" ++ String.ofList (field.toList.getLast?.toList) ++ "\x27: invalid format character"
  | unfinished field => "\x60" ++ field ++ "\x27: missing format character"

/-! ## Numbers with a point -/

/-- A quotient with so many places behind the point. -/
def fixedText (places n d : Nat) : String :=
  let digits := (roundHalfEven (n * Nat.pow 10 places) d).repr
  let digits := String.ofList (List.replicate (places + 1 - digits.length) '0') ++ digits
  let whole := (digits.dropEnd places).toString
  if places = 0 then whole else whole ++ "." ++ (digits.drop whole.length).toString

/-- How often a quotient can be divided by ten and stay at least one. -/
def decimalExponent (n d : Nat) : Int :=
  if n = 0 then 0
  else if d ≤ n then ((n / d).repr.length : Int) - 1
  else
    let places := (d / n).repr.length
    if d ≤ n * Nat.pow 10 (places - 1) then -((places - 1 : Nat) : Int) else -(places : Int)

/-- The digits of a quotient with one of them before the point, and the power of ten that belongs to them.
-/
def scientific (places n d : Nat) : Nat × Int :=
  let exponent := decimalExponent n d
  let shift := (places : Int) - exponent
  let digits :=
    if 0 ≤ shift then roundHalfEven (n * Nat.pow 10 shift.toNat) d
    else roundHalfEven n (d * Nat.pow 10 (-shift).toNat)
  if digits < Nat.pow 10 (places + 1) then (digits, exponent) else (digits / 10, exponent + 1)

/-- An exponent as it stands behind a number. -/
def exponentText (exponent : Int) : String :=
  let digits := exponent.natAbs.repr
  (if exponent < 0 then "e-" else "e+") ++ (if digits.length < 2 then "0" ++ digits else digits)

/-- A quotient with one digit before the point and so many behind it. -/
def scientificText (places n d : Nat) : String :=
  let (digits, exponent) := scientific places n d
  let text := digits.repr
  let text := if n = 0 then String.ofList (List.replicate (places + 1) '0') else text
  (text.take 1).toString ++ (if places = 0 then "" else "." ++ (text.drop 1).toString)
    ++ exponentText exponent

/-- A number without the zeros at the end of its places. -/
def withoutZeros (text : String) : String :=
  let (front, exponent) :=
    match text.splitOn "e" with
    | [front, exponent] => (front, "e" ++ exponent)
    | _ => (text, "")
  if front.contains '.' then
    String.ofList ((front.toList.reverse.dropWhile (· == '0')).dropWhile (· == '.')).reverse ++ exponent
  else text

/-- A quotient in the shorter of both forms, with so many digits at most. -/
def generalText (digits n d : Nat) : String :=
  let digits := max 1 digits
  let exponent := (scientific (digits - 1) n d).2
  if exponent < -4 || (digits : Int) ≤ exponent then withoutZeros (scientificText (digits - 1) n d)
  else withoutZeros (fixedText ((digits : Int) - 1 - exponent).toNat n d)

/-- The number that a text writes, shown in a form. -/
def measured (form : Nat → Nat → String) (text : String) : Measured :=
  match Binary64.ofText? (if text.isEmpty then "0" else text) with
  | none =>
    let (value, _) := leadingNumber text
    ⟨value < 0, form value.natAbs 1, false⟩
  | some x =>
    match x.value with
    | .nan => ⟨false, "nan", true⟩
    | .infinite negative => ⟨negative, "inf", true⟩
    | .finite negative m e =>
      let (n, d) := Binary64.ratio m e
      ⟨negative, form n d, true⟩

/-- A text as a word that stands for it. -/
def quotedWord (text : String) : String :=
  if text.isEmpty then "\x27\x27"
  else
    String.join (text.toList.map fun c =>
      if isNameChar c || "@%+=:,./-".toList.contains c then c.toString else "\\" ++ c.toString)

/-- What becomes of a field. -/
structure Field where
  text : String
  /-- Whether all output ends with it. -/
  ended : Bool := false
  fault : Option Fault := none

/-- The whole number that an argument stands for, cut to what fits, and what is wrong with the argument. -/
def wholeNumber (least most : Int) (argument : String) : Int × Option Fault :=
  let (value, good) := numericArgument argument
  let fault :=
    if !good then some (.noNumber argument)
    else if value < least || most < value then some (.outOfRange argument) else none
  (max least (min most value), fault)

/-- The field that an argument gives. -/
def field (escapes : Escapes) (layout : Layout) (conversion : Char) (argument : String) : Option Field :=
  let signOf (negative : Bool) : String :=
    if negative then "-" else if layout.plus then "+" else if layout.space then " " else ""
  let real (form : Nat → Nat → String) : Option Field :=
    let shown := measured form argument
    some
      { text := Layout.fillNumber { layout with precision := none } (signOf shown.negative) shown.digits
        fault := if shown.good then none else some (.noNumber argument) }
  let whole (sign : String) (base : Nat) (recase : String → String) : Option Field :=
    let (value, fault) := wholeNumber (-18446744073709551615) 18446744073709551615 argument
    let digits := recase (digitsIn base (value % UInt64.size).toNat)
    some { text := layout.fillNumber (if layout.alternate then sign else "") digits, fault }
  match conversion with
  | 's' =>
    let text :=
      match layout.precision with
      | some p => String.ofList (argument.toList.take p)
      | none => argument
    some { text := layout.fill text }
  | 'b' =>
    let (text, ended) := unescape { escapes with bare := true } argument
    some { text := layout.fill text, ended }
  | 'c' => some { text := layout.fill ((argument.take 1).toString ++ if argument.isEmpty then "\x00" else "") }
  | 'd' | 'i' =>
    let (value, fault) := wholeNumber (-9223372036854775808) 9223372036854775807 argument
    some { text := layout.fillNumber (signOf (value < 0)) value.natAbs.repr, fault }
  | 'u' => whole "" 10 id
  | 'o' => whole "0" 8 id
  | 'x' => whole "0x" 16 id
  | 'X' => whole "0X" 16 (String.map Char.toUpper)
  | 'f' | 'F' => real (fixedText (layout.precision.getD 6))
  | 'e' => real (scientificText (layout.precision.getD 6))
  | 'E' => real fun n d => (scientificText (layout.precision.getD 6) n d).map Char.toUpper
  | 'g' => real (generalText (layout.precision.getD 6))
  | 'G' => real fun n d => (generalText (layout.precision.getD 6) n d).map Char.toUpper
  | 'q' => if escapes.quotes then some { text := layout.fill (quotedWord argument) } else none
  | _ => none

/-- Reads the flags of a field. -/
def flags : List Char → Layout → Layout × List Char
  | '-' :: rest, layout => flags rest { layout with left := true }
  | '0' :: rest, layout => flags rest { layout with zero := true }
  | '+' :: rest, layout => flags rest { layout with plus := true }
  | ' ' :: rest, layout => flags rest { layout with space := true }
  | '#' :: rest, layout => flags rest { layout with alternate := true }
  | rest, layout => (layout, rest)

/-- Reads a number in a field. It may be taken from the arguments. -/
def measure (chars : List Char) (arguments : List String) : Nat × List Char × List String :=
  match chars with
  | '*' :: rest => ((leadingNumber (arguments.headD "")).1.toNat, rest, arguments.drop 1)
  | _ =>
    let digits := chars.takeWhile Char.isDigit
    ((String.ofList digits).toNat?.getD 0, chars.dropWhile Char.isDigit, arguments)

/-- A piece of what is printed. -/
inductive Piece where
  | text (text : String)
  | fault (fault : Fault)
  deriving DecidableEq, Repr, Inhabited

/-- What a run through a format gives. -/
structure Printed where
  pieces : List Piece
  arguments : List String
  /-- Whether an argument was asked for. -/
  used : Bool
  ended : Bool

/-- Puts text in front of what was printed. -/
def Printed.after (text : String) (printed : Printed) : Printed :=
  { printed with pieces := .text text :: printed.pieces }

/-- Puts a fault in front of what was printed, if there is one. -/
def Printed.behind (fault : Option Fault) (printed : Printed) : Printed :=
  { printed with pieces := fault.toList.map Piece.fault ++ printed.pieces }

/-- The letters that may stand in front of the last character of a field and say nothing. -/
def Escapes.sizes (escapes : Escapes) : List Char :=
  if escapes.rich then "hjlLtz".toList else []

/-- Runs through a format once. The number bounds how many characters are left. -/
def once (escapes : Escapes) : Nat → List Char → List String → Printed
  | 0, _, arguments => ⟨[], arguments, false, false⟩
  | _ + 1, [], arguments => ⟨[], arguments, false, false⟩
  | n + 1, '\\' :: c :: rest, arguments =>
    match letterEscape? c, richEscape? escapes (c :: rest) with
    | some d, _ => (once escapes n rest arguments).after d.toString
    | none, some (chars, rest) => (once escapes n rest arguments).after (String.ofList chars)
    | none, none =>
      if c == 'c' then ⟨[], arguments, false, true⟩
      else if isOctal c then
        let digits := ((c :: rest).take 3).takeWhile isOctal
        (once escapes n ((c :: rest).drop digits.length) arguments).after (octalByte digits).toString
      else (once escapes n (c :: rest) arguments).after "\\"
  | n + 1, '%' :: '%' :: rest, arguments => (once escapes n rest arguments).after "%"
  | n + 1, '%' :: start, arguments =>
    let first := arguments.headD ""
    let (layout, rest) := flags start {}
    let widthFault := if rest.head? == some '*' && !(numericArgument first).2 then some (.noNumber first) else none
    let (width, rest, arguments) := measure rest arguments
    let (precision, rest, arguments) :=
      match rest with
      | '.' :: more =>
        let (p, more, arguments) := measure more arguments
        (some p, more, arguments)
      | _ => (none, rest, arguments)
    let rest := rest.dropWhile escapes.sizes.contains
    let raw (rest : List Char) : String := String.ofList ('%' :: start.take (start.length - rest.length))
    match rest with
    | [] => ⟨[.fault (.unfinished (raw []))], arguments, false, true⟩
    | conversion :: rest =>
      match field escapes { layout with width, precision } conversion (arguments.headD "") with
      | none => ⟨[.fault (.noField (raw rest))], arguments, true, true⟩
      | some field =>
        let behind : Printed :=
          if field.ended then ⟨[], arguments.drop 1, true, true⟩
          else { once escapes n rest (arguments.drop 1) with used := true }
        ((behind.after field.text).behind field.fault).behind widthFault
  | n + 1, c :: rest, arguments => (once escapes n rest arguments).after c.toString

/-- Runs through a format again and again until the arguments are used up. The number bounds how
often. -/
def again (escapes : Escapes) : Nat → List Char → List String → List Piece
  | 0, _, _ => []
  | n + 1, format, arguments =>
    let printed := once escapes (format.length + 1) format arguments
    if printed.ended || !printed.used || printed.arguments.isEmpty then printed.pieces
    else printed.pieces ++ again escapes n format printed.arguments

/-- What `printf` prints. -/
def printf (escapes : Escapes) (format : String) (arguments : List String) : List Piece :=
  again escapes (arguments.length + 1) format.toList arguments

/-- The text among pieces. -/
def textOf (pieces : List Piece) : String :=
  String.join (pieces.map fun piece =>
    match piece with
    | .text text => text
    | .fault _ => "")

/-- The faults among pieces. -/
def faultsOf (pieces : List Piece) : List Fault :=
  pieces.filterMap fun piece =>
    match piece with
    | .text _ => none
    | .fault fault => some fault

end MutantHunt.Sandbox.Shell.Format
