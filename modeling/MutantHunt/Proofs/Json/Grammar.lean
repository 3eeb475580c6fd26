import Mathlib.Data.List.Forall2
import MutantHunt.Json.Scanner

/-!
# The grammar of JSON

What a JSON text looks like, as relations between a value and its bytes that know nothing of how a
text is read. Whatever the grammar leaves to the writer is left open here: blanks around every
value and every mark, the form in which a character stands in a string, the members of an object
that nobody asks for.

A list and an object differ only in their brackets and in what stands between the commas, so both
are a `Bracketed` sequence of texts. An object is described twice. `IsValue` takes any object, and
any key that keeps to the form of strings. `ObjectText` tells the names that the keys write, and
`RecordText` an object with certain members among others, in any order.

## Main definitions

* `IsValue t`: the bytes `t` are a JSON value, without blanks around it.
* `Quoted s t`: the bytes `t` write the text `s` as a string.
* `ListText texts t`, `ObjectText members t`: a list with these items, an object with these members.
* `RecordText known t`: an object with the members `known`, and any others of other names.
-/

namespace MutantHunt.Json

/-- What the relations between lists of things and lists of texts say of each text. -/
theorem exists_of_mem_right {α β : Type} {R : α → β → Prop} {as : List α} {bs : List β}
    (h : List.Forall₂ R as bs) {b : β} (hb : b ∈ bs) : ∃ a ∈ as, R a b := by
  induction h with
  | nil => exact absurd hb (by simp)
  | @cons a b' as bs hab _ ih =>
    rcases List.mem_cons.mp hb with rfl | hb
    · exact ⟨a, List.mem_cons_self .., hab⟩
    · obtain ⟨c, hc, hcb⟩ := ih hb
      exact ⟨c, List.mem_cons_of_mem _ hc, hcb⟩

/-! ## Blanks and brackets -/

/-- Nothing but spaces, tabs, line feeds and carriage returns. -/
def Blanks (t : Bytes) : Prop :=
  ∀ b ∈ t, b ∈ [0x20, 0x09, 0x0A, 0x0D]

/-- Texts one after the other, with a comma between any two and blanks around each. -/
inductive Separated : List Bytes → Bytes → Prop
  | last {before t after : Bytes} :
    Blanks before → Blanks after → Separated [t] (before ++ (t ++ after))
  | more {before t after inner : Bytes} {texts : List Bytes} :
    Blanks before → Blanks after → Separated texts inner →
      Separated (t :: texts) (before ++ (t ++ (after ++ comma :: inner)))

/-- Texts between two brackets. -/
inductive Bracketed (opening closing : UInt8) : List Bytes → Bytes → Prop
  | none {gap : Bytes} : Blanks gap → Bracketed opening closing [] (opening :: (gap ++ [closing]))
  | some {texts : List Bytes} {inner : Bytes} :
    Separated texts inner → Bracketed opening closing texts (opening :: (inner ++ [closing]))

/-- A list with the given items. -/
abbrev ListText : List Bytes → Bytes → Prop :=
  Bracketed openBracket closeBracket

/-- A key and a value with a colon between them. -/
def PairText (key value t : Bytes) : Prop :=
  ∃ gap gap', Blanks gap ∧ Blanks gap' ∧ t = key ++ (gap ++ colonMark :: (gap' ++ value))

/-! ## Strings -/

/-- A digit in base sixteen, in upper or lower case, with its value. -/
def HexDigit (b : UInt8) (v : Nat) : Prop :=
  (v < 10 ∧ b.toNat = 0x30 + v) ∨
    (10 ≤ v ∧ v < 16 ∧ (b.toNat = 0x41 + (v - 10) ∨ b.toNat = 0x61 + (v - 10)))

/-- Sixteen bits that are written by number. -/
def UnitText (unit : Nat) (t : Bytes) : Prop :=
  ∃ w x y z v₁ v₂ v₃ v₄, HexDigit w v₁ ∧ HexDigit x v₂ ∧ HexDigit y v₃ ∧ HexDigit z v₄ ∧
    unit = ((v₁ * 16 + v₂) * 16 + v₃) * 16 + v₄ ∧ t = [backslash, letterU, w, x, y, z]

/-- The characters that a backslash and one letter stand for. -/
def letterEscapes : List (UInt8 × Char) :=
  [(0x22, '"'), (0x5C, '\\'), (0x2F, '/'), (0x62, '\x08'), (0x66, '\x0c'), (0x6E, '\n'),
    (0x72, '\r'), (0x74, '\t')]

/-- The ways to write a character in a string. -/
inductive CharText (c : Char) : Bytes → Prop
  /-- As itself, unless it is a control, the quote or the backslash. -/
  | plain : 0x20 ≤ c.toNat → c ≠ '"' → c ≠ '\\' → CharText c (String.utf8EncodeChar c)
  | letter {b : UInt8} : (b, c) ∈ letterEscapes → CharText c [backslash, b]
  /-- By number, if it has no more than sixteen bits. -/
  | unit {t : Bytes} : UnitText c.toNat t → CharText c t
  /-- As two halves of ten bits each, if it has more. -/
  | pair {high low : Nat} {t t' : Bytes} :
    UnitText (0xD800 + high) t → UnitText (0xDC00 + low) t' → high < 0x400 → low < 0x400 →
      c.toNat = 0x10000 + (high * 0x400 + low) → CharText c (t ++ t')

/-- Pieces between two quotes. -/
def quotedPieces (pieces : List Bytes) : Bytes :=
  quoteMark :: (pieces.flatten ++ [quoteMark])

/-- A string that writes a text. -/
def Quoted (s : String) (t : Bytes) : Prop :=
  ∃ pieces, List.Forall₂ CharText s.toList pieces ∧ t = quotedPieces pieces

/-- A string. Half a character that is written by number may stand in it for itself, so there need
not be a text that it writes. -/
def Literal (t : Bytes) : Prop :=
  ∃ pieces, (∀ p ∈ pieces, (∃ c, CharText c p) ∨ ∃ unit, UnitText unit p) ∧ t = quotedPieces pieces

/-! ## Numbers -/

/-- A decimal digit. -/
def Digit (b : UInt8) : Prop :=
  0x30 ≤ b.toNat ∧ b.toNat ≤ 0x39

/-- One digit or more. -/
def Digits (t : Bytes) : Prop :=
  t ≠ [] ∧ ∀ b ∈ t, Digit b

/-- The whole part of a number: it starts with a zero only where it is zero. -/
def WholePart (t : Bytes) : Prop :=
  t = [zero] ∨ (Digits t ∧ t.head? ≠ some zero)

/-- The places of a number, if it has any. -/
def Places (t : Bytes) : Prop :=
  t = [] ∨ ∃ digits, Digits digits ∧ t = point :: digits

/-- The exponent of a number, if it has one. -/
def Exponent (t : Bytes) : Prop :=
  t = [] ∨ ∃ mark sign digits, mark ∈ [(0x65 : UInt8), 0x45] ∧
    sign ∈ [[], [minusSign], [plusSign]] ∧ Digits digits ∧ t = mark :: (sign ++ digits)

/-- A number. -/
def NumberText (t : Bytes) : Prop :=
  ∃ sign whole places exponent, sign ∈ [[], [minusSign]] ∧ WholePart whole ∧ Places places ∧
    Exponent exponent ∧ t = sign ++ (whole ++ (places ++ exponent))

/-- A natural number in decimal. -/
def numeral (n : Nat) : Bytes :=
  Text.encode n.repr

/-! ## Values and objects -/

/-- A value of any kind, nested as deep as it likes. -/
inductive IsValue : Bytes → Prop
  | null : IsValue [0x6E, 0x75, 0x6C, 0x6C]
  | true : IsValue [0x74, 0x72, 0x75, 0x65]
  | false : IsValue [0x66, 0x61, 0x6C, 0x73, 0x65]
  | number {t : Bytes} : NumberText t → IsValue t
  | string {t : Bytes} : Literal t → IsValue t
  | list {texts : List Bytes} {t : Bytes} :
    ListText texts t → (∀ item ∈ texts, IsValue item) → IsValue t
  | object {pairs : List (Bytes × Bytes)} {texts : List Bytes} {t : Bytes} :
    Bracketed openBrace closeBrace texts t →
      List.Forall₂ (fun pair text => PairText pair.1 pair.2 text) pairs texts →
      (∀ pair ∈ pairs, Literal pair.1) → (∀ pair ∈ pairs, IsValue pair.2) → IsValue t

/-- A member of an object: its name, and how its value is written. -/
structure Member where
  name : String
  value : Bytes

/-- A member as it is written. -/
def MemberText (m : Member) (t : Bytes) : Prop :=
  ∃ key, Quoted m.name key ∧ PairText key m.value t

/-- An object with the given members and no others. -/
def ObjectText (members : List Member) (t : Bytes) : Prop :=
  ∃ texts, List.Forall₂ MemberText members texts ∧ Bracketed openBrace closeBrace texts t

/-- An object that has the given members, in any order, and among them any members of other names,
with any values. A name is a text, so half a character by itself is part of no name here. -/
def RecordText (known : List Member) (t : Bytes) : Prop :=
  ∃ others members,
    (∀ m ∈ others, m.name ∉ known.map Member.name ∧ IsValue m.value) ∧
      members.Perm (known ++ others) ∧ ObjectText members t

end MutantHunt.Json
