import MutantHunt.Proofs.Json.Grammar
import MutantHunt.Proofs.Text.Encode

/-!
# Strings are read as what they write

Inside a string both scanners go byte by byte. `readStringBytes` takes the bytes of the character
that a piece writes (`readStringBytes_charText`), whatever the form of the piece, so the bytes of a
whole string are those of its text and decode to it. `passText` gets past the same pieces, and past
halves of characters as well.

## Main results

* `readText_quoted`: a string that writes a text is read as this text.
* `passText_literal`: every string is passed over.
-/

namespace MutantHunt.Json

/-- A byte that stands for itself inside a string. -/
def PlainByte (b : UInt8) : Prop :=
  ¬ b < 0x20 ∧ b ≠ quoteMark ∧ b ≠ backslash

theorem plainByte_of_mem_utf8EncodeChar {c : Char} (hspace : 0x20 ≤ c.toNat) (hquote : c ≠ '"')
    (hslash : c ≠ '\\') {b : UInt8} (hb : b ∈ String.utf8EncodeChar c) : PlainByte b := by
  refine ⟨?_, ?_, ?_⟩
  · rw [UInt8.not_lt, UInt8.le_iff_toNat_le]
    exact Text.space_le_of_mem_utf8EncodeChar hspace hb
  · rintro rfl
    exact Text.ne_of_mem_utf8EncodeChar (by decide) hquote hb rfl
  · rintro rfl
    exact Text.ne_of_mem_utf8EncodeChar (by decide) hslash hb rfl

/-- A string that writes a text is a string. -/
theorem Quoted.literal {s : String} {t : Bytes} (h : Quoted s t) : Literal t := by
  obtain ⟨pieces, hpieces, rfl⟩ := h
  refine ⟨pieces, fun p hp => Or.inl ?_, rfl⟩
  obtain ⟨c, -, hc⟩ := exists_of_mem_right hpieces hp
  exact ⟨c, hc⟩

/-! ## Sixteen bits by number -/

theorem hexValue?_eq (b : UInt8) :
    hexValue? b =
      if 0x30 ≤ b.toNat ∧ b.toNat ≤ 0x39 then some (b.toNat - 0x30)
      else if 0x41 ≤ b.toNat ∧ b.toNat ≤ 0x46 then some (b.toNat - 0x41 + 10)
      else if 0x61 ≤ b.toNat ∧ b.toNat ≤ 0x66 then some (b.toNat - 0x61 + 10)
      else none := by
  simp only [hexValue?, Bool.and_eq_true, decide_eq_true_eq, UInt8.le_iff_toNat_le]
  rfl

theorem hexValue?_of_hexDigit {b : UInt8} {v : Nat} (h : HexDigit b v) : hexValue? b = some v := by
  rw [hexValue?_eq]
  rcases h with ⟨hv, hb⟩ | ⟨hv, hv', hb | hb⟩
  · rw [if_pos (by omega), hb, Nat.add_sub_cancel_left]
  · rw [if_neg (by omega), if_pos (by omega), hb, Nat.add_sub_cancel_left, Nat.sub_add_cancel hv]
  · rw [if_neg (by omega), if_neg (by omega), if_pos (by omega), hb, Nat.add_sub_cancel_left,
      Nat.sub_add_cancel hv]

/-- Sixteen bits have the form of an escape with four digits that give them. -/
theorem UnitText.exists_digits {unit : Nat} {t : Bytes} (h : UnitText unit t) :
    ∃ w x y z, t = [backslash, letterU, w, x, y, z] ∧ unit? w x y z = some unit := by
  obtain ⟨w, x, y, z, v₁, v₂, v₃, v₄, hw, hx, hy, hz, rfl, rfl⟩ := h
  refine ⟨w, x, y, z, rfl, ?_⟩
  simp only [unit?, hexValue?_of_hexDigit hw, hexValue?_of_hexDigit hx, hexValue?_of_hexDigit hy,
    hexValue?_of_hexDigit hz]

/-- Sixteen bits that complete a character: its bytes are taken. -/
theorem readStringBytes_unit {unit : Nat} {t : Bytes} (h : UnitText unit t) {high : Option Nat}
    {c : Char} (hjoin : joinUnit high unit = .ok (some c)) (taken more : Bytes) :
    readStringBytes high taken (t ++ more) =
      readStringBytes none ((String.utf8EncodeChar c).reverse ++ taken) more := by
  obtain ⟨w, x, y, z, rfl, hunit⟩ := h.exists_digits
  simp only [List.cons_append, List.nil_append]
  rw [readStringBytes.eq_def]
  simp only [if_true, hunit, hjoin]

/-- Sixteen bits that are the first half of a character: nothing is taken before the other half. -/
theorem readStringBytes_half {unit : Nat} {t : Bytes} (h : UnitText unit t) {high : Option Nat}
    (hjoin : joinUnit high unit = .ok none) (taken more : Bytes) :
    readStringBytes high taken (t ++ more) = readStringBytes (some unit) taken more := by
  obtain ⟨w, x, y, z, rfl, hunit⟩ := h.exists_digits
  simp only [List.cons_append, List.nil_append]
  rw [readStringBytes.eq_def]
  simp only [if_true, hunit, hjoin]

/-! ## Reading a string -/

/-- One byte outside escapes. -/
theorem readStringBytes_cons {b : UInt8} (hslash : b ≠ backslash) (taken rest : Bytes) :
    readStringBytes none taken (b :: rest) =
      if b = quoteMark then .ok (taken.reverse, rest)
      else if b < 0x20 then .error SyntaxFault.controlCharacter
      else readStringBytes none (b :: taken) rest := by
  rw [readStringBytes.eq_def]
  simp only [if_neg hslash, Option.isSome_none, Bool.false_eq_true, if_false]

theorem readStringBytes_plain {bytes : Bytes} (h : ∀ b ∈ bytes, PlainByte b) (taken more : Bytes) :
    readStringBytes none taken (bytes ++ more) =
      readStringBytes none (bytes.reverse ++ taken) more := by
  induction bytes generalizing taken with
  | nil => rfl
  | cons b bytes ih =>
    obtain ⟨hspace, hquote, hslash⟩ := h b (by simp)
    have hrest := ih (fun d hd => h d (by simp [hd])) (b :: taken)
    rw [List.cons_append, readStringBytes_cons hslash, if_neg hquote, if_neg hspace, hrest,
      List.reverse_cons, List.append_assoc, List.singleton_append]

theorem readStringBytes_letter {b : UInt8} {c : Char} (h : (b, c) ∈ letterEscapes)
    (taken more : Bytes) :
    readStringBytes none taken (backslash :: b :: more) =
      readStringBytes none ((String.utf8EncodeChar c).reverse ++ taken) more := by
  have hletter : b ≠ letterU ∧ ∃ byte, shortEscape? b = some byte ∧
      String.utf8EncodeChar c = [byte] := by
    simp only [letterEscapes, List.mem_cons, Prod.mk.injEq, List.not_mem_nil, or_false] at h
    rcases h with ⟨rfl, rfl⟩ | ⟨rfl, rfl⟩ | ⟨rfl, rfl⟩ | ⟨rfl, rfl⟩ | ⟨rfl, rfl⟩ | ⟨rfl, rfl⟩ |
      ⟨rfl, rfl⟩ | ⟨rfl, rfl⟩ <;> exact ⟨by decide, _, rfl, rfl⟩
  obtain ⟨hne, byte, hshort, hbytes⟩ := hletter
  rw [readStringBytes.eq_def]
  simp only [if_true, if_neg hne, hshort, hbytes, List.reverse_singleton, List.singleton_append]

/-- The code of a character is never that of half a character. -/
theorem joinUnit_toNat (c : Char) : joinUnit none c.toNat = .ok (some c) := by
  have hvalid : c.toNat < 0xD800 ∨ (0xDFFF < c.toNat ∧ c.toNat < 0x110000) := c.valid
  rw [joinUnit, if_neg (by omega), if_neg (by omega), Char.ofNat_toNat]

theorem joinUnit_high {high : Nat} (hhigh : high < 0x400) :
    joinUnit none (0xD800 + high) = .ok none := by
  rw [joinUnit, if_neg (by omega), if_pos (by omega)]

theorem joinUnit_low {c : Char} {high low : Nat} (hlow : low < 0x400)
    (hc : c.toNat = 0x10000 + (high * 0x400 + low)) :
    joinUnit (some (0xD800 + high)) (0xDC00 + low) = .ok (some c) := by
  have hcode : (0xD800 + high - 0xD800) * 0x400 + (0xDC00 + low - 0xDC00) + 0x10000 = c.toNat := by
    rw [hc, Nat.add_sub_cancel_left, Nat.add_sub_cancel_left, Nat.add_comm]
  rw [joinUnit, if_pos (by omega), hcode, Char.ofNat_toNat]

/-- However a character is written, its bytes are taken. -/
theorem readStringBytes_charText {c : Char} {p : Bytes} (h : CharText c p) (taken more : Bytes) :
    readStringBytes none taken (p ++ more) =
      readStringBytes none ((String.utf8EncodeChar c).reverse ++ taken) more := by
  cases h with
  | plain hspace hquote hslash =>
    exact readStringBytes_plain
      (fun b hb => plainByte_of_mem_utf8EncodeChar hspace hquote hslash hb) taken more
  | letter hmem => exact readStringBytes_letter hmem taken more
  | unit hunit => exact readStringBytes_unit hunit (joinUnit_toNat c) taken more
  | pair hhigh hlow hhigh' hlow' hc =>
    rw [List.append_assoc, readStringBytes_half hhigh (joinUnit_high hhigh'),
      readStringBytes_unit hlow (joinUnit_low hlow' hc)]

theorem readStringBytes_pieces {cs : List Char} {pieces : List Bytes}
    (h : List.Forall₂ CharText cs pieces) (taken more : Bytes) :
    readStringBytes none taken (pieces.flatten ++ quoteMark :: more) =
      .ok (taken.reverse ++ cs.flatMap String.utf8EncodeChar, more) := by
  induction h generalizing taken with
  | nil =>
    rw [List.flatten_nil, List.nil_append, readStringBytes_cons (by decide), if_pos rfl,
      List.flatMap_nil, List.append_nil]
  | cons hpiece _ ih =>
    rw [List.flatten_cons, List.append_assoc, readStringBytes_charText hpiece, ih,
      List.reverse_append, List.reverse_reverse, List.flatMap_cons, List.append_assoc]

/-- A string that writes a text is read as this text, from behind its opening quote. -/
theorem readText_quoted {s : String} {t : Bytes} (h : Quoted s t) :
    ∃ body, t = quoteMark :: body ∧ ∀ rest, readText (body ++ rest) = .ok (s, rest) := by
  obtain ⟨pieces, hpieces, rfl⟩ := h
  refine ⟨pieces.flatten ++ [quoteMark], rfl, fun rest => ?_⟩
  have hbytes := readStringBytes_pieces hpieces [] rest
  rw [List.reverse_nil, List.nil_append, ← Text.encode_eq_flatMap] at hbytes
  rw [List.append_assoc, List.singleton_append, readText, hbytes]
  simp only [bind, Except.bind, Text.decode?_encode]

/-! ## Passing over a string -/

/-- One byte outside escapes. -/
theorem passText_cons {b : UInt8} (hslash : b ≠ backslash) (rest : Bytes) :
    passText (b :: rest) =
      if b = quoteMark then .ok rest
      else if b < 0x20 then .error SyntaxFault.controlCharacter
      else passText rest := by
  rw [passText.eq_def]
  simp only [if_neg hslash]

theorem passText_plain {bytes : Bytes} (h : ∀ b ∈ bytes, PlainByte b) (more : Bytes) :
    passText (bytes ++ more) = passText more := by
  induction bytes with
  | nil => rfl
  | cons b bytes ih =>
    obtain ⟨hspace, hquote, hslash⟩ := h b (by simp)
    rw [List.cons_append, passText_cons hslash, if_neg hquote, if_neg hspace]
    exact ih fun d hd => h d (by simp [hd])

theorem passText_unit {unit : Nat} {t : Bytes} (h : UnitText unit t) (more : Bytes) :
    passText (t ++ more) = passText more := by
  obtain ⟨w, x, y, z, rfl, hunit⟩ := h.exists_digits
  simp only [List.cons_append, List.nil_append]
  rw [passText, if_neg (by decide), if_pos rfl, if_pos rfl, hunit, if_pos Option.isSome_some]

theorem passText_letter {b : UInt8} {c : Char} (h : (b, c) ∈ letterEscapes) (more : Bytes) :
    passText (backslash :: b :: more) = passText more := by
  have hletter : b ≠ letterU ∧ (shortEscape? b).isSome := by
    simp only [letterEscapes, List.mem_cons, Prod.mk.injEq, List.not_mem_nil, or_false] at h
    rcases h with ⟨rfl, rfl⟩ | ⟨rfl, rfl⟩ | ⟨rfl, rfl⟩ | ⟨rfl, rfl⟩ | ⟨rfl, rfl⟩ | ⟨rfl, rfl⟩ |
      ⟨rfl, rfl⟩ | ⟨rfl, rfl⟩ <;> decide
  have hquote : backslash ≠ quoteMark := by decide
  rw [passText.eq_def]
  simp only [if_neg hquote, if_true, if_neg hletter.1, if_pos hletter.2]

theorem passText_charText {c : Char} {p : Bytes} (h : CharText c p) (more : Bytes) :
    passText (p ++ more) = passText more := by
  cases h with
  | plain hspace hquote hslash =>
    exact passText_plain
      (fun b hb => plainByte_of_mem_utf8EncodeChar hspace hquote hslash hb) more
  | letter hmem => exact passText_letter hmem more
  | unit hunit => exact passText_unit hunit more
  | pair hhigh hlow => rw [List.append_assoc, passText_unit hhigh, passText_unit hlow]

/-- Every string is passed over, from behind its opening quote. -/
theorem passText_literal {t : Bytes} (h : Literal t) :
    ∃ body, t = quoteMark :: body ∧ ∀ rest, passText (body ++ rest) = .ok rest := by
  obtain ⟨pieces, hpieces, rfl⟩ := h
  refine ⟨pieces.flatten ++ [quoteMark], rfl, fun rest => ?_⟩
  induction pieces with
  | nil =>
    rw [List.flatten_nil, List.nil_append, List.singleton_append, passText_cons (by decide),
      if_pos rfl]
  | cons p pieces ih =>
    have hrest := ih fun q hq => hpieces q (by simp [hq])
    rw [List.flatten_cons, List.append_assoc, List.append_assoc, ← hrest, List.append_assoc]
    rcases hpieces p (by simp) with ⟨c, hc⟩ | ⟨unit, hunit⟩
    · exact passText_charText hc _
    · exact passText_unit hunit _

end MutantHunt.Json
