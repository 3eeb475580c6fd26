import MutantHunt.Text.Unicode

/-!
# The bytes of a text

`encode` writes a text character by character, so it commutes with everything that is done with
texts as lists of characters. A character below `0x80` is one byte with its own number; all bytes of
the others are at least `0x80`. A reader that goes byte by byte can therefore look for a mark among
the former without knowing where a character starts.

## Main results

* `encode_append`, `encode_intercalate`: the bytes of composed texts.
* `decode?_encode`: bytes of a text read back.
* `ne_of_mem_utf8EncodeChar`: a character that is no mark has no byte that is one.
-/

namespace MutantHunt.Text

/-- The bytes of a text are those of its characters. -/
theorem encode_eq_flatMap (s : String) : encode s = s.toList.flatMap String.utf8EncodeChar := by
  have hbytes : s.toByteArray = s.toList.utf8Encode := by
    conv => lhs; rw [← String.ofList_toList (s := s)]
    exact String.toByteArray_ofList
  rw [encode, String.toUTF8_eq_toByteArray, hbytes]
  exact List.toList_data_toByteArray

theorem encode_ofList (cs : List Char) :
    encode (String.ofList cs) = cs.flatMap String.utf8EncodeChar := by
  rw [encode_eq_flatMap, String.toList_ofList]

theorem encode_append (s t : String) : encode (s ++ t) = encode s ++ encode t := by
  simp only [encode_eq_flatMap, String.toList_append, List.flatMap_append]

theorem encode_intercalate (separator : String) (parts : List String) :
    encode (separator.intercalate parts) =
      (encode separator).intercalate (parts.map encode) := by
  induction parts with
  | nil => simp [encode_eq_flatMap]
  | cons part rest ih =>
    cases rest with
    | nil => simp
    | cons next rest =>
      rw [String.intercalate_cons_of_ne_nil (by simp), encode_append, encode_append, ih]
      simp only [List.map_cons, List.intercalate_cons_cons]

/-- Bytes of a text are read back as that text. -/
theorem decode?_encode (s : String) : decode? (encode s) = some s := by
  have hbytes : (⟨(encode s).toArray⟩ : ByteArray) = s.toByteArray := by
    simp [encode]
  rw [decode?, hbytes, String.fromUTF8?, dif_pos s.isValidUTF8]
  rfl

/-! ## Bytes of one character -/

/-- A character below `0x80` is a single byte. -/
theorem utf8EncodeChar_of_lt {c : Char} (hc : c.toNat < 0x80) :
    String.utf8EncodeChar c = [UInt8.ofNat c.toNat] := by
  have hle : c.val.toNat ≤ 127 := Nat.le_of_lt_succ hc
  rw [String.utf8EncodeChar, if_pos hle, Char.toNat_val]

/-- All bytes of a character from `0x80` on are from there on too. -/
theorem le_of_mem_utf8EncodeChar {c : Char} (hc : 0x80 ≤ c.toNat) {b : UInt8}
    (hb : b ∈ String.utf8EncodeChar c) : 0x80 ≤ b.toNat := by
  have hgt : ¬ c.val.toNat ≤ 127 := Nat.not_le.mpr hc
  simp only [String.utf8EncodeChar, hgt, if_false] at hb
  split at hb
  · simp only [List.mem_cons, List.not_mem_nil, or_false] at hb
    rcases hb with rfl | rfl <;> rw [UInt8.toNat_ofNat'] <;> omega
  · split at hb
    · simp only [List.mem_cons, List.not_mem_nil, or_false] at hb
      rcases hb with rfl | rfl | rfl <;> rw [UInt8.toNat_ofNat'] <;> omega
    · simp only [List.mem_cons, List.not_mem_nil, or_false] at hb
      rcases hb with rfl | rfl | rfl | rfl <;> rw [UInt8.toNat_ofNat'] <;> omega

/-- A byte of a character that is not the byte of a mark: the marks are below `0x80`, where
characters and bytes are the same. -/
theorem ne_of_mem_utf8EncodeChar {c mark : Char} (hmark : mark.toNat < 0x80) (hne : c ≠ mark)
    {b : UInt8} (hb : b ∈ String.utf8EncodeChar c) : b.toNat ≠ mark.toNat := by
  intro heq
  rcases Nat.lt_or_ge c.toNat 0x80 with hc | hc
  · rw [utf8EncodeChar_of_lt hc, List.mem_singleton] at hb
    subst hb
    rw [UInt8.toNat_ofNat', Nat.mod_eq_of_lt (by omega)] at heq
    exact hne (Char.toNat_inj.mp heq)
  · have := le_of_mem_utf8EncodeChar hc hb
    omega

/-- No byte of a character that is no control is below the space. -/
theorem space_le_of_mem_utf8EncodeChar {c : Char} (hc : 0x20 ≤ c.toNat) {b : UInt8}
    (hb : b ∈ String.utf8EncodeChar c) : 0x20 ≤ b.toNat := by
  rcases Nat.lt_or_ge c.toNat 0x80 with hlt | hge
  · rw [utf8EncodeChar_of_lt hlt, List.mem_singleton] at hb
    subst hb
    rwa [UInt8.toNat_ofNat', Nat.mod_eq_of_lt (by omega)]
  · have := le_of_mem_utf8EncodeChar hge hb
    omega

end MutantHunt.Text
