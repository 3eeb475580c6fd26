import MutantHunt.Proofs.Json.Grammar
import MutantHunt.Proofs.Text.Encode

/-!
# Blanks, words and numbers are read to their end

A number ends where its digits end, so what follows decides whether it is read to its end: behind a
value stands nothing, a blank, a comma or a closing bracket (`Delimited`), and none of them goes on
with a number.

## Main results

* `skipBlanks_append`: blanks in front of anything are dropped.
* `passNumber_numberText`: every number is passed over.
* `readNumber_numeral`: a natural number of 64 bits in decimal is read as that number.
-/

namespace MutantHunt.Json

/-! ## Blanks -/

theorem isBlankByte_iff (b : UInt8) : isBlankByte b = true ↔ b ∈ [0x20, 0x09, 0x0A, 0x0D] := by
  simp only [isBlankByte, Bool.or_eq_true, beq_iff_eq, List.mem_cons, List.not_mem_nil, or_false,
    or_assoc]

theorem blanks_nil : Blanks [] :=
  fun _ hb => absurd hb (by simp)

theorem skipBlanks_append {gap : Bytes} (h : Blanks gap) (input : Bytes) :
    skipBlanks (gap ++ input) = skipBlanks input :=
  List.dropWhile_append_of_pos fun b hb => (isBlankByte_iff b).mpr (h b hb)

theorem skipBlanks_cons {b : UInt8} (h : isBlankByte b = false) (rest : Bytes) :
    skipBlanks (b :: rest) = b :: rest := by
  rw [skipBlanks, List.dropWhile_cons_of_neg (by simp [h])]

/-- The first byte behind blanks. -/
theorem skipBlanks_append_cons {gap : Bytes} (h : Blanks gap) {b : UInt8}
    (hb : isBlankByte b = false) (rest : Bytes) : skipBlanks (gap ++ b :: rest) = b :: rest := by
  rw [skipBlanks_append h, skipBlanks_cons hb]

/-- Something that a reader can tell from blanks and from a closing bracket. -/
def Starts (closing : UInt8) (t : Bytes) : Prop :=
  ∃ b more, t = b :: more ∧ isBlankByte b = false ∧ b ≠ closing

theorem starts_cons {closing b : UInt8} (hblank : isBlankByte b = false) (hclose : b ≠ closing)
    (more : Bytes) : Starts closing (b :: more) :=
  ⟨b, more, rfl, hblank, hclose⟩

theorem skipBlanks_starts {closing : UInt8} {gap t : Bytes} (hgap : Blanks gap)
    (ht : Starts closing t) (rest : Bytes) : skipBlanks (gap ++ (t ++ rest)) = t ++ rest := by
  obtain ⟨b, more, rfl, hblank, -⟩ := ht
  exact skipBlanks_append_cons hgap hblank (more ++ rest)

/-! ## What follows a value -/

/-- What may follow a value: nothing, a blank, a comma or a closing bracket. -/
def Delimited (rest : Bytes) : Prop :=
  ∀ b ∈ rest.head?, b ∈ [0x20, 0x09, 0x0A, 0x0D, comma, closeBracket, closeBrace]

theorem delimited_nil : Delimited [] :=
  fun _ hb => absurd hb (by simp)

theorem delimited_cons {b : UInt8}
    (h : b ∈ [0x20, 0x09, 0x0A, 0x0D, comma, closeBracket, closeBrace]) (rest : Bytes) :
    Delimited (b :: rest) := by
  intro d hd
  rw [List.head?_cons, Option.mem_some_iff] at hd
  exact hd ▸ h

theorem Delimited.append {gap rest : Bytes} (hgap : Blanks gap) (hrest : Delimited rest) :
    Delimited (gap ++ rest) := by
  cases gap with
  | nil => exact hrest
  | cons b gap =>
    refine delimited_cons ?_ (gap ++ rest)
    have hblank := hgap b (by simp)
    simp only [List.mem_cons, List.not_mem_nil, or_false] at hblank ⊢
    tauto

/-- Nothing that follows a value goes on with a number. -/
theorem Delimited.ends_number {rest : Bytes} (h : Delimited rest) :
    ∀ b ∈ rest.head?, isDigit b = false ∧ b ≠ point ∧ isExponentMark b = false := by
  intro b hb
  have hmem := h b hb
  simp only [List.mem_cons, List.not_mem_nil, or_false] at hmem
  rcases hmem with rfl | rfl | rfl | rfl | rfl | rfl | rfl <;> decide

/-! ## Words -/

theorem completeWord_append (word rest : Bytes) : completeWord word (word ++ rest) = .ok rest := by
  induction word with
  | nil => rfl
  | cons w word ih => rw [List.cons_append, completeWord, if_pos rfl, ih]

/-! ## Runs of digits -/

theorem isDigit_iff (b : UInt8) : isDigit b = true ↔ Digit b := by
  simp only [isDigit, Bool.and_eq_true, decide_eq_true_eq, UInt8.le_iff_toNat_le]
  rfl

/-- A digit is no blank and no mark. -/
theorem Digit.ne {b : UInt8} (h : Digit b) : isBlankByte b = false ∧
    ∀ mark ∈ [openBracket, closeBracket, openBrace, closeBrace, quoteMark, minusSign, letterN,
      letterT, letterF], b ≠ mark := by
  constructor
  · rw [Bool.eq_false_iff, ne_eq, isBlankByte_iff]
    intro hmem
    simp only [List.mem_cons, List.not_mem_nil, or_false] at hmem
    rcases hmem with rfl | rfl | rfl | rfl <;> exact absurd h (by unfold Digit; decide)
  · rintro mark hmem rfl
    simp only [List.mem_cons, List.not_mem_nil, or_false] at hmem
    rcases hmem with rfl | rfl | rfl | rfl | rfl | rfl | rfl | rfl | rfl <;>
      exact absurd h (by unfold Digit; decide)

theorem startsWithDigit_digits {ds : Bytes} (h : Digits ds) (rest : Bytes) :
    startsWithDigit (ds ++ rest) = true := by
  obtain ⟨hne, hall⟩ := h
  cases ds with
  | nil => exact absurd rfl hne
  | cons d ds => exact (isDigit_iff d).mpr (hall d (by simp))

theorem Delimited.startsWithDigit {rest : Bytes} (h : Delimited rest) :
    startsWithDigit rest = false := by
  cases rest with
  | nil => rfl
  | cons b rest => exact (h.ends_number b (by simp)).1

theorem takeWhile_digits {ds rest : Bytes} (h : ∀ d ∈ ds, Digit d)
    (hrest : startsWithDigit rest = false) : (ds ++ rest).takeWhile isDigit = ds := by
  rw [List.takeWhile_append_of_pos fun d hd => (isDigit_iff d).mpr (h d hd)]
  cases rest with
  | nil => simp
  | cons b rest =>
    have hb : ¬ isDigit b = true := Bool.eq_false_iff.mp hrest
    rw [List.takeWhile_cons_of_neg hb, List.append_nil]

theorem dropWhile_digits {ds rest : Bytes} (h : ∀ d ∈ ds, Digit d)
    (hrest : startsWithDigit rest = false) : (ds ++ rest).dropWhile isDigit = rest := by
  rw [List.dropWhile_append_of_pos fun d hd => (isDigit_iff d).mpr (h d hd)]
  cases rest with
  | nil => rfl
  | cons b rest => exact List.dropWhile_cons_of_neg (Bool.eq_false_iff.mp hrest)

/-! ## Passing over a number -/

theorem isExponentMark_iff (b : UInt8) : isExponentMark b = true ↔ b ∈ [(0x65 : UInt8), 0x45] := by
  simp only [isExponentMark, Bool.or_eq_true, beq_iff_eq, List.mem_cons, List.not_mem_nil, or_false]

/-- A mark of an exponent is neither a digit nor the point. -/
theorem ne_point_of_mem_marks {b : UInt8} (h : b ∈ [(0x65 : UInt8), 0x45]) :
    isDigit b = false ∧ b ≠ point := by
  simp only [List.mem_cons, List.not_mem_nil, or_false] at h
  rcases h with rfl | rfl <;> decide

theorem splitSign_digits {ds : Bytes} (h : Digits ds) (rest : Bytes) :
    splitSign (ds ++ rest) = (false, ds ++ rest) := by
  obtain ⟨hne, hall⟩ := h
  cases ds with
  | nil => exact absurd rfl hne
  | cons d ds =>
    have hd := hall d (by simp)
    rw [List.cons_append, splitSign]
    · rintro more heq
      rw [(List.cons.inj heq).1] at hd
      exact absurd hd (by unfold Digit; decide)
    · rintro more heq
      rw [(List.cons.inj heq).1] at hd
      exact absurd hd (by unfold Digit; decide)

theorem passExponent_digits {sign ds rest : Bytes} (hsign : sign ∈ [[], [minusSign], [plusSign]])
    (hds : Digits ds) (hrest : Delimited rest) :
    passExponent (sign ++ (ds ++ rest)) = .ok rest := by
  have hsplit : (splitSign (sign ++ (ds ++ rest))).2 = ds ++ rest := by
    simp only [List.mem_cons, List.not_mem_nil, or_false] at hsign
    rcases hsign with rfl | rfl | rfl
    · rw [List.nil_append, splitSign_digits hds]
    · rfl
    · rfl
  simp only [passExponent, hsplit, startsWithDigit_digits hds, if_true,
    dropWhile_digits hds.2 hrest.startsWithDigit]

/-- Behind the digits of a number stands no other digit, with an exponent or without. -/
theorem Exponent.startsWithDigit {t rest : Bytes} (h : Exponent t) (hrest : Delimited rest) :
    startsWithDigit (t ++ rest) = false := by
  rcases h with rfl | ⟨mark, sign, ds, hmark, -, -, rfl⟩
  · exact hrest.startsWithDigit
  · exact (ne_point_of_mem_marks hmark).1

theorem passFraction_exponent {t rest : Bytes} (h : Exponent t) (hrest : Delimited rest) :
    passFraction (t ++ rest) = .ok rest := by
  rcases h with rfl | ⟨mark, sign, ds, hmark, hsign, hds, rfl⟩
  · cases rest with
    | nil => rfl
    | cons b rest =>
      obtain ⟨-, hpoint, hexp⟩ := hrest.ends_number b (by simp)
      rw [List.nil_append, passFraction, if_neg hpoint, if_neg (Bool.eq_false_iff.mp hexp)]
  · rw [List.cons_append, List.append_assoc, passFraction, if_neg (ne_point_of_mem_marks hmark).2,
      if_pos ((isExponentMark_iff mark).mpr hmark), passExponent_digits hsign hds hrest]

/-- Behind a point and its digits nothing but an exponent is left to pass. -/
theorem passFraction_point {ds rest : Bytes} (hds : Digits ds)
    (hrest : startsWithDigit rest = false) (hpoint : ∀ b ∈ rest.head?, b ≠ point) :
    passFraction (point :: (ds ++ rest)) = passFraction rest := by
  rw [passFraction, if_pos rfl, if_pos (startsWithDigit_digits hds rest),
    dropWhile_digits hds.2 hrest]
  cases rest with
  | nil => rfl
  | cons b rest => rw [passFraction, if_neg (hpoint b (by simp))]

theorem passFraction_places {places exponent rest : Bytes} (hplaces : Places places)
    (hexp : Exponent exponent) (hrest : Delimited rest) :
    passFraction (places ++ (exponent ++ rest)) = .ok rest := by
  rcases hplaces with rfl | ⟨ds, hds, rfl⟩
  · exact passFraction_exponent hexp hrest
  · have hpoint : ∀ b ∈ (exponent ++ rest).head?, b ≠ point := by
      rcases hexp with rfl | ⟨mark, sign, ds, hmark, -, -, rfl⟩
      · exact fun b hb => (hrest.ends_number b hb).2.1
      · intro b hb
        rw [List.cons_append, List.head?_cons, Option.mem_some_iff] at hb
        exact hb ▸ (ne_point_of_mem_marks hmark).2
    rw [List.cons_append, passFraction_point hds (hexp.startsWithDigit hrest) hpoint,
      passFraction_exponent hexp hrest]

/-- Every number is passed over, from behind its sign. -/
theorem passNumber_unsigned {whole places exponent rest : Bytes} (hwhole : WholePart whole)
    (hplaces : Places places) (hexp : Exponent exponent) (hrest : Delimited rest) :
    passNumber (whole ++ (places ++ (exponent ++ rest))) = .ok rest := by
  have htail := passFraction_places hplaces hexp hrest
  have hend : startsWithDigit (places ++ (exponent ++ rest)) = false := by
    rcases hplaces with rfl | ⟨ds, -, rfl⟩
    · exact hexp.startsWithDigit hrest
    · rfl
  rcases hwhole with rfl | ⟨⟨hne, hall⟩, hzero⟩
  · rw [List.singleton_append, passNumber, if_pos rfl, if_neg (Bool.eq_false_iff.mp hend), htail]
  · cases whole with
    | nil => exact absurd rfl hne
    | cons d ds =>
      have hd : isDigit d = true := (isDigit_iff d).mpr (hall d (by simp))
      have hne : d ≠ zero := fun heq => hzero (by rw [heq, List.head?_cons])
      rw [List.cons_append, passNumber, if_neg hne, if_pos hd,
        dropWhile_digits (fun b hb => hall b (by simp [hb])) hend, htail]

/-- A number starts with its sign or with a digit, and is passed over from there. -/
theorem NumberText.cases {t : Bytes} (h : NumberText t) :
    (∃ body, t = minusSign :: body ∧
        ∀ rest, Delimited rest → passNumber (body ++ rest) = .ok rest) ∨
      ∃ d more, t = d :: more ∧ Digit d ∧
        ∀ rest, Delimited rest → passNumber (t ++ rest) = .ok rest := by
  obtain ⟨sign, whole, places, exponent, hsign, hwhole, hplaces, hexp, rfl⟩ := h
  have hpass (rest : Bytes) (hrest : Delimited rest) :
      passNumber (whole ++ (places ++ exponent) ++ rest) = .ok rest := by
    rw [List.append_assoc, List.append_assoc]
    exact passNumber_unsigned hwhole hplaces hexp hrest
  simp only [List.mem_cons, List.not_mem_nil, or_false] at hsign
  rcases hsign with rfl | rfl
  · right
    obtain ⟨d, more, rfl, hd⟩ : ∃ d more, whole = d :: more ∧ Digit d := by
      rcases hwhole with rfl | ⟨⟨hne, hall⟩, -⟩
      · exact ⟨zero, [], rfl, by unfold Digit; decide⟩
      · obtain ⟨d, more, rfl⟩ := List.exists_cons_of_ne_nil hne
        exact ⟨d, more, rfl, hall d (by simp)⟩
    exact ⟨d, more ++ (places ++ exponent), rfl, hd, hpass⟩
  · left
    exact ⟨whole ++ (places ++ exponent), rfl, hpass⟩

/-! ## Natural numbers -/

/-- The digit of a number below ten. -/
theorem utf8EncodeChar_digitChar {d : Nat} (hd : d < 10) :
    String.utf8EncodeChar d.digitChar = [UInt8.ofNat (0x30 + d)] := by
  revert d
  decide

/-- Decimal digits from the last to the first. -/
theorem numeral_eq (n : Nat) :
    numeral n = (if n < 10 then [] else numeral (n / 10)) ++ [UInt8.ofNat (0x30 + n % 10)] := by
  have hdigit := utf8EncodeChar_digitChar (Nat.mod_lt n (by decide : 0 < 10))
  simp only [numeral, Text.encode_eq_flatMap, Nat.toList_repr]
  rw [Nat.toDigits_eq_if (by decide)]
  split
  · next hlt =>
    rw [Nat.mod_eq_of_lt hlt] at hdigit ⊢
    rw [List.flatMap_singleton, hdigit, List.nil_append]
  · rw [List.flatMap_append, List.flatMap_singleton, hdigit]

theorem toNat_digit {d : Nat} (hd : d < 10) : (UInt8.ofNat (0x30 + d)).toNat = 0x30 + d :=
  UInt8.toNat_ofNat_of_lt' (show 0x30 + d < 256 by omega)

theorem digits_numeral (n : Nat) : Digits (numeral n) := by
  induction n using Nat.strongRecOn with
  | ind n ih =>
    have hlast : Digit (UInt8.ofNat (0x30 + n % 10)) := by
      have hlt := Nat.mod_lt n (by decide : 0 < 10)
      rw [Digit, toNat_digit hlt]
      omega
    rw [numeral_eq]
    refine ⟨by simp, fun b hb => ?_⟩
    rcases List.mem_append.mp hb with hb | hb
    · split at hb
      · exact absurd hb (by simp)
      · exact (ih (n / 10) (by omega)).2 b hb
    · rw [List.mem_singleton] at hb
      exact hb ▸ hlast

/-- Only zero is written with a zero in front. -/
theorem head?_numeral {n : Nat} (hn : n ≠ 0) : (numeral n).head? ≠ some zero := by
  induction n using Nat.strongRecOn with
  | ind n ih =>
    rw [numeral_eq]
    split
    · next hlt =>
      rw [List.nil_append, List.head?_cons, ne_eq, Option.some.injEq, ← UInt8.toNat_inj,
        Nat.mod_eq_of_lt hlt, toNat_digit hlt]
      exact fun heq => hn (Nat.add_left_cancel (heq : 0x30 + n = 0x30 + 0))
    · next hge =>
      have hhead := ih (n / 10) (by omega) (by omega)
      rw [List.head?_append_of_ne_nil _ (digits_numeral (n / 10)).1]
      exact hhead

/-- The number that digits write behind a number written already. -/
def decimalFrom (n : Nat) (digits : Bytes) : Nat :=
  digits.foldl (fun n d => n * 10 + (d.toNat - 0x30)) n

theorem le_decimalFrom (n : Nat) (digits : Bytes) : n ≤ decimalFrom n digits := by
  induction digits generalizing n with
  | nil => exact Nat.le_refl n
  | cons d digits ih => exact Nat.le_trans (by omega) (ih (n * 10 + (d.toNat - 0x30)))

theorem decimalFrom_numeral (n : Nat) : decimalFrom 0 (numeral n) = n := by
  induction n using Nat.strongRecOn with
  | ind n ih =>
    have hlt := Nat.mod_lt n (by decide : 0 < 10)
    rw [numeral_eq, decimalFrom, List.foldl_append, List.foldl_cons, List.foldl_nil,
      toNat_digit hlt, Nat.add_sub_cancel_left]
    split
    · next hsmall => rw [List.foldl_nil, Nat.zero_mul, Nat.zero_add, Nat.mod_eq_of_lt hsmall]
    · next hge =>
      have hfront := ih (n / 10) (by omega)
      rw [decimalFrom] at hfront
      rw [hfront]
      omega

/-- Digits of a number that fits go in one by one. -/
theorem absorb_eq {n : Nat} {digits : Bytes} (h : decimalFrom n digits < UInt64.size) :
    absorb n digits = (decimalFrom n digits, digits.length) := by
  induction digits generalizing n with
  | nil => rfl
  | cons d digits ih =>
    have hnext : n * 10 + (d.toNat - 0x30) < UInt64.size :=
      Nat.lt_of_le_of_lt (le_decimalFrom _ digits) h
    have hrest := ih (n := n * 10 + (d.toNat - 0x30)) h
    simp only [absorb, if_pos hnext, hrest]
    rfl

theorem readFraction_delimited {rest : Bytes} (h : Delimited rest) (n : Nat) :
    readFraction false n 0 rest = .ok (.integer n, rest) := by
  cases rest with
  | nil => rfl
  | cons b rest =>
    obtain ⟨-, hpoint, hexp⟩ := h.ends_number b (by simp)
    simp only [readFraction, if_neg hpoint, hexp, Bool.false_eq_true, if_false]
    rfl

/-- A natural number of 64 bits is read as itself. -/
theorem readNumber_numeral {n : Nat} (hn : n < UInt64.size) {rest : Bytes}
    (hrest : Delimited rest) :
    readNumber false (numeral n ++ rest) = .ok (.integer n, rest) := by
  obtain ⟨hne, hall⟩ := digits_numeral n
  rcases Nat.eq_zero_or_pos n with rfl | hpos
  · have hzero : numeral 0 = [zero] := by rw [numeral_eq]; rfl
    rw [hzero, List.singleton_append, readNumber, if_pos rfl,
      if_neg (Bool.eq_false_iff.mp hrest.startsWithDigit), readFraction_delimited hrest]
  · have habsorb : absorb 0 (numeral n) = (n, (numeral n).length) := by
      have hvalue := decimalFrom_numeral n
      rw [absorb_eq (by rw [hvalue]; exact hn), hvalue]
    have htake := takeWhile_digits hall hrest.startsWithDigit
    have hdrop := dropWhile_digits hall hrest.startsWithDigit
    have hhead := head?_numeral (Nat.pos_iff_ne_zero.mp hpos)
    obtain ⟨d, ds, hds⟩ := List.exists_cons_of_ne_nil hne
    rw [hds] at hhead htake hdrop habsorb hall ⊢
    have hzero : d ≠ zero := fun heq => hhead (by rw [heq, List.head?_cons])
    rw [List.cons_append] at htake hdrop ⊢
    rw [readNumber, if_neg hzero, if_pos ((isDigit_iff d).mpr (hall d (by simp)))]
    simp only [htake, hdrop, habsorb, Nat.sub_self]
    exact readFraction_delimited hrest n

end MutantHunt.Json
