import Mathlib.Data.List.TakeWhile
import MutantHunt.Proofs.Json.Records

/-!
# What stands behind a value does not matter

The scanners take a word, a number, a string or a value that nobody asked for from the front of the
input.  None of them looks further than that: with more text behind the input each takes the same
and leaves the same rest, with the new text behind it.

There is one exception.  A number ends where no digit follows, and if its input ends there then more
text may go on with the number.  What is said of numbers, and of values that may be one, holds where
something was left of the shorter input.

A value that is passed over comes with a bound on the length of the input, which grows with it, and
with the brackets that are open.  `Steady` is the statement for one bound, and the two functions
that call each other get it together, by induction on the bound.

## Main results

* `readNumber_append_right`, `readText_append_right` — what is read.
* `passNumber_append_right`, `passText_append_right` — what is checked only.
* `steady_skip` — what is passed over.
-/

namespace MutantHunt.Json

variable {α γ δ : Type}

/-! ## Results of readers -/

section Results

variable {fault : Fault}

/-- A chain that succeeds does so in both parts. -/
theorem exists_of_bind_eq_ok {x : Except Fault α} {f : α → Except Fault γ} {c : γ}
    (hok : x.bind f = .ok c) : ∃ a, x = .ok a ∧ f a = .ok c := by
  cases x with
  | error fault => cases hok
  | ok a => exact ⟨a, rfl, hok⟩

theorem of_map_pair_eq_ok {x : Except Fault α} {tail rest : Bytes} {a : α}
    (hok : x.map (·, tail) = .ok (a, rest)) : x = .ok a ∧ tail = rest := by
  cases x with
  | error fault => cases hok
  | ok b =>
      cases hok
      exact ⟨rfl, rfl⟩

theorem of_map_rest_eq_ok {x : Except Fault Bytes} {rest : Bytes} {a b : α}
    (hok : x.map (a, ·) = .ok (b, rest)) : x = .ok rest ∧ a = b := by
  cases x with
  | error fault => cases hok
  | ok tail =>
      cases hok
      exact ⟨rfl, rfl⟩

/-- A test in front of a result was passed. -/
theorem of_ite_eq_ok {p : Prop} [Decidable p] {x : Except Fault γ} {c : γ}
    (hok : (if p then x else .error fault) = .ok c) : p ∧ x = .ok c := by
  by_cases h : p
  · rw [if_pos h] at hok
    exact ⟨h, hok⟩
  · rw [if_neg h] at hok
    cases hok

/-- One of two results was taken, and something comes of either. -/
theorem ite_eq_ok_imp {p : Prop} [Decidable p] {x y : Except Fault γ} {x' y' : Except Fault δ}
    {c : γ} {d : δ} (hok : (if p then x else y) = .ok c) (hthen : x = .ok c → x' = .ok d)
    (helse : y = .ok c → y' = .ok d) : (if p then x' else y') = .ok d := by
  by_cases h : p
  · rw [if_pos h] at hok ⊢
    exact hthen hok
  · rw [if_neg h] at hok ⊢
    exact helse hok

/-- A reader that goes by the first byte behind the blanks did not meet the end. -/
theorem exists_of_first_byte {body : UInt8 → Bytes → Except Fault γ} {input : Bytes} {c : γ}
    (hok : (match skipBlanks input with
      | [] => (.error fault : Except Fault γ)
      | b :: rest => body b rest) = .ok c) :
    ∃ b rest, skipBlanks input = b :: rest ∧ body b rest = .ok c := by
  cases hskip : skipBlanks input with
  | nil =>
      rw [hskip] at hok
      cases hok
  | cons b rest =>
      rw [hskip] at hok
      exact ⟨b, rest, rfl, hok⟩

end Results

section Parts

variable {input rest : Bytes}

/-! ## Blanks and words -/

theorem skipBlanks_append_right {tail : Bytes} {b : UInt8} (hskip : skipBlanks input = b :: tail)
    (more : Bytes) : skipBlanks (input ++ more) = b :: (tail ++ more) := by
  rw [skipBlanks] at hskip
  rw [skipBlanks, List.dropWhile_append, hskip]
  rfl

theorem skipBlanks_eq_nil_iff : skipBlanks input = [] ↔ Blanks input := by
  simp only [skipBlanks, List.dropWhile_eq_nil_iff, isBlankByte_iff]
  rfl

/-- What is left behind the blanks stands behind blanks, and starts with none. -/
theorem exists_gap {tail : Bytes} {b : UInt8} (hskip : skipBlanks input = b :: tail) :
    ∃ gap, Blanks gap ∧ isBlankByte b = false ∧ input = gap ++ b :: tail := by
  rw [skipBlanks] at hskip
  refine ⟨input.takeWhile isBlankByte, ?_, ?_, ?_⟩
  · intro c hc
    exact (isBlankByte_iff c).mp (List.mem_takeWhile_imp hc)
  · have hfirst := List.head?_dropWhile_not isBlankByte input
    rwa [hskip] at hfirst
  · rw [← hskip, List.takeWhile_append_dropWhile]

/-- A reader that goes by the first byte behind the blanks meets the same byte in a longer input. -/
theorem first_byte_append_right {fault : Fault} {body body' : UInt8 → Bytes → Except Fault γ}
    {c d : γ} {more : Bytes}
    (hok : (match skipBlanks input with
      | [] => (.error fault : Except Fault γ)
      | b :: rest => body b rest) = .ok c)
    (hbody : ∀ b tail, body b tail = .ok c → body' b (tail ++ more) = .ok d) :
    (match skipBlanks (input ++ more) with
      | [] => (.error fault : Except Fault γ)
      | b :: rest => body' b rest) = .ok d := by
  obtain ⟨b, tail, hskip, hok⟩ := exists_of_first_byte hok
  rw [skipBlanks_append_right hskip]
  exact hbody b tail hok

theorem readColon_append_right (hok : readColon input = .ok rest) (more : Bytes) :
    readColon (input ++ more) = .ok (rest ++ more) := by
  refine first_byte_append_right hok fun b tail hok => ?_
  obtain ⟨hcolon, hok⟩ := of_ite_eq_ok hok
  cases hok
  exact if_pos hcolon

theorem completeWord_append_right {word : Bytes} (hok : completeWord word input = .ok rest)
    (more : Bytes) : completeWord word (input ++ more) = .ok (rest ++ more) := by
  induction word generalizing input with
  | nil =>
      cases hok
      rfl
  | cons w word ih =>
      cases input with
      | nil => cases hok
      | cons b input =>
          rw [completeWord] at hok
          obtain ⟨hsame, hok⟩ := of_ite_eq_ok hok
          rw [List.cons_append, completeWord, if_pos hsame]
          exact ih hok

/-! ## Numbers -/

/-- A run that ends before the input does stays as it is. -/
theorem run_append_right {p : UInt8 → Bool} {b : UInt8} {tail : Bytes}
    (hend : input.dropWhile p = b :: tail) (more : Bytes) :
    (input ++ more).takeWhile p = input.takeWhile p ∧
      (input ++ more).dropWhile p = b :: (tail ++ more) := by
  constructor
  · have hlength : (input.takeWhile p).length ≠ input.length := by
      intro heq
      have hwhole := congrArg List.length (List.takeWhile_append_dropWhile (p := p) (l := input))
      rw [List.length_append, hend, List.length_cons] at hwhole
      omega
    rw [List.takeWhile_append, if_neg hlength]
  · rw [List.dropWhile_append, hend]
    rfl

theorem splitSign_append_right (hne : input ≠ []) (more : Bytes) :
    splitSign (input ++ more) = ((splitSign input).1, (splitSign input).2 ++ more) := by
  obtain ⟨b, tail, rfl⟩ := List.exists_cons_of_ne_nil hne
  by_cases hminus : b = minusSign
  · subst hminus
    rfl
  · by_cases hplus : b = plusSign
    · subst hplus
      rfl
    · simp [splitSign, hminus, hplus]

theorem readExponent_append_right {negative : Bool} {significand : Nat} {exponent : Int}
    {x : Number} (hok : readExponent negative significand exponent input = .ok (x, rest))
    (hrest : rest ≠ []) (more : Bytes) :
    readExponent negative significand exponent (input ++ more) = .ok (x, rest ++ more) := by
  have hne : input ≠ [] := by
    rintro rfl
    cases hok
  unfold readExponent at hok ⊢
  rw [splitSign_append_right hne]
  rcases hsplit : splitSign input with ⟨below, digits⟩
  rw [hsplit] at hok
  cases digits with
  | nil => cases hok
  | cons d digits =>
      obtain ⟨hdigit, hok⟩ := of_ite_eq_ok hok
      dsimp only [List.cons_append] at hok ⊢
      have hend : (d :: digits).dropWhile isDigit = rest := by
        split at hok
        · split at hok
          · cases hok
          · exact (of_map_pair_eq_ok hok).2
        · exact (of_map_pair_eq_ok hok).2
      obtain ⟨c, tail, rfl⟩ := List.exists_cons_of_ne_nil hrest
      obtain ⟨htake, hdrop⟩ := run_append_right hend more
      rw [List.cons_append] at htake hdrop
      rw [if_pos hdigit, htake, hdrop]
      split at hok
      · split at hok
        · cases hok
        · rw [if_pos ‹_›, if_neg ‹_›, (of_map_pair_eq_ok hok).1]
          rfl
      · rw [if_neg ‹_›, (of_map_pair_eq_ok hok).1]
        rfl

theorem readPlaces_append_right {negative : Bool} {significand : Nat} {exponent : Int}
    {x : Number} (hok : readPlaces negative significand exponent input = .ok (x, rest))
    (hrest : rest ≠ []) (more : Bytes) :
    readPlaces negative significand exponent (input ++ more) = .ok (x, rest ++ more) := by
  unfold readPlaces at hok ⊢
  dsimp only at hok ⊢
  cases hdrop : input.dropWhile isDigit with
  | nil =>
      rw [hdrop] at hok
      cases hplaces : input.takeWhile isDigit with
      | nil =>
          rw [hplaces] at hok
          cases hok
      | cons d places =>
          rw [hplaces] at hok
          exact absurd (of_map_pair_eq_ok hok).2.symm hrest
  | cons b tail =>
      obtain ⟨htake, hdrop'⟩ := run_append_right hdrop more
      rw [hdrop] at hok
      rw [htake, hdrop']
      cases hplaces : input.takeWhile isDigit with
      | nil =>
          rw [hplaces] at hok
          cases hok
      | cons d places =>
          rw [hplaces] at hok
          dsimp only at hok ⊢
          refine ite_eq_ok_imp hok (fun hok => readExponent_append_right hok hrest more) ?_
          intro hok
          obtain ⟨hvalue, rfl⟩ := of_map_pair_eq_ok hok
          rw [hvalue]
          rfl

/-- A number without a fraction leaves what stands behind its whole part. -/
theorem rest_of_plain {negative : Bool} {significand dropped : Nat} {x : Number}
    (hok : (if dropped = 0 then .ok (integerOf negative significand, input)
      else (floatingOf negative significand dropped).map (·, input)) = .ok (x, rest)) :
    input = rest := by
  split at hok
  · cases hok
    rfl
  · exact (of_map_pair_eq_ok hok).2

theorem readFraction_nil {negative : Bool} {significand dropped : Nat} {x : Number}
    (hok : readFraction negative significand dropped [] = .ok (x, rest)) : rest = [] :=
  (rest_of_plain hok).symm

theorem readFraction_append_right {negative : Bool} {significand dropped : Nat} {x : Number}
    (hok : readFraction negative significand dropped input = .ok (x, rest)) (hrest : rest ≠ [])
    (more : Bytes) :
    readFraction negative significand dropped (input ++ more) = .ok (x, rest ++ more) := by
  cases input with
  | nil => exact absurd (readFraction_nil hok) hrest
  | cons b tail =>
      unfold readFraction at hok ⊢
      dsimp only [List.cons_append] at hok ⊢
      refine ite_eq_ok_imp hok (fun hok => readPlaces_append_right hok hrest more) fun hok => ?_
      refine ite_eq_ok_imp hok (fun hok => readExponent_append_right hok hrest more) fun hok => ?_
      obtain rfl := rest_of_plain hok
      refine ite_eq_ok_imp hok ?_ ?_
      · intro hok
        cases hok
        rfl
      · intro hok
        rw [(of_map_pair_eq_ok hok).1]
        rfl

theorem startsWithDigit_append_right (hne : input ≠ []) (more : Bytes) :
    startsWithDigit (input ++ more) = startsWithDigit input := by
  obtain ⟨b, tail, rfl⟩ := List.exists_cons_of_ne_nil hne
  rfl

theorem readNumber_append_right {negative : Bool} {x : Number}
    (hok : readNumber negative input = .ok (x, rest)) (hrest : rest ≠ []) (more : Bytes) :
    readNumber negative (input ++ more) = .ok (x, rest ++ more) := by
  unfold readNumber at hok ⊢
  cases input with
  | nil => cases hok
  | cons b tail =>
      dsimp only [List.cons_append] at hok ⊢
      by_cases hzero : b = zero
      · rw [if_pos hzero] at hok ⊢
        have hmore : tail ≠ [] := by
          rintro rfl
          have hempty : readFraction negative 0 0 [] = .ok (x, rest) := hok
          exact hrest (readFraction_nil hempty)
        rw [startsWithDigit_append_right hmore]
        by_cases hdigit : startsWithDigit tail = true
        · rw [if_pos hdigit] at hok
          cases hok
        · rw [if_neg hdigit] at hok ⊢
          exact readFraction_append_right hok hrest more
      · rw [if_neg hzero] at hok ⊢
        obtain ⟨hdigit, hok⟩ := of_ite_eq_ok hok
        rw [if_pos hdigit]
        cases hdrop : (b :: tail).dropWhile isDigit with
        | nil =>
            rw [hdrop] at hok
            exact absurd (readFraction_nil hok) hrest
        | cons c digits =>
            obtain ⟨htake, hdrop'⟩ := run_append_right hdrop more
            rw [List.cons_append] at htake hdrop'
            rw [hdrop] at hok
            rw [htake, hdrop']
            exact readFraction_append_right hok hrest more

theorem passExponent_append_right (hok : passExponent input = .ok rest) (hrest : rest ≠ [])
    (more : Bytes) : passExponent (input ++ more) = .ok (rest ++ more) := by
  have hne : input ≠ [] := by
    rintro rfl
    cases hok
  unfold passExponent at hok ⊢
  rw [splitSign_append_right hne]
  dsimp only at hok ⊢
  obtain ⟨hdigit, hok⟩ := of_ite_eq_ok hok
  have hdigits : (splitSign input).2 ≠ [] := by
    intro hnil
    rw [hnil] at hdigit
    cases hdigit
  rw [startsWithDigit_append_right hdigits, if_pos hdigit]
  obtain ⟨c, tail, rfl⟩ := List.exists_cons_of_ne_nil hrest
  rw [(run_append_right (Except.ok.inj hok) more).2]
  rfl

theorem passFraction_append_right (hok : passFraction input = .ok rest) (hrest : rest ≠ [])
    (more : Bytes) : passFraction (input ++ more) = .ok (rest ++ more) := by
  unfold passFraction at hok ⊢
  cases input with
  | nil =>
      cases hok
      exact absurd rfl hrest
  | cons b tail =>
      dsimp only [List.cons_append] at hok ⊢
      refine ite_eq_ok_imp hok ?_ ?_
      · intro hok
        obtain ⟨hdigit, hok⟩ := of_ite_eq_ok hok
        have hdigits : tail ≠ [] := by
          rintro rfl
          cases hdigit
        rw [startsWithDigit_append_right hdigits, if_pos hdigit]
        cases hdrop : tail.dropWhile isDigit with
        | nil =>
            rw [hdrop] at hok
            cases hok
            exact absurd rfl hrest
        | cons c tail' =>
            rw [hdrop] at hok
            rw [(run_append_right hdrop more).2]
            refine ite_eq_ok_imp hok (fun hok => passExponent_append_right hok hrest more) ?_
            intro hok
            cases hok
            rfl
      · intro hok
        refine ite_eq_ok_imp hok (fun hok => passExponent_append_right hok hrest more) ?_
        intro hok
        cases hok
        rfl

theorem passNumber_append_right (hok : passNumber input = .ok rest) (hrest : rest ≠ [])
    (more : Bytes) : passNumber (input ++ more) = .ok (rest ++ more) := by
  have hnil : passFraction [] ≠ .ok rest := by
    intro hend
    cases hend
    exact hrest rfl
  unfold passNumber at hok ⊢
  cases input with
  | nil => cases hok
  | cons b tail =>
      dsimp only [List.cons_append] at hok ⊢
      by_cases hzero : b = zero
      · rw [if_pos hzero] at hok ⊢
        have hmore : tail ≠ [] := by
          rintro rfl
          exact hnil hok
        rw [startsWithDigit_append_right hmore]
        by_cases hdigit : startsWithDigit tail = true
        · rw [if_pos hdigit] at hok
          cases hok
        · rw [if_neg hdigit] at hok ⊢
          exact passFraction_append_right hok hrest more
      · rw [if_neg hzero] at hok ⊢
        obtain ⟨hdigit, hok⟩ := of_ite_eq_ok hok
        rw [if_pos hdigit]
        cases hdrop : tail.dropWhile isDigit with
        | nil =>
            rw [hdrop] at hok
            exact absurd hok hnil
        | cons c digits =>
            rw [hdrop] at hok
            rw [(run_append_right hdrop more).2]
            exact passFraction_append_right hok hrest more

/-! ## Strings -/

theorem readStringBytes_append_right {high : Option Nat} {taken bytes : Bytes}
    (hok : readStringBytes high taken input = .ok (bytes, rest)) (more : Bytes) :
    readStringBytes high taken (input ++ more) = .ok (bytes, rest ++ more) := by
  -- Along the recursion.  The byte, and what an escape asks for behind it, decide the step that is
  -- taken, and all of these stand in front of what is left.
  fun_induction readStringBytes high taken input with
  | case5 high taken w x y z tail unit hunit hjoin ih =>
      rw [List.cons_append, readStringBytes.eq_def]
      simp only [List.cons_append, if_pos, hunit, hjoin]
      exact ih hok
  | case6 high taken w x y z tail unit hunit char hjoin ih =>
      rw [List.cons_append, readStringBytes.eq_def]
      simp only [List.cons_append, if_pos, hunit, hjoin]
      exact ih hok
  | case9 taken d digits hletter byte hescape ih =>
      rw [List.cons_append, readStringBytes.eq_def]
      simp only [List.cons_append, if_pos, if_neg hletter, hescape]
      exact ih hok
  | case12 high taken tail hhigh hslash =>
      cases hok
      rw [List.cons_append, readStringBytes.eq_def]
      simp only [if_neg hslash, if_neg hhigh, if_pos]
  | case14 high taken b tail hslash hhigh hquote hcontrol ih =>
      rw [List.cons_append, readStringBytes.eq_def]
      simp only [if_neg hslash, if_neg hhigh, if_neg hquote, if_neg hcontrol]
      exact ih hok
  | case1 | case2 | case3 | case4 | case7 | case8 | case10 | case11 | case13 => cases hok

theorem readText_append_right {text : String} (hok : readText input = .ok (text, rest))
    (more : Bytes) : readText (input ++ more) = .ok (text, rest ++ more) := by
  obtain ⟨⟨bytes, tail⟩, hbytes, hok⟩ := exists_of_bind_eq_ok hok
  rw [readText, readStringBytes_append_right hbytes]
  dsimp only at hok
  cases hdecoded : Text.decode? bytes with
  | none =>
      rw [hdecoded] at hok
      cases hok
  | some text =>
      rw [hdecoded] at hok
      cases hok
      simp only [bind, Except.bind, hdecoded]

theorem passText_append_right (hok : passText input = .ok rest) (more : Bytes) :
    passText (input ++ more) = .ok (rest ++ more) := by
  fun_induction passText input with
  | case2 tail =>
      cases hok
      rw [List.cons_append, passText.eq_def]
      rfl
  | case4 w x y z tail hunit hquote ih =>
      rw [List.cons_append, passText.eq_def]
      simp only [List.cons_append, if_neg hquote, if_pos, hunit]
      exact ih hok
  | case7 d digits hletter hescape hquote ih =>
      rw [List.cons_append, passText.eq_def]
      simp only [List.cons_append, if_neg hquote, if_neg hletter, if_pos, hescape]
      exact ih hok
  | case10 b tail hquote hslash hcontrol ih =>
      rw [List.cons_append, passText.eq_def]
      simp only [if_neg hquote, if_neg hslash, if_neg hcontrol]
      exact ih hok
  | case1 | case3 | case5 | case6 | case8 | case9 => cases hok

theorem passKey_append_right (hok : passKey input = .ok rest) (more : Bytes) :
    passKey (input ++ more) = .ok (rest ++ more) := by
  refine first_byte_append_right hok fun b tail hok => ?_
  obtain ⟨hquote, hok⟩ := of_ite_eq_ok hok
  obtain ⟨tail', htext, hcolon⟩ := exists_of_bind_eq_ok hok
  rw [if_pos hquote, passText_append_right htext]
  exact readColon_append_right hcolon more

theorem passScalar_append_right {b : UInt8} (hok : passScalar b input = .ok rest)
    (hrest : rest ≠ []) (more : Bytes) : passScalar b (input ++ more) = .ok (rest ++ more) := by
  unfold passScalar at hok ⊢
  refine ite_eq_ok_imp hok (fun hok => completeWord_append_right hok more) fun hok => ?_
  refine ite_eq_ok_imp hok (fun hok => completeWord_append_right hok more) fun hok => ?_
  refine ite_eq_ok_imp hok (fun hok => completeWord_append_right hok more) fun hok => ?_
  refine ite_eq_ok_imp hok (fun hok => passNumber_append_right hok hrest more) fun hok => ?_
  refine ite_eq_ok_imp hok (fun hok => passNumber_append_right hok hrest more) fun hok => ?_
  obtain ⟨hquote, hok⟩ := of_ite_eq_ok hok
  rw [if_pos hquote]
  exact passText_append_right hok more

/-! ## Passing over a value -/

theorem Bracket.enter_append_right {kind : Bracket} (hok : kind.enter input = .ok rest)
    (more : Bytes) : kind.enter (input ++ more) = .ok (rest ++ more) := by
  cases kind with
  | list =>
      cases hok
      rfl
  | object => exact passKey_append_right hok more

/-- Inside a bracket, a comma or the closing bracket stands next. -/
theorem exists_of_skipRest_cons {kind : Bracket} {n : Nat} {stack : List Bracket}
    (hok : skipRest n (kind :: stack) input = .ok rest) :
    ∃ m gap tail, n = m + 1 ∧ Blanks gap ∧
      (input = gap ++ comma :: tail ∨ input = gap ++ kind.closing :: tail) := by
  cases n with
  | zero => cases kind <;> cases hok
  | succ m =>
      cases hskip : skipBlanks input with
      | nil => cases kind <;> (rw [skipRest.eq_def] at hok; simp only [hskip] at hok; cases hok)
      | cons b tail =>
          obtain ⟨gap, hgap, -, rfl⟩ := exists_gap hskip
          refine ⟨m, gap, tail, rfl, hgap, ?_⟩
          by_cases hcomma : b = comma
          · exact .inl (by rw [hcomma])
          · right
            cases kind <;>
            · rw [skipRest.eq_def] at hok
              simp only [hskip, if_neg hcomma] at hok
              obtain ⟨hclose, -⟩ := of_ite_eq_ok hok
              rw [hclose]
              rfl

/-- A value that can be passed over opens a bracket with something behind it, or has no parts. -/
theorem exists_of_skipItem_succ {n : Nat} {stack : List Bracket}
    (hok : skipItem (n + 1) stack input = .ok rest) :
    ∃ gap b tail, Blanks gap ∧ input = gap ++ b :: tail ∧
      ((∃ kind c more, b = Bracket.opening kind ∧ skipBlanks tail = c :: more) ∨
        (isBlankByte b = false ∧ b ≠ openBracket ∧ b ≠ openBrace ∧
          ∃ tail', passScalar b tail = .ok tail' ∧ skipRest n stack tail' = .ok rest)) := by
  rw [skipItem.eq_def] at hok
  obtain ⟨b, tail, hskip, hbody⟩ := exists_of_first_byte hok
  obtain ⟨gap, hgap, hblank, rfl⟩ := exists_gap hskip
  refine ⟨gap, b, tail, hgap, rfl, ?_⟩
  by_cases hlist : b = openBracket
  · rw [if_pos hlist] at hbody
    obtain ⟨c, more, htail, -⟩ := exists_of_first_byte hbody
    exact .inl ⟨.list, c, more, hlist, htail⟩
  rw [if_neg hlist] at hbody
  by_cases hobject : b = openBrace
  · rw [if_pos hobject] at hbody
    obtain ⟨c, more, htail, -⟩ := exists_of_first_byte hbody
    exact .inl ⟨.object, c, more, hobject, htail⟩
  rw [if_neg hobject] at hbody
  refine .inr ⟨hblank, hlist, hobject, ?_⟩
  cases hpass : passScalar b tail with
  | error fault =>
      rw [hpass] at hbody
      cases hbody
  | ok tail' =>
      rw [hpass] at hbody
      exact ⟨tail', rfl, hbody⟩

/-- What a pass over a part of a text leaves, it leaves of every longer text, with any larger
bound. -/
def Steady (pass : Nat → List Bracket → Bytes → Except Fault Bytes) (n : Nat) : Prop :=
  ∀ ⦃stack : List Bracket⦄ ⦃input rest : Bytes⦄, pass n stack input = .ok rest → rest ≠ [] →
    ∀ ⦃n' : Nat⦄, n ≤ n' → ∀ more, pass n' stack (input ++ more) = .ok (rest ++ more)

theorem skipRest_nil {n : Nat} {stack : List Bracket} (hok : skipRest n stack [] = .ok rest) :
    rest = [] := by
  cases stack with
  | nil =>
      rw [skipRest.eq_def] at hok
      cases hok
      rfl
  | cons kind stack =>
      obtain ⟨m, gap, tail, -, -, hcomma | hclose⟩ := exists_of_skipRest_cons hok
      · simp at hcomma
      · simp at hclose

theorem steady_skipRest_zero : Steady skipRest 0 := by
  intro stack input rest hok hrest n' hn more
  cases stack with
  | nil =>
      rw [skipRest.eq_def] at hok ⊢
      cases hok
      rfl
  | cons kind stack =>
      obtain ⟨m, -, -, hm, -⟩ := exists_of_skipRest_cons hok
      cases hm

/-- To get in front of the next value and over it. -/
theorem Steady.enter {n : Nat} (h : Steady skipItem n) {kind : Bracket} {stack : List Bracket}
    (hok : (kind.enter input).bind (skipItem n stack) = .ok rest) (hrest : rest ≠ []) {n' : Nat}
    (hn : n ≤ n') (more : Bytes) :
    (kind.enter (input ++ more)).bind (skipItem n' stack) = .ok (rest ++ more) := by
  obtain ⟨tail, henter, hitem⟩ := exists_of_bind_eq_ok hok
  rw [Bracket.enter_append_right henter]
  exact h hitem hrest hn more

theorem steady_skipRest_succ {n : Nat} (hitem : Steady skipItem n) (hskip : Steady skipRest n) :
    Steady skipRest (n + 1) := by
  intro stack input rest hok hrest n' hn more
  obtain ⟨n', rfl⟩ : ∃ k, n' = k + 1 := ⟨n' - 1, by omega⟩
  have hn' : n ≤ n' := by omega
  cases stack with
  | nil =>
      rw [skipRest.eq_def] at hok ⊢
      cases hok
      rfl
  | cons kind stack =>
      obtain ⟨m, gap, tail, hm, hgap, rfl | rfl⟩ := exists_of_skipRest_cons hok
      · cases hm
        rw [skipRest_comma kind n stack hgap] at hok
        rw [List.append_assoc, List.cons_append, skipRest_comma kind n' stack hgap]
        exact hitem.enter hok hrest hn' more
      · cases hm
        rw [skipRest_closing kind n stack hgap] at hok
        rw [List.append_assoc, List.cons_append, skipRest_closing kind n' stack hgap]
        exact hskip hok hrest hn' more

theorem steady_skipItem_succ {n : Nat} (hitem : Steady skipItem n) (hskip : Steady skipRest n) :
    Steady skipItem (n + 1) := by
  intro stack input rest hok hrest n' hn more
  obtain ⟨n', rfl⟩ : ∃ k, n' = k + 1 := ⟨n' - 1, by omega⟩
  have hn' : n ≤ n' := by omega
  obtain ⟨gap, b, tail, hgap, rfl, hopen | hscalar⟩ := exists_of_skipItem_succ hok
  · obtain ⟨kind, c, tail', rfl, htail⟩ := hopen
    rw [skipItem_opening kind n stack hgap htail] at hok
    rw [List.append_assoc, List.cons_append,
      skipItem_opening kind n' stack hgap (skipBlanks_append_right htail more)]
    by_cases hclose : c = kind.closing
    · rw [if_pos hclose] at hok ⊢
      exact hskip hok hrest hn' more
    · rw [if_neg hclose] at hok ⊢
      exact hitem.enter hok hrest hn' more
  · obtain ⟨hblank, hlist, hobject, tail', hpass, hlater⟩ := hscalar
    have htail' : tail' ≠ [] := by
      rintro rfl
      exact hrest (skipRest_nil hlater)
    have hbehind := skipBlanks_append_cons hgap hblank (tail ++ more)
    rw [List.append_assoc, List.cons_append, skipItem.eq_def]
    simp only [hbehind, if_neg hlist, if_neg hobject, passScalar_append_right hpass htail' more]
    exact hskip hlater hrest hn' more

/-- A value is passed over up to its end, whatever stands behind it and however much that is. -/
theorem steady_skip (n : Nat) : Steady skipItem n ∧ Steady skipRest n := by
  induction n with
  | zero =>
      refine ⟨?_, steady_skipRest_zero⟩
      intro stack input rest hok
      cases hok
  | succ n ih => exact ⟨steady_skipItem_succ ih.1 ih.2, steady_skipRest_succ ih.1 ih.2⟩

end Parts

end MutantHunt.Json
