import MutantHunt.Json.Skip
import MutantHunt.Proofs.Json.Strings
import MutantHunt.Proofs.Json.Tokens

/-!
# Every value is passed over

`skipItem` keeps the open brackets in a list, so passing over one value is to get from `skipItem` to
`skipRest` with the same brackets open (`Skips`). Both count down a bound on the length of the
input, one for each value and one for each comma or closing bracket. As every one of these is a byte
at least, the bound falls by no more than the length of what was passed, and this is what the
induction over a value carries along: otherwise the bound could run out in front of a value that it
was large enough for.

A list and an object differ in what stands in front of a value inside them, nothing or a key, and in
the bracket that ends them. `Bracket.enter` and `Bracket.closing` are these two, and the induction
over texts between commas is made once for both (`skips_separated`).

## Main results

* `skips_of_isValue`: every value is passed over, however deep it nests.
* `skipValue_isValue`: the same from the outside, with no bracket open.
-/

namespace MutantHunt.Json

/-- The bracket that opens a list or an object. -/
def Bracket.opening : Bracket → UInt8
  | .list => openBracket
  | .object => openBrace

/-- The bracket that closes a list or an object. -/
def Bracket.closing : Bracket → UInt8
  | .list => closeBracket
  | .object => closeBrace

/-- Gets in front of the next value inside a bracket. -/
def Bracket.enter : Bracket → Bytes → Except Fault Bytes
  | .list => .ok
  | .object => passKey

/-- Inside a bracket a text is passed over up to what follows it, and the bound falls by no more
than the length of the text. -/
structure Skips (kind : Bracket) (t : Bytes) : Prop where
  starts : Starts kind.closing t
  skips : ∀ (n : Nat) (stack : List Bracket) (before rest : Bytes), Blanks before → Delimited rest →
    t.length ≤ n → ∃ left, n ≤ left + t.length ∧
      (kind.enter (before ++ (t ++ rest))).bind (skipItem n stack) = skipRest left stack rest

/-! ## One step -/

theorem Bracket.blank_closing (kind : Bracket) : isBlankByte kind.closing = false := by
  cases kind <;> decide

theorem Bracket.closing_ne_comma (kind : Bracket) : kind.closing ≠ comma := by
  cases kind <;> decide

theorem Bracket.delimited_closing (kind : Bracket) (rest : Bytes) :
    Delimited (kind.closing :: rest) :=
  delimited_cons (by cases kind <;> decide) rest

theorem skipRest_comma (kind : Bracket) (n : Nat) (stack : List Bracket) {gap : Bytes}
    (hgap : Blanks gap) (rest : Bytes) :
    skipRest (n + 1) (kind :: stack) (gap ++ comma :: rest) =
      (kind.enter rest).bind (skipItem n (kind :: stack)) := by
  have hskip := skipBlanks_append_cons hgap (by decide : isBlankByte comma = false) rest
  cases kind with
  | list =>
    rw [skipRest.eq_def]
    simp only [hskip, if_true]
    rfl
  | object =>
    rw [skipRest.eq_def]
    simp only [hskip, if_true, Bracket.enter]
    cases passKey rest <;> rfl

theorem skipRest_closing (kind : Bracket) (n : Nat) (stack : List Bracket) {gap : Bytes}
    (hgap : Blanks gap) (rest : Bytes) :
    skipRest (n + 1) (kind :: stack) (gap ++ kind.closing :: rest) = skipRest n stack rest := by
  have hskip := skipBlanks_append_cons hgap kind.blank_closing rest
  have hne := kind.closing_ne_comma
  cases kind <;>
  · rw [skipRest.eq_def]
    simp only [hskip, if_neg hne]
    simp only [Bracket.closing, if_true]

theorem skipItem_opening (kind : Bracket) (n : Nat) (stack : List Bracket) {gap : Bytes}
    (hgap : Blanks gap) {rest more : Bytes} {b : UInt8} (hrest : skipBlanks rest = b :: more) :
    skipItem (n + 1) stack (gap ++ kind.opening :: rest) =
      if b = kind.closing then skipRest n stack more
      else (kind.enter rest).bind (skipItem n (kind :: stack)) := by
  cases kind with
  | list =>
    have hskip := skipBlanks_append_cons hgap (by decide : isBlankByte openBracket = false) rest
    rw [skipItem.eq_def]
    simp only [Bracket.opening, hskip, if_true, hrest]
    rfl
  | object =>
    have hskip := skipBlanks_append_cons hgap (by decide : isBlankByte openBrace = false) rest
    have hne : openBrace ≠ openBracket := by decide
    rw [skipItem.eq_def]
    simp only [Bracket.opening, hskip, if_neg hne, if_true, hrest, Bracket.enter]
    cases passKey rest <;> rfl

/-! ## Values without parts -/

theorem skips_scalar {b : UInt8} {body : Bytes} (hblank : isBlankByte b = false)
    (hopen : b ≠ openBracket ∧ b ≠ openBrace) (hclose : b ≠ closeBracket)
    (hpass : ∀ rest, Delimited rest → passScalar b (body ++ rest) = .ok rest) :
    Skips .list (b :: body) where
  starts := starts_cons hblank hclose body
  skips n stack before rest hbefore hrest hn := by
    obtain ⟨m, rfl⟩ := Nat.exists_eq_succ_of_ne_zero (Nat.ne_zero_of_lt hn)
    refine ⟨m, by simp only [List.length_cons]; omega, ?_⟩
    have hskip := skipBlanks_append_cons hbefore hblank (body ++ rest)
    have hitem : skipItem (m + 1) stack (before ++ b :: (body ++ rest)) =
        skipRest m stack rest := by
      rw [skipItem.eq_def]
      simp only [hskip, if_neg hopen.1, if_neg hopen.2, hpass rest hrest]
    exact hitem

theorem skips_word {b : UInt8} {word : Bytes}
    (hb : (b, word) ∈ [(letterN, restOfNull), (letterT, restOfTrue), (letterF, restOfFalse)]) :
    Skips .list (b :: word) := by
  have hpass (rest : Bytes) : passScalar b (word ++ rest) = completeWord word (word ++ rest) := by
    simp only [List.mem_cons, Prod.mk.injEq, List.not_mem_nil, or_false] at hb
    rcases hb with ⟨rfl, rfl⟩ | ⟨rfl, rfl⟩ | ⟨rfl, rfl⟩ <;> rfl
  have hmarks : isBlankByte b = false ∧ (b ≠ openBracket ∧ b ≠ openBrace) ∧ b ≠ closeBracket := by
    simp only [List.mem_cons, Prod.mk.injEq, List.not_mem_nil, or_false] at hb
    rcases hb with ⟨rfl, -⟩ | ⟨rfl, -⟩ | ⟨rfl, -⟩ <;> decide
  exact skips_scalar hmarks.1 hmarks.2.1 hmarks.2.2 fun rest _ =>
    (hpass rest).trans (completeWord_append word rest)

theorem skips_number {t : Bytes} (h : NumberText t) : Skips .list t := by
  rcases h.cases with ⟨body, rfl, hpass⟩ | ⟨d, more, rfl, hd, hpass⟩
  · exact skips_scalar (by decide) (by decide) (by decide) fun rest hrest => hpass rest hrest
  · obtain ⟨hblank, hmarks⟩ := hd.ne
    refine skips_scalar hblank ⟨hmarks _ (by decide), hmarks _ (by decide)⟩ (hmarks _ (by decide))
      fun rest hrest => ?_
    rw [passScalar, if_neg (hmarks _ (by decide)), if_neg (hmarks _ (by decide)),
      if_neg (hmarks _ (by decide)), if_neg (hmarks _ (by decide)), if_pos ((isDigit_iff d).mpr hd)]
    exact hpass rest hrest

theorem skips_literal {t : Bytes} (h : Literal t) : Skips .list t := by
  obtain ⟨body, rfl, hpass⟩ := passText_literal h
  exact skips_scalar (by decide) (by decide) (by decide) fun rest _ => hpass rest

/-! ## Lists and objects -/

/-- A value with its key in front is passed over inside an object. -/
theorem skips_pair {key value t : Bytes} (hpair : PairText key value t) (hkey : Literal key)
    (hvalue : Skips .list value) : Skips .object t := by
  obtain ⟨gap, gap', hgap, hgap', rfl⟩ := hpair
  obtain ⟨body, rfl, hpass⟩ := passText_literal hkey
  refine ⟨starts_cons (by decide) (by decide) _, fun n stack before rest hbefore hrest hn => ?_⟩
  have henter : passKey (before ++
      (quoteMark :: body ++ (gap ++ colonMark :: (gap' ++ value)) ++ rest)) =
        .ok (gap' ++ (value ++ rest)) := by
    have hskip := skipBlanks_append_cons hbefore (by decide : isBlankByte quoteMark = false)
      (body ++ (gap ++ colonMark :: (gap' ++ (value ++ rest))))
    have hcolon := skipBlanks_append_cons hgap (by decide : isBlankByte colonMark = false)
      (gap' ++ (value ++ rest))
    simp only [List.cons_append, List.append_assoc]
    simp only [passKey, hskip, if_true, hpass, Except.bind, readColon, hcolon]
  simp only [List.length_append, List.length_cons] at hn
  obtain ⟨left, hleft, hitem⟩ := hvalue.skips n stack gap' rest hgap' hrest (by omega)
  refine ⟨left, by simp only [List.length_append, List.length_cons]; omega, ?_⟩
  rw [Bracket.enter, henter]
  exact hitem

/-- Texts between commas are passed over one by one, with the closing bracket. -/
theorem skips_separated {kind : Bracket} {texts : List Bytes} {inner : Bytes}
    (h : Separated texts inner) (htexts : ∀ t ∈ texts, Skips kind t) (n : Nat)
    (stack : List Bracket) (rest : Bytes) (hn : inner.length < n) :
    ∃ left, n ≤ left + (inner.length + 1) ∧
      (kind.enter (inner ++ kind.closing :: rest)).bind (skipItem n (kind :: stack)) =
        skipRest left stack rest := by
  induction h generalizing n with
  | @last before t after hbefore hafter =>
    have hdelimited := Delimited.append hafter (kind.delimited_closing rest)
    simp only [List.length_append] at hn ⊢
    obtain ⟨left, hleft, hitem⟩ := (htexts t (by simp)).skips n (kind :: stack) before
      (after ++ kind.closing :: rest) hbefore hdelimited (by omega)
    obtain ⟨m, rfl⟩ : ∃ m, left = m + 1 := ⟨left - 1, by omega⟩
    refine ⟨m, by omega, ?_⟩
    rw [List.append_assoc, List.append_assoc, hitem, skipRest_closing kind m stack hafter]
  | @more before t after inner texts hbefore hafter _ ih =>
    have hdelimited := Delimited.append hafter
      (delimited_cons (by decide) (inner ++ kind.closing :: rest) : Delimited (comma :: _))
    simp only [List.length_append, List.length_cons] at hn ⊢
    obtain ⟨left, hleft, hitem⟩ := (htexts t (by simp)).skips n (kind :: stack) before
      (after ++ comma :: (inner ++ kind.closing :: rest)) hbefore hdelimited (by omega)
    obtain ⟨m, rfl⟩ : ∃ m, left = m + 1 := ⟨left - 1, by omega⟩
    obtain ⟨left', hleft', hrest⟩ := ih (fun u hu => htexts u (by simp [hu])) m (by omega)
    refine ⟨left', by omega, ?_⟩
    rw [List.append_assoc, List.append_assoc, List.append_assoc, List.cons_append, hitem,
      skipRest_comma kind m stack hafter, hrest]

/-- The first byte of texts between commas. -/
theorem Separated.skipBlanks {closing : UInt8} {texts : List Bytes} {inner : Bytes}
    (h : Separated texts inner) (htexts : ∀ t ∈ texts, Starts closing t) (rest : Bytes) :
    ∃ b more, skipBlanks (inner ++ rest) = b :: more ∧ b ≠ closing := by
  cases h with
  | @last before t after hbefore hafter =>
    have ht := htexts t (by simp)
    obtain ⟨b, more, heq, -, hne⟩ := id ht
    refine ⟨b, more ++ (after ++ rest), ?_, hne⟩
    rw [List.append_assoc, List.append_assoc, skipBlanks_starts hbefore ht, heq, List.cons_append]
  | @more before t after inner texts hbefore hafter _ =>
    have ht := htexts t (by simp)
    obtain ⟨b, more, heq, -, hne⟩ := id ht
    refine ⟨b, more ++ (after ++ comma :: inner ++ rest), ?_, hne⟩
    rw [List.append_assoc, List.append_assoc, skipBlanks_starts hbefore ht, heq, List.cons_append]

/-- A list or an object is passed over if all its items or members are. -/
theorem skips_bracketed {kind : Bracket} {texts : List Bytes} {t : Bytes}
    (h : Bracketed kind.opening kind.closing texts t) (htexts : ∀ u ∈ texts, Skips kind u) :
    Skips .list t := by
  have hstarts (body : Bytes) : Starts closeBracket (kind.opening :: body) := by
    cases kind <;> exact starts_cons (by decide) (by decide) body
  cases h with
  | @none gap hgap =>
    refine ⟨hstarts _, fun n stack before rest hbefore _ hn => ?_⟩
    obtain ⟨m, rfl⟩ := Nat.exists_eq_succ_of_ne_zero (Nat.ne_zero_of_lt hn)
    refine ⟨m, by simp only [List.length_cons]; omega, ?_⟩
    have hskip := skipBlanks_append_cons hgap kind.blank_closing rest
    have hitem := skipItem_opening kind m stack hbefore hskip
    rw [if_pos rfl] at hitem
    rw [List.cons_append, List.append_assoc, List.singleton_append]
    exact hitem
  | @some texts inner hinner =>
    refine ⟨hstarts _, fun n stack before rest hbefore _ hn => ?_⟩
    simp only [List.length_cons, List.length_append, List.length_nil] at hn ⊢
    obtain ⟨m, rfl⟩ : ∃ m, n = m + 1 := ⟨n - 1, by omega⟩
    obtain ⟨left, hleft, hrest⟩ := skips_separated hinner htexts m stack rest (by omega)
    obtain ⟨b, more, hskip, hne⟩ :=
      hinner.skipBlanks (fun u hu => (htexts u hu).starts) (kind.closing :: rest)
    refine ⟨left, by omega, ?_⟩
    have hitem := skipItem_opening kind m stack hbefore hskip
    rw [if_neg hne, hrest] at hitem
    rw [List.cons_append, List.append_assoc, List.singleton_append]
    exact hitem

/-- Every value is passed over. -/
theorem skips_of_isValue {t : Bytes} (h : IsValue t) : Skips .list t := by
  induction h with
  | null => exact skips_word (by decide)
  | true => exact skips_word (by decide)
  | false => exact skips_word (by decide)
  | number h => exact skips_number h
  | string h => exact skips_literal h
  | list h _ ih =>
    have hbracketed : Bracketed Bracket.list.opening Bracket.list.closing _ _ := h
    exact skips_bracketed hbracketed ih
  | object h hpairs hkeys _ ih =>
    have hbracketed : Bracketed Bracket.object.opening Bracket.object.closing _ _ := h
    refine skips_bracketed hbracketed fun text htext => ?_
    obtain ⟨pair, hpair, hwritten⟩ := exists_of_mem_right hpairs htext
    exact skips_pair hwritten (hkeys pair hpair) (ih pair hpair)

/-- Every value is passed over up to what follows it. -/
theorem skipValue_isValue {t : Bytes} (h : IsValue t) {n : Nat} (hn : t.length ≤ n)
    {before rest : Bytes} (hbefore : Blanks before) (hrest : Delimited rest) :
    skipValue n (before ++ (t ++ rest)) = .ok rest := by
  obtain ⟨left, -, hitem⟩ := (skips_of_isValue h).skips n [] before rest hbefore hrest hn
  rw [skipRest.eq_def] at hitem
  exact hitem

end MutantHunt.Json
