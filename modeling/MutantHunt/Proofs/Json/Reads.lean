import Mathlib.Algebra.Group.Nat.Defs
import MutantHunt.Json.Decode
import MutantHunt.Proofs.Json.Strings
import MutantHunt.Proofs.Json.Tokens

/-!
# Readers that read what is written

`Reads reader t a` says that `reader` takes the bytes `t` for `a` wherever they stand: behind any
blanks, and in front of anything that may follow a value. It is stated with an arbitrary rest, so it
composes: the readers of lists, records and choices inherit it from those of their parts.

## Main results

* `reads_word`, `reads_string`, `reads_bareChoice`: numbers, strings and bare tags.
* `reads_list`: a list is read if its items are.
* `readDocument_eq_ok`: a whole text, with blanks around the value.
-/

namespace MutantHunt.Json

variable {α β : Type}

/-- The reader takes the bytes for `a`, wherever they stand. -/
structure Reads (reader : Reader α) (t : Bytes) (a : α) : Prop where
  starts : Starts closeBracket t
  reads : ∀ before rest : Bytes, Blanks before → Delimited rest →
    reader (before ++ (t ++ rest)) = .ok (a, rest)

theorem Reads.map {reader : Reader α} {t : Bytes} {a : α} (h : Reads reader t a) (f : α → β) :
    Reads (f <$> reader) t (f a) where
  starts := h.starts
  reads before rest hbefore hrest := by
    have hread := h.reads before rest hbefore hrest
    simp only [Functor.map, StateT.map, hread, bind, Except.bind]
    rfl

/-! ## Scalars -/

/-- A number that fits is read, in any width of at most 64 bits. -/
theorem reads_word {bits n : Nat} (hbits : bits ≤ 64) (hn : n < 2 ^ bits) :
    Reads (readWord bits) (numeral n) n := by
  obtain ⟨hne, hall⟩ := digits_numeral n
  obtain ⟨d, ds, hds⟩ := List.exists_cons_of_ne_nil hne
  obtain ⟨hblank, hmarks⟩ := (hall d (by rw [hds]; simp)).ne
  have hdigit : isDigit d = true := (isDigit_iff d).mpr (hall d (by rw [hds]; simp))
  have hsize : n < UInt64.size := Nat.lt_of_lt_of_le hn (Nat.pow_le_pow_right (by decide) hbits)
  have hword : wordOf bits (.integer n) = .ok n := by
    rw [wordOf, if_pos ⟨Int.natCast_nonneg n, by rwa [Int.toNat_natCast, Nat.one_shiftLeft]⟩,
      Int.toNat_natCast]
  refine ⟨hds ▸ starts_cons hblank (hmarks _ (by decide)) ds, fun before rest hbefore hrest => ?_⟩
  have hnumber := readNumber_numeral hsize hrest
  rw [hds, List.cons_append] at hnumber ⊢
  simp only [readWord, skipBlanks_append_cons hbefore hblank, if_neg (hmarks minusSign (by decide)),
    if_pos hdigit, hnumber, bind, Except.bind, hword]
  rfl

theorem reads_string {s : String} {t : Bytes} (h : Quoted s t) (wanted : Wanted) :
    Reads (readString wanted) t s := by
  obtain ⟨body, rfl, htext⟩ := readText_quoted h
  refine ⟨starts_cons (by decide) (by decide) body, fun before rest hbefore hrest => ?_⟩
  rw [List.cons_append]
  simp only [readString, skipBlanks_append_cons hbefore (by decide : isBlankByte quoteMark = false),
    if_true, htext]

/-- A tag without content is read as the choice it stands for. -/
theorem reads_bareChoice {τ : Type} {choices : List (String × τ)} {tag : String} {choice : τ}
    {t : Bytes} (h : Quoted tag t) (htag : choiceOf choices tag = .ok choice) :
    Reads (readBareChoice choices) t choice := by
  obtain ⟨body, rfl, htext⟩ := readText_quoted h
  refine ⟨starts_cons (by decide) (by decide) body, fun before rest hbefore hrest => ?_⟩
  have hne : quoteMark ≠ openBrace := by decide
  rw [List.cons_append]
  simp only [readBareChoice, readChoice,
    skipBlanks_append_cons hbefore (by decide : isBlankByte quoteMark = false), if_neg hne, if_true,
    htext, bind, Except.bind, htag]
  rfl

/-! ## Lists -/

theorem Separated.length_le {texts : List Bytes} {inner : Bytes} (h : Separated texts inner) :
    ∀ t ∈ texts, t.length ≤ inner.length := by
  induction h with
  | last =>
    intro u hu
    rw [List.mem_singleton] at hu
    subst hu
    simp only [List.length_append]
    omega
  | more _ _ _ ih =>
    intro u hu
    simp only [List.length_append, List.length_cons]
    rcases List.mem_cons.mp hu with rfl | hu
    · omega
    · have := ih u hu
      omega

/-- A comma stands between any two texts. -/
theorem Separated.count_le {texts : List Bytes} {inner : Bytes} (h : Separated texts inner) :
    texts.length ≤ inner.length + 1 := by
  induction h with
  | last => simp
  | more _ _ _ ih =>
    simp only [List.length_append, List.length_cons]
    omega

theorem Bracketed.length_lt {opening closing : UInt8} {texts : List Bytes} {t : Bytes}
    (h : Bracketed opening closing texts t) : ∀ u ∈ texts, u.length < t.length := by
  cases h with
  | none => simp
  | some h =>
    intro u hu
    have := h.length_le u hu
    simp only [List.length_cons, List.length_append]
    omega

/-- What stands between the part that was read and the next text: nothing in front of the first,
otherwise a comma. -/
inductive Lead : Bool → Bytes → Prop
  | first : Lead true []
  | later {gap : Bytes} : Blanks gap → Lead false (gap ++ [comma])

theorem moreElements_lead {first : Bool} {lead before t : Bytes} (hlead : Lead first lead)
    (hbefore : Blanks before) (ht : Starts closeBracket t) (rest : Bytes) :
    moreElements first (lead ++ (before ++ (t ++ rest))) = .ok (true, t ++ rest) := by
  have hskip := skipBlanks_starts hbefore ht rest
  obtain ⟨b, more, rfl, -, hclose⟩ := ht
  cases hlead with
  | first =>
    rw [List.nil_append, moreElements, hskip]
    simp only [List.cons_append, if_neg hclose, if_true]
  | later hgap =>
    have hcomma := skipBlanks_append_cons hgap (by decide : isBlankByte comma = false)
      (before ++ (b :: more ++ rest))
    have hne : comma ≠ closeBracket := by decide
    rw [List.append_assoc, List.singleton_append, moreElements, hcomma]
    simp only [if_neg hne, Bool.false_eq_true, if_false, if_true, hskip]
    simp only [List.cons_append, if_neg hclose]

theorem readElements_end {item : Reader α} (n : Nat) (first : Bool) (taken : List α) {gap : Bytes}
    (hgap : Blanks gap) (rest : Bytes) :
    readElements item (n + 1) first taken (gap ++ closeBracket :: rest) =
      .ok (taken.reverse, rest) := by
  have hblank : isBlankByte closeBracket = false := by decide
  have hskip := skipBlanks_append_cons hgap hblank rest
  have hmore : moreElements first (gap ++ closeBracket :: rest) =
      .ok (false, closeBracket :: rest) := by
    simp only [moreElements, hskip, if_true]
  simp only [readElements, hmore, endList, skipBlanks_cons hblank, if_true]
  rfl

theorem readElements_item {item : Reader α} (n : Nat) {first : Bool} {lead before t : Bytes} {a : α}
    (hlead : Lead first lead) (hbefore : Blanks before) (ht : Reads item t a) (taken : List α)
    {rest : Bytes} (hrest : Delimited rest) :
    readElements item (n + 1) first taken (lead ++ (before ++ (t ++ rest))) =
      readElements item n false (a :: taken) rest := by
  have hread := ht.reads [] rest blanks_nil hrest
  rw [List.nil_append] at hread
  rw [readElements, moreElements_lead hlead hbefore ht.starts]
  simp only [hread]

/-- The items of a list are read one by one, with the bracket that closes it. -/
theorem readElements_separated {item : Reader α} {texts : List Bytes} {inner : Bytes} {as : List α}
    (h : Separated texts inner) (hitems : List.Forall₂ (fun a t => Reads item t a) as texts)
    {n : Nat} (hn : texts.length < n) {first : Bool} {lead : Bytes} (hlead : Lead first lead)
    (taken : List α) (rest : Bytes) :
    readElements item n first taken (lead ++ (inner ++ closeBracket :: rest)) =
      .ok (taken.reverse ++ as, rest) := by
  have hclose : Delimited (closeBracket :: rest) := delimited_cons (by decide) rest
  induction h generalizing as n first lead taken with
  | @last before t after hbefore hafter =>
    obtain ⟨a, as', ha, has, rfl⟩ := List.forall₂_cons_right_iff.mp hitems
    rw [List.forall₂_nil_right_iff] at has
    rw [List.length_singleton] at hn
    obtain ⟨m, rfl⟩ : ∃ m, n = m + 1 + 1 := ⟨n - 2, by omega⟩
    rw [List.append_assoc, List.append_assoc,
      readElements_item (m + 1) hlead hbefore ha taken (hclose.append hafter),
      readElements_end m false (a :: taken) hafter, has, List.reverse_cons]
  | @more before t after inner texts hbefore hafter _ ih =>
    obtain ⟨a, as', ha, has, rfl⟩ := List.forall₂_cons_right_iff.mp hitems
    obtain ⟨m, rfl⟩ : ∃ m, n = m + 1 := ⟨n - 1, by omega⟩
    have hcomma : Delimited (comma :: (inner ++ closeBracket :: rest)) :=
      delimited_cons (by decide) _
    have hrest := ih has (by simpa using hn) (Lead.later hafter) (a :: taken)
    rw [List.append_assoc, List.singleton_append] at hrest
    rw [List.append_assoc, List.append_assoc, List.append_assoc, List.cons_append,
      readElements_item m hlead hbefore ha taken (hcomma.append hafter), hrest, List.reverse_cons,
      List.append_assoc, List.singleton_append]

/-- A list is read if its items are, which are shorter than the list itself. The bound has to cover
the list. -/
theorem reads_list {item : Reader α} {writes : α → Bytes → Prop} {texts : List Bytes} {t : Bytes}
    {as : List α} {bound : Nat} (h : ListText texts t) (hitems : List.Forall₂ writes as texts)
    (hread : ∀ a u, writes a u → u.length < t.length → Reads item u a) (hbound : t.length ≤ bound) :
    Reads (readList bound item) t as := by
  have hblank : isBlankByte openBracket = false := by decide
  have hreads : List.Forall₂ (fun a u => Reads item u a) as texts :=
    List.forall₂_iff_zip.mpr ⟨hitems.length_eq, fun hmem =>
      hread _ _ (List.forall₂_zip hitems hmem) (h.length_lt _ (List.of_mem_zip hmem).2)⟩
  cases h with
  | @none gap hgap =>
    rw [List.forall₂_nil_right_iff] at hitems
    subst hitems
    refine ⟨starts_cons hblank (by decide) _, fun before rest hbefore hrest => ?_⟩
    rw [List.length_cons] at hbound
    obtain ⟨m, rfl⟩ : ∃ m, bound = m + 1 := ⟨bound - 1, by omega⟩
    rw [List.cons_append, List.append_assoc, List.singleton_append]
    simp only [readList, skipBlanks_append_cons hbefore hblank, if_true]
    exact readElements_end m true [] hgap rest
  | @some texts inner hinner =>
    refine ⟨starts_cons hblank (by decide) _, fun before rest hbefore hrest => ?_⟩
    have hcount := hinner.count_le
    simp only [List.length_cons, List.length_append, List.length_nil] at hbound
    rw [List.cons_append, List.append_assoc, List.singleton_append]
    simp only [readList, skipBlanks_append_cons hbefore hblank, if_true]
    exact readElements_separated hinner hreads (by omega) Lead.first [] rest

/-! ## Documents -/

/-- A whole text is read if its value is, with blanks before and behind. -/
theorem readDocument_eq_ok {reader : Reader α} {t : Bytes} {a : α} (h : Reads reader t a)
    {before after : Bytes} (hbefore : Blanks before) (hafter : Blanks after) :
    readDocument reader (before ++ (t ++ after)) = .ok a := by
  have hdelimited : Delimited after := by
    simpa using delimited_nil.append hafter
  have hempty : skipBlanks after = [] := by
    simpa [skipBlanks] using skipBlanks_append hafter []
  simp only [readDocument, h.reads before after hbefore hdelimited, bind, Except.bind, hempty]

end MutantHunt.Json
