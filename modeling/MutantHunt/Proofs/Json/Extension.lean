import MutantHunt.Proofs.Json.Locality

/-!
# Readers and what stands behind their input

A reader takes a value from the front of its input and gives back what is left.  With more text
behind the input it takes the same value and leaves the same rest, with the new text behind it.

There is one exception.  A number ends where no digit follows, and if its input ends there then more
text may go on with the number.  So a reader only `Extends` to longer inputs, where it left
something of the shorter one.  It `Closes` if it does so without this condition, like readers of
strings, lists and records, which end with a mark of their own.  Inside a list or a record the
condition is always met, as nothing can be closed at the end of the input.

Readers of lists and records count down a bound on the length of the input, and a longer input comes
with a larger bound.  Both relations are therefore between two readers, the one with the smaller
bound and the one with the larger.

## Main results

* `closes_readList` — a list closes if its items extend.
* `closes_readRecord` — a record closes if its fields extend.
* `closes_readChoice` — a choice closes if its contents extend.
* `readDocument_append` — only blanks may be appended to a document.
-/

namespace MutantHunt.Json

variable {α β σ τ : Type}

/-- What the first reader takes from an input without using it up, the second takes from every
longer input. -/
def Extends (reader reader' : Reader α) : Prop :=
  ∀ ⦃input rest : Bytes⦄ ⦃a : α⦄, reader input = .ok (a, rest) → rest ≠ [] →
    ∀ more, reader' (input ++ more) = .ok (a, rest ++ more)

/-- What the first reader takes from an input, the second takes from every longer input. -/
def Closes (reader reader' : Reader α) : Prop :=
  ∀ ⦃input rest : Bytes⦄ ⦃a : α⦄, reader input = .ok (a, rest) →
    ∀ more, reader' (input ++ more) = .ok (a, rest ++ more)

theorem Closes.extends {reader reader' : Reader α} (h : Closes reader reader') :
    Extends reader reader' := by
  intro input rest a hok _ more
  exact h hok more

theorem exists_of_map_eq_ok {reader : Reader α} {f : α → β} {input rest : Bytes} {b : β}
    (hok : (f <$> reader) input = .ok (b, rest)) :
    ∃ a, reader input = .ok (a, rest) ∧ f a = b := by
  obtain ⟨⟨a, tail⟩, hread, hok⟩ := exists_of_bind_eq_ok hok
  cases hok
  exact ⟨a, hread, rfl⟩

theorem map_eq_ok {reader : Reader α} {input rest : Bytes} {a : α}
    (hread : reader input = .ok (a, rest)) (f : α → β) :
    (f <$> reader) input = .ok (f a, rest) := by
  simp only [Functor.map, StateT.map, hread, bind, Except.bind]
  rfl

theorem Extends.map {reader reader' : Reader α} (h : Extends reader reader') (f : α → β) :
    Extends (f <$> reader) (f <$> reader') := by
  intro input rest b hok hrest more
  obtain ⟨a, hread, rfl⟩ := exists_of_map_eq_ok hok
  exact map_eq_ok (h hread hrest more) f

theorem Closes.map {reader reader' : Reader α} (h : Closes reader reader') (f : α → β) :
    Closes (f <$> reader) (f <$> reader') := by
  intro input rest b hok more
  obtain ⟨a, hread, rfl⟩ := exists_of_map_eq_ok hok
  exact map_eq_ok (h hread more) f

/-! ## Scalars -/

theorem extends_readWord (bits : Nat) : Extends (readWord bits) (readWord bits) := by
  intro input rest n hok hrest more
  refine first_byte_append_right hok fun b tail hok => ?_
  refine ite_eq_ok_imp hok ?_ fun hok => ?_
  · intro hok
    obtain ⟨⟨x, tail'⟩, hnumber, hok⟩ := exists_of_bind_eq_ok hok
    obtain ⟨hword, rfl⟩ := of_map_pair_eq_ok hok
    simp only [readNumber_append_right hnumber hrest more, bind, Except.bind, hword]
    rfl
  obtain ⟨hdigit, hok⟩ := of_ite_eq_ok hok
  obtain ⟨⟨x, tail'⟩, hnumber, hok⟩ := exists_of_bind_eq_ok hok
  obtain ⟨hword, rfl⟩ := of_map_pair_eq_ok hok
  have hlonger := readNumber_append_right hnumber hrest more
  rw [List.cons_append] at hlonger
  simp only [if_pos hdigit, hlonger, bind, Except.bind, hword]
  rfl

/-! ## Lists -/

section Lists

variable {input rest : Bytes}

theorem moreElements_append_right {first goesOn : Bool}
    (hok : moreElements first input = .ok (goesOn, rest)) (more : Bytes) :
    moreElements first (input ++ more) = .ok (goesOn, rest ++ more) := by
  have hstays {b : UInt8} {tail : Bytes} {on : Bool}
      (hok : (.ok (on, b :: tail) : Except Fault (Bool × Bytes)) = .ok (goesOn, rest)) :
      (.ok (on, b :: (tail ++ more)) : Except Fault (Bool × Bytes)) =
        .ok (goesOn, rest ++ more) := by
    cases hok
    rfl
  refine first_byte_append_right hok fun b tail hok => ?_
  refine ite_eq_ok_imp hok hstays fun hok => ?_
  refine ite_eq_ok_imp hok hstays fun hok => ?_
  obtain ⟨hcomma, hok⟩ := of_ite_eq_ok hok
  rw [if_pos hcomma]
  refine first_byte_append_right hok fun c tail' hok => ?_
  refine ite_eq_ok_imp hok ?_ hstays
  intro hok
  cases hok

theorem endList_append_right (hok : endList input = .ok rest) (more : Bytes) :
    endList (input ++ more) = .ok (rest ++ more) := by
  refine first_byte_append_right hok fun b tail hok => ?_
  refine ite_eq_ok_imp hok ?_ fun hok => ?_
  · intro hok
    cases hok
    rfl
  obtain ⟨-, hok⟩ := of_ite_eq_ok hok
  split at hok
  · split at hok <;> cases hok
  · cases hok

/-- A list is not closed at the end of the input. -/
theorem readElements_nil_ne_ok {item : Reader α} {n : Nat} {first : Bool} {taken as : List α} :
    readElements item n first taken [] ≠ .ok (as, rest) := by
  intro hok
  cases n <;> cases hok

theorem readElements_append_right {item item' : Reader α} (hitem : Extends item item') {n n' : Nat}
    (hn : n ≤ n') {first : Bool} {taken as : List α}
    (hok : readElements item n first taken input = .ok (as, rest)) (more : Bytes) :
    readElements item' n' first taken (input ++ more) = .ok (as, rest ++ more) := by
  induction n generalizing n' first taken input with
  | zero => cases hok
  | succ n ih =>
      obtain ⟨n', rfl⟩ : ∃ k, n' = k + 1 := ⟨n' - 1, by omega⟩
      rw [readElements] at hok ⊢
      rcases hmore : moreElements first input with fault | ⟨_ | _, tail⟩
      · rw [hmore] at hok
        cases hok
      · rw [hmore] at hok
        rw [moreElements_append_right hmore]
        dsimp only at hok ⊢
        obtain ⟨hend, rfl⟩ := of_map_rest_eq_ok hok
        rw [endList_append_right hend more]
        rfl
      · rw [hmore] at hok
        rw [moreElements_append_right hmore]
        dsimp only at hok ⊢
        rcases hread : item tail with fault | ⟨a, tail'⟩
        · rw [hread] at hok
          cases hok
        · rw [hread] at hok
          have htail' : tail' ≠ [] := by
            rintro rfl
            exact readElements_nil_ne_ok hok
          rw [hitem hread htail' more]
          exact ih (by omega) hok

theorem closes_readList {item item' : Reader α} (hitem : Extends item item') {bound bound' : Nat}
    (hbound : bound ≤ bound') : Closes (readList bound item) (readList bound' item') := by
  intro input rest as hok more
  refine first_byte_append_right hok fun b tail hok => ?_
  obtain ⟨hopen, hok⟩ := of_ite_eq_ok hok
  rw [if_pos hopen]
  exact readElements_append_right hitem hbound hok more

end Lists

/-! ## Records -/

section Records

variable {input rest : Bytes}

/-- A field that is read as another one, from every longer input. -/
structure FieldExtends (field field' : Field σ) : Prop where
  name : field'.name = field.name
  isGiven : field'.isGiven = field.isGiven
  read : ∀ s, Extends (field.read s) (field'.read s)

/-- The fields of a record, each with the one that extends it. -/
abbrev FieldsExtend (fields fields' : List (Field σ)) : Prop :=
  List.Forall₂ FieldExtends fields fields'

theorem fieldExtends_onlyField (name : String) {item item' : Reader α} (h : Extends item item') :
    FieldExtends (onlyField name item) (onlyField name item') where
  name := rfl
  isGiven := rfl
  read _ := h.map some

theorem fieldExtends_firstField (name : String) {item item' : Reader α} (h : Extends item item') :
    FieldExtends (firstField name item : Field (Option α × Option β)) (firstField name item') where
  name := rfl
  isGiven := rfl
  read s := h.map fun a => (some a, s.2)

theorem fieldExtends_secondField (name : String) {item item' : Reader β} (h : Extends item item') :
    FieldExtends (secondField name item : Field (Option α × Option β))
      (secondField name item') where
  name := rfl
  isGiven := rfl
  read s := h.map fun b => (s.1, some b)

/-- The fields are found under the same names. -/
theorem FieldsExtend.find? {fields fields' : List (Field σ)} (h : FieldsExtend fields fields')
    (key : String) :
    (∃ field field', FieldExtends field field' ∧
        fields.find? (fun field => field.name == key) = some field ∧
        fields'.find? (fun field => field.name == key) = some field') ∨
      (fields.find? (fun field => field.name == key) = none ∧
        fields'.find? (fun field => field.name == key) = none) := by
  induction h with
  | nil => exact .inr ⟨rfl, rfl⟩
  | @cons field field' fields fields' hfield _ ih =>
      rw [List.find?_cons, List.find?_cons, hfield.name]
      cases field.name == key with
      | true => exact .inl ⟨field, field', hfield, rfl, rfl⟩
      | false => exact ih

theorem moreMembers_append_right {first goesOn : Bool}
    (hok : moreMembers first input = .ok (goesOn, rest)) (more : Bytes) :
    moreMembers first (input ++ more) = .ok (goesOn, rest ++ more) := by
  rw [moreMembers] at hok ⊢
  refine first_byte_append_right hok fun b tail hok => ?_
  refine ite_eq_ok_imp hok ?_ fun hok => ?_
  · intro hok
    cases hok
    rfl
  -- Behind the brace or the comma stands the quote of a key.
  have hkey {c : UInt8} {behind : Bytes}
      (hok : (if c = quoteMark then .ok (true, behind)
        else if c = closeBrace then .error SyntaxFault.trailingComma
        else .error SyntaxFault.keyNotString : Except Fault (Bool × Bytes)) = .ok (goesOn, rest)) :
      (if c = quoteMark then .ok (true, behind ++ more)
        else if c = closeBrace then .error SyntaxFault.trailingComma
        else .error SyntaxFault.keyNotString : Except Fault (Bool × Bytes)) =
          .ok (goesOn, rest ++ more) := by
    refine ite_eq_ok_imp hok ?_ fun hok => ?_
    · intro hok
      cases hok
      rfl
    · split at hok <;> cases hok
  refine ite_eq_ok_imp hok hkey fun hok => ?_
  obtain ⟨hcomma, hok⟩ := of_ite_eq_ok hok
  rw [if_pos hcomma]
  exact first_byte_append_right hok fun c behind => hkey

theorem endObject_append_right (hok : endObject input = .ok rest) (more : Bytes) :
    endObject (input ++ more) = .ok (rest ++ more) := by
  refine first_byte_append_right hok fun b tail hok => ?_
  refine ite_eq_ok_imp hok ?_ fun hok => ?_
  · intro hok
    cases hok
    rfl
  · split at hok <;> cases hok

theorem readMember_append_right {fields fields' : List (Field σ)} (h : FieldsExtend fields fields')
    {n n' : Nat} (hn : n ≤ n') {key : String} {s s' : σ}
    (hok : readMember fields n key s input = .ok (s', rest)) (hrest : rest ≠ []) (more : Bytes) :
    readMember fields' n' key s (input ++ more) = .ok (s', rest ++ more) := by
  rw [readMember] at hok ⊢
  rcases h.find? key with ⟨field, field', hfield, hfind, hfind'⟩ | ⟨hfind, hfind'⟩
  · rw [hfind] at hok
    rw [hfind']
    dsimp only at hok ⊢
    rw [hfield.isGiven]
    cases hgiven : field.isGiven s with
    | true =>
        rw [hgiven] at hok
        cases hok
    | false =>
        rw [hgiven] at hok
        obtain ⟨tail, hcolon, hread⟩ := exists_of_bind_eq_ok hok
        simp only [Bool.false_eq_true, if_false, readColon_append_right hcolon, bind, Except.bind]
        exact hfield.read s hread hrest more
  · rw [hfind] at hok
    rw [hfind']
    obtain ⟨tail, hcolon, hok⟩ := exists_of_bind_eq_ok hok
    obtain ⟨tail', hskip, hok⟩ := exists_of_bind_eq_ok hok
    cases hok
    have hlonger : skipValue n' (tail ++ more) = .ok (rest ++ more) :=
      (steady_skip n).1 hskip hrest hn more
    simp only [readColon_append_right hcolon, bind, Except.bind, hlonger]

/-- An object is not closed at the end of the input. -/
theorem readMembers_nil_ne_ok {fields : List (Field σ)} {n : Nat} {first : Bool} {s s' : σ} :
    readMembers fields n first s [] ≠ .ok (s', rest) := by
  intro hok
  cases n <;> cases hok

theorem readMembers_append_right {fields fields' : List (Field σ)}
    (h : FieldsExtend fields fields') {n n' : Nat} (hn : n ≤ n') {first : Bool} {s s' : σ}
    (hok : readMembers fields n first s input = .ok (s', rest)) (more : Bytes) :
    readMembers fields' n' first s (input ++ more) = .ok (s', rest ++ more) := by
  induction n generalizing n' first s input with
  | zero => cases hok
  | succ n ih =>
      obtain ⟨n', rfl⟩ : ∃ k, n' = k + 1 := ⟨n' - 1, by omega⟩
      rw [readMembers] at hok ⊢
      rcases hmore : moreMembers first input with fault | ⟨_ | _, tail⟩
      · rw [hmore] at hok
        cases hok
      · rw [hmore] at hok
        rw [moreMembers_append_right hmore]
        cases hok
        rfl
      · rw [hmore] at hok
        rw [moreMembers_append_right hmore]
        dsimp only at hok ⊢
        rcases hkey : readText tail with fault | ⟨key, tail'⟩
        · rw [hkey] at hok
          cases hok
        rw [hkey] at hok
        rw [readText_append_right hkey]
        dsimp only at hok ⊢
        rcases hmember : readMember fields n key s tail' with fault | ⟨u, tail''⟩
        · rw [hmember] at hok
          cases hok
        rw [hmember] at hok
        have htail : tail'' ≠ [] := by
          rintro rfl
          exact readMembers_nil_ne_ok hok
        rw [readMember_append_right h (by omega) hmember htail more]
        exact ih (by omega) hok

theorem readPositions_append_right {fields fields' : List (Field σ)}
    (h : FieldsExtend fields fields') {wanted : Wanted} (wanted' : Wanted) {index : Nat} {s s' : σ}
    (hok : readPositions wanted fields index s input = .ok (s', rest)) (hrest : rest ≠ [])
    (more : Bytes) :
    readPositions wanted' fields' index s (input ++ more) = .ok (s', rest ++ more) := by
  induction h generalizing index s input with
  | nil =>
      cases hok
      rfl
  | @cons field field' fields fields' hfield hfields ih =>
      rw [readPositions] at hok ⊢
      rcases hmore : moreElements (index == 0) input with fault | ⟨_ | _, tail⟩
      · rw [hmore] at hok
        cases hok
      · rw [hmore] at hok
        cases hok
      · rw [hmore] at hok
        rw [moreElements_append_right hmore]
        dsimp only at hok ⊢
        rcases hread : field.read s tail with fault | ⟨u, tail'⟩
        · rw [hread] at hok
          cases hok
        rw [hread] at hok
        -- Either another position is read from what is left, or it is what is left in the end.
        have htail : tail' ≠ [] := by
          rintro rfl
          cases hfields with
          | nil =>
              cases hok
              exact hrest rfl
          | cons _ _ => cases hok
        rw [hfield.read s hread htail more]
        exact ih hok

/-- A record closes if its fields extend. -/
theorem closes_readRecord (name : String) {bound bound' : Nat} (hbound : bound ≤ bound')
    {fields fields' : List (Field σ)} (h : FieldsExtend fields fields') (empty : σ)
    (complete : σ → Except Fault α) :
    Closes (readRecord name bound fields empty complete)
      (readRecord name bound' fields' empty complete) := by
  intro input rest a hok more
  refine first_byte_append_right hok fun b tail hok => ?_
  refine ite_eq_ok_imp hok ?_ fun hok => ?_
  · intro hok
    obtain ⟨⟨s, tail'⟩, hmembers, hok⟩ := exists_of_bind_eq_ok hok
    obtain ⟨a', hcomplete, hok⟩ := exists_of_bind_eq_ok hok
    obtain ⟨hend, rfl⟩ := of_map_rest_eq_ok hok
    simp only [readMembers_append_right h hbound hmembers more, bind, Except.bind, hcomplete,
      endObject_append_right hend more]
    rfl
  obtain ⟨hlist, hok⟩ := of_ite_eq_ok hok
  obtain ⟨⟨s, tail'⟩, hpositions, hok⟩ := exists_of_bind_eq_ok hok
  obtain ⟨a', hcomplete, hok⟩ := exists_of_bind_eq_ok hok
  obtain ⟨hend, rfl⟩ := of_map_rest_eq_ok hok
  have htail : tail' ≠ [] := by
    rintro rfl
    cases hend
  have hlonger := readPositions_append_right h (.record name fields'.length) hpositions htail more
  rw [if_pos hlist]
  simp only [hlonger, bind, Except.bind, hcomplete, endList_append_right hend more]
  rfl

theorem closes_readSingle (name : String) {bound bound' : Nat} (hbound : bound ≤ bound')
    (field : String) {item item' : Reader α} (h : Extends item item') :
    Closes (readSingle name bound field item) (readSingle name bound' field item') :=
  closes_readRecord name hbound (.cons (fieldExtends_onlyField field h) .nil) none (required field)

theorem closes_readPair (name : String) {bound bound' : Nat} (hbound : bound ≤ bound')
    (field₁ field₂ : String) {item₁ item₁' : Reader α} (h₁ : Extends item₁ item₁')
    {item₂ item₂' : Reader β} (h₂ : Extends item₂ item₂') :
    Closes (readPair name bound field₁ item₁ field₂ item₂)
      (readPair name bound' field₁ item₁' field₂ item₂') :=
  closes_readRecord name hbound
    (.cons (fieldExtends_firstField field₁ h₁) (.cons (fieldExtends_secondField field₂ h₂) .nil))
    (none, none) _

end Records

/-! ## Choices -/

theorem closes_readTagged (choices : List (String × τ)) {content content' : τ → Reader α}
    (h : ∀ choice, Extends (content choice) (content' choice)) :
    Closes (readTagged choices content) (readTagged choices content') := by
  intro input rest a hok more
  rw [readTagged] at hok ⊢
  rcases hmore : moreMembers true input with fault | ⟨_ | _, tail⟩
  · rw [hmore] at hok
    cases hok
  · rw [hmore] at hok
    cases hok
  rw [hmore] at hok
  rw [moreMembers_append_right hmore]
  obtain ⟨⟨tag, tail₁⟩, htag, hok⟩ := exists_of_bind_eq_ok hok
  obtain ⟨choice, hchoice, hok⟩ := exists_of_bind_eq_ok hok
  obtain ⟨tail₂, hcolon, hok⟩ := exists_of_bind_eq_ok hok
  obtain ⟨⟨a', tail₃⟩, hcontent, hok⟩ := exists_of_bind_eq_ok hok
  obtain ⟨c, tail₄, hskip, hok⟩ := exists_of_first_byte hok
  obtain ⟨hclose, hok⟩ := of_ite_eq_ok hok
  cases hok
  have htail : tail₃ ≠ [] := by
    rintro rfl
    cases hskip
  simp only [readText_append_right htag more, bind, Except.bind, hchoice,
    readColon_append_right hcolon more, h choice hcontent htail more,
    skipBlanks_append_right hskip more, if_pos hclose]

/-- A choice closes if its contents extend. -/
theorem closes_readChoice (choices : List (String × τ)) {content content' : τ → Reader α}
    (h : ∀ choice, Extends (content choice) (content' choice)) (bare : τ → Except Fault α) :
    Closes (readChoice choices content bare) (readChoice choices content' bare) := by
  intro input rest a hok more
  refine first_byte_append_right hok fun b tail hok => ?_
  refine ite_eq_ok_imp hok (fun hok => closes_readTagged choices h hok more) fun hok => ?_
  obtain ⟨hquote, hok⟩ := of_ite_eq_ok hok
  rw [if_pos hquote]
  obtain ⟨⟨tag, tail'⟩, htag, hok⟩ := exists_of_bind_eq_ok hok
  obtain ⟨choice, hchoice, hok⟩ := exists_of_bind_eq_ok hok
  obtain ⟨hbare, rfl⟩ := of_map_pair_eq_ok hok
  simp only [readText_append_right htag more, bind, Except.bind, hchoice, hbare]
  rfl

/-! ## Documents -/

/-- A document with more behind it is the same document if that is blank, and otherwise none. -/
theorem readDocument_append {reader reader' : Reader α} (h : Closes reader reader')
    {input : Bytes} {a : α} (hok : readDocument reader input = .ok a) (more : Bytes) :
    readDocument reader' (input ++ more) =
      if skipBlanks more = [] then .ok a else .error SyntaxFault.trailingCharacters := by
  obtain ⟨⟨a', rest⟩, hread, hok⟩ := exists_of_bind_eq_ok hok
  have hrest : skipBlanks rest = [] ∧ a' = a := by
    cases hskip : skipBlanks rest with
    | nil =>
        simp only [hskip] at hok
        cases hok
        exact ⟨rfl, rfl⟩
    | cons b tail =>
        simp only [hskip] at hok
        cases hok
  obtain ⟨hblank, rfl⟩ := hrest
  have hbehind := skipBlanks_append (skipBlanks_eq_nil_iff.mp hblank) more
  simp only [readDocument, h hread more, bind, Except.bind, hbehind]
  cases skipBlanks more with
  | nil => rfl
  | cons b tail => rfl

end MutantHunt.Json
