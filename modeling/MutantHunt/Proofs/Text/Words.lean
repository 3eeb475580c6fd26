import MutantHunt.Invocation

/-!
# The words of a text, and commands given as words

`Spells text words` says what the words of a text are without saying how they are found: there is a
gap of blanks in front of each word, a word is a run of characters without blanks that ends at a
blank or with the text, and behind the last word there are blanks only.  A text spells one list of
words, the one that `Text.words` finds.

A command is read by its words if there are at least two of them.  A single word is no command of
its own: the whole text is, so blanks around the word become part of the name of the program.

## Main results

* `words_eq_iff` — the words that are found are those that the text spells.
* `exists_readAs` — when a command is read by its words, and what it is read as otherwise.
-/

namespace MutantHunt.Text

/-- Blanks, or nothing at all. -/
def IsGap (gap : List Char) : Prop :=
  ∀ c ∈ gap, isBlank c = true

/-- Characters that are no blanks, at least one. -/
def IsWord (word : List Char) : Prop :=
  word ≠ [] ∧ ∀ c ∈ word, isBlank c = false

/-- The text consists of these words with blanks around them.  A word ends where a blank or nothing
follows, so it is as long as it can be. -/
inductive Spells : List Char → List (List Char) → Prop
  | gap {gap : List Char} (hgap : IsGap gap) : Spells gap []
  | word {gap word rest : List Char} {words : List (List Char)} (hgap : IsGap gap)
      (hword : IsWord word) (hends : ∀ c ∈ rest.head?, isBlank c = true)
      (hrest : Spells rest words) : Spells (gap ++ word ++ rest) (word :: words)

variable {gap word rest text : List Char} {words : List (List Char)}

theorem isGap_cons {c : Char} : IsGap (c :: gap) ↔ isBlank c = true ∧ IsGap gap :=
  List.forall_mem_cons

/-- A blank in front changes no word. -/
theorem Spells.cons_blank {c : Char} (hspells : Spells text words) (hc : isBlank c = true) :
    Spells (c :: text) words := by
  cases hspells with
  | gap hgap => exact .gap (isGap_cons.mpr ⟨hc, hgap⟩)
  | word hgap hword hends hrest => exact .word (isGap_cons.mpr ⟨hc, hgap⟩) hword hends hrest

/-- Without words there are blanks only. -/
theorem Spells.isGap (hspells : Spells text []) : IsGap text := by
  cases hspells with
  | gap hgap => exact hgap

/-! ## Finding words -/

@[simp] theorem wordsFrom_nil_nil : wordsFrom [] [] = [] := rfl

/-- Before the first character of a word, a blank is passed over. -/
theorem wordsFrom_blank {c : Char} (hc : isBlank c = true) (rest : List Char) :
    wordsFrom [] (c :: rest) = wordsFrom [] rest := by
  rw [wordsFrom, if_pos hc, List.isEmpty_nil, if_pos rfl]

/-- So is a gap. -/
theorem wordsFrom_gap (hgap : IsGap gap) (rest : List Char) :
    wordsFrom [] (gap ++ rest) = wordsFrom [] rest := by
  induction gap with
  | nil => rfl
  | cons c gap ih =>
      obtain ⟨hc, hgap⟩ := isGap_cons.mp hgap
      rw [List.cons_append, wordsFrom_blank hc, ih hgap]

/-- The characters of a word are put aside, last first. -/
theorem wordsFrom_run (hrun : ∀ c ∈ word, isBlank c = false) (before rest : List Char) :
    wordsFrom before (word ++ rest) = wordsFrom (word.reverse ++ before) rest := by
  induction word generalizing before with
  | nil => rfl
  | cons c word ih =>
      obtain ⟨hc, hrun⟩ := List.forall_mem_cons.mp hrun
      rw [List.cons_append, wordsFrom, if_neg (Bool.not_eq_true _ ▸ hc), ih hrun,
        List.reverse_cons, List.append_assoc, List.singleton_append]

/-- Where a word ends it is complete, and the next one begins. -/
theorem wordsFrom_end {before : List Char} (hne : before ≠ [])
    (hends : ∀ c ∈ rest.head?, isBlank c = true) :
    wordsFrom before rest = before.reverse :: wordsFrom [] rest := by
  have hsome : ¬ before.isEmpty = true := by rwa [List.isEmpty_iff]
  cases rest with
  | nil => rw [wordsFrom, if_neg hsome, wordsFrom_nil_nil]
  | cons c rest =>
      have hc : isBlank c = true := hends c rfl
      rw [wordsFrom_blank hc, wordsFrom, if_pos hc, if_neg hsome]

/-- The words that a text spells are found. -/
theorem wordsFrom_of_spells (hspells : Spells text words) : wordsFrom [] text = words := by
  induction hspells with
  | @gap gap hgap =>
      have hskip := wordsFrom_gap hgap []
      rwa [List.append_nil] at hskip
  | @word gap word rest words hgap hword hends hrest ih =>
      have hne : word.reverse ≠ [] := mt List.reverse_eq_nil_iff.mp hword.1
      rw [List.append_assoc, wordsFrom_gap hgap, wordsFrom_run hword.2, List.append_nil,
        wordsFrom_end hne hends, List.reverse_reverse, ih]

/-- With the characters in front that were put aside, a text spells the words that are found. -/
theorem spells_wordsFrom (text : List Char) {before : List Char}
    (hbefore : ∀ c ∈ before, isBlank c = false) :
    Spells (before.reverse ++ text) (wordsFrom before text) := by
  have hreverse : ∀ {before : List Char}, before ≠ [] → (∀ c ∈ before, isBlank c = false) →
      IsWord before.reverse := fun hne hrun =>
    ⟨mt List.reverse_eq_nil_iff.mp hne, fun c hc => hrun c (List.mem_reverse.mp hc)⟩
  have hnil : IsGap [] := fun _ hc => absurd hc List.not_mem_nil
  have hnone : ∀ c ∈ ([] : List Char), isBlank c = false := List.forall_mem_nil _
  induction text generalizing before with
  | nil =>
      by_cases hne : before = []
      · subst hne
        exact .gap hnil
      · rw [wordsFrom_end hne (fun c hc => by cases hc), wordsFrom_nil_nil]
        exact .word hnil (hreverse hne hbefore) (fun c hc => by cases hc) (.gap hnil)
  | cons c rest ih =>
      by_cases hc : isBlank c = true
      · have hrest : Spells (c :: rest) (wordsFrom [] rest) :=
          (ih hnone).cons_blank hc
        by_cases hne : before = []
        · subst hne
          rwa [wordsFrom_blank hc]
        · have hends : ∀ d ∈ (c :: rest).head?, isBlank d = true := by
            rintro d ⟨⟩
            exact hc
          rw [wordsFrom_end hne hends, wordsFrom_blank hc]
          exact .word hnil (hreverse hne hbefore) hends hrest
      · have hrun : ∀ d ∈ c :: before, isBlank d = false :=
          List.forall_mem_cons.mpr ⟨Bool.not_eq_true _ ▸ hc, hbefore⟩
        have hmore := ih hrun
        rw [List.reverse_cons, List.append_assoc, List.singleton_append] at hmore
        rwa [wordsFrom, if_neg hc]

/-- A text spells the words that are found in it, and no others. -/
theorem words_eq_iff {text : String} {words : List String} :
    Text.words text = words ↔ Spells text.toList (words.map String.toList) := by
  constructor
  · rintro rfl
    have hspells := spells_wordsFrom text.toList (List.forall_mem_nil fun c => isBlank c = false)
    rw [Text.words, List.map_map]
    simpa using hspells
  · intro hspells
    rw [Text.words, wordsFrom_of_spells hspells, List.map_map]
    simp

/-- A text with a character that is no blank has a word. -/
theorem words_ne_nil {text : String} (hvisible : ∃ c ∈ text.toList, isBlank c = false) :
    Text.words text ≠ [] := by
  intro hnone
  obtain ⟨c, hc, hvisible⟩ := hvisible
  have hgap := (words_eq_iff.mp hnone).isGap
  exact Bool.false_ne_true (hvisible.symm.trans (hgap c hc))

end MutantHunt.Text

namespace MutantHunt.Invocation

open Text

/-- A text of several words is read as these. -/
theorem ofText_of_two_words {text program argument : String} {others : List String}
    (hwords : words text = program :: argument :: others) :
    ofText text = ⟨program, argument :: others⟩ := by
  rw [ofText, hwords]

/-- A text of one word is taken as it stands. -/
theorem ofText_of_one_word {text program : String} (hwords : words text = [program]) :
    ofText text = ⟨text, []⟩ := by
  rw [ofText, hwords]

/-- What becomes of a command that consists of these words. -/
structure ReadAs (text program : String) (arguments : List String) : Prop where
  spelled : Spells text.toList ((program :: arguments).map String.toList)
  /-- It consists of no other words. -/
  unique : ∀ others, Spells text.toList others → others = (program :: arguments).map String.toList
  /-- It is read by its words if there are several, or if there is nothing around the only one. -/
  by_words : ofText text = ⟨program, arguments⟩ ↔ arguments ≠ [] ∨ text = program
  /-- The only word with what is around it is the name of the program. -/
  as_it_stands : arguments = [] → ofText text = ⟨text, []⟩
  /-- Another text of the same words is read as the same if there are several, or if it is the same
  text. -/
  others : ∀ other : String, Spells other.toList ((program :: arguments).map String.toList) →
    (ofText other = ofText text ↔ arguments ≠ [] ∨ other = text)

theorem readAs_of_words {text program : String} {arguments : List String}
    (hwords : words text = program :: arguments) : ReadAs text program arguments := by
  have hspells := words_eq_iff.mp hwords
  have hunique : ∀ others, Spells text.toList others →
      others = (program :: arguments).map String.toList := fun _ hothers =>
    (wordsFrom_of_spells hothers).symm.trans (wordsFrom_of_spells hspells)
  have hsame : ∀ other : String, Spells other.toList ((program :: arguments).map String.toList) →
      words other = program :: arguments := fun _ => words_eq_iff.mpr
  cases harguments : arguments with
  | nil =>
      rw [harguments] at hwords hspells hunique hsame
      have hread := ofText_of_one_word hwords
      constructor
      · exact hspells
      · exact hunique
      · simp [hread]
      · exact fun _ => hread
      · intro other hspells
        simp [hread, ofText_of_one_word (hsame other hspells)]
  | cons argument rest =>
      rw [harguments] at hwords hspells hunique hsame
      have hread := ofText_of_two_words hwords
      constructor
      · exact hspells
      · exact hunique
      · simp [hread]
      · intro hnone
        cases hnone
      · intro other hspells
        simp [hread, ofText_of_two_words (hsame other hspells)]

/-- A command that shows anything has a first word, and several words are read as the program and
its arguments, however they are spaced.  A single word is read so only where nothing is around it. -/
theorem exists_readAs {text : String}
    (hvisible : ∃ c ∈ text.toList, isBlank c = false) :
    ∃ program arguments, ReadAs text program arguments := by
  obtain ⟨program, arguments, hwords⟩ := List.exists_cons_of_ne_nil (words_ne_nil hvisible)
  exact ⟨program, arguments, readAs_of_words hwords⟩

/-- Four words between blanks of many kinds. -/
theorem exists_readAs_spaced :
    (∃ c ∈ "\u3000creduce\t--n \u00a04\r\n".toList, isBlank c = false) ∧
      ∃ program arguments, ReadAs "\u3000creduce\t--n \u00a04\r\n" program arguments :=
  ⟨⟨'c', by decide, by decide⟩, exists_readAs ⟨'c', by decide, by decide⟩⟩

/-- Both texts have the one word, but with a blank in front it is not the program. -/
theorem ofText_blank_creduce :
    words " creduce" = ["creduce"] ∧ words "creduce" = ["creduce"] ∧
      ofText "creduce" = ⟨"creduce", []⟩ ∧ ofText " creduce" = ⟨" creduce", []⟩ ∧
      ofText " creduce" ≠ ofText "creduce" := by
  have hwords : words " creduce" = ["creduce"] := by cbv
  have hplain : words "creduce" = ["creduce"] := by cbv
  refine ⟨hwords, hplain, ofText_of_one_word hplain, ofText_of_one_word hwords, ?_⟩
  rw [ofText_of_one_word hplain, ofText_of_one_word hwords]
  decide

end MutantHunt.Invocation
