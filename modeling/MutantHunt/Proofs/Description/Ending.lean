import MutantHunt.Proofs.Description.Writing
import MutantHunt.Proofs.Json.Extension

/-!
# Nothing may follow a description

A description ends with the brace or bracket that closes it, so a text that is one says all there is
to say: with anything but blanks behind it, it is none.  For each reader of a part of a description
this is a statement about two bounds on the length of the input, that of the text alone and that of
the text with more behind it, and the readers of JSON values reduce it to their parts.  Nodes hold
nodes, and their case is an induction on the smaller bound.

## Main results

* `Description.ofBytes_append` — a description with more behind it, as bytes.
* `Tree.nothing_follows` — a text that gives a tree, with another text behind it.
-/

namespace MutantHunt

open Json

/-! ## Readers of descriptions -/

section Readers

variable {bound bound' : Nat}

theorem closes_readInstance (hbound : bound ≤ bound') :
    Closes (readInstance bound) (readInstance bound') :=
  (closes_readSingle "MutationInstance" hbound "mutationId" (extends_readWord 32)).map UInt32.ofNat

theorem closes_readInstances (hbound : bound ≤ bound') :
    Closes (readInstances bound) (readInstances bound') := by
  apply closes_readSingle "MutationInstances" hbound "instances"
  exact (closes_readList (closes_readInstance hbound).extends hbound).extends

theorem closes_readGroup (hbound : bound ≤ bound') :
    Closes (readGroup bound) (readGroup bound') := by
  apply closes_readChoice
  intro kind
  have hinstances := closes_readInstances hbound
  cases kind with
  | replaceExpr => exact (hinstances.map MutationGroup.replaceExpr).extends
  | replaceBinaryOperator => exact (hinstances.map MutationGroup.replaceBinaryOperator).extends
  | replaceUnaryOperator => exact (hinstances.map MutationGroup.replaceUnaryOperator).extends
  | removeStmt => exact ((closes_readInstance hbound).map MutationGroup.removeStmt).extends

theorem closes_readNode (hbound : bound ≤ bound') :
    Closes (readNode bound) (readNode bound') := by
  induction bound generalizing bound' with
  | zero =>
      intro input rest node hok
      cases hok
  | succ n ih =>
      obtain ⟨n', rfl⟩ : ∃ k, bound' = k + 1 := ⟨bound' - 1, by omega⟩
      have hn : n ≤ n' := by omega
      have hchildren := closes_readList (ih hn).extends hn
      have hgroups := closes_readList (closes_readGroup hn).extends hn
      have hpair := closes_readPair "NodeDescription" hn "children" "mutationGroups"
        hchildren.extends hgroups.extends
      exact hpair.map _

theorem closes_readDescription (hbound : bound ≤ bound') :
    Closes (readDescription bound) (readDescription bound') := by
  have hfile : Closes (readFile bound) (readFile bound') :=
    closes_readSingle "FileInfo" hbound "mutationTreeRoot" (closes_readNode hbound).extends
  have hfiles := closes_readList hfile.extends hbound
  exact (closes_readSingle "MutationInfo" hbound "infoForFiles" hfiles.extends).map Description.mk

end Readers

/-- A description with more behind it is the same description if that is blank, and otherwise
none. -/
theorem Description.ofBytes_append {bytes : List UInt8} {d : Description}
    (hok : Description.ofBytes bytes = .ok d) (more : List UInt8) :
    Description.ofBytes (bytes ++ more) =
      if skipBlanks more = [] then .ok d
      else .error (.malformedDescription (.unparsable SyntaxFault.trailingCharacters)) := by
  have hbound : bytes.length ≤ (bytes ++ more).length := by
    rw [List.length_append]
    omega
  rw [Description.ofBytes] at hok ⊢
  cases hread : readDocument (readDescription bytes.length) bytes with
  | error fault =>
      rw [hread] at hok
      cases hok
  | ok d' =>
      rw [hread] at hok
      cases hok
      rw [readDocument_append (closes_readDescription hbound) hread more]
      by_cases hblank : skipBlanks more = []
      · simp only [hblank, if_true]
      · simp only [hblank, if_false]

/-! ## Blanks as characters -/

/-- Nothing but spaces, tabs, line feeds and carriage returns. -/
def BlankText (s : String) : Prop :=
  ∀ c ∈ s.toList, c ∈ [' ', '\t', '\n', '\r']

theorem blanks_utf8EncodeChar_iff (c : Char) :
    Blanks (String.utf8EncodeChar c) ↔ c ∈ [' ', '\t', '\n', '\r'] := by
  simp only [List.mem_cons, List.not_mem_nil, or_false]
  constructor
  · intro hblanks
    by_contra hother
    simp only [not_or] at hother
    obtain ⟨hspace, htab, hfeed, hreturn⟩ := hother
    obtain ⟨b, hb⟩ := List.exists_mem_of_ne_nil _ (String.utf8EncodeChar_ne_nil (c := c))
    -- No byte of another character is the byte of a blank.
    have hne : ∀ mark : Char, mark.toNat < 0x80 → c ≠ mark → b.toNat ≠ mark.toNat :=
      fun mark hmark hc => Text.ne_of_mem_utf8EncodeChar hmark hc hb
    have hblank := hblanks b hb
    simp only [List.mem_cons, List.not_mem_nil, or_false] at hblank
    rcases hblank with rfl | rfl | rfl | rfl
    · exact hne ' ' (by decide) hspace rfl
    · exact hne '\t' (by decide) htab rfl
    · exact hne '\n' (by decide) hfeed rfl
    · exact hne '\r' (by decide) hreturn rfl
  · intro hblank b hb
    have hsmall : c.toNat < 0x80 := by
      rcases hblank with rfl | rfl | rfl | rfl <;> decide
    rw [Text.utf8EncodeChar_of_lt hsmall, List.mem_singleton] at hb
    rw [hb]
    rcases hblank with rfl | rfl | rfl | rfl <;> decide

/-- A text is blank as bytes if it is as characters. -/
theorem skipBlanks_encode_eq_nil_iff (s : String) :
    skipBlanks (Text.encode s) = [] ↔ BlankText s := by
  rw [skipBlanks_eq_nil_iff, Text.encode_eq_flatMap]
  constructor
  · intro hblanks c hc
    rw [← blanks_utf8EncodeChar_iff]
    intro b hb
    exact hblanks b (List.mem_flatMap.mpr ⟨c, hc, hb⟩)
  · intro hblank b hb
    obtain ⟨c, hc, hb⟩ := List.mem_flatMap.mp hb
    exact (blanks_utf8EncodeChar_iff c).mpr (hblank c hc) b hb

/-! ## The tree of a longer text -/

namespace Tree

theorem ofBytes_append {bytes : List UInt8} {tree : Tree} (hok : ofBytes bytes = .ok tree)
    (more : List UInt8) :
    ofBytes (bytes ++ more) =
      if skipBlanks more = [] then .ok tree
      else .error (.malformedDescription (.unparsable SyntaxFault.trailingCharacters)) := by
  rw [ofBytes] at hok ⊢
  cases hread : Description.ofBytes bytes with
  | error e =>
      rw [hread] at hok
      cases hok
  | ok d =>
      rw [hread] at hok
      rw [Description.ofBytes_append hread more]
      by_cases hblank : skipBlanks more = []
      · rw [if_pos hblank, if_pos hblank]
        exact hok
      · rw [if_neg hblank, if_neg hblank]
        rfl

/-- A text that gives a tree gives the same tree with blanks behind it, and none with anything else
behind it. -/
theorem nothing_follows {text : String} {tree : Tree} (hok : ofJson text = .ok tree) (s : String) :
    (BlankText s → ofJson (text ++ s) = .ok tree) ∧
      (¬ BlankText s → ∃ why, ofJson (text ++ s) = .error (.malformedDescription why)) ∧
        ∀ other, ofJson (text ++ s) = .ok other → BlankText s ∧ other = tree := by
  have hlonger : ofJson (text ++ s) =
      if skipBlanks (Text.encode s) = [] then .ok tree
      else .error (.malformedDescription (.unparsable SyntaxFault.trailingCharacters)) := by
    rw [ofJson, Text.encode_append]
    exact ofBytes_append hok (Text.encode s)
  rw [← skipBlanks_encode_eq_nil_iff, hlonger]
  by_cases hblank : skipBlanks (Text.encode s) = []
  · rw [if_pos hblank]
    refine ⟨fun _ => rfl, fun hother => absurd hblank hother, ?_⟩
    intro other hload
    exact ⟨hblank, (Except.ok.inj hload).symm⟩
  · rw [if_neg hblank]
    refine ⟨fun hother => absurd hother hblank, fun _ => ⟨_, rfl⟩, ?_⟩
    intro other hload
    cases hload

theorem nothing_follows_twoFiles :
    ofJson twoFilesValue.pretty = .ok twoFiles ∧
      ofJson (twoFilesValue.pretty ++ "\n") = .ok twoFiles ∧
        ∃ why, ofJson (twoFilesValue.pretty ++ " \x7b\x7d") =
          .error (.malformedDescription why) := by
  have hload : ofJson twoFilesValue.pretty = .ok twoFiles := by
    rw [ofJson, ofBytes, Description.ofBytes_of_writtenAs twoFiles_writtenAs]
    exact ofDescriptionBy_twoFiles
  refine ⟨hload, ?_, ?_⟩
  · exact (nothing_follows hload "\n").1 (by simp [BlankText])
  · exact (nothing_follows hload " \x7b\x7d").2.1 (by simp [BlankText])

end Tree

end MutantHunt
