import MutantHunt.Json.Value
import MutantHunt.Proofs.Json.Tokens

/-!
# Both written forms of a value are JSON for it

`Writes value t` says that the bytes `t` write `value`, in any way the grammar leaves open. The two
layouts that are written are two ways among them. They differ in what stands around an item and in
front of a value, and in both it is blanks, so one lemma about texts with separators between them
(`separated_intercalate`) serves both.

## Main results

* `quoted_quote`: every character of a written string stands in a form that the grammar has for it.
* `writes_compact`, `writes_pretty`: the two layouts write the value.
-/

namespace MutantHunt.Json

/-- The bytes write the value. The members of an object keep their order. -/
inductive Writes : Value → Bytes → Prop
  | natural {n : Nat} : Writes (.natural n) (numeral n)
  | text {s : String} {t : Bytes} : Quoted s t → Writes (.text s) t
  | list {items : List Value} {texts : List Bytes} {t : Bytes} :
    List.Forall₂ Writes items texts → ListText texts t → Writes (.list items) t
  | object {members : List (String × Value)} {texts : List Bytes} {t : Bytes} :
    List.Forall₂ Writes (members.map Prod.snd) texts →
      ObjectText (List.zipWith Member.mk (members.map Prod.fst) texts) t →
        Writes (.object members) t

/-! ## Strings -/

theorem hexDigit_digitChar : ∀ d < 16,
    String.utf8EncodeChar (Nat.digitChar d) = [UInt8.ofNat (Nat.digitChar d).toNat] ∧
      HexDigit (UInt8.ofNat (Nat.digitChar d).toNat) d := by
  unfold HexDigit
  decide

/-- A control that is written by number. -/
theorem unitText_control {n : Nat} (hn : n < 0x20) :
    UnitText n
      (['\\', 'u', '0', '0', hexDigit (n / 16), hexDigit n].flatMap String.utf8EncodeChar) := by
  obtain ⟨hzero, hzero'⟩ := hexDigit_digitChar 0 (by decide)
  obtain ⟨hhigh, hhigh'⟩ := hexDigit_digitChar (n / 16 % 16) (Nat.mod_lt _ (by decide))
  obtain ⟨hlow, hlow'⟩ := hexDigit_digitChar (n % 16) (Nat.mod_lt _ (by decide))
  refine ⟨_, _, _, _, 0, 0, _, _, hzero', hzero', hhigh', hlow', by omega, ?_⟩
  simp only [List.flatMap_cons, List.flatMap_nil, hexDigit, hhigh, hlow]
  rfl

/-- A character that is written in a string stands there in one of its forms. -/
theorem charText_escapeChar (c : Char) :
    CharText c ((escapeChar c).flatMap String.utf8EncodeChar) := by
  unfold escapeChar
  iterate 7
    split
    · next h =>
      subst h
      exact CharText.letter (by decide)
  split
  · next h => exact CharText.unit (unitText_control h)
  · next hquote hslash _ _ _ _ _ hspace =>
    rw [List.flatMap_singleton]
    exact CharText.plain (Nat.not_lt.mp hspace) hquote hslash

/-- A written string writes its text. -/
theorem quoted_quote (s : String) : Quoted s (Text.encode (quote s)) := by
  refine ⟨s.toList.map fun c => (escapeChar c).flatMap String.utf8EncodeChar, ?_, ?_⟩
  · rw [List.forall₂_map_right_iff, List.forall₂_same]
    exact fun c _ => charText_escapeChar c
  · rw [quote, Text.encode_ofList, List.cons_append, List.flatMap_cons, List.flatMap_append,
      List.flatMap_assoc, List.flatMap_def]
    rfl

/-! ## Layouts -/

/-- Texts with a comma and blanks between them, and blanks in front and behind. -/
theorem separated_intercalate {gap gap' : Bytes} (hgap : Blanks gap) (hgap' : Blanks gap')
    (t : Bytes) (texts : List Bytes) :
    Separated (t :: texts) (gap ++ ((comma :: gap).intercalate (t :: texts) ++ gap')) := by
  induction texts generalizing t with
  | nil =>
    rw [List.intercalate_singleton]
    exact Separated.last hgap hgap'
  | cons u texts ih =>
    have hmore := Separated.more (t := t) hgap blanks_nil (ih u)
    rw [List.nil_append] at hmore
    rw [List.intercalate_cons_cons, List.append_assoc, List.append_assoc, List.cons_append]
    exact hmore

theorem bracketed_compact {opening closing : String} {o c : UInt8} (ho : Text.encode opening = [o])
    (hc : Text.encode closing = [c]) (parts : List String) :
    Bracketed o c (parts.map Text.encode)
      (Text.encode (opening ++ ",".intercalate parts ++ closing)) := by
  rw [Text.encode_append, Text.encode_append, ho, hc, Text.encode_intercalate, List.append_assoc,
    List.singleton_append]
  cases parts with
  | nil => exact Bracketed.none blanks_nil
  | cons part parts =>
    have hseparated := separated_intercalate blanks_nil blanks_nil (Text.encode part)
      (parts.map Text.encode)
    rw [List.nil_append, List.append_nil] at hseparated
    exact Bracketed.some hseparated

theorem blanks_newline (level : Nat) : Blanks (Text.encode (Value.newline level)) := by
  intro b hb
  rw [Value.newline, Text.encode_ofList] at hb
  obtain ⟨c, hc, hb⟩ := List.mem_flatMap.mp hb
  have hblank : c = '\n' ∨ c = ' ' := by
    rcases List.mem_cons.mp hc with rfl | hc
    · exact Or.inl rfl
    · exact Or.inr (List.eq_of_mem_replicate hc)
  rcases hblank with rfl | rfl
  · rw [List.mem_singleton.mp hb]
    decide
  · rw [List.mem_singleton.mp hb]
    decide

theorem bracketed_block (level : Nat) {opening closing : String} {o c : UInt8}
    (ho : Text.encode opening = [o]) (hc : Text.encode closing = [c]) (parts : List String) :
    Bracketed o c (parts.map Text.encode)
      (Text.encode (Value.block level opening closing parts)) := by
  cases parts with
  | nil =>
    have hempty : Text.encode (Value.block level opening closing []) = o :: ([] ++ [c]) := by
      rw [Value.block, List.isEmpty_nil, if_pos rfl, Text.encode_append, ho, hc]
      rfl
    rw [hempty]
    exact Bracketed.none blanks_nil
  | cons part parts =>
    have hseparated := separated_intercalate (blanks_newline (level + 1)) (blanks_newline level)
      (Text.encode part) (parts.map Text.encode)
    have hcomma : Text.encode "," = [comma] := rfl
    have hblock : Text.encode (Value.block level opening closing (part :: parts)) =
        o :: (Text.encode (Value.newline (level + 1)) ++
          ((comma :: Text.encode (Value.newline (level + 1))).intercalate
            (Text.encode part :: parts.map Text.encode) ++
              Text.encode (Value.newline level)) ++ [c]) := by
      simp only [Value.block, List.isEmpty_cons, Bool.false_eq_true, if_false, Text.encode_append,
        Text.encode_intercalate, ho, hc, hcomma, List.map_cons, List.append_assoc, List.cons_append,
        List.nil_append]
    rw [hblock]
    exact Bracketed.some hseparated

theorem blanks_space : Blanks [0x20] := by
  intro b hb
  rw [List.mem_singleton.mp hb]
  decide

/-- A member with its name, a colon, and blanks in front of its value. -/
theorem memberText_quote {colon : String} {gap : Bytes}
    (hcolon : Text.encode colon = colonMark :: gap) (hgap : Blanks gap) (name value : String) :
    MemberText ⟨name, Text.encode value⟩ (Text.encode (quote name ++ colon ++ value)) := by
  refine ⟨Text.encode (quote name), quoted_quote name, [], gap, blanks_nil, hgap, ?_⟩
  rw [Text.encode_append, Text.encode_append, hcolon, List.append_assoc, List.nil_append,
    List.cons_append]

theorem memberTexts_quote {colon : String} {gap : Bytes}
    (hcolon : Text.encode colon = colonMark :: gap) (hgap : Blanks gap)
    (parts : List (String × String)) :
    List.Forall₂ MemberText (parts.map fun part => ⟨part.1, Text.encode part.2⟩)
      ((parts.map fun part => quote part.1 ++ colon ++ part.2).map Text.encode) := by
  induction parts with
  | nil => exact .nil
  | cons part parts ih => exact .cons (memberText_quote hcolon hgap part.1 part.2) ih

theorem listText_compact (parts : List String) :
    ListText (parts.map Text.encode) (Text.encode ("[" ++ ",".intercalate parts ++ "]")) :=
  bracketed_compact rfl rfl parts

theorem objectText_compact (parts : List (String × String)) :
    ObjectText (parts.map fun part => ⟨part.1, Text.encode part.2⟩)
      (Text.encode ("\x7b" ++ ",".intercalate (parts.map fun part => quote part.1 ++ ":" ++ part.2)
        ++ "\x7d")) :=
  ⟨_, memberTexts_quote rfl blanks_nil parts, bracketed_compact rfl rfl _⟩

/-! ## The two written forms -/

theorem compactMembers_eq (members : List (String × Value)) :
    Value.compactMembers members =
      (members.map fun member => (member.1, member.2.compact)).map
        fun part => quote part.1 ++ ":" ++ part.2 := by
  induction members with
  | nil => rfl
  | cons member rest ih => rw [Value.compactMembers, ih, List.map_cons, List.map_cons]

theorem prettyMembers_eq (level : Nat) (members : List (String × Value)) :
    Value.prettyMembers level members =
      (members.map fun member => (member.1, member.2.prettyAt level)).map
        fun part => quote part.1 ++ ": " ++ part.2 := by
  induction members with
  | nil => rfl
  | cons member rest ih => rw [Value.prettyMembers, ih, List.map_cons, List.map_cons]

/-- Names and written values, put together again. -/
theorem zipWith_member (members : List (String × Value)) (write : Value → String) :
    List.zipWith Member.mk (members.map Prod.fst)
        (members.map fun member => Text.encode (write member.2)) =
      (members.map fun member => (member.1, write member.2)).map
        fun part => ⟨part.1, Text.encode part.2⟩ := by
  rw [List.zipWith_map, List.zipWith_self, List.map_map]
  rfl

theorem objectText_compactMembers (members : List (String × Value)) :
    ObjectText (List.zipWith Member.mk (members.map Prod.fst)
      (members.map fun member => Text.encode member.2.compact))
      (Text.encode (Value.object members).compact) := by
  rw [zipWith_member, Value.compact, compactMembers_eq]
  exact objectText_compact _

theorem objectText_prettyMembers (level : Nat) (members : List (String × Value)) :
    ObjectText (List.zipWith Member.mk (members.map Prod.fst)
      (members.map fun member => Text.encode (member.2.prettyAt (level + 1))))
      (Text.encode ((Value.object members).prettyAt level)) := by
  rw [zipWith_member members (Value.prettyAt (level + 1)), Value.prettyAt, prettyMembers_eq]
  exact ⟨_, memberTexts_quote rfl blanks_space _, bracketed_block level rfl rfl _⟩

mutual

/-- The form without blanks writes the value. -/
theorem writes_compact : ∀ value : Value, Writes value (Text.encode value.compact)
  | .natural _ => .natural
  | .text s => .text (quoted_quote s)
  | .list items => .list (writes_compactItems items) (listText_compact _)
  | .object members => .object (writes_compactMembers members) (objectText_compactMembers members)

theorem writes_compactItems : ∀ items : List Value,
    List.Forall₂ Writes items ((Value.compactItems items).map Text.encode)
  | [] => .nil
  | item :: rest => .cons (writes_compact item) (writes_compactItems rest)

theorem writes_compactMembers : ∀ members : List (String × Value),
    List.Forall₂ Writes (members.map Prod.snd)
      (members.map fun member => Text.encode member.2.compact)
  | [] => .nil
  | (_, value) :: rest => .cons (writes_compact value) (writes_compactMembers rest)

end

mutual

/-- The form with one item or member per line writes the value, at every level. -/
theorem writes_prettyAt (level : Nat) : ∀ value : Value,
    Writes value (Text.encode (value.prettyAt level))
  | .natural _ => .natural
  | .text s => .text (quoted_quote s)
  | .list items => .list (writes_prettyItems (level + 1) items) (bracketed_block level rfl rfl _)
  | .object members =>
    .object (writes_prettyMembers (level + 1) members) (objectText_prettyMembers level members)

theorem writes_prettyItems (level : Nat) : ∀ items : List Value,
    List.Forall₂ Writes items ((Value.prettyItems level items).map Text.encode)
  | [] => .nil
  | item :: rest => .cons (writes_prettyAt level item) (writes_prettyItems level rest)

theorem writes_prettyMembers (level : Nat) : ∀ members : List (String × Value),
    List.Forall₂ Writes (members.map Prod.snd)
      (members.map fun member => Text.encode (member.2.prettyAt level))
  | [] => .nil
  | (_, value) :: rest => .cons (writes_prettyAt level value) (writes_prettyMembers level rest)

end

theorem writes_pretty (value : Value) : Writes value (Text.encode value.pretty) :=
  writes_prettyAt 0 value

/-! ## Taking a written object apart -/

/-- An object of one member. -/
theorem Writes.single {name : String} {x : Value} {t : Bytes} (h : Writes (.object [(name, x)]) t) :
    ∃ v, Writes x v ∧ ObjectText [⟨name, v⟩] t := by
  cases h with
  | object hvalues hobject =>
    obtain ⟨v, _, hv, hnil, rfl⟩ := List.forall₂_cons_left_iff.mp hvalues
    rw [List.map_nil, List.forall₂_nil_left_iff] at hnil
    subst hnil
    exact ⟨v, hv, hobject⟩

/-- An object of two members, member by member. -/
theorem Writes.pair {name₁ name₂ : String} {x y : Value} {t : Bytes}
    (h : Writes (.object [(name₁, x), (name₂, y)]) t) :
    ∃ v w, Writes x v ∧ Writes y w ∧ ObjectText [⟨name₁, v⟩, ⟨name₂, w⟩] t := by
  cases h with
  | object hvalues hobject =>
    obtain ⟨v, _, hv, hrest, rfl⟩ := List.forall₂_cons_left_iff.mp hvalues
    obtain ⟨w, _, hw, hnil, rfl⟩ := List.forall₂_cons_left_iff.mp hrest
    rw [List.map_nil, List.forall₂_nil_left_iff] at hnil
    subst hnil
    exact ⟨v, w, hv, hw, hobject⟩

end MutantHunt.Json
