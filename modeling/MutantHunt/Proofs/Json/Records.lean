import MutantHunt.Proofs.Json.Reads
import MutantHunt.Proofs.Json.Skips

/-!
# Records are read with their members in any order

A reader of records meets the members as the text has them, and fills its fields one by one. Each
member does to the record one of two things (`Takes`): a member of a field that was not given yet
fills it, and a member of another name changes nothing. What a whole text does is a chain of these
(`Fills`).

The order of the members is not that of the fields. `Slot` is a field together with the text of its
value and what reading this value does to the record; slots that fit together (`Slots`) do not see
each other, so the record that comes out is the same in every order (`reads_record`).

## Main results

* `reads_object`: a record is read if its members fill it, in the order of the text.
* `reads_record`: a record is read with its members in any order, and others among them.
* `reads_single`, `reads_pair`: the same for records of one and of two fields.
* `reads_choice`: a tag with its content.
-/

namespace MutantHunt.Json

variable {α β σ : Type}

/-! ## One member -/

/-- What a member does to a record that is being filled. -/
inductive Takes (fields : List (Field σ)) (m : Member) (s : σ) : σ → Prop
  | known {field : Field σ} {s' : σ} :
    fields.find? (fun field => field.name == m.name) = some field → field.isGiven s = false →
      Reads (field.read s) m.value s' → Takes fields m s s'
  | other :
    fields.find? (fun field => field.name == m.name) = none → IsValue m.value → Takes fields m s s

/-- What members do to a record one after the other. -/
inductive Fills (fields : List (Field σ)) : List Member → σ → σ → Prop
  | nil {s : σ} : Fills fields [] s s
  | cons {m : Member} {members : List Member} {s s' s'' : σ} :
    Takes fields m s s' → Fills fields members s' s'' → Fills fields (m :: members) s s''

theorem readColon_append {gap : Bytes} (hgap : Blanks gap) (rest : Bytes) :
    readColon (gap ++ colonMark :: rest) = .ok rest := by
  have hskip := skipBlanks_append_cons hgap (by decide : isBlankByte colonMark = false) rest
  simp only [readColon, hskip, if_true]

theorem readMember_takes {fields : List (Field σ)} {m : Member} {s s' : σ} (h : Takes fields m s s')
    {n : Nat} (hn : m.value.length ≤ n) {gap gap' rest : Bytes} (hgap : Blanks gap)
    (hgap' : Blanks gap') (hrest : Delimited rest) :
    readMember fields n m.name s (gap ++ colonMark :: (gap' ++ (m.value ++ rest))) =
      .ok (s', rest) := by
  cases h with
  | known hfield hnew hread =>
    simp only [readMember, hfield, hnew, Bool.false_eq_true, if_false, readColon_append hgap, bind,
      Except.bind, hread.reads gap' rest hgap' hrest]
  | other hfield hvalue =>
    simp only [readMember, hfield, readColon_append hgap, bind, Except.bind,
      skipValue_isValue hvalue hn hgap' hrest]

theorem moreMembers_lead {first : Bool} {lead before : Bytes} (hlead : Lead first lead)
    (hbefore : Blanks before) (more : Bytes) :
    moreMembers first (lead ++ (before ++ quoteMark :: more)) = .ok (true, more) := by
  have hskip := skipBlanks_append_cons hbefore (by decide : isBlankByte quoteMark = false) more
  have hquote : quoteMark ≠ closeBrace := by decide
  cases hlead with
  | first =>
    rw [List.nil_append]
    simp only [moreMembers, hskip, if_neg hquote, if_true]
  | @later gap hgap =>
    have hcomma := skipBlanks_append_cons hgap (by decide : isBlankByte comma = false)
      (before ++ quoteMark :: more)
    have hne : comma ≠ closeBrace := by decide
    rw [List.append_assoc, List.singleton_append]
    simp only [moreMembers, hcomma, if_neg hne, Bool.false_eq_true, if_false, if_true, hskip]

theorem moreMembers_end (first : Bool) {gap : Bytes} (hgap : Blanks gap) (rest : Bytes) :
    moreMembers first (gap ++ closeBrace :: rest) = .ok (false, closeBrace :: rest) := by
  have hskip := skipBlanks_append_cons hgap (by decide : isBlankByte closeBrace = false) rest
  simp only [moreMembers, hskip, if_true]

theorem MemberText.length_lt {m : Member} {t : Bytes} (h : MemberText m t) :
    m.value.length < t.length := by
  obtain ⟨key, -, gap, gap', -, -, rfl⟩ := h
  simp only [List.length_append, List.length_cons]
  omega

/-- One member is read, up to what follows it. -/
theorem readMembers_member {fields : List (Field σ)} {m : Member} {s s' : σ}
    (h : Takes fields m s s') {t : Bytes} (ht : MemberText m t) {n : Nat} (hn : t.length ≤ n)
    {first : Bool} {lead before rest : Bytes} (hlead : Lead first lead) (hbefore : Blanks before)
    (hrest : Delimited rest) :
    readMembers fields (n + 1) first s (lead ++ (before ++ (t ++ rest))) =
      readMembers fields n false s' rest := by
  have hvalue := ht.length_lt
  obtain ⟨key, hkey, gap, gap', hgap, hgap', rfl⟩ := ht
  obtain ⟨body, rfl, htext⟩ := readText_quoted hkey
  have hmember := readMember_takes h (Nat.le_trans (Nat.le_of_lt hvalue) hn) hgap hgap' hrest
  have hassoc : quoteMark :: body ++ (gap ++ colonMark :: (gap' ++ m.value)) ++ rest =
      quoteMark :: (body ++ (gap ++ colonMark :: (gap' ++ (m.value ++ rest)))) := by
    simp only [List.cons_append, List.append_assoc]
  rw [readMembers, hassoc, moreMembers_lead hlead hbefore]
  simp only [htext, hmember]

/-! ## Objects -/

/-- The members of an object are read one by one, up to the brace that closes it. -/
theorem readMembers_separated {fields : List (Field σ)} {texts : List Bytes} {inner : Bytes}
    {members : List Member} {s s' : σ} (h : Separated texts inner)
    (htexts : List.Forall₂ MemberText members texts) (hfills : Fills fields members s s') {n : Nat}
    (hn : inner.length < n) {first : Bool} {lead : Bytes} (hlead : Lead first lead) (rest : Bytes) :
    readMembers fields n first s (lead ++ (inner ++ closeBrace :: rest)) =
      .ok (s', closeBrace :: rest) := by
  have hclose : Delimited (closeBrace :: rest) := delimited_cons (by decide) rest
  induction h generalizing members s n first lead with
  | @last before t after hbefore hafter =>
    obtain ⟨m, members', hm, hmembers, rfl⟩ := List.forall₂_cons_right_iff.mp htexts
    rw [List.forall₂_nil_right_iff] at hmembers
    subst hmembers
    have htakes : Takes fields m s s' := by
      cases hfills with
      | cons htakes hnil =>
        cases hnil
        exact htakes
    simp only [List.length_append] at hn
    obtain ⟨k, rfl⟩ : ∃ k, n = k + 1 + 1 := ⟨n - 2, by have := hm.length_lt; omega⟩
    rw [List.append_assoc, List.append_assoc,
      readMembers_member htakes hm (by omega) hlead hbefore (hclose.append hafter), readMembers,
      moreMembers_end false hafter]
  | @more before t after inner texts hbefore hafter _ ih =>
    obtain ⟨m, members', hm, hmembers, rfl⟩ := List.forall₂_cons_right_iff.mp htexts
    obtain ⟨s₁, htakes, hfills⟩ : ∃ s₁, Takes fields m s s₁ ∧ Fills fields members' s₁ s' := by
      cases hfills with
      | cons htakes hfills => exact ⟨_, htakes, hfills⟩
    simp only [List.length_append, List.length_cons] at hn
    obtain ⟨k, rfl⟩ : ∃ k, n = k + 1 := ⟨n - 1, by omega⟩
    have hcomma : Delimited (comma :: (inner ++ closeBrace :: rest)) := delimited_cons (by decide) _
    have hrest := ih hmembers hfills (n := k) (by omega) (Lead.later hafter)
    rw [List.append_assoc, List.singleton_append] at hrest
    rw [List.append_assoc, List.append_assoc, List.append_assoc, List.cons_append,
      readMembers_member htakes hm (by omega) hlead hbefore (hcomma.append hafter), hrest]

/-- A record is read if its members fill it and nothing is missing then. -/
theorem reads_object {fields : List (Field σ)} {members : List Member} {t : Bytes} {empty s : σ}
    {complete : σ → Except Fault α} {a : α} {name : String} {bound : Nat} (h : ObjectText members t)
    (hfills : Fills fields members empty s) (hcomplete : complete s = .ok a)
    (hbound : t.length ≤ bound + 1) : Reads (readRecord name bound fields empty complete) t a := by
  obtain ⟨texts, htexts, hobject⟩ := h
  have hblank : isBlankByte openBrace = false := by decide
  have hend (rest : Bytes) : endObject (closeBrace :: rest) = .ok rest := by
    simp only [endObject, skipBlanks_cons (by decide : isBlankByte closeBrace = false), if_true]
  cases hobject with
  | @none gap hgap =>
    rw [List.forall₂_nil_right_iff] at htexts
    subst htexts
    cases hfills
    refine ⟨starts_cons hblank (by decide) _, fun before rest hbefore hrest => ?_⟩
    obtain ⟨m, rfl⟩ : ∃ m, bound = m + 1 :=
      ⟨bound - 1, by simp only [List.length_cons, List.length_append] at hbound; omega⟩
    have hmembers : readMembers fields (m + 1) true empty (gap ++ closeBrace :: rest) =
        .ok (empty, closeBrace :: rest) := by
      rw [readMembers, moreMembers_end true hgap]
    rw [List.cons_append, List.append_assoc, List.singleton_append]
    simp only [readRecord, skipBlanks_append_cons hbefore hblank, if_true, hmembers, bind,
      Except.bind, hcomplete, hend]
    rfl
  | @some texts inner hinner =>
    refine ⟨starts_cons hblank (by decide) _, fun before rest hbefore hrest => ?_⟩
    simp only [List.length_cons, List.length_append, List.length_nil] at hbound
    have hinnerLength : inner.length < bound := by omega
    have hmembers := readMembers_separated hinner htexts hfills hinnerLength Lead.first rest
    rw [List.nil_append] at hmembers
    rw [List.cons_append, List.append_assoc, List.singleton_append]
    simp only [readRecord, skipBlanks_append_cons hbefore hblank, if_true, hmembers, bind,
      Except.bind, hcomplete, hend]
    rfl

/-! ## Members in any order -/

/-- A field of a record, how its value is written, and what reading the value does to the record. -/
structure Slot (σ : Type) where
  field : Field σ
  value : Bytes
  put : σ → σ

/-- The member that gives a field its value. -/
def Slot.member (slot : Slot σ) : Member :=
  ⟨slot.field.name, slot.value⟩

/-- The fields of a record with their values, none of which touches another. -/
structure Slots (slots : List (Slot σ)) : Prop where
  nodup : (slots.map fun slot => slot.field.name).Nodup
  reads : ∀ slot ∈ slots, ∀ s, Reads (slot.field.read s) slot.value (slot.put s)
  /-- To fill one field leaves open whether another was given. -/
  isGiven_put : ∀ slot ∈ slots, ∀ other ∈ slots, other.field.name ≠ slot.field.name →
    ∀ s, other.field.isGiven (slot.put s) = other.field.isGiven s
  put_put : ∀ slot ∈ slots, ∀ other ∈ slots,
    ∀ s, slot.put (other.put s) = other.put (slot.put s)

theorem Slots.find? {slots : List (Slot σ)} (h : Slots slots) {slot : Slot σ}
    (hslot : slot ∈ slots) :
    (slots.map Slot.field).find? (fun field => field.name == slot.member.name) =
      some slot.field := by
  have hnodup := h.nodup
  clear h
  induction slots with
  | nil => exact absurd hslot (by simp)
  | cons next slots ih =>
    rw [List.map_cons, List.nodup_cons] at hnodup
    rw [List.map_cons]
    rcases List.mem_cons.mp hslot with rfl | hrest
    · exact List.find?_cons_of_pos (by simp [Slot.member])
    · have hne : next.field.name ≠ slot.field.name := fun heq =>
        hnodup.1 (heq ▸ List.mem_map_of_mem hrest)
      rw [List.find?_cons_of_neg (by simpa [Slot.member] using hne)]
      exact ih hrest hnodup.2

/-- Members that are the open slots and others, in any order, fill all of the open slots in some
order. -/
theorem Slots.fills {slots : List (Slot σ)} (h : Slots slots) {members others : List Member}
    {pending : List (Slot σ)} {s : σ} (hperm : members.Perm (pending.map Slot.member ++ others))
    (hpending : ∀ slot ∈ pending, slot ∈ slots ∧ slot.field.isGiven s = false)
    (hnodup : (pending.map fun slot => slot.field.name).Nodup)
    (hothers : ∀ m ∈ others, m.name ∉ slots.map (fun slot => slot.field.name) ∧ IsValue m.value) :
    ∃ order : List (Slot σ), order.Perm pending ∧
      Fills (slots.map Slot.field) members s (order.foldl (fun s slot => slot.put s) s) := by
  induction members generalizing pending others s with
  | nil =>
    have hnil := hperm.symm.eq_nil
    rw [List.append_eq_nil_iff, List.map_eq_nil_iff] at hnil
    exact ⟨[], by rw [hnil.1], Fills.nil⟩
  | cons m members ih =>
    rcases List.mem_append.mp (hperm.subset (List.mem_cons_self ..)) with hm | hm
    · obtain ⟨slot, hslot, rfl⟩ := List.mem_map.mp hm
      obtain ⟨front, back, rfl⟩ := List.append_of_mem hslot
      have hmiddle : (front ++ slot :: back).Perm (slot :: (front ++ back)) := List.perm_middle
      obtain ⟨hmem, hnew⟩ := hpending slot hslot
      have hnames := (hmiddle.map fun slot => slot.field.name).nodup_iff.mp hnodup
      rw [List.map_cons, List.nodup_cons] at hnames
      have hrest : members.Perm ((front ++ back).map Slot.member ++ others) := by
        refine List.Perm.cons_inv (a := slot.member) (hperm.trans ?_)
        exact (hmiddle.map Slot.member).append_right others
      have hstill : ∀ next ∈ front ++ back,
          next ∈ slots ∧ next.field.isGiven (slot.put s) = false := by
        intro next hnext
        obtain ⟨hnextmem, hnextnew⟩ := hpending next (hmiddle.symm.subset (by simp [hnext]))
        have hne : next.field.name ≠ slot.field.name := fun heq =>
          hnames.1 (List.mem_map.mpr ⟨next, hnext, heq⟩)
        exact ⟨hnextmem, (h.isGiven_put slot hmem next hnextmem hne s).trans hnextnew⟩
      obtain ⟨order, horder, hfills⟩ := ih hrest hstill hnames.2 hothers
      exact ⟨slot :: order, (horder.cons slot).trans hmiddle.symm,
        Fills.cons (Takes.known (h.find? hmem) hnew (h.reads slot hmem s)) hfills⟩
    · obtain ⟨front, back, rfl⟩ := List.append_of_mem hm
      obtain ⟨hname, hvalue⟩ := hothers m hm
      have hmiddle : (front ++ m :: back).Perm (m :: (front ++ back)) := List.perm_middle
      have hrest : members.Perm (pending.map Slot.member ++ (front ++ back)) := by
        refine List.Perm.cons_inv (a := m) (hperm.trans ?_)
        exact (hmiddle.append_left _).trans List.perm_middle
      have hnone : (slots.map Slot.field).find? (fun field => field.name == m.name) = none := by
        rw [List.find?_eq_none]
        intro field hfield
        obtain ⟨slot, hslot, rfl⟩ := List.mem_map.mp hfield
        rw [beq_iff_eq]
        exact fun heq => hname (List.mem_map.mpr ⟨slot, hslot, heq⟩)
      obtain ⟨order, horder, hfills⟩ := ih hrest hpending hnodup
        fun m' hm' => hothers m' (hmiddle.symm.subset (by simp [hm']))
      exact ⟨order, horder, Fills.cons (Takes.other hnone hvalue) hfills⟩

/-- A record is read with its members in any order, and any others among them. -/
theorem reads_record {slots : List (Slot σ)} (h : Slots slots) {t : Bytes}
    (ht : RecordText (slots.map Slot.member) t) {empty : σ}
    (hempty : ∀ slot ∈ slots, slot.field.isGiven empty = false) {complete : σ → Except Fault α}
    {a : α} (hcomplete : complete (slots.foldl (fun s slot => slot.put s) empty) = .ok a)
    {name : String} {bound : Nat} (hbound : t.length ≤ bound + 1) :
    Reads (readRecord name bound (slots.map Slot.field) empty complete) t a := by
  obtain ⟨others, members, hothers, hperm, hobject⟩ := ht
  rw [List.map_map] at hothers
  obtain ⟨order, horder, hfills⟩ :=
    h.fills hperm (fun slot hslot => ⟨hslot, hempty slot hslot⟩) h.nodup hothers
  have hsame : order.foldl (fun s slot => slot.put s) empty =
      slots.foldl (fun s slot => slot.put s) empty :=
    horder.foldl_eq' (fun slot hslot other hother s =>
      h.put_put other (horder.subset hother) slot (horder.subset hslot) s) empty
  exact reads_object hobject hfills (hsame ▸ hcomplete) hbound

/-- An object with the members of a record and no others is a writing of the record. -/
theorem ObjectText.record {known : List Member} {t : Bytes} (h : ObjectText known t) :
    RecordText known t :=
  ⟨[], known, fun m hm => absurd hm (by simp), by simp, h⟩

/-- A record is longer than the values in it. -/
theorem RecordText.length_lt {known : List Member} {t : Bytes} (h : RecordText known t) :
    ∀ m ∈ known, m.value.length < t.length := by
  obtain ⟨others, members, -, hperm, texts, htexts, hobject⟩ := h
  intro m hm
  have hmem : m ∈ members := hperm.symm.subset (List.mem_append_left others hm)
  obtain ⟨text, htext, hwritten⟩ : ∃ text ∈ texts, MemberText m text :=
    exists_of_mem_right htexts.flip hmem
  exact Nat.lt_trans hwritten.length_lt (hobject.length_lt text htext)

/-- A record of one field. -/
theorem reads_single (name : String) {field : String} {item : Reader α} {v t : Bytes} {a : α}
    {bound : Nat} (ht : RecordText [⟨field, v⟩] t) (ha : Reads item v a)
    (hbound : t.length ≤ bound + 1) :
    Reads (readSingle name bound field item) t a := by
  have hslots : Slots [⟨onlyField field item, v, fun _ => some a⟩] := by
    refine ⟨by simp, ?_, ?_, ?_⟩ <;> simp only [List.forall_mem_singleton]
    · exact fun _ => ha.map some
    · exact fun hne => absurd rfl hne
    · exact fun _ => trivial
  exact reads_record hslots ht (by simp [onlyField]) (by rfl) hbound

/-- A record of two fields. -/
theorem reads_pair (name : String) {field₁ field₂ : String} (hne : field₁ ≠ field₂)
    {item₁ : Reader α} {item₂ : Reader β} {v₁ v₂ t : Bytes} {a : α} {b : β} {bound : Nat}
    (ht : RecordText [⟨field₁, v₁⟩, ⟨field₂, v₂⟩] t) (ha : Reads item₁ v₁ a) (hb : Reads item₂ v₂ b)
    (hbound : t.length ≤ bound + 1) :
    Reads (readPair name bound field₁ item₁ field₂ item₂) t (a, b) := by
  have hslots : Slots [⟨firstField field₁ item₁, v₁, fun s => (some a, s.2)⟩,
      ⟨secondField field₂ item₂, v₂, fun s => (s.1, some b)⟩] := by
    refine ⟨by simpa [firstField, secondField] using hne, ?_, ?_, ?_⟩ <;>
      simp only [List.forall_mem_cons, List.not_mem_nil, false_imp_iff, implies_true, and_true]
    · exact ⟨fun s => ha.map fun a => (some a, s.2), fun s => hb.map fun b => (s.1, some b)⟩
    · exact ⟨⟨fun h => absurd rfl h, fun _ _ => rfl⟩, fun _ _ => rfl, fun h => absurd rfl h⟩
  exact reads_record hslots ht (by simp [firstField, secondField]) (by rfl) hbound

/-! ## Choices -/

/-- A tag is read with its content. -/
theorem reads_choice {τ : Type} {choices : List (String × τ)} {content : τ → Reader α}
    {bare : τ → Except Fault α} {tag : String} {choice : τ} {v t : Bytes} {a : α}
    (ht : ObjectText [⟨tag, v⟩] t) (htag : choiceOf choices tag = .ok choice)
    (ha : Reads (content choice) v a) : Reads (readChoice choices content bare) t a := by
  obtain ⟨texts, htexts, hobject⟩ := ht
  obtain ⟨text, texts', htext, hnil, rfl⟩ := List.forall₂_cons_left_iff.mp htexts
  rw [List.forall₂_nil_left_iff] at hnil
  subst hnil
  obtain ⟨key, hkey, gap, gap', hgap, hgap', rfl⟩ := htext
  obtain ⟨body, rfl, hread⟩ := readText_quoted hkey
  have hbrace : isBlankByte openBrace = false := by decide
  cases hobject with
  | @some _ inner hinner =>
    cases hinner with
    | more _ _ hnil => cases hnil
    | @last before _ after hbefore hafter =>
      refine ⟨starts_cons hbrace (by decide) _, fun before' rest hbefore' hrest => ?_⟩
      have hclose : Delimited (closeBrace :: rest) := delimited_cons (by decide) rest
      have hcontent := ha.reads gap' _ hgap' (hclose.append hafter)
      have hend := skipBlanks_append_cons hafter (by decide : isBlankByte closeBrace = false) rest
      have htagged : moreMembers true (before ++ quoteMark ::
          (body ++ (gap ++ colonMark :: (gap' ++ (v ++ (after ++ closeBrace :: rest)))))) =
            .ok (true, _) := moreMembers_lead Lead.first hbefore _
      simp only [List.cons_append, List.append_assoc, List.nil_append]
      simp only [readChoice, skipBlanks_append_cons hbefore' hbrace, if_true, readTagged, htagged,
        hread, bind, Except.bind, htag, readColon_append hgap, hcontent, hend]

end MutantHunt.Json
