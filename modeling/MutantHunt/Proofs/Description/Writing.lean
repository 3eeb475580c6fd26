import MutantHunt.Proofs.Json.Records
import MutantHunt.Proofs.Json.Written
import MutantHunt.Proofs.Tree.Build

/-!
# Every writing of a description loads as that description

`Description.WrittenAs` says that a text writes a description: what is an object for the reader is
an object with the fields of a record in any order and other members among them, except for a group,
of which the tag is the only member. The relations follow the description from the mutants up, one
for each kind of thing in it.

A node is read with a bound on the length of the text that is left, which falls by one with each
level. As a node stands inside the brackets of the node around it, its text is shorter by more than
that, so the bound is never what ends the reading, however deep the nodes nest (`reads_node`).

## Main results

* `reads_node`: every writing of a node is read as this node, with all nodes below it.
* `Description.exists_writing`: every description is written by some text, whatever its depth.
* `Tree.ofJson_writing`: every writing of a description gives the tree of the description, or is
  malformed if the description has no tree.
-/

namespace MutantHunt

open Json

/-! ## Writings -/

/-- One instance of a rewrite. -/
def InstanceText (m : MutantId) (t : Bytes) : Prop :=
  RecordText [⟨"mutationId", numeral m.toNat⟩] t

/-- The instances of a group. -/
def InstancesText (ms : List MutantId) (t : Bytes) : Prop :=
  ∃ texts list, List.Forall₂ InstanceText ms texts ∧ ListText texts list ∧
    RecordText [⟨"instances", list⟩] t

namespace MutationGroup

/-- The tag a group is written with. -/
def tag : MutationGroup → String
  | replaceExpr _ => "replaceExpr"
  | replaceBinaryOperator _ => "replaceBinaryOperator"
  | replaceUnaryOperator _ => "replaceUnaryOperator"
  | removeStmt _ => "removeStmt"

/-- What a group has behind its tag: one instance for a removal, a list of them otherwise. -/
def ContentText : MutationGroup → Bytes → Prop
  | replaceExpr ms | replaceBinaryOperator ms | replaceUnaryOperator ms => InstancesText ms
  | removeStmt m => InstanceText m

end MutationGroup

/-- A group, as an object with its tag as the only member. -/
def GroupText (g : MutationGroup) (t : Bytes) : Prop :=
  ∃ content, g.ContentText content ∧ ObjectText [⟨g.tag, content⟩] t

/-- A node with all nodes below it. -/
inductive NodeText : NodeDescription → Bytes → Prop
  | mk {children : List NodeDescription} {groups : List MutationGroup}
    {childTexts groupTexts : List Bytes} {childList groupList t : Bytes} :
    List.Forall₂ NodeText children childTexts → ListText childTexts childList →
      List.Forall₂ GroupText groups groupTexts → ListText groupTexts groupList →
        RecordText [⟨"children", childList⟩, ⟨"mutationGroups", groupList⟩] t →
          NodeText (.mk children groups) t

/-- What is written for one source file. -/
def FileText (root : NodeDescription) (t : Bytes) : Prop :=
  ∃ node, NodeText root node ∧ RecordText [⟨"mutationTreeRoot", node⟩] t

/-- A description. -/
def DescriptionText (d : Description) (t : Bytes) : Prop :=
  ∃ texts list, List.Forall₂ FileText d.files texts ∧ ListText texts list ∧
    RecordText [⟨"infoForFiles", list⟩] t

/-- The text writes the description, with blanks before and behind. -/
def Description.WrittenAs (d : Description) (text : String) : Prop :=
  ∃ before t after, Blanks before ∧ Blanks after ∧ DescriptionText d t ∧
    Text.encode text = before ++ (t ++ after)

theorem DescriptionText.writtenAs {d : Description} {text : String}
    (h : DescriptionText d (Text.encode text)) : d.WrittenAs text :=
  ⟨[], Text.encode text, [], blanks_nil, blanks_nil, h, by simp⟩

/-! ## Reading them -/

variable {bound : Nat} {t : Bytes}

theorem reads_instance {m : MutantId} (h : InstanceText m t) (hbound : t.length ≤ bound) :
    Reads (readInstance bound) t m := by
  have hword : Reads (readWord 32) (numeral m.toNat) m.toNat := reads_word (by decide) m.toNat_lt
  have hsingle := reads_single "MutationInstance" h hword (Nat.le_succ_of_le hbound)
  have hread := hsingle.map UInt32.ofNat
  rwa [UInt32.ofNat_toNat] at hread

theorem reads_instances {ms : List MutantId} (h : InstancesText ms t) (hbound : t.length ≤ bound) :
    Reads (readInstances bound) t ms := by
  obtain ⟨texts, list, hms, hlist, hrecord⟩ := h
  have hlt : list.length < t.length := hrecord.length_lt ⟨"instances", list⟩ (by simp)
  have hread : Reads (readList bound (readInstance bound)) list ms :=
    reads_list hlist hms (fun m u hu hshort => reads_instance hu (by omega)) (by omega)
  exact reads_single "MutationInstances" hrecord hread (Nat.le_succ_of_le hbound)

/-- The kind of a group. -/
def MutationGroup.kind : MutationGroup → GroupKind
  | replaceExpr _ => .replaceExpr
  | replaceBinaryOperator _ => .replaceBinaryOperator
  | replaceUnaryOperator _ => .replaceUnaryOperator
  | removeStmt _ => .removeStmt

theorem choiceOf_tag (g : MutationGroup) : choiceOf GroupKind.tags g.tag = .ok g.kind := by
  cases g <;> rfl

theorem reads_content {g : MutationGroup} (h : g.ContentText t) (hbound : t.length ≤ bound) :
    Reads (readGroupOf bound g.kind) t g := by
  cases g with
  | replaceExpr | replaceBinaryOperator | replaceUnaryOperator =>
    exact (reads_instances h hbound).map _
  | removeStmt => exact (reads_instance h hbound).map _

theorem reads_group {g : MutationGroup} (h : GroupText g t) (hbound : t.length ≤ bound) :
    Reads (readGroup bound) t g := by
  obtain ⟨content, hcontent, hobject⟩ := h
  have hlt : content.length < t.length := hobject.record.length_lt ⟨g.tag, content⟩ (by simp)
  exact reads_choice hobject (choiceOf_tag g) (reads_content hcontent (by omega))

/-- Every writing of a node is read as this node. -/
theorem reads_node {node : NodeDescription} (h : NodeText node t) (hbound : t.length ≤ bound) :
    Reads (readNode bound) t node := by
  -- along the bound: the children stand inside brackets, so they leave room for the next level
  induction bound generalizing node t with
  | zero =>
    cases h with
    | mk _ _ _ _ hrecord =>
      have hlt := hrecord.length_lt _ (List.mem_cons_self ..)
      omega
  | succ n ih =>
    cases h with
    | @mk children groups childTexts groupTexts childList groupList _ hchildren hchildList hgroups
        hgroupList hrecord =>
      have hchildLength : childList.length < t.length :=
        hrecord.length_lt ⟨"children", childList⟩ (by simp)
      have hgroupLength : groupList.length < t.length :=
        hrecord.length_lt ⟨"mutationGroups", groupList⟩ (by simp)
      have hchildrenRead : Reads (readList n (readNode n)) childList children :=
        reads_list hchildList hchildren (fun child u hu hshort => ih hu (by omega)) (by omega)
      have hgroupsRead : Reads (readList n (readGroup n)) groupList groups :=
        reads_list hgroupList hgroups (fun g u hu hshort => reads_group hu (by omega)) (by omega)
      have hpair :=
        reads_pair "NodeDescription" (by decide) hrecord hchildrenRead hgroupsRead hbound
      exact hpair.map _

theorem reads_file {root : NodeDescription} (h : FileText root t) (hbound : t.length ≤ bound) :
    Reads (readFile bound) t root := by
  obtain ⟨node, hnode, hrecord⟩ := h
  have hlt : node.length < t.length := hrecord.length_lt ⟨"mutationTreeRoot", node⟩ (by simp)
  exact reads_single "FileInfo" hrecord (reads_node hnode (by omega)) (Nat.le_succ_of_le hbound)

theorem reads_description {d : Description} (h : DescriptionText d t) (hbound : t.length ≤ bound) :
    Reads (readDescription bound) t d := by
  obtain ⟨texts, list, hfiles, hlist, hrecord⟩ := h
  have hlt : list.length < t.length := hrecord.length_lt ⟨"infoForFiles", list⟩ (by simp)
  have hread : Reads (readList bound (readFile bound)) list d.files :=
    reads_list hlist hfiles (fun root u hu hshort => reads_file hu (by omega)) (by omega)
  exact (reads_single "MutationInfo" hrecord hread (Nat.le_succ_of_le hbound)).map Description.mk

/-- Every writing of a description is read as this description. -/
theorem Description.ofBytes_of_writtenAs {d : Description} {text : String} (h : d.WrittenAs text) :
    Description.ofBytes (Text.encode text) = .ok d := by
  obtain ⟨before, t, after, hbefore, hafter, hd, htext⟩ := h
  have hlength : t.length ≤ (Text.encode text).length := by
    rw [htext, List.length_append, List.length_append]
    omega
  have hdocument := readDocument_eq_ok (reads_description hd hlength) hbefore hafter
  rw [← htext] at hdocument
  rw [Description.ofBytes, hdocument]

/-! ## Descriptions as values -/

/-- One instance of a rewrite, as JSON. -/
def instanceValue (m : MutantId) : Value :=
  .object [("mutationId", .natural m.toNat)]

/-- The instances of a group, as JSON. -/
def instancesValue (ms : List MutantId) : Value :=
  .object [("instances", .list (ms.map instanceValue))]

namespace MutationGroup

/-- What a group has behind its tag, as JSON. -/
def content : MutationGroup → Value
  | replaceExpr ms | replaceBinaryOperator ms | replaceUnaryOperator ms => instancesValue ms
  | removeStmt m => instanceValue m

/-- A group, as JSON. -/
def value (g : MutationGroup) : Value :=
  .object [(g.tag, g.content)]

end MutationGroup

namespace NodeDescription

mutual

/-- A node with all nodes below it, as JSON. -/
def value : NodeDescription → Value
  | mk children groups =>
    .object [("children", .list (valuesOfForest children)),
      ("mutationGroups", .list (groups.map MutationGroup.value))]

/-- Several nodes, as JSON. -/
def valuesOfForest : List NodeDescription → List Value
  | [] => []
  | node :: rest => value node :: valuesOfForest rest

end

end NodeDescription

/-- A description, as JSON. -/
def Description.value (d : Description) : Value :=
  .object [("infoForFiles",
    .list (d.files.map fun root => .object [("mutationTreeRoot", root.value)]))]

theorem instanceText_of_writes {m : MutantId} (h : Writes (instanceValue m) t) :
    InstanceText m t := by
  obtain ⟨v, hv, hobject⟩ := Writes.single h
  cases hv
  exact hobject.record

theorem instancesText_of_writes {ms : List MutantId} (h : Writes (instancesValue ms) t) :
    InstancesText ms t := by
  obtain ⟨v, hv, hobject⟩ := Writes.single h
  cases hv with
  | list hitems hlist =>
    rw [List.forall₂_map_left_iff] at hitems
    exact ⟨_, v, hitems.imp fun _ _ => instanceText_of_writes, hlist, hobject.record⟩

theorem groupText_of_writes {g : MutationGroup} (h : Writes g.value t) : GroupText g t := by
  obtain ⟨content, hcontent, hobject⟩ := Writes.single h
  refine ⟨content, ?_, hobject⟩
  cases g with
  | replaceExpr | replaceBinaryOperator | replaceUnaryOperator =>
    exact instancesText_of_writes hcontent
  | removeStmt => exact instanceText_of_writes hcontent

theorem groupTexts_of_writes (groups : List MutationGroup) {texts : List Bytes}
    (h : List.Forall₂ Writes (groups.map MutationGroup.value) texts) :
    List.Forall₂ GroupText groups texts :=
  (List.forall₂_map_left_iff.mp h).imp fun _ _ => groupText_of_writes

mutual

theorem nodeText_of_writes : ∀ (node : NodeDescription) {t : Bytes},
    Writes node.value t → NodeText node t
  | .mk children groups, t, h => by
    rw [NodeDescription.value] at h
    obtain ⟨v, w, hv, hw, hobject⟩ := Writes.pair h
    cases hv with
    | list hchildren hchildList =>
      cases hw with
      | list hgroups hgroupList =>
        exact .mk (nodeTexts_of_writes children hchildren) hchildList
          (groupTexts_of_writes groups hgroups) hgroupList hobject.record

theorem nodeTexts_of_writes : ∀ (forest : List NodeDescription) {texts : List Bytes},
    List.Forall₂ Writes (NodeDescription.valuesOfForest forest) texts →
      List.Forall₂ NodeText forest texts
  | [], texts, h => by
    rw [NodeDescription.valuesOfForest, List.forall₂_nil_left_iff] at h
    exact h ▸ .nil
  | node :: rest, texts, h => by
    rw [NodeDescription.valuesOfForest] at h
    obtain ⟨u, texts', hu, htexts, rfl⟩ := List.forall₂_cons_left_iff.mp h
    exact .cons (nodeText_of_writes node hu) (nodeTexts_of_writes rest htexts)

end

/-- Every description is written by some text. -/
theorem Description.exists_writing (d : Description) : ∃ text, d.WrittenAs text := by
  refine ⟨d.value.compact, DescriptionText.writtenAs ?_⟩
  obtain ⟨v, hv, hobject⟩ := Writes.single (writes_compact d.value)
  cases hv with
  | list hfiles hlist =>
    rw [List.forall₂_map_left_iff] at hfiles
    refine ⟨_, v, hfiles.imp fun root u hu => ?_, hlist, hobject.record⟩
    obtain ⟨node, hnode, hfile⟩ := Writes.single hu
    exact ⟨node, nodeText_of_writes root hnode, hfile.record⟩

/-! ## The tree of a writing -/

/-- A description without a tree is malformed, whatever else is wrong with it. -/
theorem Tree.malformed_of_ofDescription_eq_error {d : Description} {e : TreeError}
    (h : Tree.ofDescription d = .error e) : ∃ why, e = .malformedDescription why := by
  simp only [Tree.ofDescription, Tree.ofDescriptionBy] at h
  split at h
  · exact ⟨_, (Except.error.inj h).symm⟩
  · split at h
    · cases h
    · exact ⟨_, (Except.error.inj h).symm⟩

/-- There is a writing of every description, and every writing of it gives its tree, or is malformed
if it has none. -/
theorem Tree.ofJson_writing (d : Description) :
    (∃ text, d.WrittenAs text) ∧ ∀ text, d.WrittenAs text →
      (∀ tree, Tree.ofDescription d = .ok tree → Tree.ofJson text = .ok tree) ∧
        ∀ e, Tree.ofDescription d = .error e →
          ∃ why, Tree.ofJson text = .error (.malformedDescription why) := by
  refine ⟨d.exists_writing, fun text h => ?_⟩
  have hload : Tree.ofJson text = Tree.ofDescription d := by
    rw [Tree.ofJson, Tree.ofBytes, Description.ofBytes_of_writtenAs h]
    rfl
  refine ⟨fun tree htree => hload.trans htree, fun e he => ?_⟩
  obtain ⟨why, rfl⟩ := Tree.malformed_of_ofDescription_eq_error he
  exact ⟨why, hload.trans he⟩

/-- The two files as JSON, with the members of the outermost node turned around, and with a member
that nobody asks for. -/
def twoFilesValue : Value :=
  .object [("note", .text "two files"),
    ("infoForFiles", .list
      [.object [("mutationTreeRoot", .object
        [("mutationGroups", .list [(MutationGroup.removeStmt 0).value]),
          ("children", .list [(NodeDescription.mk [] [.removeStmt 1]).value])])],
        .object [("mutationTreeRoot", (NodeDescription.mk [] [.removeStmt 2]).value)]])]

theorem twoFiles_writtenAs : Tree.twoFilesDescription.WrittenAs twoFilesValue.pretty := by
  obtain ⟨note, list, hnote, hlist, hobject⟩ := Writes.pair (writes_pretty twoFilesValue)
  cases hnote with
  | text hnote =>
    cases hlist with
    | list hfiles hlist =>
      obtain ⟨file₁, _, hfile₁, hrest, rfl⟩ := List.forall₂_cons_left_iff.mp hfiles
      obtain ⟨file₂, _, hfile₂, hnil, rfl⟩ := List.forall₂_cons_left_iff.mp hrest
      rw [List.forall₂_nil_left_iff] at hnil
      subst hnil
      obtain ⟨root₁, hroot₁, hfile₁⟩ := Writes.single hfile₁
      obtain ⟨root₂, hroot₂, hfile₂⟩ := Writes.single hfile₂
      obtain ⟨groups, children, hgroups, hchildren, hnode⟩ := Writes.pair hroot₁
      cases hgroups with
      | list hgroups hgroupList =>
        cases hchildren with
        | list hchildren hchildList =>
          have hroot : NodeText (.mk [.mk [] [.removeStmt 1]] [.removeStmt 0]) root₁ :=
            .mk (nodeTexts_of_writes [.mk [] [.removeStmt 1]] hchildren) hchildList
              (groupTexts_of_writes [.removeStmt 0] hgroups) hgroupList
              ⟨[], _, by simp, List.Perm.swap _ _ _, hnode⟩
          have hnote' : IsValue note := .string hnote.literal
          refine DescriptionText.writtenAs ⟨_, list, ?_, hlist, ?_⟩
          · exact .cons ⟨root₁, hroot, hfile₁.record⟩
              (.cons ⟨root₂, nodeText_of_writes _ hroot₂, hfile₂.record⟩ .nil)
          · exact ⟨[⟨"note", note⟩], _, by simp [hnote'], List.Perm.swap _ _ _, hobject⟩

/-- One file whose only mutant is not mutant 0. -/
def gapDescription : Description :=
  ⟨[.mk [] [.removeStmt 1]]⟩

theorem ofDescription_gapDescription :
    Tree.ofDescription gapDescription = .error (.malformedDescription (.sparse 1 1)) := by
  have hfresh : firstRepeated {}
      ((Layout.plantForest none {} gapDescription.files).1.entries.map Prod.fst) = none :=
    (firstRepeated_eq_none_iff _ _).mpr ⟨by decide, by simp⟩
  simp only [Tree.ofDescription, Tree.ofDescriptionBy, hfresh]
  rfl

theorem Tree.ofJson_writing_twoFiles :
    twoFilesDescription.WrittenAs twoFilesValue.pretty ∧
      ofDescription twoFilesDescription = .ok twoFiles ∧
      ofJson twoFilesValue.pretty = .ok twoFiles ∧
        ∃ text, gapDescription.WrittenAs text ∧
          ∃ why, ofJson text = .error (.malformedDescription why) := by
  obtain ⟨text, htext⟩ := (Tree.ofJson_writing gapDescription).1
  refine ⟨twoFiles_writtenAs, ofDescriptionBy_twoFiles, ?_, text, htext, ?_⟩
  · have hwriting := (Tree.ofJson_writing twoFilesDescription).2 _ twoFiles_writtenAs
    exact hwriting.1 twoFiles ofDescriptionBy_twoFiles
  · exact ((Tree.ofJson_writing gapDescription).2 text htext).2 _ ofDescription_gapDescription

end MutantHunt
