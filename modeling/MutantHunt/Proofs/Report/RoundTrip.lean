import MutantHunt.Proofs.Json.Records
import MutantHunt.Proofs.Json.Written
import MutantHunt.Report.Stored

/-!
# Reports survive the trip through JSON

A report is written by one pair of functions and read by another, so nothing but their agreement on
names, tags and escapes makes what was stored readable again. The two sides meet in the grammar:
both written forms of `Report.value` write it (`writes_pretty`, `writes_compact`), and the reader
takes every writing of it for the report (`reads_report`), in whatever layout.

A report that cannot be read is shown as if there were none, so a disagreement would not even be
reported as a failure.

## Main results

* `reads_report`: every writing of a report is read as this report.
* `survives_json`: both written forms are read back, and a stored report is the one that is loaded.
-/

namespace MutantHunt

open Json

/-! ## The parts of a report -/

theorem reads_verdict {v : Verdict} {t : Bytes} (h : Writes (.text v.name) t) :
    Reads readVerdict t v := by
  cases h with
  | text h => exact reads_bareChoice h (by cases v <;> rfl)

theorem reads_mutant {m : MutantId} {t : Bytes} (h : Writes (mutantValue m) t) :
    Reads readMutant t m := by
  cases h with
  | natural =>
    have hread := (reads_word (by decide) m.toNat_lt).map UInt32.ofNat
    rwa [UInt32.ofNat_toNat] at hread

/-- A list whose items are written one by one is read if they are. -/
theorem reads_values {α : Type} {item : Reader α} {value : α → Value} {as : List α} {t : Bytes}
    {bound : Nat} (h : Writes (.list (as.map value)) t) (hbound : t.length ≤ bound)
    (hread : ∀ a u, Writes (value a) u → u.length ≤ bound → Reads item u a) :
    Reads (readList bound item) t as := by
  cases h with
  | list hitems hlist =>
    rw [List.forall₂_map_left_iff] at hitems
    exact reads_list hlist hitems (fun a u hu hlt => hread a u hu (by omega)) hbound

theorem reads_killedMutant {kill : KilledMutant} {t : Bytes} (h : Writes kill.value t) {bound : Nat}
    (hbound : t.length ≤ bound) : Reads (readKilledMutant bound) t kill := by
  obtain ⟨v, w, hmutant, hverdict, hobject⟩ := Writes.pair h
  have hpair := reads_pair "KilledMutant" (by decide) hobject.record (reads_mutant hmutant)
    (reads_verdict hverdict) (Nat.le_succ_of_le hbound)
  exact hpair.map _

theorem reads_reducedKill {group : ReducedKill} {t : Bytes} (h : Writes group.value t) {bound : Nat}
    (hbound : t.length ≤ bound) : Reads (readReducedKill bound) t group := by
  obtain ⟨v, w, hmutants, hpath, hobject⟩ := Writes.pair h
  have hlt := hobject.record.length_lt ⟨"mutants", v⟩ (by simp)
  have hlist := reads_values hmutants (Nat.le_of_lt (Nat.lt_of_lt_of_le hlt hbound))
    fun m u hu _ => reads_mutant hu
  have htext : Reads (readString .path) w group.path := by
    cases hpath with
    | text hpath => exact reads_string hpath .path
  have hpair := reads_pair "ReducedKill" (by decide) hobject.record hlist htext
    (Nat.le_succ_of_le hbound)
  exact hpair.map _

/-! ## The report -/

theorem reads_countField (name : String) (get : ReportDraft → Option UInt64)
    (set : ReportDraft → UInt64 → ReportDraft) (n : UInt64) (draft : ReportDraft) :
    Reads ((ReportDraft.countField name get set).read draft) (numeral n.toNat) (set draft n) := by
  have hread := (reads_word (by decide) n.toNat_lt).map fun k => set draft (UInt64.ofNat k)
  rwa [UInt64.ofNat_toNat] at hread

namespace Report

variable {report : Report}

/-- The fields of a report with its values, of which the lists are written as `kills` and
`reduced`. -/
def slots (report : Report) (bound : Nat) (kills reduced : Bytes) : List (Slot ReportDraft) :=
  List.zipWith (fun field (valueAndPut : Bytes × (ReportDraft → ReportDraft)) =>
      ⟨field, valueAndPut.1, valueAndPut.2⟩)
    (ReportDraft.fields bound)
    [(numeral report.total.toNat, fun draft => { draft with total := some report.total }),
      (numeral report.killed.toNat, fun draft => { draft with killed := some report.killed }),
      (numeral report.unkilled.toNat, fun draft => { draft with unkilled := some report.unkilled }),
      (numeral report.round.toNat, fun draft => { draft with round := some report.round }),
      (numeral report.programs.toNat, fun draft => { draft with programs := some report.programs }),
      (kills, fun draft => { draft with kills := some report.kills }),
      (reduced, fun draft => { draft with reduced := some report.reduced })]

theorem slots_fit (report : Report) {bound : Nat} {kills reduced : Bytes}
    (hkills : Reads (readList bound (readKilledMutant bound)) kills report.kills)
    (hreduced : Reads (readList bound (readReducedKill bound)) reduced report.reduced) :
    Slots (report.slots bound kills reduced) where
  nodup := by
    show ["total", "killed", "unkilled", "round", "programs", "kills", "reduced"].Nodup
    decide
  reads := by
    have hround (draft : ReportDraft) :
        Reads ((fun n => { draft with round := some (UInt32.ofNat n) }) <$> readWord 32)
          (numeral report.round.toNat) { draft with round := some report.round } := by
      have hread := (reads_word (by decide) report.round.toNat_lt).map fun n =>
        ({ draft with round := some (UInt32.ofNat n) } : ReportDraft)
      rwa [UInt32.ofNat_toNat] at hread
    simp only [slots, ReportDraft.fields, List.zipWith_cons_cons, List.zipWith_nil_left,
      List.forall_mem_cons]
    exact ⟨reads_countField _ _ _ _, reads_countField _ _ _ _, reads_countField _ _ _ _, hround,
      reads_countField _ _ _ _, fun draft => hkills.map _, fun draft => hreduced.map _,
      fun slot hslot => absurd hslot (by simp)⟩
  isGiven_put := by
    intro slot hslot other hother hne s
    simp only [slots, ReportDraft.fields, List.zipWith_cons_cons, List.zipWith_nil_left,
      List.mem_cons, List.not_mem_nil, or_false] at hslot hother
    rcases hslot with rfl | rfl | rfl | rfl | rfl | rfl | rfl <;>
      rcases hother with rfl | rfl | rfl | rfl | rfl | rfl | rfl <;>
        first | exact absurd rfl hne | rfl
  put_put := by
    intro slot hslot other hother s
    simp only [slots, ReportDraft.fields, List.zipWith_cons_cons, List.zipWith_nil_left,
      List.mem_cons, List.not_mem_nil, or_false] at hslot hother
    rcases hslot with rfl | rfl | rfl | rfl | rfl | rfl | rfl <;>
      rcases hother with rfl | rfl | rfl | rfl | rfl | rfl | rfl <;> rfl

/-- Every writing of a report is read as this report. -/
theorem reads_report {t : Bytes} (h : Writes report.value t) {bound : Nat}
    (hbound : t.length ≤ bound) : Reads (readReport bound) t report := by
  cases h with
  | object hvalues hobject =>
    obtain ⟨_, _, ⟨⟩, hkilled, rfl⟩ := List.forall₂_cons_left_iff.mp hvalues
    obtain ⟨_, _, ⟨⟩, hunkilled, rfl⟩ := List.forall₂_cons_left_iff.mp hkilled
    obtain ⟨_, _, ⟨⟩, hround, rfl⟩ := List.forall₂_cons_left_iff.mp hunkilled
    obtain ⟨_, _, ⟨⟩, hprograms, rfl⟩ := List.forall₂_cons_left_iff.mp hround
    obtain ⟨_, _, ⟨⟩, hlists, rfl⟩ := List.forall₂_cons_left_iff.mp hprograms
    obtain ⟨kills, _, hkills, hlast, rfl⟩ := List.forall₂_cons_left_iff.mp hlists
    obtain ⟨reduced, _, hreduced, hnil, rfl⟩ := List.forall₂_cons_left_iff.mp hlast
    rw [List.map_nil, List.forall₂_nil_left_iff] at hnil
    subst hnil
    have hrecord : RecordText ((report.slots bound kills reduced).map Slot.member) t :=
      ObjectText.record hobject
    have hkillsLength : kills.length < t.length :=
      hrecord.length_lt ⟨"kills", kills⟩ (by simp [slots, ReportDraft.fields, Slot.member])
    have hreducedLength : reduced.length < t.length :=
      hrecord.length_lt ⟨"reduced", reduced⟩ (by simp [slots, ReportDraft.fields, Slot.member])
    have hkillsRead : Reads (readList bound (readKilledMutant bound)) kills report.kills :=
      reads_values hkills (by omega) fun kill u hu hlt => reads_killedMutant hu hlt
    have hreducedRead : Reads (readList bound (readReducedKill bound)) reduced report.reduced :=
      reads_values hreduced (by omega) fun group u hu hlt => reads_reducedKill hu hlt
    have hopen : ∀ slot ∈ report.slots bound kills reduced,
        slot.field.isGiven ({} : ReportDraft) = false := by
      simp [slots, ReportDraft.fields, ReportDraft.countField]
    have hcomplete : ReportDraft.complete
        ((report.slots bound kills reduced).foldl (fun s slot => slot.put s) {}) = .ok report := rfl
    exact reads_record (slots_fit report hkillsRead hreducedRead) hrecord hopen hcomplete
      (Nat.le_succ_of_le hbound)

/-- A text that writes a report is read as this report. -/
theorem ofJson_of_writes {text : String} (h : Writes report.value (Text.encode text)) :
    ofJson text = .ok report := by
  have hdocument := readDocument_eq_ok (reads_report h (Nat.le_refl _)) blanks_nil blanks_nil
  rwa [List.nil_append, List.append_nil] at hdocument

theorem ofJson_stored (report : Report) : ofJson report.stored = .ok report :=
  ofJson_of_writes (writes_pretty report.value)

theorem ofJson_compact (report : Report) : ofJson report.compact = .ok report :=
  ofJson_of_writes (writes_compact report.value)

end Report

/-! ## Stored reports -/

/-- Written in this state, the file at a path reads as what was written to it. -/
def Host.Retains {σ : Type} (host : Host σ) (path : String) (s : σ) : Prop :=
  ∀ bytes s', host.write path bytes s = (.ok (), s') → ∃ s'', host.read path s' = (.ok bytes, s'')

namespace Report

/-- What a report is after any trip through JSON: the same. -/
structure SurvivesJson (report : Report) : Prop where
  /-- The form that is stored is read as the report. -/
  stored : ofJson report.stored = .ok report
  /-- The form that is shown to programs is read as the report. -/
  compact : ofJson report.compact = .ok report
  /-- A report that was stored is the one that is loaded. -/
  load_store : ∀ {σ : Type} (host : Host σ) (directory : String) (s s' : σ),
    host.Retains (pathIn directory) s → store host directory report s = (.ok (), s') →
      ∃ s'', load host directory s' = (.ok (some report), s'')
  /-- To store what was loaded is to store the same again. -/
  store_load : ∀ {σ : Type} (host : Host σ) (directory : String) (s s' s'' : σ) (loaded : Report),
    host.Retains (pathIn directory) s → store host directory report s = (.ok (), s') →
      load host directory s' = (.ok (some loaded), s'') →
        store host directory loaded = store host directory report

theorem ofBytes?_stored (report : Report) : ofBytes? (Text.encode report.stored) = some report := by
  rw [ofBytes?, Text.decode?_encode, Option.bind_some, ofJson_stored]
  rfl

theorem load_of_retains {σ : Type} {host : Host σ} {directory : String} {s s' : σ}
    (hretains : host.Retains (pathIn directory) s)
    (hstore : store host directory report s = (.ok (), s')) :
    ∃ s'', load host directory s' = (.ok (some report), s'') := by
  obtain ⟨s'', hread⟩ := hretains _ s' hstore
  refine ⟨s'', ?_⟩
  simp only [load, hread, ofBytes?_stored]

/-- Reports survive the trip through JSON, in both forms and through the file they are stored in. -/
theorem survives_json (report : Report) : report.SurvivesJson where
  stored := ofJson_stored report
  compact := ofJson_compact report
  load_store _ _ _ _ hretains hstore := load_of_retains hretains hstore
  store_load host directory s s' s'' loaded hretains hstore hload := by
    obtain ⟨t, hsame⟩ := load_of_retains hretains hstore
    have heq : loaded = report := by
      rw [hsame] at hload
      exact (Option.some.inj (Except.ok.inj (Prod.ext_iff.mp hload).1)).symm
    rw [heq]

/-- A report with the largest numbers there are, and a path that needs every kind of escape. -/
def awkward : Report where
  total := 18446744073709551615
  killed := 1
  unkilled := 18446744073709551614
  round := 4294967295
  programs := 18446744073709551615
  kills := [⟨4294967295, .miscompilationKill⟩, ⟨0, .noEffect⟩]
  reduced := [⟨[4294967295, 0], "\"out\"\\\x01\né😀.c"⟩, ⟨[], ""⟩]

/-- A machine that is nothing but its files. -/
def filesOnly : Host (String → List UInt8) where
  runWithin _ _ _ := Act.throw .notPermitted
  run _ := Act.throw .notPermitted
  read path := fun files => (.ok (files path), files)
  write path content := Act.modify fun files => Function.update files path content
  copy _ _ := Act.throw .notPermitted
  remove _ := Act.throw .notPermitted
  createDirectories _ := Act.throw .notPermitted
  makeExecutable _ := Act.throw .notPermitted

theorem survives_json_awkward :
    filesOnly.Retains (pathIn "out") (fun _ => []) ∧
      ∃ files, store filesOnly "out" awkward (fun _ => []) = (.ok (), files) ∧
        ∃ files', load filesOnly "out" files = (.ok (some awkward), files') ∧
          store filesOnly "out" awkward files = (.ok (), files) := by
  have hretains : filesOnly.Retains (pathIn "out") (fun _ => []) := by
    intro bytes files hwrite
    have hfiles : files = Function.update (fun _ => []) (pathIn "out") bytes :=
      (congrArg Prod.snd hwrite).symm
    refine ⟨files, ?_⟩
    rw [hfiles]
    show (Except.ok (Function.update _ _ _ _), _) = _
    rw [Function.update_self]
  refine ⟨hretains, _, rfl, ?_⟩
  obtain ⟨files', hload⟩ := (survives_json awkward).load_store filesOnly "out" _ _ hretains rfl
  refine ⟨files', hload, ?_⟩
  show (Except.ok (), Function.update (Function.update _ _ _) _ _) = _
  rw [Function.update_idem]

end Report

end MutantHunt
