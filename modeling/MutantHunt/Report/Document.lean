import MutantHunt.Json.Decode
import MutantHunt.Json.Value
import MutantHunt.Path
import MutantHunt.Report

/-!
# The JSON of a report

`Report.value` is a report as JSON, with the members in the order in which the report declares them;
`readReport` reads it back, with the members in any order. A report is stored in the pretty form,
in a file of its own in the output directory.
-/

namespace MutantHunt

open Json

/-- The tags of the verdicts. -/
def Verdict.tags : List (String × Verdict) :=
  Verdict.all.map fun v => (v.name, v)

/-- Reads a verdict. -/
def readVerdict : Reader Verdict :=
  readBareChoice Verdict.tags

/-- The verdict that a text writes. -/
def Verdict.ofJson (text : String) : Except Fault Verdict :=
  readDocument readVerdict (Text.encode text)

/-- The number of a mutant as JSON. -/
def mutantValue (m : MutantId) : Value :=
  .natural m.toNat

namespace KilledMutant

/-- A killed mutant as JSON. -/
def value (kill : KilledMutant) : Value :=
  .object [("id", mutantValue kill.mutant), ("status", .text kill.verdict.name)]

end KilledMutant

namespace ReducedKill

/-- A group of miscompilations as JSON. -/
def value (group : ReducedKill) : Value :=
  .object [("mutants", .list (group.mutants.map mutantValue)), ("path", .text group.path)]

end ReducedKill

/-- Reads the number of a mutant. -/
def readMutant : Reader MutantId :=
  UInt32.ofNat <$> readWord 32

/-- Reads a killed mutant. -/
def readKilledMutant (bound : Nat) : Reader KilledMutant :=
  (fun (mutant, verdict) => { mutant, verdict }) <$>
    readPair "KilledMutant" bound "id" readMutant "status" readVerdict

/-- Reads a group of miscompilations. -/
def readReducedKill (bound : Nat) : Reader ReducedKill :=
  (fun (mutants, path) => { mutants, path }) <$>
    readPair "ReducedKill" bound "mutants" (readList bound readMutant) "path" (readString .path)

/-- A report that is being read. -/
structure ReportDraft where
  total : Option UInt64 := none
  killed : Option UInt64 := none
  unkilled : Option UInt64 := none
  round : Option UInt32 := none
  programs : Option UInt64 := none
  kills : Option (List KilledMutant) := none
  reduced : Option (List ReducedKill) := none

namespace ReportDraft

/-- A field that holds a number of 64 bits. -/
def countField (name : String) (get : ReportDraft → Option UInt64)
    (set : ReportDraft → UInt64 → ReportDraft) : Json.Field ReportDraft where
  name := name
  isGiven draft := (get draft).isSome
  read draft := (fun n => set draft (UInt64.ofNat n)) <$> readWord 64

/-- The fields of a report, in the order of their declaration. -/
def fields (bound : Nat) : List (Json.Field ReportDraft) :=
  [countField "total" ReportDraft.total fun draft n => { draft with total := some n },
    countField "killed" ReportDraft.killed fun draft n => { draft with killed := some n },
    countField "unkilled" ReportDraft.unkilled fun draft n => { draft with unkilled := some n },
    { name := "round"
      isGiven := fun draft => draft.round.isSome
      read := fun draft =>
        (fun n => { draft with round := some (UInt32.ofNat n) }) <$> readWord 32 },
    countField "programs" ReportDraft.programs fun draft n => { draft with programs := some n },
    { name := "kills"
      isGiven := fun draft => draft.kills.isSome
      read := fun draft =>
        (fun kills => { draft with kills := some kills }) <$>
          readList bound (readKilledMutant bound) },
    { name := "reduced"
      isGiven := fun draft => draft.reduced.isSome
      read := fun draft =>
        (fun reduced => { draft with reduced := some reduced }) <$>
          readList bound (readReducedKill bound) }]

/-- The report, if no field is missing. -/
def complete (draft : ReportDraft) : Except Fault Report := do
  let total ← required "total" draft.total
  let killed ← required "killed" draft.killed
  let unkilled ← required "unkilled" draft.unkilled
  let round ← required "round" draft.round
  let programs ← required "programs" draft.programs
  let kills ← required "kills" draft.kills
  let reduced ← required "reduced" draft.reduced
  return { total, killed, unkilled, round, programs, kills, reduced }

end ReportDraft

/-- Reads a report. -/
def readReport (bound : Nat) : Reader Report :=
  readRecord "KillReport" bound (ReportDraft.fields bound) {} ReportDraft.complete

namespace Report

/-- A report as JSON. -/
def value (report : Report) : Value :=
  .object
    [("total", .natural report.total.toNat), ("killed", .natural report.killed.toNat),
      ("unkilled", .natural report.unkilled.toNat), ("round", .natural report.round.toNat),
      ("programs", .natural report.programs.toNat),
      ("kills", .list (report.kills.map KilledMutant.value)),
      ("reduced", .list (report.reduced.map ReducedKill.value))]

/-- The form in which a report is stored. -/
def stored (report : Report) : String :=
  report.value.pretty

/-- The form in which a report is shown to programs. -/
def compact (report : Report) : String :=
  report.value.compact

/-- The report that a text writes. -/
def ofJson (text : String) : Except Fault Report :=
  let bytes := Text.encode text
  readDocument (readReport bytes.length) bytes

/-- The report that a file holds. A file that is no text holds none. -/
def ofBytes? (bytes : List UInt8) : Option Report :=
  (Text.decode? bytes).bind fun text => (ofJson text).toOption

/-- The name of the file a report is stored in. -/
def fileName : String := ".mutant-killer-state.json"

/-- Where the report of an output directory is stored. -/
def pathIn (directory : String) : String :=
  Path.join directory fileName

end Report

end MutantHunt
