import MutantHunt.Proofs.Workbench.Folder

/-!
# What an earlier program leaves to a baseline

A trial removes the executable of the one before.  An attempt at a baseline does not: it relies on
the compiler to replace what an earlier program left.  Here two attempts are made on folders that
may differ in the baseline executable only, with tools that do not read it.

Where a compiler that succeeds makes an executable, both attempts come to the same, but for the
times that they measure, and the same holds for the programs that are made one after the other until
one is good enough.  A compiler that succeeds without making one is not noticed if there is an executable
from before: then that one is run, and the baseline rests on it.

## Main results

* `attempt_coincide`, `generateUpTo_coincide` — an attempt and a series of attempts on both folders.
* `attempt_of_untouched` — an attempt in which the compiler makes nothing.
* `attempt_rests_on` — which executable the result of an attempt rests on.
-/

namespace MutantHunt

/-- The baseline without the times. -/
def Baseline.untimed (baseline : Baseline) : Baseline :=
  { baseline with compileTime := default, executionTime := default }

namespace Workbench

section Stages

variable {σ : Type} (bench : Workbench σ)

/-- The last steps of an attempt: the program is run and its executable is read. -/
def measure (compileTime : Duration) : Act HuntError σ (Option Baseline) := do
  match ← bench.runWithin { program := bench.baselineExecutable } bench.timeouts.baseline true with
  | .timedOut | .completed false _ _ => pure none
  | .completed true output executionTime =>
    let fingerprint ← (bench.fingerprint bench.baselineExecutable).mapError
      (.refused ("failed to read " ++ bench.baselineExecutable))
    pure (some { compileTime, executionTime, output, fingerprint })

/-- The steps of an attempt that begin with the compiler. -/
def build : Act HuntError σ (Option Baseline) := do
  let command := bench.compileCommand [] bench.baselineExecutable
  match ← bench.runWithin command bench.timeouts.baseline false with
  | .timedOut | .completed false _ _ => pure none
  | .completed true _ compileTime => bench.measure compileTime

theorem attempt_eq :
    bench.attempt = (do
      match ← bench.runWithin bench.generateCommand bench.timeouts.baseline false with
      | .timedOut | .completed false _ _ => pure none
      | .completed true _ _ => bench.build) := rfl

end Stages

variable {σ : Type} (bench : Workbench σ) (processes : Processes)

/-- What the generator does in an attempt. -/
def generation (files : Folder) : Finish × Changes :=
  processes.run bench.baselineExecutable bench.generateCommand bench.timeouts.baseline files

/-- What the compiler does in an attempt, on the files that the generator left. -/
def compilation (files : Folder) : Finish × Changes :=
  processes.run bench.baselineExecutable (bench.compileCommand [] bench.baselineExecutable)
    bench.timeouts.baseline (files.change (bench.generation processes files).2)

/-- The files after the compiler. -/
def compiled (files : Folder) : Folder :=
  (files.change (bench.generation processes files).2).change (bench.compilation processes files).2

/-- Both tools succeed, and neither does anything to the executable. -/
structure Untouched (files : Folder) : Prop where
  generates : ∃ output, (bench.generation processes files).1 = .completed true output
  compiles : ∃ output, (bench.compilation processes files).1 = .completed true output
  by_generator : (bench.generation processes files).2 bench.baselineExecutable = none
  by_compiler : (bench.compilation processes files).2 bench.baselineExecutable = none

/-- Two runs come to the same in what `view` shows of their results, and leave the same files but
for one. -/
structure Coincide {α β : Type} (path : String) (view : α → β) (r r' : Except HuntError α × Site) :
    Prop where
  result : r.1.map view = r'.1.map view
  files : Folder.AgreeOff path r.2.files r'.2.files

variable {bench processes} {s s' : Site} {α β : Type} {view : α → β}

/-- A process on the folder, as the bench sees it. -/
theorem runWithin_of_run {command : Command} {limit : Duration} {finish : Finish}
    {changes : Changes}
    (hrun : processes.run bench.baselineExecutable command limit s.files = (finish, changes))
    (capture : Bool) :
    (bench.onFolder processes).runWithin command limit capture s =
      ((finish.answer (s.times 0) capture).mapError
        (.refused ("failed to run " ++ command.label)), s.after changes) := by
  rw [runWithin, Act.mapError]
  simp only [onFolder, Processes.host, hrun]

/-- Two runs of one process, with what is done next.  Only the measured times may be different. -/
theorem coincide_runWithin_bind {command : Command} {limit : Duration} {capture : Bool}
    {finish : Finish} {changes : Changes}
    (hagree : Folder.AgreeOff bench.baselineExecutable s.files s'.files)
    (hrun : processes.run bench.baselineExecutable command limit s.files = (finish, changes))
    (hrun' : processes.run bench.baselineExecutable command limit s'.files = (finish, changes))
    {next next' : Ending → Act HuntError Site α}
    (htimedOut : Coincide bench.baselineExecutable view (next .timedOut (s.after changes))
      (next' .timedOut (s'.after changes)))
    (hcompleted : ∀ success output, finish = .completed success output → ∀ elapsed elapsed',
      Coincide bench.baselineExecutable view
        (next (.completed success (if capture then output else []) elapsed) (s.after changes))
        (next' (.completed success (if capture then output else []) elapsed') (s'.after changes))) :
    Coincide bench.baselineExecutable view
      (((bench.onFolder processes).runWithin command limit capture >>= next) s)
      (((bench.onFolder processes).runWithin command limit capture >>= next') s') := by
  have hstep := runWithin_of_run hrun capture
  have hstep' := runWithin_of_run hrun' capture
  cases finish with
  | unstartable cause =>
      rw [Act.bind_of_error hstep, Act.bind_of_error hstep']
      exact ⟨rfl, Folder.agreeOff_change hagree changes⟩
  | timedOut =>
      rw [Act.bind_of_ok hstep, Act.bind_of_ok hstep']
      exact htimedOut
  | completed success output =>
      rw [Act.bind_of_ok hstep, Act.bind_of_ok hstep']
      exact hcompleted success output rfl _ _

/-- Sites with the same files, after the same changes. -/
theorem agreeOff_after (hfiles : s.files = s'.files) (changes : Changes) (path : String) :
    Folder.AgreeOff path (s.after changes).files (s'.after changes).files := fun name _ =>
  congrArg (fun files : Folder => files.change changes name) hfiles

/-- The digest of the executable, where there is one. -/
theorem fingerprint_bind (wrap : OsError → HuntError) (next : String → Act HuntError Site α)
    (s : Site) :
    (((bench.onFolder processes).fingerprint bench.baselineExecutable).mapError wrap >>= next) s =
      match s.files bench.baselineExecutable with
      | none => (.error (wrap .notFound), s)
      | some content => next (Digest.fingerprint content) s := by
  have hread : (bench.onFolder processes).host.read bench.baselineExecutable s =
      ((s.files bench.baselineExecutable).elim (.error .notFound) .ok, s) := rfl
  cases hcontent : s.files bench.baselineExecutable with
  | none =>
      rw [hcontent] at hread
      exact Act.bind_of_error (Act.mapError_of_error (Act.bind_of_error hread _) wrap) next
  | some content =>
      rw [hcontent] at hread
      exact Act.bind_of_ok (Act.mapError_of_ok (Act.bind_of_ok hread _) wrap) next

/-- The last steps depend on the files only, but for the times. -/
theorem measure_coincide (hfiles : s.files = s'.files) (compileTime compileTime' : Duration) :
    Coincide bench.baselineExecutable (Option.map Baseline.untimed)
      ((bench.onFolder processes).measure compileTime s)
      ((bench.onFolder processes).measure compileTime' s') := by
  rcases hrun : processes.run bench.baselineExecutable { program := bench.baselineExecutable }
    bench.timeouts.baseline s.files with ⟨finish, changes⟩
  have hagree := agreeOff_after hfiles changes bench.baselineExecutable
  refine coincide_runWithin_bind (fun name _ => congrFun hfiles name) hrun (hfiles ▸ hrun)
    ⟨rfl, hagree⟩ ?_
  intro success output _ elapsed elapsed'
  cases success with
  | false => exact ⟨rfl, hagree⟩
  | true =>
      have hcontent : (s.after changes).files bench.baselineExecutable =
          (s'.after changes).files bench.baselineExecutable :=
        congrArg (fun files : Folder => files.change changes bench.baselineExecutable) hfiles
      simp only [onFolder_baselineExecutable]
      rw [fingerprint_bind, fingerprint_bind, hcontent]
      split
      · exact ⟨rfl, hagree⟩
      · exact ⟨rfl, hagree⟩

/-- The compiler does the same on both folders.  If they no longer differ once it has succeeded, the
program is run on the same files. -/
theorem build_coincide (hagree : Folder.AgreeOff bench.baselineExecutable s.files s'.files)
    (hcompiler : bench.tools.compiler ≠ bench.baselineExecutable)
    (hmade : ∀ output changes,
      processes.run bench.baselineExecutable (bench.compileCommand [] bench.baselineExecutable)
        bench.timeouts.baseline s.files = (.completed true output, changes) →
      s.files.change changes = s'.files.change changes) :
    Coincide bench.baselineExecutable (Option.map Baseline.untimed)
      ((bench.onFolder processes).build s) ((bench.onFolder processes).build s') := by
  rcases hrun : processes.run bench.baselineExecutable
    (bench.compileCommand [] bench.baselineExecutable) bench.timeouts.baseline s.files
    with ⟨finish, changes⟩
  have hrun' := (Processes.run_congr hagree hcompiler).symm.trans hrun
  refine coincide_runWithin_bind hagree hrun hrun' ⟨rfl, Folder.agreeOff_change hagree changes⟩ ?_
  intro success output hfinish elapsed elapsed'
  cases success with
  | false => exact ⟨rfl, Folder.agreeOff_change hagree changes⟩
  | true => exact measure_coincide (hmade output changes (hfinish ▸ hrun)) elapsed elapsed'

/-- Attempts on folders that differ in an old executable only, with tools that do not read it. -/
theorem attempt_coincide (hgenerator : bench.tools.generator ≠ bench.baselineExecutable)
    (hcompiler : bench.tools.compiler ≠ bench.baselineExecutable)
    (hagree : Folder.AgreeOff bench.baselineExecutable s.files s'.files)
    (hmade : ¬ bench.Untouched processes s.files) :
    Coincide bench.baselineExecutable (Option.map Baseline.untimed)
      ((bench.onFolder processes).attempt s) ((bench.onFolder processes).attempt s') := by
  rcases hrun : bench.generation processes s.files with ⟨finish, changes⟩
  have hrun' : bench.generation processes s'.files = (finish, changes) :=
    (Processes.run_congr hagree hgenerator).symm.trans hrun
  have hgenerated := Folder.agreeOff_change hagree changes
  rw [attempt_eq]
  refine coincide_runWithin_bind hagree hrun hrun' ⟨rfl, hgenerated⟩ ?_
  intro success output hfinish elapsed elapsed'
  cases success with
  | false => exact ⟨rfl, hgenerated⟩
  | true =>
      refine build_coincide hgenerated hcompiler fun printed made hcompiled => ?_
      -- Whichever tool did something to the executable, there is no difference left after it.
      cases hbefore : changes bench.baselineExecutable with
      | some _ =>
          have hsame := Folder.eq_of_agreeOff_change hagree (Option.isSome_of_eq_some hbefore)
          exact congrArg (fun files : Folder => files.change made) hsame
      | none =>
          cases hnow : made bench.baselineExecutable with
          | some _ =>
              exact Folder.eq_of_agreeOff_change hgenerated (Option.isSome_of_eq_some hnow)
          | none =>
              have hcompilation : bench.compilation processes s.files =
                  (.completed true printed, made) := by
                rw [compilation, hrun]
                exact hcompiled
              have hgeneration := hfinish ▸ hrun
              exact absurd ⟨⟨output, congrArg Prod.fst hgeneration⟩,
                ⟨printed, congrArg Prod.fst hcompilation⟩, hrun ▸ hbefore,
                hcompilation ▸ hnow⟩ hmade

/-- What is done next comes to the same if it does for results that are the same. -/
theorem Coincide.bind {γ δ : Type} {path : String} {x x' : Act HuntError Site α}
    (hcoincide : Coincide path view (x s) (x' s')) {next next' : α → Act HuntError Site γ}
    {viewNext : γ → δ}
    (hnext : ∀ a a' t t', view a = view a' → Folder.AgreeOff path t.files t'.files →
      Coincide path viewNext (next a t) (next' a' t')) :
    Coincide path viewNext ((x >>= next) s) ((x' >>= next') s') := by
  rcases hx : x s with ⟨e | a, t⟩ <;> rcases hx' : x' s' with ⟨e' | a', t'⟩ <;>
    rw [hx, hx'] at hcoincide <;> obtain ⟨hresult, hfiles⟩ := hcoincide
  · rw [Act.bind_of_error hx, Act.bind_of_error hx']
    cases hresult
    exact ⟨rfl, hfiles⟩
  · cases hresult
  · cases hresult
  · rw [Act.bind_of_ok hx, Act.bind_of_ok hx']
    exact hnext a a' t t' (Except.ok.inj hresult) hfiles

/-- A series of attempts, where no compiler succeeds without an executable being made. -/
theorem generateUpTo_coincide (hgenerator : bench.tools.generator ≠ bench.baselineExecutable)
    (hcompiler : bench.tools.compiler ≠ bench.baselineExecutable)
    (hmade : ∀ files, ¬ bench.Untouched processes files) (most : Nat)
    (hagree : Folder.AgreeOff bench.baselineExecutable s.files s'.files) :
    Coincide bench.baselineExecutable Baseline.untimed
      ((bench.onFolder processes).generateUpTo most s)
      ((bench.onFolder processes).generateUpTo most s') := by
  induction most generalizing s s' with
  | zero => exact ⟨rfl, hagree⟩
  | succ most ih =>
      refine (attempt_coincide hgenerator hcompiler hagree (hmade _)).bind ?_
      intro kept kept' t t' hkept hfiles
      match kept, kept', hkept with
      | none, none, _ => exact ih hfiles
      | some _, some _, hkept => exact ⟨congrArg Except.ok (Option.some.inj hkept), hfiles⟩

/-! ## A compiler that makes nothing -/

/-- The executable is still the one from before. -/
theorem Untouched.compiled_eq {files : Folder} (huntouched : bench.Untouched processes files) :
    bench.compiled processes files bench.baselineExecutable = files bench.baselineExecutable := by
  rw [compiled, Folder.change_of_none huntouched.by_compiler,
    Folder.change_of_none huntouched.by_generator]

/-- The attempt goes on all the same, on the files that the compiler left. -/
theorem attempt_of_untouched (huntouched : bench.Untouched processes s.files) :
    (bench.onFolder processes).attempt s = (bench.onFolder processes).measure (s.times 1)
      ⟨bench.compiled processes s.files, fun n => s.times (n + 2)⟩ := by
  obtain ⟨output, hgenerated⟩ := huntouched.generates
  obtain ⟨printed, hcompiled⟩ := huntouched.compiles
  have hgeneration := runWithin_of_run (s := s) (Prod.ext hgenerated rfl) false
  have hcompilation := runWithin_of_run (s := s.after (bench.generation processes s.files).2)
    (Prod.ext hcompiled rfl) false
  rw [attempt_eq]
  exact (Act.bind_of_ok hgeneration _).trans (Act.bind_of_ok hcompilation _)

/-- Without an executable there is nothing to run. -/
theorem measure_of_none (hmissing : s.files bench.baselineExecutable = none)
    (compileTime : Duration) :
    ((bench.onFolder processes).measure compileTime s).1 = .error (.refused
      ("failed to run " ++ Command.label { program := bench.baselineExecutable }) .notFound) := by
  have hrun : processes.run bench.baselineExecutable { program := bench.baselineExecutable }
      bench.timeouts.baseline s.files = (.unstartable .notFound, fun _ => none) := by
    rw [Processes.run, if_pos rfl, hmissing]
    rfl
  exact congrArg Prod.fst (Act.bind_of_error (runWithin_of_run hrun true) _)

/-- An executable that leaves itself alone is what the baseline is about. -/
theorem measure_of_some {content output : List UInt8} {changes : Changes}
    (hcontent : s.files bench.baselineExecutable = some content)
    (hexecuted : processes { program := bench.baselineExecutable } bench.timeouts.baseline s.files =
      (.completed true output, changes))
    (hchanges : changes bench.baselineExecutable = none) (compileTime : Duration) :
    (bench.onFolder processes).measure compileTime s =
      (.ok (some ⟨compileTime, s.times 0, output, Digest.fingerprint content⟩),
        s.after changes) := by
  have hrun : processes.run bench.baselineExecutable { program := bench.baselineExecutable }
      bench.timeouts.baseline s.files = (.completed true output, changes) := by
    rw [Processes.run, if_pos rfl, hcontent]
    exact hexecuted
  have hafter : (s.after changes).files bench.baselineExecutable = some content :=
    (Folder.change_of_none hchanges).trans hcontent
  refine (Act.bind_of_ok (runWithin_of_run hrun true) _).trans ?_
  simp only [onFolder_baselineExecutable]
  rw [fingerprint_bind, hafter]
  rfl

/-- Which executable the result of an attempt rests on. -/
structure RestsOn (bench : Workbench σ) (processes : Processes) (s : Site) : Prop where
  /-- Unless the tools succeed without doing anything to the executable, it does not matter what was
  there before. -/
  own : ¬ bench.Untouched processes s.files →
    ∀ s', Folder.AgreeOff bench.baselineExecutable s.files s'.files →
      Coincide bench.baselineExecutable (Option.map Baseline.untimed)
        ((bench.onFolder processes).attempt s) ((bench.onFolder processes).attempt s')
  /-- If they do, it is an error if nothing was there. -/
  nothing : bench.Untouched processes s.files → s.files bench.baselineExecutable = none →
    ((bench.onFolder processes).attempt s).1 = .error (.refused
      ("failed to run " ++ Command.label { program := bench.baselineExecutable }) .notFound)
  /-- An executable from before is run, and becomes the baseline if it succeeds and leaves itself
  alone. -/
  old : bench.Untouched processes s.files →
    ∀ content, s.files bench.baselineExecutable = some content → ∀ output changes,
      processes { program := bench.baselineExecutable } bench.timeouts.baseline
        (bench.compiled processes s.files) = (.completed true output, changes) →
      changes bench.baselineExecutable = none →
        ∃ baseline, ((bench.onFolder processes).attempt s).1 = .ok (some baseline) ∧
          baseline.output = output ∧ baseline.fingerprint = Digest.fingerprint content

/-- What the result of an attempt rests on, with tools that do not read the executable. -/
theorem attempt_rests_on (hgenerator : bench.tools.generator ≠ bench.baselineExecutable)
    (hcompiler : bench.tools.compiler ≠ bench.baselineExecutable) (s : Site) :
    bench.RestsOn processes s where
  own hmade s' hagree := attempt_coincide hgenerator hcompiler hagree hmade
  nothing huntouched hmissing := by
    rw [attempt_of_untouched huntouched]
    exact measure_of_none (huntouched.compiled_eq.trans hmissing) _
  old huntouched content hcontent output changes hexecuted hchanges := by
    rw [attempt_of_untouched huntouched,
      measure_of_some (huntouched.compiled_eq.trans hcontent) hexecuted hchanges]
    exact ⟨_, rfl, rfl, rfl⟩

/-- Idle processes but for the compiler, which makes an executable. -/
def compilingProcesses : Processes := fun command limit files =>
  if command.program = idleBench.tools.compiler then
    (.completed true [], fun name =>
      if name = idleBench.baselineExecutable then some (some [97]) else none)
  else idleProcesses command limit files

/-- The executable of an earlier program, and nothing else. -/
def leftover : Folder :=
  Folder.put idleBench.baselineExecutable (some [115]) fun _ => none

/-- Where the compiler makes an executable, an old one does not matter. -/
theorem attempt_rests_on_compiled :
    idleBench.tools.generator ≠ idleBench.baselineExecutable ∧
      idleBench.tools.compiler ≠ idleBench.baselineExecutable ∧
      ¬ idleBench.Untouched compilingProcesses leftover ∧
      idleBench.RestsOn compilingProcesses ⟨leftover, fun _ => default⟩ := by
  have hcompiler : (idleBench.compileCommand [] idleBench.baselineExecutable).program ≠
      idleBench.baselineExecutable := by
    decide +kernel
  refine ⟨by decide +kernel, hcompiler, fun huntouched => ?_,
    attempt_rests_on (by decide +kernel) hcompiler _⟩
  have hkept := huntouched.by_compiler
  rw [compilation, Processes.run_of_ne hcompiler] at hkept
  simp [compilingProcesses, compileCommand] at hkept

theorem untouched_idle (files : Folder) : idleBench.Untouched idleProcesses files := by
  have hgenerator : idleBench.generateCommand.program ≠ idleBench.baselineExecutable := by
    decide +kernel
  have hcompiler : (idleBench.compileCommand [] idleBench.baselineExecutable).program ≠
      idleBench.baselineExecutable := by
    decide +kernel
  constructor
  · rw [generation, Processes.run_of_ne hgenerator]
    exact ⟨_, rfl⟩
  · rw [compilation, Processes.run_of_ne hcompiler]
    exact ⟨_, rfl⟩
  · rw [generation, Processes.run_of_ne hgenerator]
    rfl
  · rw [compilation, Processes.run_of_ne hcompiler]
    rfl

/-- With a compiler that makes nothing, there is an error in an empty folder, and a baseline in the
folder with the executable of an earlier program. -/
theorem stale_executable_kept :
    Folder.AgreeOff idleBench.baselineExecutable (fun _ => none) leftover ∧
      ((idleBench.onFolder idleProcesses).attempt ⟨fun _ => none, fun _ => default⟩).1 =
        .error (.refused ("failed to run " ++
          Command.label { program := idleBench.baselineExecutable }) .notFound) ∧
      ((idleBench.onFolder idleProcesses).attempt ⟨leftover, fun _ => default⟩).1 =
        .ok (some ⟨default, default, [115], Digest.fingerprint [115]⟩) := by
  refine ⟨fun name hname => (if_neg hname).symm, ?_, ?_⟩
  · have huntouched := untouched_idle fun _ => none
    have hattempt := attempt_of_untouched (s := ⟨fun _ => none, fun _ => default⟩) huntouched
    exact (congrArg Prod.fst hattempt).trans (measure_of_none huntouched.compiled_eq _)
  · have huntouched := untouched_idle leftover
    have hold : idleBench.compiled idleProcesses leftover idleBench.baselineExecutable =
        some [115] :=
      huntouched.compiled_eq.trans (if_pos rfl)
    have hprinted : idleProcesses { program := idleBench.baselineExecutable }
        idleBench.timeouts.baseline (idleBench.compiled idleProcesses leftover) =
        (.completed true [115], fun _ => none) := by
      rw [idleProcesses, hold]
      rfl
    have hattempt := attempt_of_untouched (s := ⟨leftover, fun _ => default⟩) huntouched
    exact (congrArg Prod.fst hattempt).trans
      (congrArg Prod.fst (measure_of_some hold hprinted rfl default))

end Workbench

end MutantHunt
