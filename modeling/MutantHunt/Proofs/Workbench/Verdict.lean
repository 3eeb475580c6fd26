import MutantHunt.Proofs.Workbench.Folder
import MutantHunt.Proofs.Workbench.Watched

/-!
# The verdict of a trial

A trial removes the mutated executable of the one before, has the program compiled, reads the
executable and runs it.  Each of the last three steps may come to anything, and which of them are
taken depends on what the ones before came to.  `Answers` is what they came to, `Course` is the
table that says how a trial ends, row by row.  A step that would need a time limit beyond what a
duration can be is not taken: multiplying the duration crashes the program there, so that the trial
has no result at all.  That crash is the error `HuntError.limitTooLong`.

## Main results

* `does_trial` — a trial takes one of the rows, and makes no calls but those of the row.
* `trial_classified` — for each verdict, the answers that lead to it.
* `trial_eq_of_agreeOff` — on a folder, an executable of an earlier trial is never taken for the new
  one.
-/

namespace MutantHunt.Workbench

variable {σ : Type} {bench : Workbench σ} {baseline : Baseline} {mutants : List MutantId}
  {s t : σ}

/-- What the steps of a trial came to.  There is nothing for a step that was not taken. -/
structure Answers where
  compilation : Option (Except OsError Ending) := none
  product : Option (Except OsError (List UInt8)) := none
  execution : Option (Except OsError Ending) := none

/-- How running the mutated executable ends a trial. -/
inductive Judged (bench : Workbench σ) (baseline : Baseline) :
    Option (Except OsError Ending) → Except HuntError Verdict → Prop
  | unlimited : Judged bench baseline none (.error .limitTooLong)
  | unstartable (cause : OsError) : Judged bench baseline (some (.error cause)) (.ok .runFailKill)
  | timedOut : Judged bench baseline (some (.ok .timedOut)) (.ok .runTimeoutKill)
  | failed (output : List UInt8) (elapsed : Duration) :
      Judged bench baseline (some (.ok (.completed false output elapsed))) (.ok .runFailKill)
  | same (elapsed : Duration) :
      Judged bench baseline (some (.ok (.completed true baseline.output elapsed)))
        (.ok .differentBinariesSameResult)
  | different {output : List UInt8} (houtput : output ≠ baseline.output) (elapsed : Duration)
      (hmismatch : bench.mismatch = .kill) :
      Judged bench baseline (some (.ok (.completed true output elapsed)))
        (.ok .miscompilationKill)
  | ignored {output : List UInt8} (houtput : output ≠ baseline.output) (elapsed : Duration)
      (hmismatch : bench.mismatch = .ignore) :
      Judged bench baseline (some (.ok (.completed true output elapsed))) (.ok .noEffect)

/-- How reading the mutated executable, and perhaps running it, ends a trial. -/
inductive Inspected (bench : Workbench σ) (baseline : Baseline) :
    Except OsError (List UInt8) → Option (Except OsError Ending) → Except HuntError Verdict → Prop
  | missing : Inspected bench baseline (.error .notFound) none (.ok .compileFailKill)
  | unreadable {cause : OsError} (hcause : cause ≠ .notFound) :
      Inspected bench baseline (.error cause) none
        (.error (.refused ("failed to read " ++ bench.mutatedExecutable) cause))
  | same {content : List UInt8} (hsame : Digest.fingerprint content = baseline.fingerprint) :
      Inspected bench baseline (.ok content) none (.ok .noEffect)
  | different {content : List UInt8} {execution : Option (Except OsError Ending)}
      {result : Except HuntError Verdict}
      (hdifferent : Digest.fingerprint content ≠ baseline.fingerprint)
      (hlimit : execution.isSome = (bench.timeouts.run? baseline.executionTime).isSome)
      (hjudged : Judged bench baseline execution result) :
      Inspected bench baseline (.ok content) execution result

/-- How a trial ends, given what its steps came to. -/
inductive Course (bench : Workbench σ) (baseline : Baseline) (mutants : List MutantId) :
    Answers → Except HuntError Verdict → Prop
  | unlimited : Course bench baseline mutants {} (.error .limitTooLong)
  | unstartable (cause : OsError) :
      Course bench baseline mutants { compilation := some (.error cause) }
        (.error (.refused ("failed to run " ++
          (bench.compileCommand mutants bench.mutatedExecutable).label) cause))
  | timedOut :
      Course bench baseline mutants { compilation := some (.ok .timedOut) }
        (.ok .compileTimeoutKill)
  | failed (output : List UInt8) (elapsed : Duration) :
      Course bench baseline mutants { compilation := some (.ok (.completed false output elapsed)) }
        (.ok .compileFailKill)
  | succeeded {product : Except OsError (List UInt8)} {execution : Option (Except OsError Ending)}
      {result : Except HuntError Verdict} (output : List UInt8) (elapsed : Duration)
      (hinspected : Inspected bench baseline product execution result) :
      Course bench baseline mutants
        ⟨some (.ok (.completed true output elapsed)), some product, execution⟩ result

/-! ## The steps -/

/-- A mutated executable that is no obstacle: a file that can be removed, or none. -/
def Removable (bench : Workbench σ) (s : σ) : Prop :=
  (bench.host.remove bench.mutatedExecutable s).1 = .ok () ∨
    (bench.host.remove bench.mutatedExecutable s).1 = .error .notFound

/-- The digest that reading the mutated executable gives, if there is one. -/
def digest? (bench : Workbench σ) : Except OsError (List UInt8) → Except HuntError (Option String)
  | .ok content => .ok (some (Digest.fingerprint content))
  | .error .notFound => .ok none
  | .error cause => .error (.refused ("failed to read " ++ bench.mutatedExecutable) cause)

/-- The verdict that running the mutated executable gives. -/
def verdictOf (bench : Workbench σ) (baseline : Baseline) : Except OsError Ending → Verdict
  | .error _ | .ok (.completed false _ _) => .runFailKill
  | .ok .timedOut => .runTimeoutKill
  | .ok (.completed true output _) =>
    if output = baseline.output then .differentBinariesSameResult else bench.mismatch.verdict

theorem digest?_of_ne {cause : OsError} (hcause : cause ≠ .notFound) :
    bench.digest? (.error cause) =
      .error (.refused ("failed to read " ++ bench.mutatedExecutable) cause) := by
  cases cause with
  | notFound => exact absurd rfl hcause
  | _ => rfl

theorem clear_of_remove (bench : Workbench σ) {answer : Except OsError Unit}
    (hremove : bench.host.remove bench.mutatedExecutable s = (answer, t))
    (hanswer : answer = .ok () ∨ answer = .error .notFound) : bench.clear s = (.ok (), t) := by
  rcases hanswer with rfl | rfl
  · rw [clear, hremove]
  · rw [clear, hremove]

theorem mutatedFingerprint_of_read (bench : Workbench σ) {answer : Except OsError (List UInt8)}
    (hread : bench.host.read bench.mutatedExecutable s = (answer, t)) :
    bench.mutatedFingerprint s = (bench.digest? answer, t) := by
  have hfingerprint : bench.fingerprint bench.mutatedExecutable s =
      (answer.map Digest.fingerprint, t) := by
    cases answer with
    | error cause => exact Act.bind_of_error hread _
    | ok content => exact Act.bind_of_ok hread _
  rw [mutatedFingerprint, hfingerprint]
  cases answer with
  | error cause => cases cause <;> rfl
  | ok content => rfl

theorem judge_of_limit_none (bench : Workbench σ) (s : σ)
    (hlimit : bench.timeouts.run? baseline.executionTime = none) :
    bench.judge baseline s = (.error .limitTooLong, s) := by
  rw [judge, hlimit]
  exact Act.bind_of_error rfl _

theorem judge_of_runWithin (bench : Workbench σ) {limit : Duration} {answer : Except OsError Ending}
    (hlimit : bench.timeouts.run? baseline.executionTime = some limit)
    (hrun : bench.host.runWithin { program := bench.mutatedExecutable } limit true s =
      (answer, t)) :
    bench.judge baseline s = (.ok (bench.verdictOf baseline answer), t) := by
  rw [judge, hlimit]
  refine (Act.bind_of_ok rfl _).trans ?_
  rw [hrun]
  rcases answer with cause | ⟨_ | _, output, elapsed⟩ | _
  · rfl
  · rfl
  · by_cases houtput : output = baseline.output
    · rw [verdictOf, if_pos houtput]
      exact if_pos houtput
    · rw [verdictOf, if_neg houtput]
      exact if_neg houtput
  · rfl

theorem judged_verdictOf (bench : Workbench σ) (baseline : Baseline)
    (answer : Except OsError Ending) :
    Judged bench baseline (some answer) (.ok (bench.verdictOf baseline answer)) := by
  rcases answer with cause | ⟨_ | _, output, elapsed⟩ | _
  · exact .unstartable cause
  · exact .failed output elapsed
  · by_cases houtput : output = baseline.output
    · rw [verdictOf, if_pos houtput, houtput]
      exact .same elapsed
    · rw [verdictOf, if_neg houtput]
      cases hmismatch : bench.mismatch with
      | kill => exact .different houtput elapsed hmismatch
      | ignore => exact .ignored houtput elapsed hmismatch
  · exact .timedOut

/-- The steps of a trial that begin with reading the mutated executable. -/
def inspect (bench : Workbench σ) (baseline : Baseline) : Act HuntError σ Verdict := do
  match ← bench.mutatedFingerprint with
  | none => pure .compileFailKill
  | some fingerprint =>
    if fingerprint = baseline.fingerprint then pure .noEffect else bench.judge baseline

/-- The steps of a trial that begin with the compiler. -/
def compile (bench : Workbench σ) (baseline : Baseline) (mutants : List MutantId) :
    Act HuntError σ Verdict := do
  let limit ← limited (bench.timeouts.compile? baseline.compileTime)
  match ← bench.runWithin (bench.compileCommand mutants bench.mutatedExecutable) limit false with
  | .timedOut => pure .compileTimeoutKill
  | .completed false _ _ => pure .compileFailKill
  | .completed true _ _ => bench.inspect baseline

theorem trial_eq (bench : Workbench σ) (baseline : Baseline) (mutants : List MutantId) :
    bench.trial baseline mutants = (do
      bench.clear
      bench.compile baseline mutants) := rfl

/-! ## The steps with their calls -/

/-- The calls by which a trial reads the mutated executable. -/
def readCalls (bench : Workbench σ) (product : Option (Except OsError (List UInt8))) :
    List HostCall :=
  (product.map (.read bench.mutatedExecutable)).toList

/-- The calls by which a trial runs the mutated executable. -/
def judgeCalls (bench : Workbench σ) (baseline : Baseline)
    (execution : Option (Except OsError Ending)) : List HostCall :=
  ((bench.timeouts.run? baseline.executionTime).bind fun limit => execution.map
    (.ranWithin { program := bench.mutatedExecutable } limit true)).toList

@[simp] theorem judgeCalls_none : bench.judgeCalls baseline none = [] := by
  rw [judgeCalls]
  cases bench.timeouts.run? baseline.executionTime <;> rfl

theorem does_limited_none {limit : Option Duration} (hlimit : limit = none) (s : σ) :
    Does (limited limit) (limited limit) s (.error .limitTooLong) s [] := by
  rw [hlimit]
  exact does_lift _

theorem does_limited_some {limit : Option Duration} {d : Duration} (hlimit : limit = some d)
    (s : σ) : Does (limited limit) (limited limit) s (.ok d) s [] := by
  rw [hlimit]
  exact does_lift _

theorem does_clear (hremovable : bench.Removable s) :
    Does bench.clear bench.watched.clear s (.ok ()) (bench.host.remove bench.mutatedExecutable s).2
      [.removed bench.mutatedExecutable (bench.host.remove bench.mutatedExecutable s).1] where
  ends := bench.clear_of_remove rfl hremovable
  asks earlier := bench.watched.clear_of_remove
    ((does_noting rfl (.removed bench.mutatedExecutable)).asks earlier) hremovable

theorem does_mutatedFingerprint {answer : Except OsError (List UInt8)}
    (hread : bench.host.read bench.mutatedExecutable s = (answer, t)) :
    Does bench.mutatedFingerprint bench.watched.mutatedFingerprint s (bench.digest? answer) t
      [.read bench.mutatedExecutable answer] where
  ends := bench.mutatedFingerprint_of_read hread
  asks earlier := bench.watched.mutatedFingerprint_of_read
    ((does_noting hread (.read bench.mutatedExecutable)).asks earlier)

/-- Running the mutated executable. -/
theorem does_judge (bench : Workbench σ) (baseline : Baseline) (s : σ) :
    ∃ execution result t, Judged bench baseline execution result ∧
      execution.isSome = (bench.timeouts.run? baseline.executionTime).isSome ∧
      Does (bench.judge baseline) (bench.watched.judge baseline) s result t
        (bench.judgeCalls baseline execution) := by
  cases hlimit : bench.timeouts.run? baseline.executionTime with
  | none =>
      refine ⟨none, _, s, .unlimited, rfl, bench.judge_of_limit_none s hlimit, fun earlier => ?_⟩
      rw [judgeCalls_none]
      exact bench.watched.judge_of_limit_none _ hlimit
  | some limit =>
      rcases hrun : bench.host.runWithin { program := bench.mutatedExecutable } limit true s
        with ⟨answer, t⟩
      have hasks :=
        (does_noting hrun (.ranWithin { program := bench.mutatedExecutable } limit true)).asks
      refine ⟨some answer, _, t, judged_verdictOf bench baseline answer, rfl,
        bench.judge_of_runWithin hlimit hrun, fun earlier => ?_⟩
      rw [judgeCalls, hlimit]
      exact bench.watched.judge_of_runWithin hlimit (hasks earlier)

/-- Reading the mutated executable, and running it if it is different. -/
theorem does_inspect (bench : Workbench σ) (baseline : Baseline) (s : σ) :
    ∃ product execution result t, Inspected bench baseline product execution result ∧
      Does (bench.inspect baseline) (bench.watched.inspect baseline) s result t
        (bench.judgeCalls baseline execution ++ bench.readCalls (some product)) := by
  rcases hread : bench.host.read bench.mutatedExecutable s with ⟨cause | content, t⟩
  · have hdigest := does_mutatedFingerprint hread
    by_cases hcause : cause = .notFound
    · subst hcause
      refine ⟨_, none, _, t, .missing, ?_⟩
      rw [judgeCalls_none]
      exact Does.bind hdigest (does_pure _)
    · refine ⟨_, none, _, t, .unreadable hcause, ?_⟩
      rw [digest?_of_ne hcause] at hdigest
      rw [judgeCalls_none]
      exact hdigest.bind_error _ _
  · have hdigest := does_mutatedFingerprint hread
    by_cases hsame : Digest.fingerprint content = baseline.fingerprint
    · refine ⟨_, none, _, t, .same hsame, ?_⟩
      rw [judgeCalls_none]
      refine Does.bind hdigest ?_
      simp only [hsame]
      exact does_pure _
    · obtain ⟨execution, result, u, hjudged, hlimit, hdoes⟩ := does_judge bench baseline t
      refine ⟨_, execution, result, u, .different hsame hlimit hjudged, ?_⟩
      refine Does.bind hdigest ?_
      simp only [hsame]
      exact hdoes

/-- The calls of a trial from the one that has the program compiled, latest first. -/
def compileCalls (bench : Workbench σ) (baseline : Baseline) (mutants : List MutantId)
    (answers : Answers) : List HostCall :=
  bench.judgeCalls baseline answers.execution ++ bench.readCalls answers.product ++
    ((bench.timeouts.compile? baseline.compileTime).bind fun limit => answers.compilation.map
      (.ranWithin (bench.compileCommand mutants bench.mutatedExecutable) limit false)).toList

/-- Compiling the program, with what comes after it. -/
theorem does_compile (bench : Workbench σ) (baseline : Baseline) (mutants : List MutantId) (s : σ) :
    ∃ answers result t, Course bench baseline mutants answers result ∧
      answers.compilation.isSome = (bench.timeouts.compile? baseline.compileTime).isSome ∧
      Does (bench.compile baseline mutants) (bench.watched.compile baseline mutants) s result t
        (bench.compileCalls baseline mutants answers) := by
  cases hlimit : bench.timeouts.compile? baseline.compileTime with
  | none =>
      refine ⟨{}, _, s, .unlimited, rfl, ?_⟩
      rw [compileCalls, judgeCalls_none, hlimit]
      exact (does_limited_none hlimit s).bind_error _ _
  | some limit =>
      have hlimited := does_limited_some hlimit s
      rcases hrun : bench.host.runWithin (bench.compileCommand mutants bench.mutatedExecutable)
        limit false s with ⟨answer, t⟩
      have hcompile := does_runWithin hrun
      rcases answer with cause | ⟨_ | _, output, elapsed⟩ | _
      · refine ⟨_, _, t, .unstartable cause, rfl, ?_⟩
        rw [compileCalls, judgeCalls_none, hlimit]
        refine Does.bind_silent hlimited ?_
        exact hcompile.bind_error _ _
      · refine ⟨_, _, t, .failed output elapsed, rfl, ?_⟩
        rw [compileCalls, judgeCalls_none, hlimit]
        refine Does.bind_silent hlimited ?_
        exact Does.bind hcompile (does_pure _)
      · obtain ⟨product, execution, result, u, hinspected, hdoes⟩ := does_inspect bench baseline t
        refine ⟨_, result, u, .succeeded output elapsed hinspected, rfl, ?_⟩
        rw [compileCalls, hlimit]
        refine Does.bind_silent hlimited ?_
        exact Does.bind hcompile hdoes
      · refine ⟨_, _, t, .timedOut, rfl, ?_⟩
        rw [compileCalls, judgeCalls_none, hlimit]
        refine Does.bind_silent hlimited ?_
        exact Does.bind hcompile (does_pure _)

/-- Once what an earlier trial left is removed, a trial goes on from there. -/
theorem trial_of_removable (hremovable : bench.Removable s) :
    bench.trial baseline mutants s =
      bench.compile baseline mutants (bench.host.remove bench.mutatedExecutable s).2 := by
  rw [trial_eq, Act.bind_of_ok (does_clear hremovable).ends]

/-- A trial takes one of the rows of the table, and makes the calls of that row. -/
theorem does_trial (baseline : Baseline) (mutants : List MutantId)
    (hremovable : bench.Removable s) :
    ∃ answers result t, Course bench baseline mutants answers result ∧
      answers.compilation.isSome = (bench.timeouts.compile? baseline.compileTime).isSome ∧
      Does (bench.trial baseline mutants) (bench.watched.trial baseline mutants) s result t
        (bench.compileCalls baseline mutants answers ++
          [.removed bench.mutatedExecutable
            (bench.host.remove bench.mutatedExecutable s).1]) := by
  obtain ⟨answers, result, t, hcourse, hlimit, hdoes⟩ :=
    does_compile bench baseline mutants (bench.host.remove bench.mutatedExecutable s).2
  exact ⟨answers, result, t, hcourse, hlimit, (does_clear hremovable).bind hdoes⟩

/-! ## The table, verdict by verdict -/

namespace Answers

/-- The compiler succeeded. -/
@[simp] def Compiled (answers : Answers) : Prop :=
  ∃ output elapsed, answers.compilation = some (.ok (.completed true output elapsed))

/-- There was an executable with this digest. -/
@[simp] def Made (answers : Answers) (fingerprint : String) : Prop :=
  ∃ content, answers.product = some (.ok content) ∧ Digest.fingerprint content = fingerprint

/-- The mutated program succeeded and printed this. -/
@[simp] def Printed (answers : Answers) (output : List UInt8) : Prop :=
  ∃ elapsed, answers.execution = some (.ok (.completed true output elapsed))

end Answers

/-- What the answers of its steps say about the result of a trial.  The error `limitTooLong` is no
result that a trial returns; it stands for the crash where a multiple of a time of the baseline is
no duration (`SearchError.exitStatus`). -/
structure Classified (bench : Workbench σ) (baseline : Baseline) (answers : Answers)
    (result : Except HuntError Verdict) : Prop where
  reads_iff : answers.product.isSome = true ↔ answers.Compiled
  /-- Only an executable that is different is run. -/
  runs_iff : answers.execution.isSome = true ↔
    (∃ fingerprint, answers.Made fingerprint ∧ fingerprint ≠ baseline.fingerprint) ∧
      (bench.timeouts.run? baseline.executionTime).isSome = true
  io_iff : (∃ context cause, result = .error (.io context cause)) ↔
    (∃ cause, answers.compilation = some (.error cause)) ∨
      ∃ cause, answers.product = some (.error cause) ∧ cause ≠ .notFound
  tooLong_iff : result = .error .limitTooLong ↔ answers.compilation = none ∨
    (∃ fingerprint, answers.Made fingerprint ∧ fingerprint ≠ baseline.fingerprint) ∧
      answers.execution = none
  /-- There are no other errors. -/
  io_or_tooLong : ∀ e, result = .error e →
    (∃ context cause, e = .io context cause) ∨ e = .limitTooLong
  compileTimeout_iff : result = .ok .compileTimeoutKill ↔
    answers.compilation = some (.ok .timedOut)
  compileFail_iff : result = .ok .compileFailKill ↔
    (∃ output elapsed, answers.compilation = some (.ok (.completed false output elapsed))) ∨
      answers.product = some (.error .notFound)
  noEffect_iff : result = .ok .noEffect ↔ answers.Made baseline.fingerprint ∨
    (∃ output, answers.Printed output ∧ output ≠ baseline.output) ∧ bench.mismatch = .ignore
  runFail_iff : result = .ok .runFailKill ↔
    (∃ cause, answers.execution = some (.error cause)) ∨
      ∃ output elapsed, answers.execution = some (.ok (.completed false output elapsed))
  runTimeout_iff : result = .ok .runTimeoutKill ↔ answers.execution = some (.ok .timedOut)
  sameResult_iff : result = .ok .differentBinariesSameResult ↔ answers.Printed baseline.output
  miscompilation_iff : result = .ok .miscompilationKill ↔
    (∃ output, answers.Printed output ∧ output ≠ baseline.output) ∧ bench.mismatch = .kill

variable {content output : List UInt8} {elapsed : Duration} {product : Except OsError (List UInt8)}
  {execution : Option (Except OsError Ending)} {answers : Answers}
  {result : Except HuntError Verdict}

theorem Judged.classified (hjudged : Judged bench baseline execution result)
    (hdifferent : Digest.fingerprint content ≠ baseline.fingerprint)
    (hlimit : execution.isSome = (bench.timeouts.run? baseline.executionTime).isSome) :
    Classified bench baseline
      ⟨some (.ok (.completed true output elapsed)), some (.ok content), execution⟩ result := by
  -- In each row the answers and the result are constructors, so every clause compares these.
  cases hjudged with
  | unlimited => constructor <;> simp_all
  | unstartable cause => constructor <;> simp_all
  | timedOut => constructor <;> simp_all
  | failed printed ran => constructor <;> simp_all
  | same ran => constructor <;> simp_all
  | different houtput ran hmismatch => constructor <;> simp_all
  | ignored houtput ran hmismatch => constructor <;> simp_all

theorem Inspected.classified (hinspected : Inspected bench baseline product execution result) :
    Classified bench baseline
      ⟨some (.ok (.completed true output elapsed)), some product, execution⟩ result := by
  cases hinspected with
  | missing => constructor <;> simp
  | unreadable hcause => constructor <;> simp [HuntError.refused, hcause]
  | same hsame => constructor <;> simp [hsame]
  | different hdifferent hlimit hjudged => exact hjudged.classified hdifferent hlimit

theorem Course.classified (hcourse : Course bench baseline mutants answers result) :
    Classified bench baseline answers result := by
  cases hcourse with
  | unlimited => constructor <;> simp
  | unstartable cause => constructor <;> simp [HuntError.refused]
  | timedOut => constructor <;> simp
  | failed printed ran => constructor <;> simp
  | succeeded printed ran hinspected => exact hinspected.classified

/-- The message if the compiler cannot be started. -/
theorem Course.unstartable_eq {cause : OsError}
    (hcourse : Course bench baseline mutants answers result)
    (hcause : answers.compilation = some (.error cause)) :
    result = .error (.refused ("failed to run " ++
      (bench.compileCommand mutants bench.mutatedExecutable).label) cause) := by
  cases hcourse <;> cases hcause
  rfl

/-- The message if there is an executable that cannot be read. -/
theorem Course.unreadable_eq {cause : OsError}
    (hcourse : Course bench baseline mutants answers result)
    (hcause : answers.product = some (.error cause)) (hpresent : cause ≠ .notFound) :
    result = .error (.refused ("failed to read " ++ bench.mutatedExecutable) cause) := by
  cases hcourse with
  | succeeded output elapsed hinspected =>
      cases hinspected <;> cases hcause
      · exact absurd rfl hpresent
      · rfl
  | _ => cases hcause

/-- All that a trial does, told by what its steps came to.  A trial that crashes over a time limit
has taken the steps before it and no others. -/
structure Concludes (bench : Workbench σ) (baseline : Baseline) (mutants : List MutantId) (s : σ)
    (answers : Answers) : Prop where
  /-- The compiler is run unless its limit is too long. -/
  compiles_iff : answers.compilation.isSome = true ↔
    (bench.timeouts.compile? baseline.compileTime).isSome = true
  classified : Classified bench baseline answers (bench.trial baseline mutants s).1
  unstartable : ∀ cause, answers.compilation = some (.error cause) →
    (bench.trial baseline mutants s).1 = .error (.refused ("failed to run " ++
      (bench.compileCommand mutants bench.mutatedExecutable).label) cause)
  unreadable : ∀ cause, answers.product = some (.error cause) → cause ≠ .notFound →
    (bench.trial baseline mutants s).1 =
      .error (.refused ("failed to read " ++ bench.mutatedExecutable) cause)
  /-- What is done to the world, and nothing else. -/
  calls : bench.watched.trial baseline mutants ⟨s, []⟩ = ((bench.trial baseline mutants s).1,
    ⟨(bench.trial baseline mutants s).2, bench.compileCalls baseline mutants answers ++
      [.removed bench.mutatedExecutable (bench.host.remove bench.mutatedExecutable s).1]⟩)
  /-- What an earlier trial left makes no difference, once it is removed. -/
  fresh : ∀ s', bench.Removable s' →
    (bench.host.remove bench.mutatedExecutable s').2 =
      (bench.host.remove bench.mutatedExecutable s).2 →
    bench.trial baseline mutants s' = bench.trial baseline mutants s

/-- A trial whose mutated executable is no obstacle. -/
theorem trial_classified (bench : Workbench σ) (baseline : Baseline) (mutants : List MutantId)
    (s : σ) (hremovable : bench.Removable s) :
    ∃ answers, bench.Concludes baseline mutants s answers := by
  obtain ⟨answers, result, t, hcourse, hlimit, hdoes⟩ := does_trial baseline mutants hremovable
  have hresult : (bench.trial baseline mutants s).1 = result := congrArg Prod.fst hdoes.ends
  refine ⟨answers, ?_, ?_, ?_, ?_, ?_, ?_⟩
  · rw [hlimit]
  · rw [hresult]
    exact hcourse.classified
  · intro cause hcause
    rw [hresult, hcourse.unstartable_eq hcause]
  · intro cause hcause hpresent
    rw [hresult, hcourse.unreadable_eq hcause hpresent]
  · rw [hdoes.ends, hdoes.asks, List.append_nil]
  · intro s' hremovable' hsame
    rw [trial_of_removable hremovable, trial_of_removable hremovable', hsame]

/-! ## On a folder -/

section OnFolder

variable (bench) (processes : Processes) {site site' : Site}

/-- On a folder there is nothing that cannot be removed. -/
theorem removable_onFolder (site : Site) : (bench.onFolder processes).Removable site := by
  have hremove := processes.remove_eq bench.baselineExecutable bench.mutatedExecutable site
  cases hfile : site.files bench.mutatedExecutable with
  | none =>
      rw [hfile] at hremove
      exact .inr (congrArg Prod.fst hremove)
  | some content =>
      rw [hfile] at hremove
      exact .inl (congrArg Prod.fst hremove)

/-- Trials on folders that differ in the mutated executable only are the same, whatever the compiler
does. -/
theorem trial_eq_of_agreeOff
    (hagree : Folder.AgreeOff bench.mutatedExecutable site.files site'.files)
    (htimes : site.times = site'.times) :
    (bench.onFolder processes).trial baseline mutants site =
      (bench.onFolder processes).trial baseline mutants site' := by
  have hremoved : ∀ site : Site,
      ((bench.onFolder processes).host.remove (bench.onFolder processes).mutatedExecutable site).2 =
        site.put bench.mutatedExecutable none := fun site =>
    congrArg Prod.snd
      (processes.remove_eq bench.baselineExecutable bench.mutatedExecutable site)
  rw [trial_of_removable (bench.removable_onFolder processes site),
    trial_of_removable (bench.removable_onFolder processes site'), hremoved, hremoved, Site.put,
    Site.put, Folder.put_eq_of_agreeOff hagree, htimes]

end OnFolder

/-- A folder with the executable of an earlier trial. -/
def earlierTrial : Site :=
  ⟨Folder.put idleBench.mutatedExecutable (some [115]) fun _ => none, fun _ => default⟩

/-- A program that took 2.5 s to compile and 40 ms to run. -/
def measured : Baseline :=
  ⟨⟨2, 500000000⟩, ⟨0, 40000000⟩, [49, 10], "fingerprint"⟩

theorem trial_classified_idle :
    (idleBench.timeouts.compile? measured.compileTime = some ⟨12, 500000000⟩ ∧
      idleBench.timeouts.run? measured.executionTime = some ⟨5, 0⟩) ∧
      (idleBench.onFolder idleProcesses).Removable earlierTrial ∧
        ∃ answers,
          (idleBench.onFolder idleProcesses).Concludes measured [7] earlierTrial answers :=
  ⟨by decide +kernel, idleBench.removable_onFolder idleProcesses earlierTrial,
    trial_classified (idleBench.onFolder idleProcesses) measured [7] earlierTrial
      (idleBench.removable_onFolder idleProcesses earlierTrial)⟩

end MutantHunt.Workbench
