import MutantHunt.Proofs.Numeric.Seconds
import MutantHunt.Sandbox.Terminal

/-!
# The time limits a search begins with

A search is asked for with the least time that a mutated step is given, in seconds.  Accepted is any
double that is positive and finite, but a duration has to be below `2 ^ 64` seconds.  So an accepted
number is not always usable: below that bound the search begins, with the nearest duration for its
minimum, and from there on it breaks off in the same place with the status of a crash.

## Main results

* `timeouts_of_lt`, `timeouts_of_le` — the limits of a search, or their failure.
* `minimum_usable_iff` — what becomes of a search whose minimum is accepted.
-/

namespace MutantHunt.CommandLine.Terminal

variable {σ : Type} {request : RunRequest} {v : ℚ}

/-- A usable minimum, with the other limits as they always are. -/
theorem timeouts_of_lt (hv : request.minimumSeconds.toRat? = some v) (hpos : 0 < v)
    (hlt : v < 2 ^ 64) :
    ∃ minimum : Duration, RoundsTo (v * 1000000000) minimum.toNanoseconds ∧
      minimum.nanoseconds.toNat < 1000000000 ∧
      (timeouts request : Act SearchError σ Timeouts) = pure { minimum } := by
  obtain ⟨minimum, hsome, hrounds, hnanoseconds⟩ := Duration.ofSeconds?_of_lt hv hpos hlt
  refine ⟨minimum, hrounds, hnanoseconds, ?_⟩
  rw [timeouts, hsome]

/-- A minimum that is too long for a duration. -/
theorem timeouts_of_le (hv : request.minimumSeconds.toRat? = some v) (hpos : 0 < v)
    (hle : 2 ^ 64 ≤ v) :
    (timeouts request : Act SearchError σ Timeouts) = Act.throw (.hunt .limitTooLong) := by
  rw [timeouts, Duration.ofSeconds?_of_le hv hpos hle]

/-- A search that breaks off once its directories are there. -/
def BreaksOff (result : Except SearchError Report) : Prop :=
  result = .error (.hunt .limitTooLong) ∨ (∃ path cause, result = .error (.noDirectory path cause)) ∨
    ∃ cause, result = .error (.noTemporaryDirectory cause)

/-- Making a directory and failing then is breaking off. -/
theorem breaksOff_of_directory (t : Terminal σ) (path : String) {next : Act SearchError σ Report}
    (hnext : ∀ s, BreaksOff (next s).1) (s : σ) :
    BreaksOff ((t.makeDirectory path >>= fun _ => next) s).1 := by
  rw [Act.bind_apply, makeDirectory, Act.mapError]
  rcases t.host.createDirectories path s with ⟨cause | -, s₁⟩
  · exact .inr (.inl ⟨path, cause, rfl⟩)
  · exact hnext s₁

/-- Wherever its programs are made, a search breaks off that breaks off in a given directory. -/
theorem breaksOff_search (t : Terminal σ) {tree : Tree}
    (hin : ∀ directory s, BreaksOff (t.searchIn tree request directory s).1) (s : σ) :
    BreaksOff (t.search tree request s).1 := by
  unfold search
  cases request.workDirectory with
  | some path => exact t.breaksOff_of_directory path (hin _) s
  | none =>
      rcases hmade : t.makeTemporary s with ⟨cause | path, s₁⟩
      · have hfail := Act.mapError_of_error hmade SearchError.noTemporaryDirectory
        exact .inr (.inr ⟨cause, congrArg Prod.fst (Act.bind_of_error hfail _)⟩)
      · have hok := Act.mapError_of_ok hmade SearchError.noTemporaryDirectory
        have hsearch := congrArg Prod.fst (Act.bind_of_ok hok fun path s =>
          ((t.searchIn tree request path s).1,
            t.removeTemporary path (t.searchIn tree request path s).2))
        exact hsearch ▸ hin path s₁

/-- The program does not succeed if its search breaks off. -/
theorem run_ne_success (t : Terminal σ)
    (hsearch : ∀ tree s, BreaksOff (t.search tree request s).1) (s : σ) :
    (t.run request s).1 ≠ .success := by
  unfold run
  split
  · exact ExitStatus.noConfusion
  · split
    · exact ExitStatus.noConfusion
    · rcases Tree.load t.host request.description s with ⟨e | tree, s₁⟩
      · exact ExitStatus.noConfusion
      · simp only
        have hbreaks := hsearch tree s₁
        rcases hrun : t.search tree request s₁ with ⟨result, s₂⟩
        rw [hrun] at hbreaks
        rcases hbreaks with rfl | ⟨path, cause, rfl⟩ | ⟨cause, rfl⟩ <;> exact ExitStatus.noConfusion

/-- What becomes of a search for which a minimum of `v` seconds is accepted. -/
structure TakesMinimum (t : Terminal σ) (request : RunRequest) (v : ℚ) : Prop where
  value : request.minimumSeconds.toRat? = some v
  positive : 0 < v
  /-- There are limits with the minimum exactly for numbers of seconds below `2 ^ 64`. -/
  usable_iff : ∀ s : σ, (∃ limits, timeouts request s = (.ok limits, s)) ↔ v < 2 ^ 64
  /-- With the nearest duration for its minimum, the search goes on to its campaign. -/
  begins : v < 2 ^ 64 → ∃ minimum : Duration, RoundsTo (v * 1000000000) minimum.toNanoseconds ∧
    minimum.nanoseconds.toNat < 1000000000 ∧
    ∀ tree directory, t.searchIn tree request directory = do
      let output := t.absolute request.outputDirectory
      t.makeDirectory output
      t.runCampaign (t.campaign tree request directory output { minimum }) request output
  /-- Without it, there is no campaign. -/
  breaks_off : 2 ^ 64 ≤ v → ∀ tree directory, t.searchIn tree request directory = do
    t.makeDirectory (t.absolute request.outputDirectory)
    Act.throw (.hunt .limitTooLong)
  no_success : 2 ^ 64 ≤ v → ∀ s, (t.run request s).1 ≠ .success

/-- Of the positive and finite numbers of seconds, those below `2 ^ 64` can be used for a minimum,
and no others. -/
theorem minimum_usable_iff (t : Terminal σ)
    (haccepted : request.minimumSeconds.isPositiveFinite = true) :
    ∃ v, t.TakesMinimum request v := by
  obtain ⟨v, hv, hpos⟩ := Binary64.isPositiveFinite_iff.mp haccepted
  have hbreaks : 2 ^ 64 ≤ v → ∀ tree directory, t.searchIn tree request directory = (do
      t.makeDirectory (t.absolute request.outputDirectory)
      Act.throw (.hunt .limitTooLong)) := by
    intro hle tree directory
    rw [searchIn, timeouts_of_le hv hpos hle]
    rfl
  refine ⟨v, hv, hpos, ?_, ?_, hbreaks, ?_⟩
  · intro s
    constructor
    · rintro ⟨limits, hlimits⟩
      by_contra hle
      rw [timeouts_of_le hv hpos (not_lt.mp hle)] at hlimits
      cases hlimits
    · intro hlt
      obtain ⟨minimum, -, -, hlimits⟩ := timeouts_of_lt hv hpos hlt
      exact ⟨{ minimum }, congrFun hlimits s⟩
  · intro hlt
    obtain ⟨minimum, hrounds, hnanoseconds, hlimits⟩ := timeouts_of_lt hv hpos hlt
    refine ⟨minimum, hrounds, hnanoseconds, fun tree directory => ?_⟩
    rw [searchIn, hlimits]
    rfl
  · intro hle s
    refine t.run_ne_success (fun tree => t.breaksOff_search fun directory => ?_) s
    rw [hbreaks hle]
    exact t.breaksOff_of_directory _ fun _ => .inl rfl

/-- A search that is asked for with a minimum and no other options. -/
def requestOf (minimumSeconds : Binary64) : RunRequest where
  description := "mutants.json"
  tools := ⟨"bin/cc", "csmith"⟩
  limits := {}
  mismatch := .kill
  reducer := "creduce"
  workDirectory := none
  outputDirectory := defaultOutput
  seed := none
  maxPrograms := none
  minimumSeconds

/-- The largest double below the bound. -/
theorem minimum_usable_iff_largest :
    (requestOf ⟨0x43EFFFFFFFFFFFFF⟩).minimumSeconds.isPositiveFinite = true ∧
      ∃ v, (Sandbox.terminal default).TakesMinimum (requestOf ⟨0x43EFFFFFFFFFFFFF⟩) v :=
  ⟨by decide, minimum_usable_iff (Sandbox.terminal default) (by decide)⟩

/-- The smallest accepted number that is too long: `2 ^ 64` seconds, as the command line gives it. -/
theorem accepted_minimum_too_long :
    (Binary64.ofText? "18446744073709551616").map Binary64.bits = some 0x43F0000000000000 ∧
      (requestOf ⟨0x43F0000000000000⟩).minimumSeconds.isPositiveFinite = true ∧
      (∀ s : Sandbox, timeouts (requestOf ⟨0x43F0000000000000⟩) s =
        (.error (.hunt .limitTooLong), s)) ∧
      (SearchError.hunt .limitTooLong).exitStatus.code ∉ [0, 2, 3] := by
  refine ⟨by decide +kernel, by decide, fun s => ?_, by decide⟩
  have hnone : Duration.ofSeconds? ⟨0x43F0000000000000⟩ = none := by decide
  rw [timeouts, requestOf, hnone]
  rfl

end MutantHunt.CommandLine.Terminal
