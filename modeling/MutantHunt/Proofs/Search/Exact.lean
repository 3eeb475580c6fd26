import MutantHunt.Proofs.Search.Detector
import MutantHunt.Proofs.Search.Failure

/-!
# What a bisection does, exactly

A harness *reveals* a map from mutants to verdicts if it detects the mutants that the map gives a
verdict for, and answers a trial of one of them alone with that verdict.  Under such a harness a
bisection has a closed form.  It settles a mutant once for being in the batch, and once more for
each deadly mutant of the batch that is a relative of it: that many failed attempts if it is
harmless, and its death if it is deadly.  `touches` is this number and `Standing.touch` its effect.

Both are insensitive to where a batch is split and to the order of its members, and they add up
over the parts, so one induction along the recursion of `bisectParts` is all that is needed.  It
relies on the parts that are left being untouched by the part at hand, which is why the batch must
not hold relatives.

## Main results

* `bisectParts_exact` — the closed form for any list of parts.
* `bisect_exact` — what one bisection of a reachable state does, when no question fails.
-/

namespace MutantHunt

/-- The harness detects the mutants that the map gives a verdict for, and gives that verdict if it
tries one of them alone. -/
structure Harness.Reveals {σ : Type} (harness : Harness σ) (K : MutantId → Option Verdict) :
    Prop where
  detects : harness.Detects fun m => (K m).isSome = true
  alone : ∀ baseline m world fate verdict after, K m = some fate →
    harness.trial baseline [m] world = (.ok verdict, after) → verdict = fate

namespace Standing

/-- What becomes of a mutant that is settled so many times: if a verdict awaits it then it dies of
it the first time, and otherwise all are failed attempts. -/
def touch (fate : Option Verdict) (times : Nat) : Standing → Standing :=
  if times = 0 then id
  else
    match fate with
    | some verdict => kill verdict
    | none => chargeBy times

@[simp] theorem touch_zero (fate : Option Verdict) : touch fate 0 = id := rfl

theorem touch_none (times : Nat) : touch none times = chargeBy times := by
  unfold touch
  by_cases h : times = 0
  · rw [if_pos h, h, chargeBy_zero]
  · rw [if_neg h]

theorem touch_some {times : Nat} (h : times ≠ 0) (verdict : Verdict) :
    touch (some verdict) times = kill verdict := by
  unfold touch
  rw [if_neg h]

/-- The dead are past settling. -/
theorem touch_killed (fate : Option Verdict) (times : Nat) (verdict : Verdict) :
    touch fate times (killed verdict) = killed verdict := by
  unfold touch
  split
  · rfl
  · split
    · rfl
    · rfl

theorem verdict?_touch_alive (fate : Option Verdict) (times : Nat) (n : UInt32) :
    (touch fate times (alive n)).verdict? = if times ≠ 0 then fate else none := by
  cases fate with
  | none =>
      rw [touch_none, verdict?_chargeBy, ite_self]
      rfl
  | some verdict =>
      by_cases h : times = 0
      · simp [h, verdict?]
      · simp [touch_some h, h, kill, verdict?]

/-- A mutant that is alive after it was settled counts each time. -/
theorem eq_add_of_touch {fate : Option Verdict} {times : Nat} {n k : UInt32}
    (halive : touch fate times (alive n) = alive k) : k = n + UInt32.ofNat times := by
  cases fate with
  | none =>
      rw [touch_none, chargeBy, alive.injEq] at halive
      exact halive.symm
  | some verdict =>
      by_cases h : times = 0
      · rw [h, touch_zero, id, alive.injEq] at halive
        rw [← halive, h]
        exact (UInt32.add_zero n).symm
      · rw [touch_some h, kill] at halive
        cases halive

theorem touch_touch (st : Standing) (fate : Option Verdict) (i j : Nat) :
    (st.touch fate i).touch fate j = st.touch fate (i + j) := by
  cases fate with
  | none => rw [touch_none, touch_none, touch_none, chargeBy_chargeBy]
  | some verdict =>
      by_cases hi : i = 0
      · rw [hi, touch_zero, Nat.zero_add, id]
      · rw [touch_some hi, touch_some (by omega : i + j ≠ 0)]
        cases st with
        | alive n => exact touch_killed _ _ _
        | killed first => exact touch_killed _ _ _

end Standing

namespace Campaign

variable {σ : Type} (c : Campaign σ)

/-- How often a bisection of a batch settles a mutant: once if the batch lists it, and once for
each deadly mutant of the batch that it is a relative of. -/
def touches (K : MutantId → Option Verdict) (batch : List MutantId) (m : MutantId) : Nat :=
  batch.count m + batch.countP fun k => (K k).isSome && (c.tree.kin k).contains m

theorem touches_append (K : MutantId → Option Verdict) (batch rest : List MutantId)
    (m : MutantId) : c.touches K (batch ++ rest) m = c.touches K batch m + c.touches K rest m := by
  simp only [touches, List.count_append, List.countP_append]
  omega

theorem touches_perm (K : MutantId → Option Verdict) {batch batch' : List MutantId}
    (hperm : batch.Perm batch') (m : MutantId) : c.touches K batch m = c.touches K batch' m := by
  simp only [touches, hperm.count_eq, hperm.countP_eq]

/-- A batch without deadly mutants settles its members only. -/
theorem touches_of_harmless {K : MutantId → Option Verdict} {batch : List MutantId}
    (hharmless : ∀ k ∈ batch, K k = none) (m : MutantId) :
    c.touches K batch m = batch.count m := by
  have hnone : batch.countP (fun k => (K k).isSome && (c.tree.kin k).contains m) = 0 := by
    rw [List.countP_eq_zero]
    intro k hk
    rw [hharmless k hk]
    simp
  rw [touches, hnone, Nat.add_zero]

/-- A batch settles only its members and their relatives. -/
theorem touches_eq_zero (K : MutantId → Option Verdict) {batch : List MutantId} {m : MutantId}
    (hother : m ∉ batch) (hapart : ∀ k ∈ batch, m ∉ c.tree.kin k) : c.touches K batch m = 0 := by
  have hnone : batch.countP (fun k => (K k).isSome && (c.tree.kin k).contains m) = 0 := by
    rw [List.countP_eq_zero]
    intro k hk
    simp [hapart k hk]
  rw [touches, hnone, List.count_eq_zero.mpr hother]

theorem touches_ne_zero_iff (K : MutantId → Option Verdict) (batch : List MutantId)
    (m : MutantId) : c.touches K batch m ≠ 0 ↔
      m ∈ batch ∨ ∃ k ∈ batch, (K k).isSome = true ∧ m ∈ c.tree.kin k := by
  constructor
  · intro hne
    by_contra hneither
    rw [not_or] at hneither
    apply hne
    have hnone : batch.countP (fun k => (K k).isSome && (c.tree.kin k).contains m) = 0 := by
      rw [List.countP_eq_zero]
      intro k hk hdeadly
      simp only [Bool.and_eq_true, List.contains_iff_mem] at hdeadly
      exact hneither.2 ⟨k, hk, hdeadly.1, hdeadly.2⟩
    rw [touches, hnone, List.count_eq_zero.mpr hneither.1]
  · rintro (hm | ⟨k, hk, hdeadly, hm⟩)
    · have hpos := List.count_pos_iff.mpr hm
      rw [touches]
      omega
    · have hpos : 0 < batch.countP fun k => (K k).isSome && (c.tree.kin k).contains m := by
        rw [List.countP_pos_iff]
        exact ⟨k, hk, by simp [hdeadly, hm]⟩
      rw [touches]
      omega

/-- `after` is `before` with every mutant settled as often as a bisection of the batch does it. -/
def Settles (K : MutantId → Option Verdict) (batch : List MutantId) (before after : Hunt σ) :
    Prop :=
  ∀ m, after.scheduler.standing? m =
    (before.scheduler.standing? m).map (Standing.touch (K m) (c.touches K batch m))

variable {c} {K : MutantId → Option Verdict} {baseline : Baseline} {hunt after last : Hunt σ}
  {batch rest : List MutantId}

theorem Settles.append (hfirst : c.Settles K batch hunt after)
    (hsecond : c.Settles K rest after last) : c.Settles K (batch ++ rest) hunt last := by
  intro m
  rw [hsecond m, hfirst m, Option.map_map, touches_append]
  congr 1
  funext st
  exact st.touch_touch (K m) _ _

theorem settles_nil (K : MutantId → Option Verdict) (hunt : Hunt σ) : c.Settles K [] hunt hunt := by
  intro m
  rw [touches, List.count_nil, List.countP_nil, Standing.touch_zero, Option.map_id, id]

/-! ## Single trials -/

/-- A trial that kills nothing lists harmless mutants only. -/
theorem harmless_of_miss (hreveals : c.harness.Reveals K) {verdict : Verdict}
    (hrun : c.trial baseline batch hunt = (.ok verdict, after)) (hmiss : verdict.isKill = false) :
    ∀ k ∈ batch, K k = none := by
  have hobeys := obeys_trial hreveals.detects baseline batch hunt verdict (by rw [hrun])
  intro k hk
  rw [hmiss] at hobeys
  cases hfate : K k with
  | none => rfl
  | some fate => exact absurd (hobeys.mpr ⟨k, hk, by simp [hfate]⟩) Bool.false_ne_true

/-- A trial that kills lists a deadly mutant. -/
theorem deadly_of_kill (hreveals : c.harness.Reveals K) {verdict : Verdict}
    (hrun : c.trial baseline batch hunt = (.ok verdict, after)) (hkill : verdict.isKill = true) :
    ∃ k ∈ batch, (K k).isSome = true :=
  (obeys_trial hreveals.detects baseline batch hunt verdict (by rw [hrun])).mp hkill

theorem eq_fate_of_alone (hreveals : c.harness.Reveals K) {k : MutantId} {fate verdict : Verdict}
    (hfate : K k = some fate) (hrun : c.trial baseline [k] hunt = (.ok verdict, after)) :
    verdict = fate := by
  have hanswer : (c.harness.trial baseline [k] hunt.outside.world).1 = .ok verdict :=
    congrArg Prod.fst hrun
  exact hreveals.alone baseline k _ fate verdict _ hfate (Prod.ext hanswer rfl)

/-- A batch that is missed is charged, and that settles it. -/
theorem settles_miss (hreveals : c.harness.Reveals K) {verdict : Verdict}
    (hrun : c.trial baseline batch hunt = (.ok verdict, after)) (hmiss : verdict.isKill = false) :
    c.Settles K batch hunt (after.charge batch) := by
  have hharmless := harmless_of_miss hreveals hrun hmiss
  intro m
  have hbook := c.standing?_tryOut baseline batch hunt m
  rw [tryOut_eq hrun, Hunt.settle_of_not_kill batch hmiss, hrun,
    Trial.update_of_not_kill baseline batch hmiss] at hbook
  rw [hbook, c.touches_of_harmless hharmless]
  cases hfate : K m with
  | none => rw [Standing.touch_none]
  | some fate =>
      have hunlisted : m ∉ batch := by
        intro hm
        rw [hharmless m hm] at hfate
        cases hfate
      rw [List.count_eq_zero.mpr hunlisted, Standing.touch_zero, Standing.chargeBy_zero]

/-- A mutant that is tried alone is settled once. -/
theorem standing?_alone (hreveals : c.harness.Reveals K) {k : MutantId} {verdict : Verdict}
    (hanswer : (c.trial baseline [k] hunt).1 = .ok verdict) (m : MutantId) :
    (c.tryOut baseline [k] hunt).scheduler.standing? m =
      (hunt.scheduler.standing? m).map (Standing.touch (K m) ([k].count m)) := by
  have hrun : c.trial baseline [k] hunt = (.ok verdict, (c.trial baseline [k] hunt).2) :=
    Prod.ext hanswer rfl
  cases hkill : verdict.isKill with
  | false =>
      have hsettles := settles_miss hreveals hrun hkill m
      rw [c.touches_of_harmless (harmless_of_miss hreveals hrun hkill)] at hsettles
      rw [tryOut_eq hrun, Hunt.settle_of_not_kill [k] hkill, hsettles]
  | true =>
      rw [standing?_tryOut, hanswer, Trial.update_singleton baseline k hkill]
      by_cases hsame : k = m
      · subst hsame
        obtain ⟨k', hk', hdeadly⟩ := deadly_of_kill hreveals hrun hkill
        rw [List.mem_singleton.mp hk'] at hdeadly
        obtain ⟨fate, hfate⟩ := Option.isSome_iff_exists.mp hdeadly
        rw [if_pos rfl, hfate, eq_fate_of_alone hreveals hfate hrun, List.count_singleton_self,
          Standing.touch_some Nat.one_ne_zero]
      · have hcount : [k].count m = 0 := by
          rw [List.count_eq_zero, List.mem_singleton]
          exact fun h => hsame h.symm
        rw [if_neg hsame, hcount, Standing.touch_zero]

/-! ## The follow-up of a kill -/

/-- A list of relatives that is probed to its end settles a mutant as often as it lists it. -/
theorem standing?_probe (hreveals : c.harness.Reveals K) {relatives more : List MutantId}
    (hok : c.probe baseline relatives hunt = (.ok more, last)) (m : MutantId) :
    last.scheduler.standing? m =
      (hunt.scheduler.standing? m).map (Standing.touch (K m) (relatives.count m)) := by
  induction relatives generalizing hunt more with
  | nil =>
      cases hok
      rw [List.count_nil, Standing.touch_zero, Option.map_id, id]
  | cons r rest ih =>
      rw [probe_cons] at hok
      by_cases hdead : hunt.scheduler.isKilled r = true
      · rw [if_pos hdead] at hok
        rw [ih hok]
        by_cases hsame : r = m
        · obtain ⟨verdict, hkilled⟩ := (Scheduler.isKilled_eq_true_iff _ r).mp hdead
          rw [hsame] at hkilled
          rw [hkilled, Option.map_some, Option.map_some, Standing.touch_killed,
            Standing.touch_killed]
        · rw [List.count_cons_of_ne hsame]
      · rw [if_neg hdead] at hok
        cases hanswer : (c.trial baseline [r] hunt).1 with
        | error e =>
            rw [hanswer] at hok
            cases hok
        | ok verdict =>
            rw [hanswer] at hok
            simp only at hok
            rcases hrest : c.probe baseline rest (c.tryOut baseline [r] hunt) with ⟨result, state⟩
            rw [hrest] at hok
            cases result with
            | error e => cases hok
            | ok others =>
                cases (Prod.mk.inj hok).2
                have hcount : (r :: rest).count m = [r].count m + rest.count m := by
                  rw [← List.count_append, List.singleton_append]
                rw [ih hrest, standing?_alone hreveals hanswer, Option.map_map, hcount]
                congr 1
                funext st
                exact st.touch_touch (K m) _ _

theorem scheduler_triage (queue : List MutantId) (hunt : Hunt σ) :
    (c.triage queue hunt).2.scheduler = hunt.scheduler := by
  unfold triage
  split
  · rfl
  · rcases hrun : Hunt.outsideAct (c.reducer.journaled.triage queue) hunt with ⟨result, state⟩
    have hsame : state.scheduler = hunt.scheduler := by
      cases hrun
      rfl
    cases result with
    | error e => rw [Act.bind_of_error hrun, hsame]
    | ok groups =>
        rw [Act.bind_of_ok hrun]
        exact hsame

theorem standing?_consolidate (hreveals : c.harness.Reveals K) {k : MutantId}
    (hk : k.toNat < c.tree.mutantCount) {verdict : Verdict}
    (hok : c.consolidate k verdict baseline hunt = (.ok (), last)) (m : MutantId) :
    last.scheduler.standing? m =
      (hunt.scheduler.standing? m).map (Standing.touch (K m) ((c.tree.kin k).count m)) := by
  unfold consolidate at hok
  rw [Tree.relatives_eq_kin hk] at hok
  change (c.probe baseline (c.tree.kin k) >>= fun miscompiled =>
    c.triage (if verdict = .miscompilationKill then k :: miscompiled else miscompiled)) hunt =
      (.ok (), last) at hok
  rcases hprobe : c.probe baseline (c.tree.kin k) hunt with ⟨result, state⟩
  cases result with
  | error e =>
      rw [Act.bind_of_error hprobe] at hok
      cases hok
  | ok miscompiled =>
      rw [Act.bind_of_ok hprobe] at hok
      have hlast : last.scheduler = state.scheduler := by
        rw [← scheduler_triage _ state, hok]
      rw [hlast]
      exact standing?_probe hreveals hprobe m

/-- A deadly mutant settles itself and each of its relatives once. -/
theorem touches_deadly {description : Description} (hbuilt : c.tree.BuiltFrom description)
    {k : MutantId} (hdeadly : (K k).isSome = true) (m : MutantId) :
    c.touches K [k] m = [k].count m + (c.tree.kin k).count m := by
  rw [touches, (hbuilt.nodup_kin k).count]
  simp [hdeadly]

/-- A mutant that was killed alone and followed up is settled with its relatives. -/
theorem settles_kill {description : Description} (hbuilt : c.tree.BuiltFrom description)
    (hreveals : c.harness.Reveals K) {k : MutantId} (hk : k.toNat < c.tree.mutantCount)
    {verdict : Verdict} (hrun : c.trial baseline [k] hunt = (.ok verdict, after))
    (hkill : verdict.isKill = true)
    (hok : c.consolidate k verdict baseline (after.recordKill k verdict) = (.ok (), last)) :
    c.Settles K [k] hunt last := by
  obtain ⟨k', hk', hdeadly⟩ := deadly_of_kill hreveals hrun hkill
  rw [List.mem_singleton.mp hk'] at hdeadly
  intro m
  have halone := standing?_alone hreveals (by rw [hrun]) m
  rw [tryOut_eq hrun, Hunt.settle_singleton k hkill] at halone
  rw [standing?_consolidate hreveals hk hok, halone, Option.map_map,
    touches_deadly hbuilt hdeadly]
  congr 1
  funext st
  exact st.touch_touch (K m) _ _

/-! ## The work-list -/

/-- A batch that a bisection can settle member by member: of mutants of the tree that are alive,
each listed once, no two of them relatives. -/
structure Ready (c : Campaign σ) (hunt : Hunt σ) (batch : List MutantId) : Prop where
  nodup : batch.Nodup
  alive : ∀ m ∈ batch, hunt.scheduler.isKilled m = false
  known : ∀ m ∈ batch, m.toNat < c.tree.mutantCount
  apart : ∀ a ∈ batch, ∀ b ∈ batch, b ∉ c.tree.kin a

/-- Settling a part leaves the others as they were. -/
theorem Ready.of_settles (hready : c.Ready hunt (batch ++ rest))
    (hsettles : c.Settles K batch hunt after) : c.Ready after rest := by
  have hdisjoint := (List.nodup_append.mp hready.nodup).2.2
  constructor
  · exact (List.nodup_append.mp hready.nodup).2.1
  · intro m hm
    have huntouched : c.touches K batch m = 0 := by
      apply c.touches_eq_zero K
      · exact fun hmem => hdisjoint m hmem m hm rfl
      · exact fun k hk => hready.apart k (List.mem_append_left _ hk) m (List.mem_append_right _ hm)
    have hsame := hsettles m
    rw [huntouched, Standing.touch_zero, Option.map_id, id] at hsame
    rw [Scheduler.isKilled, hsame]
    exact hready.alive m (List.mem_append_right _ hm)
  · exact fun m hm => hready.known m (List.mem_append_right _ hm)
  · exact fun a ha b hb =>
      hready.apart a (List.mem_append_right _ ha) b (List.mem_append_right _ hb)

theorem Ready.living_eq (hready : c.Ready hunt (batch ++ rest)) : hunt.living batch = batch :=
  living_of_forall fun m hm => hready.alive m (List.mem_append_left _ hm)

/-- A bisection that comes to its end settles every mutant of its parts, and has found something
iff one of them is deadly. -/
theorem bisectParts_exact {description : Description} (hbuilt : c.tree.BuiltFrom description)
    (hreveals : c.harness.Reveals K) {parts : List (List MutantId)} {found answer : Bool}
    (hready : c.Ready hunt parts.flatten)
    (hok : c.bisectParts baseline parts found hunt = (.ok answer, last)) :
    answer = (found || parts.flatten.any fun m => (K m).isSome) ∧
      c.Settles K parts.flatten hunt last := by
  -- Along the recursion of `bisectParts`.  The parts that are left stay ready, since none of their
  -- members is touched; so no part ever loses a member to an earlier one.
  fun_induction Campaign.bisectParts c baseline parts found hunt with
  | case1 found hunt =>
      cases hok
      rw [List.flatten_nil]
      exact ⟨by simp, settles_nil K _⟩
  | case2 found hunt part parts live hempty ih =>
      rw [List.flatten_cons] at hready ⊢
      have hpart : part = [] := by
        rw [← hready.living_eq]
        exact hempty
      rw [hpart, List.nil_append] at hready ⊢
      exact ih hready hok
  | case3 found hunt part parts live hne e after hrun => cases hok
  | case4 found hunt part parts live hne verdict after hrun hmiss ih =>
      rw [List.flatten_cons] at hready ⊢
      have hlive : live = part := hready.living_eq
      rw [hlive] at hrun hok ih
      have hmiss : verdict.isKill = false := by simpa using hmiss
      have hsettles : c.Settles K part hunt (after.charge part) := settles_miss hreveals hrun hmiss
      obtain ⟨hanswer, hrest⟩ := ih (hready.of_settles hsettles) hok
      refine ⟨?_, hsettles.append hrest⟩
      have hharmless : part.any (fun m => (K m).isSome) = false := by
        rw [List.any_eq_false]
        intro m hm
        rw [harmless_of_miss hreveals hrun hmiss m hm]
        simp
      rw [hanswer, List.any_append, hharmless, Bool.false_or]
  | case5 found hunt part parts live hne verdict after hrun hkill hone k e state hfail => cases hok
  | case6 found hunt part parts live hne verdict after hrun hkill hone k state hdone ih =>
      rw [List.flatten_cons] at hready ⊢
      have hlive : live = part := hready.living_eq
      have hsingle : live = [k] := eq_singleton_head hne hone
      rw [← hlive, hsingle] at hready ⊢
      rw [hsingle] at hrun
      have hkill : verdict.isKill = true := by simpa using hkill
      have hk : k.toNat < c.tree.mutantCount :=
        hready.known k (List.mem_append_left _ (List.mem_singleton_self k))
      have hsettles : c.Settles K [k] hunt state :=
        settles_kill hbuilt hreveals hk hrun hkill hdone
      obtain ⟨hanswer, hrest⟩ := ih (hready.of_settles hsettles) hok
      refine ⟨?_, hsettles.append hrest⟩
      obtain ⟨k', hk', hdeadly⟩ := deadly_of_kill hreveals hrun hkill
      rw [List.mem_singleton.mp hk'] at hdeadly
      rw [hanswer, List.any_append, List.any_cons, hdeadly]
      simp
  | case7 found hunt part parts live hne verdict after hrun hkill htwo half ih =>
      rw [List.flatten_cons] at hready ⊢
      have hlive : live = part := hready.living_eq
      have hsplit : (live.take half :: live.drop half :: parts).flatten =
          part ++ parts.flatten := by
        rw [List.flatten_cons, List.flatten_cons, ← List.append_assoc, List.take_append_drop, hlive]
      rw [hsplit] at ih
      have hscheduler : after.scheduler = hunt.scheduler := scheduler_of_trial hrun
      have hready' : c.Ready after (part ++ parts.flatten) :=
        { hready with alive := by rw [hscheduler]; exact hready.alive }
      obtain ⟨hanswer, hsettles⟩ := ih hready' hok
      refine ⟨hanswer, ?_⟩
      intro m
      rw [← hscheduler]
      exact hsettles m

theorem bisect_settles {description : Description} (hbuilt : c.tree.BuiltFrom description)
    (hreveals : c.harness.Reveals K) (hne : batch ≠ []) (hready : c.Ready hunt batch)
    (hquiet : hunt.Undisturbed (c.bisect baseline batch hunt).2) :
    (c.bisect baseline batch hunt).1 = .ok (batch.any fun m => (K m).isSome) ∧
      c.Settles K batch hunt (c.bisect baseline batch hunt).2 := by
  obtain ⟨answer, hanswer⟩ := (honest_bisect hne hready.known).exists_ok hquiet
  have hok : c.bisectParts baseline [batch] false hunt =
      (.ok answer, (c.bisect baseline batch hunt).2) := by
    rw [← bisect_eq_bisectParts baseline hne]
    exact Prod.ext hanswer rfl
  have hflat : [batch].flatten = batch := by simp
  obtain ⟨hfound, hsettles⟩ := bisectParts_exact hbuilt hreveals (hflat.symm ▸ hready) hok
  rw [hflat] at hfound hsettles
  rw [hanswer, hfound, Bool.false_or]
  exact ⟨rfl, hsettles⟩

/-- What a bisection of a batch does from the state `before`, with the given outcome, when the
deadly mutants are those that `K` gives a verdict for. -/
structure ExactBisection (c : Campaign σ) (K : MutantId → Option Verdict) (baseline : Baseline)
    (batch : List MutantId) (before : Hunt σ) (outcome : Except HuntError Bool × Hunt σ) :
    Prop where
  /-- It succeeds, and tells whether the batch holds a deadly mutant. -/
  result : outcome.1 = .ok (batch.any fun m => (K m).isSome)
  /-- The kills on record stay.  The new ones are the deadly mutants among the batch and the
  relatives of its deadly members, each with its own verdict. -/
  killed : ∀ m, outcome.2.scheduler.verdict? m =
    (before.scheduler.verdict? m).or
      (if m ∈ batch ∨ ∃ k ∈ batch, (K k).isSome = true ∧ m ∈ c.tree.kin k then K m else none)
  /-- A mutant that stays alive is charged for being in the batch, and for each deadly member of
  the batch that it is a relative of. -/
  charged : ∀ m n, before.scheduler.attempts? m = some n →
    outcome.2.scheduler.isKilled m = false →
    n.toNat + c.touches K batch m < UInt32.size →
    (outcome.2.scheduler.attempts? m).map UInt32.toNat =
      some (n.toNat + (if m ∈ batch then 1 else 0) +
        batch.countP fun k => (K k).isSome && (c.tree.kin k).contains m)
  /-- The order in which the batch is listed makes no difference to the table. -/
  order : ∀ batch' : List MutantId, batch'.Perm batch →
    before.Undisturbed (c.bisect baseline batch' before).2 →
    (c.bisect baseline batch' before).2.scheduler.table = outcome.2.scheduler.table

theorem verdict?_of_settles {description : Description} (hbuilt : c.tree.BuiltFrom description)
    (hsize : hunt.scheduler.table.size = c.tree.mutantCount)
    (hknown : ∀ m ∈ batch, m.toNat < c.tree.mutantCount)
    (hsettles : c.Settles K batch hunt after) (m : MutantId) :
    after.scheduler.verdict? m = (hunt.scheduler.verdict? m).or
      (if m ∈ batch ∨ ∃ k ∈ batch, (K k).isSome = true ∧ m ∈ c.tree.kin k then K m else none) := by
  simp only [← c.touches_ne_zero_iff K batch m]
  rw [Scheduler.verdict?, Scheduler.verdict?, hsettles m]
  cases hstanding : hunt.scheduler.standing? m with
  | none =>
      have huntouched : c.touches K batch m = 0 := by
        by_contra hne
        have hbound := (Scheduler.standing?_eq_none_iff _ m).mp hstanding
        rw [hsize] at hbound
        rcases (c.touches_ne_zero_iff K batch m).mp hne with hm | ⟨k, -, -, hm⟩
        · exact Nat.not_lt.mpr hbound (hknown m hm)
        · exact Nat.not_lt.mpr hbound (hbuilt.lt_of_mem_kin hm)
      rw [huntouched, if_neg (by simp)]
      rfl
  | some standing =>
      rw [Option.map_some, Option.bind_some, Option.bind_some]
      cases standing with
      | alive n =>
          rw [Standing.verdict?_touch_alive]
          rfl
      | killed verdict =>
          rw [Standing.touch_killed]
          rfl

theorem attempts?_of_settles (hsettles : c.Settles K batch hunt after) {m : MutantId} {n : UInt32}
    (hn : hunt.scheduler.attempts? m = some n) (halive : after.scheduler.isKilled m = false)
    (hroom : n.toNat + c.touches K batch m < UInt32.size) :
    (after.scheduler.attempts? m).map UInt32.toNat = some (n.toNat + c.touches K batch m) := by
  have hstanding := hsettles m
  rw [(Scheduler.attempts?_eq_some_iff _ m n).mp hn, Option.map_some] at hstanding
  cases htouched : Standing.touch (K m) (c.touches K batch m) (.alive n) with
  | killed verdict =>
      rw [Scheduler.isKilled_of_standing? hstanding, htouched] at halive
      cases halive
  | alive k =>
      rw [htouched] at hstanding
      rw [(Scheduler.attempts?_eq_some_iff _ m k).mpr hstanding, Option.map_some,
        Standing.eq_add_of_touch htouched, UInt32.toNat_add,
        UInt32.toNat_ofNat_of_lt' (by omega), Nat.mod_eq_of_lt hroom]

theorem Ready.of_perm {batch' : List MutantId} (hready : c.Ready hunt batch)
    (hperm : batch'.Perm batch) : c.Ready hunt batch' where
  nodup := hperm.nodup_iff.mpr hready.nodup
  alive := fun m hm => hready.alive m (hperm.mem_iff.mp hm)
  known := fun m hm => hready.known m (hperm.mem_iff.mp hm)
  apart := fun a ha b hb => hready.apart a (hperm.mem_iff.mp ha) b (hperm.mem_iff.mp hb)

theorem size_bisect (baseline : Baseline) (batch : List MutantId) (hunt : Hunt σ) :
    (c.bisect baseline batch hunt).2.scheduler.table.size = hunt.scheduler.table.size :=
  size_steps (steps_bisect (c.admits_all baseline) trivial)

/-- Under a harness that reveals the deadly mutants, a bisection of a reachable state does exactly
this with a batch of mutants that are alive and no relatives, as long as no question fails. -/
theorem bisect_exact (c : Campaign σ) {description : Description}
    {order : List (MutantId × NodeId) → List (MutantId × NodeId)}
    (horder : ∀ entries, (order entries).Perm entries)
    (hbuilt : Tree.ofDescriptionBy order description = .ok c.tree)
    (hsmall : c.tree.mutantCount < UInt32.size) (seed : UInt64) (world : σ) (calls : List Call)
    {K : MutantId → Option Verdict} (hreveals : c.harness.Reveals K) {baseline : Baseline}
    {batch : List MutantId} (hne : batch ≠ [])
    (hready : c.Ready (c.performAll (c.start seed world) calls) batch)
    (hquiet : (c.performAll (c.start seed world) calls).Undisturbed
      (c.bisect baseline batch (c.performAll (c.start seed world) calls)).2) :
    c.ExactBisection K baseline batch (c.performAll (c.start seed world) calls)
      (c.bisect baseline batch (c.performAll (c.start seed world) calls)) := by
  have hfrom := Tree.builtFrom_of_ofDescriptionBy horder hbuilt
  have hsize := size_performAll hsmall seed world calls
  generalize c.performAll (c.start seed world) calls = hunt at hready hquiet hsize ⊢
  obtain ⟨hresult, hsettles⟩ := bisect_settles hfrom hreveals hne hready hquiet
  constructor
  · exact hresult
  · exact verdict?_of_settles hfrom hsize hready.known hsettles
  · intro m n hn halive hroom
    rw [attempts?_of_settles hsettles hn halive hroom, touches, hready.nodup.count,
      Nat.add_assoc]
  · intro batch' hperm hquiet'
    have hne' : batch' ≠ [] := by
      intro hnil
      rw [hnil] at hperm
      exact hne hperm.nil_eq.symm
    obtain ⟨-, hsettles'⟩ :=
      bisect_settles hfrom hreveals hne' (hready.of_perm hperm) hquiet'
    apply Scheduler.table_ext
    · rw [size_bisect, size_bisect]
    · rw [size_bisect, hsize]
      exact Nat.le_of_lt hsmall
    · intro m
      rw [hsettles' m, hsettles m, c.touches_perm K hperm m]

end Campaign

/-- A harness that knows the deadly mutants reveals them. -/
theorem Harness.reveals_ofVerdicts {deadly : MutantId → Option Verdict}
    (hdeadly : ∀ m verdict, deadly m = some verdict → verdict.isKill = true) :
    (Harness.ofVerdicts deadly).Reveals deadly where
  detects := Harness.detects_ofVerdicts hdeadly
  alone := by
    intro baseline m world fate verdict after hfate hrun
    have hverdict : ([m].findSome? deadly).getD .noEffect = verdict := by
      cases hrun
      rfl
    rw [← hverdict, List.findSome?_cons, hfate]
    rfl

namespace Campaign

/-- After a failed attempt at mutant 2, a batch of it with mutant 1, which has the deadly relative
0. -/
theorem bisect_exact_twoFiles :
    (∀ entries : List (MutantId × NodeId), (id entries).Perm entries) ∧
      Tree.ofDescriptionBy id Tree.twoFilesDescription = .ok twoFiles.tree ∧
      twoFiles.tree.mutantCount < UInt32.size ∧
      twoFiles.harness.Reveals deadlyInTwoFiles ∧
      [(2 : MutantId), 1] ≠ [] ∧
      twoFiles.Ready (twoFiles.performAll (twoFiles.start 0 ()) [.bisect default [2]]) [2, 1] ∧
      (twoFiles.performAll (twoFiles.start 0 ()) [.bisect default [2]]).Undisturbed
        (twoFiles.bisect default [2, 1]
          (twoFiles.performAll (twoFiles.start 0 ()) [.bisect default [2]])).2 ∧
      twoFiles.ExactBisection deadlyInTwoFiles default [2, 1]
        (twoFiles.performAll (twoFiles.start 0 ()) [.bisect default [2]])
        (twoFiles.bisect default [2, 1]
          (twoFiles.performAll (twoFiles.start 0 ()) [.bisect default [2]])) := by
  have hreveals : twoFiles.harness.Reveals deadlyInTwoFiles :=
    Harness.reveals_ofVerdicts fun _ _ => isKill_of_deadlyInTwoFiles
  have hready :
      twoFiles.Ready (twoFiles.performAll (twoFiles.start 0 ()) [.bisect default [2]]) [2, 1] := by
    have halive : [2, 1].all (fun m => !(twoFiles.performAll (twoFiles.start 0 ())
        [.bisect default [2]]).scheduler.isKilled m) = true := by
      decide +kernel
    have hkinTwo : twoFiles.tree.kin 2 = [] := by decide +kernel
    have hkinOne : twoFiles.tree.kin 1 = [0] := by decide +kernel
    constructor
    · decide
    · simpa using halive
    · intro m hm
      rcases List.mem_pair.mp hm with rfl | rfl
      · decide
      · decide
    · intro a ha b hb
      rcases List.mem_pair.mp ha with rfl | rfl
      · rw [hkinTwo]
        exact List.not_mem_nil
      · rw [hkinOne, List.mem_singleton]
        rcases List.mem_pair.mp hb with rfl | rfl
        · decide
        · decide
  have hquiet : (twoFiles.performAll (twoFiles.start 0 ()) [.bisect default [2]]).Undisturbed
      (twoFiles.bisect default [2, 1]
        (twoFiles.performAll (twoFiles.start 0 ()) [.bisect default [2]])).2 := by
    have hevents : ((twoFiles.bisect default [2, 1] (twoFiles.performAll (twoFiles.start 0 ())
        [.bisect default [2]])).2.events.drop (twoFiles.performAll (twoFiles.start 0 ())
        [.bisect default [2]]).events.length).filterMap Event.failure? = [] := by
      decide +kernel
    exact List.filterMap_eq_nil_iff.mp hevents
  exact ⟨List.Perm.refl, Tree.ofDescriptionBy_twoFiles, by decide, hreveals, by decide, hready,
    hquiet, bisect_exact twoFiles List.Perm.refl Tree.ofDescriptionBy_twoFiles (by decide) 0 () _
      hreveals (by decide) hready hquiet⟩

end Campaign

end MutantHunt
