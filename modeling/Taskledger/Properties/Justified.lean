import Taskledger.Properties.Evidence

/-!
# Done tasks are justified

A managed task is implemented only with a finished implementation, and done only with a finished
validation of it; a validation that failed or was blocked has these statuses. No operation leaves
a ledger in which this fails.
-/

namespace Taskledger

open Library Lifecycle

/-- What the stage of a managed task rests on. -/
structure View.Grounded (v : View) (t : TaskCore) : Prop where
  validating : ∀ runId r, v.runs runId = some r → r.runType = .validation →
    r.status = .running → t.implementationRun = r.implementationRun
  implemented : t.stage = .implemented →
    ∃ impl ri, t.implementationRun = some impl ∧ v.Implemented impl ri
  done : t.stage = .done → ∃ val r impl ri, t.validationRun = some val ∧ v.runs val = some r ∧
    r.runType = .validation ∧ r.status = .finished ∧ r.implementationRun = some impl ∧
    t.implementationRun = some impl ∧ v.Implemented impl ri

/-- A view whose task is grounded, if it is managed. -/
def View.Justified (v : View) : Prop :=
  ∀ t, v.task = some t → t.taskType = .managed → v.Grounded t

-- ════════════════════════════════════════════════════════════════════════
-- What a move leaves alone
-- ════════════════════════════════════════════════════════════════════════

section Continuing

variable {v w : View} {t u : TaskCore} {r : RunCore} {runId : String}

/-- Each validation that is running was running before. -/
def View.NoNewValidation (v w : View) : Prop :=
  ∀ runId r, w.runs runId = some r → r.runType = .validation → r.status = .running →
    v.runs runId = some r

theorem View.NoNewValidation.of_same (hruns : w.runs = v.runs) : v.NoNewValidation w := by
  intro runId r hr _ _
  rwa [hruns] at hr

/-- A run that ends, or one of another type. -/
theorem View.NoNewValidation.of_update (hruns : w.runs = Function.update v.runs runId (some r))
    (hr : r.runType ≠ .validation ∨ r.status ≠ .running) : v.NoNewValidation w := by
  intro i x hx htype hrunning
  by_cases hi : i = runId
  · rw [hruns, hi, Function.update_self] at hx
    cases hx
    rcases hr with hother | hended
    · exact absurd htype hother
    · exact absurd hrunning hended
  · rwa [hruns, Function.update_of_ne hi] at hx

/-- The links are the same, and the stage is, or it needs no evidence. -/
theorem View.Grounded.keep (h : v.Grounded t) (hw : v.Continues w) (hnew : v.NoNewValidation w)
    (hi : u.implementationRun = t.implementationRun) (hv : u.validationRun = t.validationRun)
    (hstage : u.stage = t.stage ∨ u.stage ≠ .implemented ∧ u.stage ≠ .done) : w.Grounded u where
  validating runId r hr htype hrunning :=
    hi.trans (h.validating runId r (hnew runId r hr htype hrunning) htype hrunning)
  implemented hstaged := by
    rcases hstage with hsame | ⟨hne, -⟩
    · obtain ⟨impl, ri, himpl, hfinished⟩ := h.implemented (hsame.symm.trans hstaged)
      exact ⟨impl, ri, hi.trans himpl, hfinished.continues hw⟩
    · exact absurd hstaged hne
  done hstaged := by
    rcases hstage with hsame | ⟨-, hne⟩
    · obtain ⟨val, r, impl, ri, hval, hr, htype, hpassed, hbased, himpl, hfinished⟩ :=
        h.done (hsame.symm.trans hstaged)
      obtain ⟨r', hr', hrun⟩ := hw.runs val r hr
      have hsame : r' = r := hrun.ended (by simp [hpassed])
      rw [hsame] at hr'
      exact ⟨val, r, impl, ri, hv.trans hval, hr', htype, hpassed, hbased, hi.trans himpl,
        hfinished.continues hw⟩
    · exact absurd hstaged hne

/-- The verdict that leads to `done` finishes the run. -/
theorem verdictStatus_of_done {result : ValidationResult} (h : verdictStage result = .done) :
    verdictStatus result = .finished := by
  cases result with
  | passed => rfl
  | failed => cases h
  | blocked => cases h

theorem verdictStage_ne_implemented (result : ValidationResult) :
    verdictStage result ≠ .implemented := by
  cases result <;> decide

theorem unarchivedStage_keeps (reopen : Bool) (stage : TaskStatusStage) :
    unarchivedStage reopen stage = stage ∨
      unarchivedStage reopen stage ≠ .implemented ∧ unarchivedStage reopen stage ≠ .done := by
  unfold unarchivedStage
  split
  · exact .inr (by decide)
  · exact .inl rfl

end Continuing

-- ════════════════════════════════════════════════════════════════════════
-- The moves
-- ════════════════════════════════════════════════════════════════════════

section Moves

variable [Runtime] {id : String} {v w : View} {label : Label}

theorem Move.justified (hs : v.Sound id) (ha : v.Approvals) (he : v.Evidence) (h : v.Justified)
    (m : Move id label v w) : w.Justified := by
  have hw := Move.continues ha m
  intro u hu hmanaged
  have hold {t : TaskCore} (ht : v.task = some t) (htype : u.taskType = t.taskType) :
      v.Grounded t := h t ht (htype ▸ hmanaged)
  have hends (status : RunStatus) (hstatus : status ≠ .running) (r : RunCore) :
      RunCore.runType { r with status := status } ≠ .validation ∨
        RunCore.status { r with status := status } ≠ .running := .inr hstatus
  cases m with
  | create hid hfree =>
    cases hu
    refine ⟨fun runId r hr => ?_, nofun, nofun⟩
    cases ((hs.blank hfree).1 runId).symm.trans hr
  | record hid hfree =>
    cases hu
    cases hmanaged
  | addFinished ht htype hid hfree hr hwaivers =>
    cases ht.symm.trans hu
    cases htype.symm.trans hmanaged
  | link ht htype himpl hval =>
    cases hu
    cases htype.symm.trans hmanaged
  | startPlanning ht hstage hidle hrun =>
    cases hu
    refine (hold ht rfl).keep hw (.of_update rfl (.inl ?_)) rfl rfl (.inl rfl)
    rw [hrun.ofType]
    decide
  | propose ht hstage hrun hnew =>
    cases hu
    exact (hold ht rfl).keep hw (.of_update rfl (hends _ (by decide) _)) rfl rfl
      (.inr ⟨by simp, by simp⟩)
  | @regenerate _ t finish previous n listed ht hfinish hnew hprevious =>
    cases hu
    cases finish with
    | none => exact (hold ht rfl).keep hw (.of_same rfl) rfl rfl (.inr ⟨by simp, by simp⟩)
    | some f =>
      exact (hold ht rfl).keep hw (.of_update rfl (hends _ (by decide) _)) rfl rfl
        (.inr ⟨by simp, by simp⟩)
  | approve ht hstage hidle hplan hlisted hproposed =>
    cases hu
    exact (hold ht rfl).keep hw (.of_same rfl) rfl rfl (.inr ⟨by simp, by simp⟩)
  | reject ht hstage hlatest =>
    cases ht.symm.trans hu
    exact (hold ht rfl).keep hw (.of_same rfl) rfl rfl (.inl rfl)
  | @startImplementation _ t runId r n ht hstage haccepted hidle hrun hversion =>
    cases hu
    refine ⟨fun i x hx htype hrunning => ?_, nofun, nofun⟩
    have hother : r.runType ≠ .validation := by
      rw [hrun.ofType]
      decide
    have hnew : v.NoNewValidation (v.setRun runId r) := .of_update rfl (.inl hother)
    exact absurd hrunning (hidle.stopped i x (hnew i x hx htype hrunning))
  | @resume _ t runId r n ht hstage haccepted hlock hrun =>
    cases hu
    refine ⟨fun i x hx htype hrunning => ?_, nofun, nofun⟩
    -- the implementation that is running is the only run that is
    have hi := hs.oneRunning i runId x r hx hrun.stored hrunning hrun.running
    rw [hi] at hx
    cases hrun.stored.symm.trans hx
    cases hrun.ofType.symm.trans htype
  | @finishImplementation _ t runId r ht hlatest hrun =>
    cases hu
    refine ⟨fun i x hx htype hrunning => ?_, fun _ => ?_, nofun⟩
    · have hnew : v.NoNewValidation (v.setRun runId { r with status := .finished }) :=
        .of_update rfl (hends _ (by decide) _)
      exact (hold ht rfl).validating i x (hnew i x hx htype hrunning) htype hrunning
    · exact ⟨runId, _, hlatest, Function.update_self .., hrun.ofType, rfl⟩
  | @startValidation _ t runId impl r ri ht hstage himpl hfinished hidle hrun hbased =>
    cases hu
    refine ⟨fun i x hx htype hrunning => ?_, fun _ => ?_, fun hdone => ?_⟩
    · have hruns : Function.update v.runs runId (some r) i = some x := hx
      by_cases hi : i = runId
      · rw [hi, Function.update_self] at hruns
        cases hruns
        exact himpl.trans hbased.symm
      · rw [Function.update_of_ne hi] at hruns
        exact absurd hrunning (hidle.stopped i x hruns)
    · exact ⟨impl, ri, himpl, hfinished.continues hw⟩
    · cases hstage.symm.trans hdone
  | @finishValidation _ t runId r result ht hlatest hrun =>
    cases hu
    have hgrounded := hold ht rfl
    have hended : verdictStatus result ≠ .running := by cases result <;> decide
    refine ⟨fun i x hx htype hrunning => ?_,
      fun himplemented => absurd himplemented (verdictStage_ne_implemented result),
      fun hdone => ?_⟩
    · have hnew : v.NoNewValidation (v.setRun runId { r with status := verdictStatus result }) :=
        .of_update rfl (hends _ hended _)
      exact hgrounded.validating i x (hnew i x hx htype hrunning) htype hrunning
    · have hbased := (he t ht hmanaged).based runId r hrun.stored
      rw [RunCore.Based, hrun.ofType] at hbased
      obtain ⟨impl, ri, himpl, hfinished⟩ := hbased
      have hlinked := hgrounded.validating runId r hrun.stored hrun.ofType hrun.running
      exact ⟨runId, _, impl, ri, hlatest, Function.update_self .., hrun.ofType,
        verdictStatus_of_done hdone, himpl, hlinked.trans himpl, hfinished.continues hw⟩
  | cancel ht hstage =>
    cases hu
    exact (hold ht rfl).keep hw (.of_same rfl) rfl rfl (.inr ⟨by simp, by simp⟩)
  | @uncancel _ t target ht hstage hlock htarget =>
    cases hu
    have hgrounded := hold ht rfl
    refine ⟨hgrounded.validating, fun himplemented => ?_, fun hdone => ?_⟩
    · have htarget' : target = .implemented := himplemented
      rw [htarget'] at htarget
      obtain ⟨impl, ri, himpl, hfinished⟩ := htarget
      exact ⟨impl, ri, himpl, hfinished.continues hw⟩
    · have htarget' : target = .done := hdone
      rw [htarget'] at htarget
      exact htarget.elim
  | archive ht harchived hstage =>
    cases hu
    exact (hold ht rfl).keep hw (.of_same rfl) rfl rfl (.inl rfl)
  | unarchive ht harchived hstage =>
    cases hu
    exact (hold ht rfl).keep hw (.of_same rfl) rfl rfl (unarchivedStage_keeps _ _)
  | dropLock => exact (hold hu rfl).keep hw (.of_same rfl) rfl rfl (.inl rfl)
  | repairRun hlock hrun =>
    exact (hold hu rfl).keep hw (.of_update rfl (hends _ (by decide) _)) rfl rfl (.inl rfl)

end Moves

-- ════════════════════════════════════════════════════════════════════════
-- Runs of the program
-- ════════════════════════════════════════════════════════════════════════

section Runs

variable [Runtime] {s : Ledger}

theorem Step.justified (step : Step) (hs : s.Reachable) (h : ∀ id, (s.view id).Justified)
    (id : String) : ((step.next s).view id).Justified := by
  have hkept := (step.evolves hs.sound).invariant
    (I := fun id v => v.Sound id ∧ v.Approvals ∧ v.Evidence ∧ v.Justified)
    (fun _ _ _ _ hv _ m => ⟨Move.sound hv.1 m, Move.approvals hv.1 hv.2.1 m,
      Move.evidence hv.1 hv.2.1 hv.2.2.1 m, Move.justified hv.1 hv.2.1 hv.2.2.1 hv.2.2.2 m⟩)
    fun id => ⟨hs.sound id, hs.approvals id, hs.evidence id, h id⟩
  exact (hkept id).2.2.2

theorem Ledger.Reachable.justified (h : s.Reachable) (id : String) : (s.view id).Justified := by
  have hempty (id : String) : (Ledger.empty.view id).Justified := by
    intro t ht
    cases ht
  refine System.Reachable.invariant (I := fun s => ∀ id, (s.view id).Justified) h hempty
    (fun s step hs ih _ => ?_) id
  exact step.justified hs ih

/-- In every reachable ledger a managed task that is done links a finished validation of the
implementation that the task links, which is finished and based on a plan that was approved. -/
theorem done_task_justified (h : s.Reachable) {id : String} {t : TaskRecord}
    (ht : s.tasks.lookup id = some t) (hmanaged : t.taskType = .managed)
    (hdone : t.statusStage = .done) :
    ∃ val r impl ri n p, t.latestValidationRun = some val ∧
      s.runs.lookup (id, val) = some r ∧ r.runType = .validation ∧ r.status = .finished ∧
      r.basedOnImplementationRun = some impl ∧ t.latestImplementationRun = some impl ∧
      s.runs.lookup (id, impl) = some ri ∧ ri.runType = .implementation ∧
      ri.status = .finished ∧ ri.readPlanVersion = some n ∧ s.plans.lookup (id, n) = some p ∧
      p.approvedBy.isSome = true := by
  have hcore : (s.view id).task = some t.core := by simp [Ledger.view, ht]
  obtain ⟨val, c, impl, ci, hval, hc, htype, hpassed, hbased, himpl, hci, hitype, hfinished⟩ :=
    (h.justified id t.core hcore hmanaged).done hdone
  obtain ⟨r, hr, rfl⟩ := view_run_eq hc
  obtain ⟨ri, hri, rfl⟩ := view_run_eq hci
  have hplan := (h.evidence id t.core hcore hmanaged).based impl ri.core hci
  rw [RunCore.Based, hitype] at hplan
  obtain ⟨n, cp, hn, hcp, happroved⟩ := hplan
  obtain ⟨p, hp, rfl⟩ := view_plan_eq hcp
  exact ⟨val, r, impl, ri, n, p, hval, hr, htype, hpassed, hbased, himpl, hri, hitype, hfinished,
    hn, hp, happroved⟩

end Runs

section Evaluation

attribute [local instance] plainRuntime

/-- A task whose validation has passed. -/
def doneOps : List Op :=
  validatingOps ++ [.recorder (.addValidationCheck "task-0001"
    { criterionId := some "ac-0001", status := "pass", evidence := ["ran"] }),
    .finishValidation "task-0001" "passed" "fine" none]

theorem done_task_justified_validated :
    ∃ t val r impl ri, (afterOps doneOps).tasks.lookup "task-0001" = some t ∧
      t.statusStage = .done ∧ (afterOps doneOps).runs.lookup ("task-0001", val) = some r ∧
      r.status = .finished ∧ r.basedOnImplementationRun = some impl ∧
      (afterOps doneOps).runs.lookup ("task-0001", impl) = some ri ∧ ri.status = .finished := by
  have hfiles : ((afterOps doneOps).tasks.lookup "task-0001").map (fun t =>
      (t.taskType, t.statusStage)) = some (.managed, .done) := by decide +kernel
  obtain ⟨t, ht, hfields⟩ := Option.map_eq_some_iff.1 hfiles
  obtain ⟨hmanaged, hdone⟩ := Prod.mk.inj hfields
  obtain ⟨val, r, impl, ri, -, -, -, hr, -, hpassed, hbased, -, hri, -, hfinished, -⟩ :=
    done_task_justified (reachable_afterOps _) ht hmanaged hdone
  exact ⟨t, val, r, impl, ri, ht, hdone, hr, hpassed, hbased, hri, hfinished⟩

end Evaluation

end Taskledger
