import Taskledger.Properties.Evidence

/-!
# Uncancelled tasks

A cancelled task goes back to the stage its records support, whether the stage is named or found
from the records.
-/

namespace Taskledger

open Library Action Lifecycle

/-- The records that the stage of an uncancelled task rests on. -/
def Ledger.Supports [Runtime] (s : Ledger) (id : String) (t : TaskRecord) : Prop :=
  match t.statusStage with
  | .draft => True
  | .planReview => ∃ n p, s.plans.lookup (id, n) = some p ∧ p.loads = true ∧
      p.status = .proposed ∧
      ∀ m q, s.plans.lookup (id, m) = some q → q.loads = true → m ≤ n
  | .approved => ∃ n p, t.acceptedPlanVersion = some n ∧ s.plans.lookup (id, n) = some p ∧
      p.loads = true ∧ p.status = .accepted
  | .implemented => ∃ runId r, t.latestImplementationRun = some runId ∧
      s.runs.lookup (id, runId) = some r ∧ r.runType = .implementation ∧ r.status = .finished
  | .failedValidation => (∃ n p, t.acceptedPlanVersion = some n ∧
      s.plans.lookup (id, n) = some p ∧ p.loads = true ∧ p.status = .accepted) ∧
      ∃ runId r, t.latestValidationRun = some runId ∧ s.runs.lookup (id, runId) = some r ∧
        r.runType = .validation ∧ r.status ∈ [RunStatus.failed, .blocked]
  | _ => False

section Uncancelling

variable [Runtime] {env : Env} {s : Ledger} {ref reason id : String} {target : Option String}
  {actor : Option ActorRef} {allowAgent : Bool}

-- ════════════════════════════════════════════════════════════════════════
-- The inferred stage
-- ════════════════════════════════════════════════════════════════════════

theorem validationFailed_eq_true {task : TaskRecord} (h : validationFailed task s = .ok true) :
    ∃ run plan, optionalRun task task.latestValidationRun s = .ok run ∧
      acceptedPlanRecordOrNone task s = .ok (some plan) ∧ run.any failedOrBlocked = true := by
  obtain ⟨run, hrun, h⟩ := Query.bind_eq_ok.1 h
  split at h
  · rename_i hblocked
    obtain ⟨accepted, haccepted, h⟩ := Query.bind_eq_ok.1 h
    obtain ⟨plan, rfl⟩ := Option.isSome_iff_exists.1 (Query.pure_eq_ok.1 h)
    exact ⟨run, plan, hrun, haccepted, hblocked⟩
  · cases Query.pure_eq_ok.1 h

/-- The stage that is found from the records passes the checks that a named one must pass. -/
theorem inferred_target_validates {task : TaskRecord} {stage : TaskStatusStage}
    (h : inferUncancelTarget task s = .ok stage) :
    validateUncancelTarget task stage s = .ok () ∧
      stage ∈ [TaskStatusStage.draft, .planReview, .approved, .implemented, .failedValidation] := by
  obtain ⟨failed, hfailed, h⟩ := Query.bind_eq_ok.1 h
  cases failed with
  | true =>
    cases Query.pure_eq_ok.1 h
    refine ⟨?_, by decide⟩
    obtain ⟨run, plan, hrun, hplan, hblocked⟩ := validationFailed_eq_true hfailed
    refine Query.bind_eq_ok.2 ⟨_, hrun, Query.bind_eq_ok.2 ⟨_, hplan, ?_⟩⟩
    refine Query.bind_eq_ok.2 ⟨(), Query.liftM_eq_ok.2 (raiseIf_eq_ok.2 (by simp)), ?_⟩
    exact Query.liftM_eq_ok.2 (raiseIf_eq_ok.2 (by simp [hblocked]))
  | false =>
    obtain ⟨run, hrun, h⟩ := Query.bind_eq_ok.1 h
    cases hfinished : run.any finishedImplementationRun with
    | true =>
      rw [hfinished] at h
      cases Query.pure_eq_ok.1 h
      refine ⟨Query.bind_eq_ok.2 ⟨_, hrun, ?_⟩, by decide⟩
      exact Query.liftM_eq_ok.2 (raiseIf_eq_ok.2 (by simp [hfinished]))
    | false =>
      rw [hfinished] at h
      obtain ⟨accepted, haccepted, h⟩ := Query.bind_eq_ok.1 h
      cases accepted with
      | some plan =>
        cases Query.pure_eq_ok.1 h
        refine ⟨Query.bind_eq_ok.2 ⟨_, haccepted, ?_⟩, by decide⟩
        exact Query.liftM_eq_ok.2 (raiseIf_eq_ok.2 (by simp))
      | none =>
        obtain ⟨latestPlan, hlatest, h⟩ := Query.bind_eq_ok.1 h
        cases Query.pure_eq_ok.1 h
        split
        · rename_i hproposed
          refine ⟨Query.bind_eq_ok.2 ⟨_, hlatest, ?_⟩, by decide⟩
          exact Query.liftM_eq_ok.2 (raiseIf_eq_ok.2 (by simp [hproposed]))
        · exact ⟨rfl, by decide⟩

-- ════════════════════════════════════════════════════════════════════════
-- The stage an uncancellation leaves
-- ════════════════════════════════════════════════════════════════════════

theorem view_accepted_eq {t : TaskRecord} (h : ∃ n, (s.view id).Accepted t.core n) :
    ∃ n p, t.acceptedPlanVersion = some n ∧ s.plans.lookup (id, n) = some p ∧
      p.loads = true ∧ p.status = .accepted := by
  obtain ⟨n, hrecorded, c, hc, hlisted, hstatus⟩ := h
  obtain ⟨p, hp, rfl⟩ := view_plan_eq hc
  exact ⟨n, p, hrecorded, hp, hlisted, hstatus⟩

/-- What an uncancelled task must have is stored. -/
theorem supports_of_uncancels {t : TaskRecord} (h : (s.view id).Uncancels t.core t.statusStage) :
    s.Supports id t := by
  unfold Ledger.Supports
  cases hstage : t.statusStage with
  | draft => trivial
  | planReview =>
    rw [hstage] at h
    obtain ⟨n, c, hlatest, hproposed⟩ := h
    obtain ⟨p, hp, rfl⟩ := view_plan_eq hlatest.stored
    refine ⟨n, p, hp, hlatest.listed, hproposed, fun m q hq hloads => ?_⟩
    exact hlatest.largest m q.core (by simp [Ledger.view, hq]) hloads
  | approved =>
    rw [hstage] at h
    exact view_accepted_eq h
  | implemented =>
    rw [hstage] at h
    obtain ⟨runId, c, hlink, hc, htype, hfinished⟩ := h
    obtain ⟨r, hr, rfl⟩ := view_run_eq hc
    exact ⟨runId, r, hlink, hr, htype, hfinished⟩
  | failedValidation =>
    rw [hstage] at h
    obtain ⟨haccepted, runId, c, hlink, hc, htype, hfailed⟩ := h
    obtain ⟨r, hr, rfl⟩ := view_run_eq hc
    exact ⟨view_accepted_eq haccepted, runId, r, hlink, hr, htype, hfailed⟩
  | planning | implementing | validating | done | cancelled =>
    rw [hstage] at h
    exact h

omit [Runtime] in
/-- What an uncancelled task must have does not depend on its stage. -/
theorem uncancels_setTask {v : View} {t u : TaskCore} {stage : TaskStatusStage}
    (ha : u.accepted = t.accepted) (hi : u.implementationRun = t.implementationRun)
    (hv : u.validationRun = t.validationRun) (h : v.Uncancels t stage) :
    (v.setTask u).Uncancels u stage := by
  have haccepted (h : ∃ n, v.Accepted t n) : ∃ n, (v.setTask u).Accepted u n := by
    obtain ⟨n, hrecorded, hstored⟩ := h
    exact ⟨n, ha.trans hrecorded, hstored⟩
  cases stage with
  | draft => trivial
  | planReview =>
    obtain ⟨n, p, ⟨hstored, hlisted, hlargest⟩, hproposed⟩ := h
    exact ⟨n, p, ⟨hstored, hlisted, hlargest⟩, hproposed⟩
  | approved => exact haccepted h
  | implemented =>
    obtain ⟨runId, r, hlink, hr⟩ := h
    exact ⟨runId, r, hi.trans hlink, hr⟩
  | failedValidation =>
    obtain ⟨hplan, runId, r, hlink, hr⟩ := h
    exact ⟨haccepted hplan, runId, r, hv.trans hlink, hr⟩
  | planning | implementing | validating | done | cancelled => exact h

/-- An uncancellation raises before it writes, or it writes the stage it has checked. -/
theorem sat_uncancelTask (hs : s.Sound) :
    (uncancelTask env ref target reason actor allowAgent).Sat s fun r s' =>
      (∃ e, r = .error e) ∨ ∃ task stage, Uncancellable s ref task stage ∧
        s'.view = Function.update s.view task.id
          ((s.view task.id).setTask { task.core with stage := stage }) := by
  refine Sat.query (fun e _ => .inl ⟨e, rfl⟩) fun uncancellation h => ?_
  obtain ⟨task, stage⟩ := uncancellation
  have hchecks := uncancellationOf_eq_ok hs h
  refine Sat.write ?_
  refine Sat.mono (P := fun _ => Frozen (Function.update s.view task.id
    ((s.view task.id).setTask { task.core with stage := stage }))) ?_
    fun _ _ hview => .inr ⟨task, stage, hchecks, hview⟩
  refine (?_ : Keeps (Frozen _) _) _ (Ledger.view_putTask _ _)
  exact Frozen.event fun _ => Keeps.query fun _ _ _ _ => Keeps.pure

/-- The stage found for a task of a reachable ledger passes the checks of a named stage, and is
never an active one, `done` or `cancelled`; and an uncancellation that returns leaves the task
unlocked, in a stage whose records are stored. -/
theorem uncancel_restores_supported (hs : s.Reachable) :
    (∀ task stage, inferUncancelTarget task s = .ok stage →
      validateUncancelTarget task stage s = .ok () ∧ stage ∉ activeTaskStages ∧
        stage ≠ .done ∧ stage ≠ .cancelled) ∧
    ∀ d, ((uncancelTask env ref target reason actor allowAgent).runOn s).1 = .ok d →
      ∃ t t', resolveTask ref false s = .ok t ∧ t.statusStage = .cancelled ∧
        ((uncancelTask env ref target reason actor allowAgent).runOn s).2.tasks.lookup t.id =
          some t' ∧
        ((uncancelTask env ref target reason actor allowAgent).runOn s).2.locks.lookup t.id =
          none ∧
        ((uncancelTask env ref target reason actor allowAgent).runOn s).2.Supports t.id t' := by
  constructor
  · intro task stage h
    obtain ⟨hvalid, hmem⟩ := inferred_target_validates h
    refine ⟨hvalid, ?_⟩
    revert hmem
    cases stage <;> decide
  · intro d h
    have hsat : (uncancelTask env ref target reason actor allowAgent).Sat s _ :=
      sat_uncancelTask hs.sound
    unfold Action.Sat at hsat
    generalize (uncancelTask env ref target reason actor allowAgent).runOn s = out at h hsat ⊢
    rcases hsat with ⟨e, he⟩ | ⟨task, stage, hchecks, hview⟩
    · cases h.symm.trans he
    have hafter : out.2.view task.id =
        (s.view task.id).setTask { task.core with stage := stage } := by
      rw [hview, Function.update_self]
    have htask : (out.2.view task.id).task = some { task.core with stage := stage } := by
      rw [hafter]
      rfl
    obtain ⟨t', ht', hcore⟩ := view_task_eq htask
    refine ⟨task, t', hchecks.found, hchecks.stage, ht', ?_, supports_of_uncancels ?_⟩
    · have hlock : (out.2.view task.id).lock = none := by
        rw [hafter]
        exact hchecks.unlocked
      exact Option.map_eq_none_iff.1 hlock
    · have hstage : t'.statusStage = stage := congrArg TaskCore.stage hcore
      rw [hafter, hcore, hstage]
      exact uncancels_setTask (t := task.core) rfl rfl rfl hchecks.target

end Uncancelling

section Evaluation

attribute [local instance] plainRuntime

/-- A task is cancelled once its plan is approved. -/
def cancelledOps : List Op := approvedOps ++ [.cancelTask "task-0001" none]

theorem uncancel_restores_supported_approved :
    ∃ t t' : TaskRecord, t.statusStage = .cancelled ∧
      ((uncancelTask plainEnv "task-0001" none "again" (some plainUser) true).runOn
        (afterOps cancelledOps)).2.tasks.lookup t.id = some t' ∧
      ((uncancelTask plainEnv "task-0001" none "again" (some plainUser) true).runOn
        (afterOps cancelledOps)).2.Supports t.id t' := by
  have hok : ((uncancelTask plainEnv "task-0001" none "again" (some plainUser) true).runOn
      (afterOps cancelledOps)).1.isOk = true := by decide +kernel
  cases hr : ((uncancelTask plainEnv "task-0001" none "again" (some plainUser) true).runOn
      (afterOps cancelledOps)).1 with
  | error e =>
    rw [hr] at hok
    cases hok
  | ok d =>
    obtain ⟨t, t', -, hstage, ht', -, hsupports⟩ :=
      (uncancel_restores_supported (reachable_afterOps _)).2 d hr
    exact ⟨t, t', hstage, ht', hsupports⟩

end Evaluation

end Taskledger
