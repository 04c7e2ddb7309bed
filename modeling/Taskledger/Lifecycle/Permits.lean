import Taskledger.Lifecycle.Machine

/-!
# What an operation may do to a task

Which moves each operation may make, and what it has read in the ledger it starts
from when it makes them.
-/

namespace Taskledger

open Library Lifecycle

variable [Runtime]

namespace Step

variable (step : Step) (s : Ledger)

/-- The step submits a plan text that is read as `input`. -/
def Submits (input : PlanInput) : Prop :=
  match step.op with
  | .proposePlan _ body criteria => readPlanInput step.env body criteria = .ok input
  | .upsertPlan _ body criteria _ _ _ => readPlanInput step.env body criteria = .ok input
  | .regeneratePlan _ body criteria _ => readPlanInput step.env body criteria = .ok input
  | .amendPlan ref dropCriteria dropTodos removeFiles reason =>
    ∃ task latest, amendmentOf ref dropCriteria dropTodos reason s = .ok (task, latest) ∧
      readPlanInput step.env
        (renderEditablePlan (amendedPlan latest dropCriteria dropTodos removeFiles)) [] = .ok input
  | _ => False

/-- The step passes the checks of a regeneration. -/
def Regenerates (r : Regeneration) : Prop :=
  match step.op with
  | .upsertPlan ref body criteria fromAnswers allowOpenQuestions _ =>
    ∃ task, upsertBranch ref fromAnswers allowOpenQuestions s = .ok (task, true) ∧
      regenerationOf step.env task.id body criteria allowOpenQuestions s = .ok r
  | .regeneratePlan ref body criteria allowOpenQuestions =>
    regenerationOf step.env ref body criteria allowOpenQuestions s = .ok r
  | _ => False

/-- The step passes the checks that finish an implementation. -/
def FinishesImplementation (f : ImplementationFinish) : Prop :=
  match step.op with
  | .finishImplementation ref _ => implementationFinishOf step.env ref s = .ok f
  | _ => False

/-- The step passes the checks that finish a validation. -/
def FinishesValidation (f : ValidationFinish) : Prop :=
  match step.op with
  | .finishValidation ref result _ _ => validationFinishOf ref result s = .ok f
  | _ => False

/-- The step passes the checks that uncancel a task to a stage. -/
def Uncancels (task : TaskRecord) (target : TaskStatusStage) : Prop :=
  match step.op with
  | .uncancelTask ref targetStage reason actor allowAgent =>
    uncancellationOf step.env ref targetStage reason (actor.getD (defaultActor step.env))
      allowAgent s = .ok (task, target)
  | _ => False

/-- The step unarchives a task. -/
def Unarchives (task : TaskRecord) (reopen : Bool) : Prop :=
  match step.op with
  | .unarchiveTask ref _ _ reopenForWork => resolveTask ref true s = .ok task ∧ reopenForWork = reopen
  | _ => False

/-- A submitted plan is listed when none of its criteria has an empty id. -/
def SubmitsListed (listed : Bool) : Prop :=
  ∃ input, step.Submits s input ∧ ((∀ c ∈ input.criteria, c.id ≠ "") → listed = true)

/-- A regeneration of the task with an id. -/
def permitsRegenerate (id : String) (label : Label) (v : View) : Prop :=
  ∃ listed, label = .regenerate listed ∧ v = s.view id ∧ step.SubmitsListed s listed ∧
    ∃ r, step.Regenerates s r ∧ r.task.id = id

/-- The moves of the task with an id that the step may make. -/
def permits (id : String) (label : Label) (v : View) : Prop :=
  match step.op with
  | .createTask _ => label = .create
  | .createFollowUpTask _ _ => label = .create
  | .recordCompletedTask _ => label ∈ [.record, .addFinished, .link] ∧ (s.view id).task = none
  | .startPlanning _ _ _ => label = .startPlanning
  | .revisePlan _ => label = .startPlanning
  | .proposePlan _ _ _ => ∃ listed, label = .propose listed ∧ step.SubmitsListed s listed
  | .upsertPlan _ _ _ _ _ _ =>
    label = .startPlanning ∨ (∃ listed, label = .propose listed ∧ step.SubmitsListed s listed) ∨
      step.permitsRegenerate s id label v
  | .regeneratePlan _ _ _ _ => step.permitsRegenerate s id label v
  | .amendPlan _ _ _ _ _ =>
    label = .startPlanning ∨ ∃ listed, label = .propose listed ∧ step.SubmitsListed s listed
  | .approvePlan _ _ _ => label = .approve
  | .rejectPlan _ _ => label = .reject
  | .startImplementation _ _ _ => label = .startImplementation
  | .restartImplementation _ _ _ _ => label = .startImplementation
  | .resumeImplementation _ _ _ _ _ _ => label ∈ [.dropLock, .resume]
  | .finishImplementation _ _ =>
    label = .finishImplementation ∧ v = s.view id ∧
      ∃ f, step.FinishesImplementation s f ∧ f.task.id = id
  | .startValidation _ _ _ => label = .startValidation
  | .finishValidation _ _ _ _ =>
    ∃ f, label = .finishValidation f.result ∧ v = s.view id ∧ step.FinishesValidation s f ∧
      f.task.id = id
  | .cancelTask _ _ => label = .cancel
  | .uncancelTask _ _ _ _ _ =>
    ∃ task target, label = .uncancel target ∧ v = s.view id ∧ step.Uncancels s task target ∧
      task.id = id
  | .archiveTask _ _ _ => label = .archive
  | .unarchiveTask _ _ _ _ =>
    ∃ task reopen, label = .unarchive reopen ∧ v = s.view id ∧ step.Unarchives s task reopen ∧
      task.id = id
  | .breakLock _ _ => label = .dropLock
  | .repairOrphanedPlanningRun _ _ _ => label = .repairRun
  | .recorder _ => False

variable {step s} {id : String} {v : View}

-- ════════════════════════════════════════════════════════════════════════
-- What a permitted move tells
-- ════════════════════════════════════════════════════════════════════════

theorem permits_propose {listed : Bool} (h : step.permits s id (.propose listed) v) :
    step.SubmitsListed s listed := by
  unfold permits at h
  split at h <;> simp_all [permitsRegenerate]

theorem permits_regenerate {listed : Bool} (h : step.permits s id (.regenerate listed) v) :
    v = s.view id ∧ step.SubmitsListed s listed ∧ ∃ r, step.Regenerates s r ∧ r.task.id = id := by
  unfold permits at h
  split at h <;> simp_all [permitsRegenerate]

theorem permits_finishImplementation (h : step.permits s id .finishImplementation v) :
    v = s.view id ∧ ∃ f, step.FinishesImplementation s f ∧ f.task.id = id := by
  unfold permits at h
  split at h <;> simp_all [permitsRegenerate]

theorem permits_finishValidation {result : ValidationResult}
    (h : step.permits s id (.finishValidation result) v) :
    v = s.view id ∧ ∃ f, step.FinishesValidation s f ∧ f.task.id = id ∧ f.result = result := by
  unfold permits at h
  split at h <;> simp_all [permitsRegenerate]
  obtain ⟨f, rfl, hv, hf⟩ := h
  exact ⟨hv, f, hf.1, hf.2, rfl⟩

theorem permits_uncancel {target : TaskStatusStage} (h : step.permits s id (.uncancel target) v) :
    v = s.view id ∧ ∃ task, step.Uncancels s task target ∧ task.id = id := by
  unfold permits at h
  split at h <;> simp_all [permitsRegenerate]

end Step

end Taskledger
