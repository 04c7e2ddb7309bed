import Taskledger.Services.ImplementationFlow
import Taskledger.Services.PlanningFlow
import Taskledger.Services.TaskLifecycle
import Taskledger.Services.ValidationFlow

/-!
# Navigation

What the program says can be done with a task. The guards of the operations are
written here a second time.
-/

namespace Taskledger

open Library

variable [Runtime] (env : Env)

/-- `_dependency_blockers`. -/
def dependencyBlockers (task : TaskRecord) : LedgerQuery (List Dict) := do
  let blocking ← blockingTasks task
  return blocking.map dependencyBlocker

/-- `_running_run_details`. -/
def runningRunDetails (task : TaskRecord) (run : TaskRunRecord) (lock : Option TaskLock) :
    Except Raised Dict := do
  let hasLock ← lockMatchesRun env lock run
  return [("task_id", .str task.id),
    ("running_run", .dict
      [("run_id", .str run.runId),
        ("run_type", .str (value run.runType)),
        ("status", .str (value run.status)),
        ("has_matching_lock", .bool hasLock)]),
    ("suggested_command", .str "taskledger doctor")]

-- ════════════════════════════════════════════════════════════════════════
-- Blockers
-- ════════════════════════════════════════════════════════════════════════

/-- A blocker of a kind. -/
def blocker (kind message : String) : Dict := [("kind", .str kind), ("message", .str message)]

/-- `_archived_blocker`. -/
def archivedBlocker (task : TaskRecord) : Dict :=
  blocker "archived_task" ("Task " ++ task.id ++ " is archived and read-only. "
    ++ "Use taskledger task unarchive " ++ task.id ++ " --reason \"...\" first, "
    ++ "then re-check next-action.")
  ++ [("command_hint", .str ("taskledger task unarchive " ++ task.id
    ++ " --reason \"Restore archived task.\""))]

def lockBlocker (lock : TaskLock) : Dict :=
  blocker "lock" ("Task has an active " ++ value lock.stage ++ " lock from " ++ lock.runId ++ ".")

def approvalBlocker : Dict := blocker "approval" "No accepted plan version."

/-- The blocker of a task without an accepted plan version. -/
def approvalBlockers (task : TaskRecord) : List Dict :=
  if task.acceptedPlanVersion.isNone then [approvalBlocker] else []

/-- `_implement_resume_command`. -/
def implementResumeCommand (taskId : String) : String :=
  "taskledger implement resume" ++ " --task " ++ taskId
    ++ " --reason \"Reacquire implementation lock for existing running run.\""

-- ════════════════════════════════════════════════════════════════════════
-- Capabilities
-- ════════════════════════════════════════════════════════════════════════

/-- The actions `can_perform` knows; it refuses any other text. -/
inductive WorkAction where
  | plan | implement | implementResume | expiredLockResume | implementRestart | validate
  deriving DecidableEq, Repr

instance : Enumeration WorkAction where
  members := [.plan, .implement, .implementResume, .expiredLockResume, .implementRestart, .validate]
  value
    | .plan => "plan"
    | .implement => "implement"
    | .implementResume => "implement-resume"
    | .expiredLockResume => "expired-lock-resume"
    | .implementRestart => "implement-restart"
    | .validate => "validate"
  complete a := by cases a <;> simp
  distinct := by decide

/-- Whether an action can be performed, why, and what blocks it. -/
structure Finding where
  ok : Bool
  reason : String
  blocking : List Dict

/-- A finding with one reason for each answer. -/
def finding (ok : Bool) (ready refused : String) (blocking : List Dict) : Finding where
  ok := ok
  reason := if ok then ready else refused
  blocking := blocking

/-- The branch `plan` of `can_perform`. -/
def canPlan (task : TaskRecord) (lock : Option TaskLock) : Finding :=
  finding (decide (task.statusStage ∈ [.draft, .planReview]) && lock.isNone)
    "Planning can start from draft or after plan review."
    "Planning is only available from draft or plan_review without an active lock."
    (lock.map lockBlocker).toList

/-- The blocker of a running run in the branch `implement`. -/
def runningRunBlocker (task : TaskRecord) (run : TaskRunRecord) (lock : Option TaskLock) :
    Except Raised Dict := do
  let details ← runningRunDetails env task run lock
  let canResume := run.runType = .implementation ∧ task.latestImplementationRun = some run.runId
  return blocker "implementation" ("Task already has running " ++ value run.runType ++ " run "
      ++ run.runId ++ "; "
      ++ (if canResume then "use taskledger implement resume." else "run taskledger doctor."))
    ++ [("command_hint", .str
      (if canResume then implementResumeCommand task.id else "taskledger doctor"))]
    ++ details

/-- The blockers of the first running run. -/
def runningRunBlockers (task : TaskRecord) (running : List TaskRunRecord)
    (lock : Option TaskLock) : Except Raised (List Dict) :=
  match running with
  | [] => .ok []
  | run :: _ => do
    let d ← runningRunBlocker env task run lock
    return [d]

/-- The branch `implement` of `can_perform`. -/
def canImplement (task : TaskRecord) (lock : Option TaskLock) (activeStage : Option RunType) :
    LedgerQuery Finding := do
  let running ← runningRuns task
  let dependencies ← dependencyBlockers task
  let runBlockers ← (runningRunBlockers env task running lock : Except Raised (List Dict))
  return finding
    (decide (task.statusStage ∈ implementableTaskStages) && task.acceptedPlanVersion.isSome
      && dependencies.isEmpty && running.isEmpty && lock.isNone && activeStage.isNone)
    "Implementation is ready."
    ("Implementation requires an accepted plan, valid stage, "
      ++ "no conflicting lock, and completed dependencies.")
    (approvalBlockers task ++ dependencies ++ runBlockers ++ (lock.map lockBlocker).toList)

/-- A run is a running implementation run. -/
def isRunningImplementation (run : TaskRunRecord) : Bool :=
  run.runType = .implementation && run.status = .running

/-- Whether a lock file is an expired one, or not. -/
def lockExpired (lock : Option TaskLock) : Except Raised (Option Bool) :=
  match lock with
  | none => .ok none
  | some l => some <$> lockIsExpired env l

/-- `_check_resume_can_perform`; `repairExpired` is the action `expired-lock-resume`. -/
def checkResumeCanPerform (repairExpired : Bool) (task : TaskRecord) (lock : Option TaskLock)
    (activeStage : Option RunType) : LedgerQuery Finding := do
  let run ← optionalRun task task.latestImplementationRun
  let dependencies ← dependencyBlockers task
  let expired ← (lockExpired env lock : Except Raised (Option Bool))
  let common := decide (task.statusStage ∈ [.approved, .implementing])
    && task.acceptedPlanVersion.isSome && run.any isRunningImplementation && dependencies.isEmpty
  let matching := match lock, run with
    | some l, some r => decide (l.runId = r.runId)
    | _, _ => false
  return finding
    (common && (if repairExpired then expired = some true && matching
      else lock.isNone && activeStage.isNone))
    "Implementation resume is ready."
    (if repairExpired then
      "Expired lock resume requires an expired implementation lock "
        ++ "matching the running implementation run."
    else
      "Implementation resume requires approved or implementing state, "
        ++ "an accepted plan, a running implementation run, no active lock, "
        ++ "and completed dependencies.")
    ((if task.statusStage ∈ [.approved, .implementing] then [] else
        [blocker "stage" "Implementation resume requires approved or implementing state."])
      ++ approvalBlockers task
      ++ (if run.any isRunningImplementation then [] else
        [blocker "implementation" "No running implementation run is available to resume."])
      ++ dependencies
      ++ (match lock with
        | some l => if expired = some false then [lockBlocker l] else []
        | none => [])
      ++ (if repairExpired ∧ expired ≠ some true then
        [blocker "lock" "No expired implementation lock found for resume."] else []))

/-- The branch `implement-restart` of `can_perform`. -/
def canRestart (task : TaskRecord) (lock : Option TaskLock) (activeStage : Option RunType) :
    LedgerQuery Finding := do
  let validationRun ← optionalRun task task.latestValidationRun
  let implementationRun ← optionalRun task task.latestImplementationRun
  let dependencies ← dependencyBlockers task
  let validated := validationRun.any failedOrBlocked
  let implemented := implementationRun.any fun r => r.runType = .implementation
  return finding
    (task.statusStage = .failedValidation && task.acceptedPlanVersion.isSome && validated
      && implemented && dependencies.isEmpty && lock.isNone && activeStage.isNone)
    "Implementation restart is ready."
    ("Implementation restart requires failed_validation state, "
      ++ "an accepted plan, recorded failed validation, a previous "
      ++ "implementation run, no conflicting lock, and completed dependencies.")
    (approvalBlockers task
      ++ (if validated then [] else
        [blocker "validation" "No failed validation run is available for restart."])
      ++ (if implemented then [] else
        [blocker "implementation" "No previous implementation run is available."])
      ++ dependencies ++ (lock.map lockBlocker).toList)

/-- A run is a finished implementation run. -/
def isFinishedImplementation (run : TaskRunRecord) : Bool :=
  run.runType = .implementation && run.status = .finished

/-- The branch `validate` of `can_perform`. -/
def canValidate (task : TaskRecord) (lock : Option TaskLock) (activeStage : Option RunType) :
    LedgerQuery Finding := do
  let run ← optionalRun task task.latestImplementationRun
  let implemented := run.any isFinishedImplementation
  return finding
    (task.statusStage = .implemented && lock.isNone && activeStage.isNone && implemented)
    "Validation is ready."
    ("Validation requires implemented state, a finished "
      ++ "implementation run, and no conflicting lock.")
    ((if implemented then [] else
        [blocker "implementation" "No finished implementation run is available."])
      ++ (lock.map lockBlocker).toList)

/-- The branches of `can_perform`. -/
def findingFor (action : WorkAction) (task : TaskRecord) (lock : Option TaskLock)
    (activeStage : Option RunType) : LedgerQuery Finding :=
  match action with
  | .plan => pure (canPlan task lock)
  | .implement => canImplement env task lock activeStage
  | .implementResume => checkResumeCanPerform env false task lock activeStage
  | .expiredLockResume => checkResumeCanPerform env true task lock activeStage
  | .implementRestart => canRestart task lock activeStage
  | .validate => canValidate task lock activeStage

/-- What `can_perform` returns. -/
structure Capability where
  task : TaskRecord
  action : WorkAction
  finding : Finding
  activeStage : Option RunType

/-- The mapping of a capability. -/
def Capability.toDict (c : Capability) : Dict :=
  [("kind", .str "task_capability"),
    ("task_id", .str c.task.id),
    ("action", .str (value c.action)),
    ("ok", .bool c.finding.ok),
    ("reason", .str c.finding.reason),
    ("active_stage", .ofOption (c.activeStage.map value)),
    ("blocking", .list (c.finding.blocking.map .dict))]

/-- The finding on an archived task. -/
def archivedFinding (task : TaskRecord) : Finding where
  ok := false
  reason := "Task is archived and read-only."
  blocking := [archivedBlocker task]

/-- `can_perform`. -/
def canPerform (taskRef : String) (action : WorkAction) : LedgerQuery Capability := do
  let task ← resolveTask taskRef
  if isArchivedTask task then
    return { task := task, action := action, finding := archivedFinding task, activeStage := none }
  else do
    let lock ← readLock task.id
    let activeStage ← taskActiveStage env task
    let found ← findingFor env action task lock activeStage
    return { task := task, action := action, finding := found, activeStage := activeStage }

end Taskledger
