import Taskledger.Domain.ModelUtils
import Taskledger.Services.ImplementationFlow
import Taskledger.Services.TaskRepair

/-!
# Running runs without a lock

The part of doctor that looks for running runs whose task has no matching active lock, and the
command it prints for each of them.
-/

namespace Taskledger

open Library

/-- A command that doctor prints for a running run. -/
inductive DoctorCommand
  | taskShow (taskId : String)
  | repairRun (taskId runId reason : String)
  | implementResume (taskId runId reason : String)
  | doctorLocks
  deriving DecidableEq

namespace DoctorCommand

/-- The options that a printed command names. -/
def target (taskId runId reason : String) : String :=
  " --task " ++ taskId ++ " --run " ++ runId ++ " --reason \"" ++ reason ++ "\""

def text : DoctorCommand → String
  | taskShow taskId => "taskledger task show --task " ++ taskId
  | repairRun taskId runId reason => "taskledger repair run" ++ target taskId runId reason
  | implementResume taskId runId reason =>
    "taskledger implement resume" ++ target taskId runId reason
  | doctorLocks => "taskledger doctor locks"

end DoctorCommand

/-- An entry of `run_lock_mismatches`. -/
structure RunLockMismatch where
  taskId : String
  runId : String
  runType : RunType
  status : RunStatus
  nextCommand : DoctorCommand
  note : String
  deriving DecidableEq

def RunLockMismatch.toDict (m : RunLockMismatch) : Dict :=
  [("kind", .str "running_run_without_matching_lock"),
    ("task_id", .str m.taskId),
    ("run_id", .str m.runId),
    ("run_type", .str (value m.runType)),
    ("status", .str (value m.status)),
    ("next_command", .str m.nextCommand.text),
    ("note", .str m.note)]

/-- The command for a running run without a lock, and its note. -/
def mismatchCommand (task : TaskRecord) (run : TaskRunRecord) : DoctorCommand × String :=
  match run.runType with
  | .planning =>
    (.repairRun task.id run.runId "Finish orphaned planning run.",
      "Planning run can be explicitly finished with repair run.")
  | .implementation =>
    if some run.runId = task.latestImplementationRun
        ∧ task.statusStage ∈ [.approved, .implementing, .failedValidation] then
      (.implementResume task.id run.runId "Reacquire implementation lock.",
        "Reacquire the missing implementation lock for this running run.")
    else
      (.doctorLocks,
        "Historical or non-resumable implementation run. Inspect run state before repair.")
  | .validation => (.taskShow task.id, "Inspect task and run state before choosing repair.")

def mismatchOf (task : TaskRecord) (run : TaskRunRecord) : RunLockMismatch where
  taskId := task.id
  runId := run.runId
  runType := run.runType
  status := run.status
  nextCommand := (mismatchCommand task run).1
  note := (mismatchCommand task run).2

variable [Runtime] (env : Env)

/-- The first lock of a task that has not expired. -/
def activeLockOf (taskId : String) : List TaskLock → Except Raised (Option TaskLock)
  | [] => .ok none
  | lock :: rest =>
    if lock.taskId = taskId then do
      let expired ← lockIsExpired env lock
      if expired then activeLockOf taskId rest else return some lock
    else activeLockOf taskId rest

/-- The mismatches of the runs of one task. -/
def mismatchesOf (task : TaskRecord) (active : Option TaskLock) (runs : List TaskRunRecord) :
    List RunLockMismatch :=
  let running := runs.filter fun run => run.status = .running
  if running ≠ [] ∧ (deriveActiveStage active running).isNone then running.map (mismatchOf task)
  else []

/-- `scan_task_integrity` of one task, as far as it reads records and compares its runs with
its lock. -/
def scanTaskRuns (locks : List TaskLock) (scanned : TaskRecord × List TaskRunRecord) :
    LedgerQuery (List RunLockMismatch) := do
  let (task, runs) := scanned
  let _ ← loadRequirements task.id
  let _ ← loadTodos task.id
  let active ← (activeLockOf env task.id locks : Except Raised (Option TaskLock))
  let _ ← listChanges task.id
  return mismatchesOf task active runs

/-- The tasks with their runs. -/
def loadTaskRuns (tasks : List TaskRecord) :
    LedgerQuery (List (TaskRecord × List TaskRunRecord)) := fun s =>
  readAll (fun task => (fun runs => (task, runs)) <$> listRuns task.id s) tasks

/-- `run_lock_mismatches` of `inspect_v2_project`. -/
def runLockMismatches : LedgerQuery (List RunLockMismatch) := do
  let tasks ← listTasks
  let locks ← loadActiveLocks
  let scanned ← loadTaskRuns tasks
  let mismatches ← (fun s => readAll (fun pair => scanTaskRuns env locks pair s) scanned)
  let _ ← (fun s => readAll (fun task => listQuestions task.id s) tasks)
  return mismatches.flatten

/-- The operation that a printed command runs, when it changes the ledger. -/
def DoctorCommand.operation (actor : Option ActorRef) (harness : Option NamedHarness) :
    DoctorCommand → Option (LedgerAction Dict)
  | repairRun taskId runId reason => some (repairOrphanedPlanningRun env taskId (some runId) reason)
  | implementResume taskId runId reason =>
    some (resumeImplementation env taskId (some runId) reason actor harness)
  | taskShow _ | doctorLocks => none

end Taskledger
