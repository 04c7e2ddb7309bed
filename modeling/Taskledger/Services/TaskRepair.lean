import Taskledger.Services.PlanMaterialization

/-!
# Locks and repairs

A lock is broken by hand, and orphaned records are repaired.
-/

namespace Taskledger

open Library

variable [Runtime] (env : Env)

-- ════════════════════════════════════════════════════════════════════════
-- Breaking a lock
-- ════════════════════════════════════════════════════════════════════════

/-- The path of an audit file under the project directory. -/
def auditPath (taskId stamp : String) : String :=
  "tasks/" ++ taskId ++ "/audit/broken-lock-" ++ stamp ++ ".yaml"

/-- The lock as `break_lock` files it. -/
def brokenLock (lock : TaskLock) (reason : String) : TaskLock :=
  { lock with
    brokenAt := some (utcNow env)
    brokenBy := some (defaultActor env)
    brokenReason := some (Text.strip reason) }

/-- The event data of a broken lock. -/
def brokenLockData (taskId reason : String) (lock : TaskLock) : Dict :=
  [("lock_id", .str lock.lockId),
    ("reason", .str reason),
    ("audit_path", .str (auditPath taskId (auditStamp (utcNow env))))]

/-- `break_lock` on the lock that was read. -/
def writeBrokenLock (task : TaskRecord) (reason : String) (lock : TaskLock) :
    LedgerAction Dict := do
  writeBrokenLockAudit env task.id (brokenLock env lock reason)
  appendEvent env task.id "lock.broken" (brokenLockData env task.id reason lock)
  appendEvent env task.id "repair.lock_broken" (brokenLockData env task.id reason lock)
  removeLock task.id
  rebuildV2Indexes
  return [("ok", .bool true),
    ("command", .str "lock break"),
    ("task_id", .str task.id),
    ("status_stage", .str (value task.statusStage)),
    ("changed", .bool true),
    ("warnings", .list []),
    ("lock", .dict (brokenLock env lock reason).toDict),
    ("reason", .str reason),
    ("audit_path", .str (auditPath task.id (auditStamp (utcNow env))))]

/-- `break_lock`. -/
def breakLock (taskRef reason : String) : LedgerAction Dict := do
  let task ← resolveTask taskRef
  let lock ← readLock task.id
  match lock with
  | none =>
    throw <| cliError ("No active lock exists for the task. "
              ++ "This is normal after plan propose, implement finish, or validate finish. "
              ++ "Run `taskledger next-action` to see what to do next.") exitCodeMissing
  | some l => writeBrokenLock env task reason l

-- ════════════════════════════════════════════════════════════════════════
-- Repairs
-- ════════════════════════════════════════════════════════════════════════

/-- A running implementation run. -/
def runningImplementation (run : TaskRunRecord) : Bool :=
  run.runType = .implementation ∧ run.status = .running

/-- The commands `repair_task_record` offers. -/
def recoveryCommands (task : TaskRecord) (run : Option TaskRunRecord) (lock : Option TaskLock) :
    List String :=
  if task.statusStage = .implementing ∧ run.any runningImplementation ∧ lock.isNone then
    [("taskledger implement resume "
     ++ "--reason \"Reacquire implementation lock for existing running run.\"")]
  else if task.statusStage = .cancelled then
    ["taskledger task uncancel --reason \"Restore the task to a safe durable stage.\""]
  else []

/-- The lock `repair_task_record` reads; it does so only for a running
implementation. -/
def repairLock (task : TaskRecord) (run : Option TaskRunRecord) :
    LedgerQuery (Option TaskLock) :=
  if task.statusStage = .implementing ∧ run.any runningImplementation then readLock task.id
  else pure none

/-- `repair_task_record`. -/
def repairTaskRecord (taskRef reason : String) : LedgerAction Dict := do
  raiseIf (Text.isBlank reason) (cliError "Task repair requires --reason." exitCodeBadInput)
  let task ← resolveTask taskRef
  let run ← optionalRun task task.latestImplementationRun
  let lock ← repairLock task run
  appendEvent env task.id "repair.task" [("reason", .str (Text.strip reason))]
  return [("kind", .str "task_repair"),
    ("task_id", .str task.id),
    ("changed", .bool false),
    ("reason", .str (Text.strip reason)),
    ("warnings", .ofStrings
      ["Recorded a repair inspection event only; no task state was changed."]),
    ("recovery_commands", .ofStrings (recoveryCommands task run lock))]

/-- `repair_orphaned_planning_run` refuses while a lock file exists. -/
def refuseRepairLock (task : TaskRecord) (run : TaskRunRecord) (lock : Option TaskLock) :
    Except Raised Unit := do
  let isMatch ← lockMatchesRun env lock run
  raiseIf (isMatch = true) <|
    cliError "Run repair refuses to finish a planning run with a matching active lock."
      exitCodeLockConflict
  match lock with
  | none => return ()
  | some l =>
    throw (runningRunConflictError env task run (some l)
      (some ("Run repair requires no active lock for the selected planning run. "
            ++ "Run `taskledger doctor`.")))

/-- What `repair_orphaned_planning_run` has read and checked: the task and the run. -/
def runRepairOf (taskRef : String) (runId : Option String) (reason : String) :
    LedgerQuery (TaskRecord × TaskRunRecord) := do
  raiseIf (Text.isBlank reason) (cliError "Run repair requires --reason." exitCodeBadInput)
  let task ← resolveTask taskRef
  let run ← requireRun task (orOption runId task.latestPlanningRun)
  raiseIf (run.runType ≠ .planning) <|
    cliError "Run repair only supports planning runs." exitCodeInvalidTransition
  raiseIf (run.status ≠ .running) <|
    cliError "Run repair requires a running planning run." exitCodeInvalidTransition
  let lock ← readLock task.id
  refuseRepairLock env task run lock
  return (task, run)

/-- `repair_orphaned_planning_run`. -/
def repairOrphanedPlanningRun (taskRef : String) (runId : Option String) (reason : String) :
    LedgerAction Dict := do
  let (task, run) ← runRepairOf env taskRef runId reason
  saveRun { run with
    status := .finished
    finishedAt := some (utcNow env)
    summary := some ("Repaired orphaned planning run: " ++ Text.strip reason) }
  let outcome : Dict :=
    [("action", .str "finished_orphan_run"),
      ("run_id", .str run.runId),
      ("run_type", .str (value run.runType)),
      ("previous_status", .str (value run.status)),
      ("new_status", .str "finished")]
  appendEvent env task.id "repair.run" (outcome ++ [("reason", .str (Text.strip reason))])
  rebuildV2Indexes
  return [("kind", .str "run_repair"), ("task_id", .str task.id)] ++ outcome
    ++ [("next_command", .str "taskledger implement start")]

/-- The planning run a recorded command change belongs to. -/
def planningRunOfChange (task : TaskRecord) (change : CodeChangeRecord) :
    LedgerQuery (Option TaskRunRecord) :=
  if change.kind ≠ "command" then pure none
  else do
    let run ← optionalRun task (some change.implementationRun)
    return run.filter fun r => r.runType = .planning

/-- A planning run with the summary of a command that was filed as a change. -/
def runWithCommand (run : TaskRunRecord) (change : CodeChangeRecord) : TaskRunRecord :=
  { run with
    worklog := run.worklog ++ [change.summary]
    artifactRefs := run.artifactRefs
      ++ if Text.startsWith change.changeId "artifact_" then [] else [change.changeId] }

/-- Move one command change to the worklog of its planning run. The task written
is the one read at the start. -/
def moveCommandChange (task : TaskRecord) (reason : String) (change : CodeChangeRecord)
    (run : TaskRunRecord) : LedgerAction Unit := do
  saveRun (runWithCommand run change)
  -- the file of a change is named `.md`
  removeChangeFile task.id (change.changeId ++ ".yaml")
  saveTask { task with
    codeChangeLogRefs := task.codeChangeLogRefs.filter (· ≠ change.changeId)
    updatedAt := utcNow env }
  appendEvent env task.id "repair.change"
    [("action", .str "moved_planning_command_to_worklog"),
      ("change_id", .str change.changeId),
      ("run_id", .str run.runId),
      ("reason", .str reason)]

/-- The changes `repair_planning_command_changes` repairs, with their runs. -/
def repairCommandChanges (task : TaskRecord) (reason : String) (dryRun : Bool) :
    List CodeChangeRecord → LedgerAction (List (CodeChangeRecord × TaskRunRecord))
  | [] => pure []
  | change :: rest => do
    let planningRun ← planningRunOfChange task change
    match planningRun with
    | none => repairCommandChanges task reason dryRun rest
    | some run => do
      Action.onlyIf (dryRun = false) (moveCommandChange env task reason change run)
      let others ← repairCommandChanges task reason dryRun rest
      return (change, run) :: others

/-- The summary line of a dry run. -/
def dryRunLine (moved : CodeChangeRecord × TaskRunRecord) : String :=
  "Would move change " ++ moved.1.changeId ++ " summary to planning run " ++ moved.2.runId
    ++ " worklog"

/-- The index rebuild at the end of a repair that writes. -/
def rebuildUnlessDry (dryRun : Bool) : LedgerQuery Unit :=
  if dryRun then pure () else rebuildV2Indexes

/-- `repair_planning_command_changes`. -/
def repairPlanningCommandChanges (taskRef reason : String) (dryRun : Bool := false) :
    LedgerAction Dict := do
  raiseIf (Text.isBlank reason) <|
    cliError "Planning command changes repair requires --reason." exitCodeBadInput
  let task ← resolveTask taskRef
  let changes ← listChanges task.id
  let moved ← repairCommandChanges env task (Text.strip reason) dryRun changes
  rebuildUnlessDry dryRun
  return [("kind", .str "planning_command_changes_repair"),
    ("task_id", .str task.id),
    ("dry_run", .bool dryRun),
    ("repaired_changes", .ofStrings (moved.map fun m => m.1.changeId)),
    ("reason", .str (Text.strip reason)),
    ("summary", if dryRun then .ofStrings (moved.map dryRunLine) else .null)]

end Taskledger
