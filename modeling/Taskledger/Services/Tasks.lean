import Taskledger.Storage.TaskStore

/-!
# Shared helpers of the task services

Events, errors, runs and locks. The operations of the lifecycle are built from
these in the modules that import this one.
-/

namespace Taskledger

open Library

variable [Runtime] (env : Env)

-- ════════════════════════════════════════════════════════════════════════
-- Events
-- ════════════════════════════════════════════════════════════════════════

/-- `default_actor`. -/
def defaultActor : ActorRef where
  actorType := .agent
  actorName := Text.orElse env.user "taskledger"
  host := some env.hostname
  pid := some env.pid

/-- `default_harness`. -/
def defaultHarness : HarnessRef where
  harnessId := "harness-unknown"
  name := Text.orElse (env.harnessName.getD "") "unknown"
  kind := .unknown
  sessionId := env.sessionId
  workingDirectory := some env.cwd
  createdAt := utcNow env

/-- `next_event_id`. -/
def nextEventId (timestamp suffix : String) : String :=
  "evt-" ++ Text.without '.' (Text.without '-' (Text.without ':' timestamp)) ++ "-" ++ suffix

/-- `append_task_event`. -/
def appendEvent (taskId event : String) (data : Dict) : LedgerAction Unit :=
  .write fun s =>
    if env.eventLogging then
      s.addEvent
        { ts := utcNow env
          event := event
          taskId := taskId
          actor := defaultActor env
          harness := some (defaultHarness env)
          eventId := nextEventId (utcNow env) (env.uuid s.events.length)
          data := data }
    else s

/-- The stamp in the name of an audit file. -/
def auditStamp (timestamp : String) : String :=
  Text.without '-' (Text.without ':' timestamp)

/-- `write_broken_lock_audit`. -/
def writeBrokenLockAudit (taskId : String) (lock : TaskLock) : LedgerAction Unit :=
  .write <| Ledger.putAudit
    { taskId := taskId
      stamp := auditStamp (Text.orElse (lock.brokenAt.getD "") (utcNow env))
      lock := lock }

/-- `_summary_line`. -/
def summaryLine : Option String → Option String
  | none => none
  | some text =>
    let stripped := Text.join " " (Text.split text)
    some <| if stripped.length > 120 then
      String.ofList (stripped.toList.take 117) ++ "..."
    else stripped

-- ════════════════════════════════════════════════════════════════════════
-- Errors
-- ════════════════════════════════════════════════════════════════════════

/-- `_ensure_not_archived`. -/
def ensureNotArchived (task : TaskRecord) (operation : String) : Except Raised Unit :=
  raiseIf (isArchivedTask task = true) <|
    cliError ("Cannot " ++ operation ++ " archived task " ++ task.id
      ++ ". Use taskledger task unarchive " ++ task.id ++ " first.") exitCodeInvalidTransition

/-- `_stale_lock_error`. -/
def staleLockError (taskId : String) (lock : TaskLock) : Raised :=
  .launch
    { message := "Task " ++ taskId ++ " has an expired " ++ value lock.stage ++ " lock from "
        ++ lock.runId ++ ". Break it explicitly before continuing."
      exitCode := exitCodeStaleLockRequiresBreak
      errorType := "StaleLockRequiresBreak"
      remediation := ["taskledger repair lock --task " ++ taskId
        ++ " --reason \"recover stale " ++ value lock.stage ++ " lock\""]
      data := [("task_id", .str taskId), ("lock", .dict lock.toDict)] }

/-- `_lock_conflict_message`. -/
def lockConflictMessage (taskId : String) (lock : TaskLock) : Except Raised String := do
  let expired ← lockIsExpired env lock
  return if expired then
    "Task " ++ taskId ++ " has an expired " ++ value lock.stage ++ " lock from " ++ lock.runId
      ++ ". Recover it explicitly with: taskledger repair lock --task " ++ taskId
      ++ " --reason \"recover stale " ++ value lock.stage ++ " lock\""
  else "Task " ++ taskId ++ " is locked by " ++ lock.runId ++ " for " ++ value lock.stage ++ "."

/-- `_lock_matches_run`. -/
def lockMatchesRun (lock : Option TaskLock) (run : TaskRunRecord) : Except Raised Bool :=
  match lock with
  | none => .ok false
  | some lock => do
    let expired ← lockIsExpired env lock
    return !expired && decide (lock.runId = run.runId ∧ lock.runType = run.runType)

/-- The default message of `_running_run_conflict_error`. -/
def runningRunMessage (task : TaskRecord) (run : TaskRunRecord) (hasLock : Bool) : String :=
  "Cannot start work for " ++ task.id ++ " because " ++ value run.runType ++ " run "
    ++ run.runId ++ " is still marked running and "
    ++ (if hasLock then "has a matching active lock" else "has no matching active lock")
    ++ ". Run `taskledger doctor`."

/-- `_running_run_conflict_error`. -/
def runningRunConflictError (task : TaskRecord) (run : TaskRunRecord) (lock : Option TaskLock)
    (message : Option String := none) (errorCode : String := "RUNNING_RUN_CONFLICT")
    (exitCode : Nat := exitCodeLockConflict) : Raised :=
  match lockMatchesRun env lock run with
  | .error e => e
  | .ok hasLock =>
    let text := message.getD (runningRunMessage task run hasLock)
    .launch
      { message := text
        exitCode := exitCode
        errorCode := errorCode
        data := [("code", .str "LAUNCH_ERROR"), ("message", .str text),
          ("details", .dict
            [("task_id", .str task.id),
              ("running_run", .dict
                [("run_id", .str run.runId),
                  ("run_type", .str (value run.runType)),
                  ("status", .str (value run.status)),
                  ("has_matching_lock", .bool hasLock)]),
              ("suggested_command", .str "taskledger doctor")]),
          ("task_id", .str task.id)] }

-- ════════════════════════════════════════════════════════════════════════
-- Queries on runs, locks and plans
-- ════════════════════════════════════════════════════════════════════════

/-- A reading whose `LaunchError` counts as nothing found. -/
def orNone {α : Type} (q : LedgerQuery α) : LedgerQuery (Option α) := fun s =>
  match q s with
  | .ok a => .ok (some a)
  | .error (.launch _) => .ok none
  | .error e => .error e

/-- `_running_runs`. -/
def runningRuns (task : TaskRecord) : LedgerQuery (List TaskRunRecord) := do
  let runs ← listRuns task.id
  return runs.filter fun r => r.status = .running

/-- `_require_run`. -/
def requireRun (task : TaskRecord) (runId : Option String) : LedgerQuery TaskRunRecord :=
  match runId with
  | none => throw (cliError "No active run is recorded for the task." exitCodeMissing)
  | some id => resolveRun task.id id

/-- `_optional_run`. -/
def optionalRun (task : TaskRecord) (runId : Option String) :
    LedgerQuery (Option TaskRunRecord) :=
  match runId with
  | none => pure none
  | some id => orNone (resolveRun task.id id)

/-- `_require_running_run`. -/
def requireRunningRun (task : TaskRecord) (runId : Option String) (expectedType : RunType) :
    LedgerQuery TaskRunRecord := do
  let run ← requireRun task runId
  raiseIf (run.runType ≠ expectedType ∨ run.status ≠ .running) <|
    cliError ("Task does not have a running " ++ value expectedType ++ " run.")
      exitCodeInvalidTransition
  return run

/-- `_lock_for_mutation`. -/
def lockForMutation (taskId : String) : LedgerQuery (Option TaskLock) := do
  let lock ← readLock taskId
  match lock with
  | none => return none
  | some l =>
    let expired ← (lockIsExpired env l : Except Raised Bool)
    raiseIf (expired = true) (staleLockError taskId l)
    return some l

/-- `_require_lock`. -/
def requireLock (taskId : String) : LedgerQuery TaskLock := do
  let lock ← lockForMutation env taskId
  match lock with
  | none => throw (cliError "No active lock found." exitCodeLockConflict)
  | some l => return l

/-- `accepted_plan_record_or_none`. -/
def acceptedPlanRecordOrNone (task : TaskRecord) : LedgerQuery (Option PlanRecord) :=
  match task.acceptedPlanVersion with
  | none => pure none
  | some version => do
    let plan ← orNone (resolvePlan task.id (some version))
    return plan.filter fun p => p.status = .accepted

/-- The stored plan of the accepted version, when no accepted record was found. -/
def requireStoredPlan (task : TaskRecord) (version : Nat) (action : String) :
    LedgerQuery PlanRecord := do
  let stored ← orNone (resolvePlan task.id (some version))
  match stored with
  | none =>
    throw (cliError (action ++ " requires a stored accepted plan record.")
      exitCodeApprovalRequired)
  | some plan =>
    raiseIf (plan.status ≠ .accepted) <|
      cliError (action ++ " requires an accepted plan record.") exitCodeApprovalRequired
    return plan

/-- `_require_accepted_plan_record`. -/
def requireAcceptedPlanRecord (task : TaskRecord) (action : String) : LedgerQuery PlanRecord :=
  match task.acceptedPlanVersion with
  | none =>
    throw (cliError (action ++ " requires an accepted plan version.") exitCodeApprovalRequired)
  | some version => do
    let accepted ← acceptedPlanRecordOrNone task
    match accepted with
    | some plan => return plan
    | none => requireStoredPlan task version action

/-- `_latest_plan_or_none`. -/
def latestPlanOrNone (taskId : String) : LedgerQuery (Option PlanRecord) := do
  let plans ← listPlans taskId
  return plans.getLast?

/-- `_has_user_waiver`. -/
def hasUserWaiver (waiver : Option Waiver) : Bool :=
  waiver.any fun w => w.actor.actorType = .user

/-- The requirements of a list that are neither waived by a user nor on a done
task, as the tasks they are on. -/
def openRequirements (s : Ledger) : List DependencyRequirement → Except Raised (List TaskRecord)
  | [] => .ok []
  | r :: rest =>
    if hasUserWaiver r.waiver then openRequirements s rest
    else do
      let required ← resolveTask r.taskId false s
      let others ← openRequirements s rest
      return if required.statusStage = .done then others else required :: others

/-- The tasks that block a task through its requirements. -/
def blockingTasks (task : TaskRecord) : LedgerQuery (List TaskRecord) := fun s => do
  let requirements ← loadRequirements task.id s
  openRequirements s requirements

/-- `_ensure_dependencies_done`. -/
def ensureDependenciesDone (task : TaskRecord) : LedgerQuery Unit := do
  let blocked ← blockingTasks task
  raiseIf (blocked ≠ []) <|
    cliError ("Implementation is blocked by incomplete requirements: "
      ++ Text.join ", " (blocked.map TaskRecord.id)) exitCodeDependencyBlocked

-- ════════════════════════════════════════════════════════════════════════
-- Runs and locks
-- ════════════════════════════════════════════════════════════════════════

/-- `_next_lock_id`. -/
def nextLockId : LedgerQuery String := do
  let active ← loadActiveLocks
  let s ← read
  let stamp := Runtime.lockStamp env.now
  let existing := active.map TaskLock.lockId ++ s.audits.files.map fun a => "lock-" ++ a.stamp
  let sequence := (existing.filter fun id => Text.startsWith id stamp).length + 1
  return stamp ++ "-" ++ Text.fourDigits sequence

/-- Two hours, in microseconds. -/
def lockLease : Nat := 2 * 60 * 60 * 1000000

/-- The lock `_acquire_lock` writes. -/
def newLock (lockId : String) (task : TaskRecord) (run : TaskRunRecord) (runType : RunType)
    (reason : String) (actor : ActorRef) (harness : Option NamedHarness) : TaskLock where
  lockId := lockId
  taskId := task.id
  runType := runType
  runId := run.runId
  createdAt := Runtime.isoformat env.now
  expiresAt := some (Runtime.isoformat (env.now + lockLease))
  leaseSeconds := 7200
  lastHeartbeatAt := some (Runtime.isoformat env.now)
  reason := reason
  holder := actor
  actor := some actor
  harness := harness.map NamedHarness.toHarnessRef

/-- The refusal of `_acquire_lock` when the exclusive creation failed. -/
def lockTaken (task : TaskRecord) (lock : TaskLock) : LedgerAction TaskLock := do
  let existing ← readLock task.id
  let message ← lockConflictMessage env task.id (existing.getD lock)
  throw (cliError message exitCodeLockConflict)

/-- `_acquire_lock` once no lock file was found. -/
def createLock (task : TaskRecord) (run : TaskRunRecord) (runType : RunType) (reason : String)
    (actor : ActorRef) (harness : Option NamedHarness) : LedgerAction TaskLock := do
  let lockId ← nextLockId env
  let lock := newLock env lockId task run runType reason actor harness
  let created ← writeLock lock
  if created then do
    appendEvent env task.id "lock.acquired" lock.toDict
    appendEvent env task.id "stage.entered"
      [("stage", .str (value lock.stage)), ("run_id", .str run.runId)]
    return lock
  else lockTaken env task lock

/-- `_acquire_lock` when a lock file was found: the same run keeps its lock. -/
def keepLock (task : TaskRecord) (run : TaskRunRecord) (existing : TaskLock) :
    LedgerAction TaskLock := do
  let expired ← lockIsExpired env existing
  raiseIf (expired = true) (staleLockError task.id existing)
  if existing.runId = run.runId then return existing
  else do
    let message ← lockConflictMessage env task.id existing
    throw (cliError message exitCodeLockConflict)

/-- `_acquire_lock`; the stage is the one of `runType`. -/
def acquireLock (task : TaskRecord) (run : TaskRunRecord) (runType : RunType) (reason : String)
    (actor : ActorRef) (harness : Option NamedHarness) : LedgerAction TaskLock := do
  let existing ← readLock task.id
  match existing with
  | some lock => keepLock env task run lock
  | none => createLock env task run runType reason actor harness

/-- The reason a started run gives for its lock. -/
def startReason : RunType → String
  | .planning => "plan task"
  | .implementation => "implement approved plan"
  | .validation => "validate implementation"

/-- `_start_run` refuses while a lock file exists. -/
def refuseLock (task : TaskRecord) : Option TaskLock → Except Raised Unit
  | none => .ok ()
  | some lock => do
    let expired ← lockIsExpired env lock
    raiseIf (expired = true) (staleLockError task.id lock)
    let message ← lockConflictMessage env task.id lock
    throw (cliError message exitCodeLockConflict)

/-- `_start_run` refuses while a run of the task is running. -/
def refuseRunning (task : TaskRecord) (running : List TaskRunRecord) : Except Raised Unit :=
  match running with
  | [] => .ok ()
  | run :: _ => .error (runningRunConflictError env task run none)

/-- `a or b` on optional plan versions; version zero counts as none. -/
def orVersion : Option Nat → Option Nat → Option Nat
  | some (n + 1), _ => some (n + 1)
  | _, b => b

/-- The run `_start_run` writes. -/
def newRun (runId : String) (task : TaskRecord) (runType : RunType) (actor : ActorRef)
    (harness : Option NamedHarness) : TaskRunRecord where
  runId := runId
  taskId := task.id
  runType := runType
  startedAt := utcNow env
  actor := actor
  harness := harness.map NamedHarness.toHarnessRef
  basedOnPlanVersion := orVersion task.acceptedPlanVersion task.latestPlanVersion

/-- `_start_run`. -/
def startRun (task : TaskRecord) (runType : RunType) (actor : Option ActorRef)
    (harness : Option NamedHarness) : LedgerAction TaskRunRecord := do
  let existingLock ← readLock task.id
  refuseLock env task existingLock
  let running ← runningRuns task
  refuseRunning env task running
  let resolvedActor := actor.getD (defaultActor env)
  let runs ← listRuns task.id
  let run := newRun env (Runtime.nextId "run" (runs.map TaskRunRecord.runId)) task runType
    resolvedActor harness
  saveRun run
  let _ ← acquireLock env task run runType (startReason runType) resolvedActor harness
  return run

/-- `_release_lock` refuses unless the lock is the one of the stage and run. -/
def matchingLock (task : TaskRecord) (runType : RunType) (runId : String) :
    Option TaskLock → Except Raised TaskLock
  | none =>
    .error (cliError ("Task " ++ task.id ++ " has no active " ++ value runType.stage
      ++ " lock to release.") exitCodeLockConflict)
  | some lock =>
    if lock.runType ≠ runType ∨ lock.runId ≠ runId then
      .error (cliError "Active lock does not match the expected stage/run." exitCodeLockConflict)
    else .ok lock

/-- `_release_lock(…, delete_only=True)`. -/
def deleteLock (task : TaskRecord) (runType : RunType) (runId event : String)
    (extraData : Dict) : LedgerAction Unit := do
  let lock ← readLock task.id
  let lock ← matchingLock task runType runId lock
  appendEvent env task.id event
    ([("stage", .str (value runType.stage)), ("run_id", .str runId)] ++ extraData)
  removeLock task.id
  appendEvent env task.id "lock.released"
    [("lock_id", .str lock.lockId), ("stage", .str (value runType.stage))]

/-- `_release_lock`. -/
def releaseLock (task : TaskRecord) (runType : RunType) (runId : String)
    (targetStage : TaskStatusStage) (event : String) (extraData : Dict) : LedgerAction Unit := do
  deleteLock env task runType runId event extraData
  saveTask { task with statusStage := targetStage, updatedAt := utcNow env }

/-- `_release_expired_lock`. -/
def releaseExpiredLock (taskId : String) (lock : TaskLock) (reason : String) :
    LedgerAction Unit := do
  writeBrokenLockAudit env taskId
    { lock with brokenAt := some (utcNow env), brokenReason := some reason }
  removeLock taskId
  appendEvent env taskId "lock.expired_released"
    [("lock_id", .str lock.lockId), ("stage", .str (value lock.stage)),
      ("run_id", .str lock.runId), ("reason", .str reason)]

-- ════════════════════════════════════════════════════════════════════════
-- Payloads
-- ════════════════════════════════════════════════════════════════════════

/-- `_lifecycle_payload`. -/
def lifecyclePayload (command : String) (task : TaskRecord) (warnings : List String)
    (changed : Bool) (planVersion : Option Nat := none) (run : Option TaskRunRecord := none)
    (lock : Option TaskLock := none) (result : Option String := none) : Dict :=
  let activeStage := match run with
    | none => none
    | some r => deriveActiveStage lock [r]
  ([("ok", .bool true),
    ("command", .str command),
    ("task_id", .str task.id),
    ("status", .str (value task.statusStage)),
    ("status_stage", .str (value task.statusStage)),
    ("active_stage", .ofOption (activeStage.map value)),
    ("changed", .bool changed),
    ("warnings", .ofStrings warnings),
    ("lock", .ofDict? (lock.map TaskLock.toDict))] : Dict)
  ++ optionalEntry "plan_version" (planVersion.map fun v => .int v)
  ++ (match run with
    | none => []
    | some r => [("run_id", .str r.runId), ("run", .dict r.toDict)] : Dict)
  ++ optionalEntry "result" (result.map .str)

end Taskledger
