import Taskledger.Services.PlanMaterialization

/-!
# The implementation flow

Implementation starts, restarts or resumes, work is logged on its run, and it
finishes.
-/

namespace Taskledger

open Library

variable [Runtime] (env : Env)

-- ════════════════════════════════════════════════════════════════════════
-- Starting
-- ════════════════════════════════════════════════════════════════════════

/-- The task once an implementation run is its latest one and under way. -/
def implementingTask (task : TaskRecord) (runId : String) : TaskRecord :=
  { task with
    latestImplementationRun := some runId
    statusStage := .implementing
    updatedAt := utcNow env }

/-- The checks of `_start_implementation_for_task` and of its caller. -/
def implementationStartOf (taskRef : String) : LedgerQuery TaskRecord := do
  let task ← resolveTask taskRef
  ensureNotArchived task "start implementation for"
  raiseIf (task.statusStage ∉ implementableTaskStages) <|
    cliError "Implementation requires approved or failed_validation state."
      exitCodeInvalidTransition
  let _ ← requireAcceptedPlanRecord task "Implementation"
  ensureDependenciesDone task
  return task

/-- `start_implementation`. -/
def startImplementation (taskRef : String) (actor : Option ActorRef := none)
    (harness : Option NamedHarness := none) : LedgerAction Dict := do
  let task ← implementationStartOf taskRef
  let run ← startRun env task .implementation actor harness
  let current ← resolveTask task.id
  let updated := implementingTask env current run.runId
  saveTask updated
  appendEvent env updated.id "implementation.started" [("run_id", .str run.runId)]
  rebuildV2Indexes
  let lock ← requireLock env updated.id
  return lifecyclePayload "implement start" { updated with statusStage := task.statusStage } []
    true none (some run) (some lock)

/-- What `restart_implementation` has read and checked before it starts a run. -/
structure Restart where
  task : TaskRecord
  validationRun : TaskRunRecord
  previousRun : TaskRunRecord
  summary : String

/-- A validation run that failed or was blocked. -/
def failedOrBlocked (run : TaskRunRecord) : Bool :=
  run.runType = .validation ∧ run.status ∈ [.failed, .blocked]
    ∧ run.result ∈ [some .failed, some .blocked]

/-- The reads and checks of `restart_implementation`. -/
def restartOf (taskRef summary : String) : LedgerQuery Restart := do
  let task ← resolveTask taskRef
  ensureNotArchived task "restart implementation for"
  raiseIf (task.statusStage ≠ .failedValidation) <|
    cliError "Implementation restart requires failed_validation state." exitCodeInvalidTransition
  let _ ← requireAcceptedPlanRecord task "Implementation restart"
  raiseIf (task.latestValidationRun = none) <|
    cliError "Implementation restart requires a failed validation run." exitCodeInvalidTransition
  let validationRun ← requireRun task task.latestValidationRun
  raiseIf (failedOrBlocked validationRun = false) <|
    cliError "Implementation restart requires the latest validation run to be failed or blocked."
      exitCodeInvalidTransition
  raiseIf (task.latestImplementationRun = none) <|
    cliError "Implementation restart requires a previous implementation run."
      exitCodeInvalidTransition
  let previousRun ← requireRun task task.latestImplementationRun
  raiseIf (previousRun.runType ≠ .implementation) <|
    cliError "Implementation restart requires a previous implementation run."
      exitCodeInvalidTransition
  raiseIf (Text.isBlank summary) <|
    cliError "Implementation restart requires a non-empty summary." exitCodeBadInput
  ensureDependenciesDone task
  return {
    task := task
    validationRun := validationRun
    previousRun := previousRun
    summary := Text.strip summary }

/-- The run of a restart: it resumes the previous one and says why. -/
def restartedRun (r : Restart) (run : TaskRunRecord) : TaskRunRecord :=
  { run with
    resumesRunId := some r.previousRun.runId
    worklog :=
      ["Restart summary: " ++ r.summary,
        "Restarted after validation run " ++ r.validationRun.runId ++ " ("
          ++ (r.validationRun.result.map value).getD "None" ++ ")."]
      ++ run.worklog }

/-- `restart_implementation`. -/
def restartImplementation (taskRef summary : String) (actor : Option ActorRef := none)
    (harness : Option NamedHarness := none) : LedgerAction Dict := do
  let r ← restartOf taskRef summary
  let run ← startRun env r.task .implementation actor harness
  let restarted := restartedRun r run
  saveRun restarted
  let current ← resolveTask r.task.id
  let updated := implementingTask env current restarted.runId
  saveTask updated
  appendEvent env updated.id "implementation.started"
    [("run_id", .str restarted.runId),
      ("restart", .bool true),
      ("summary", .str r.summary),
      ("after_validation_run", .str r.validationRun.runId),
      ("resumes_run_id", .str r.previousRun.runId)]
  rebuildV2Indexes
  let lock ← requireLock env updated.id
  return lifecyclePayload "implement restart"
    { updated with statusStage := r.task.statusStage } [] true none (some restarted) (some lock)

-- ════════════════════════════════════════════════════════════════════════
-- Resuming
-- ════════════════════════════════════════════════════════════════════════

/-- `_active_lock_blocks_resume_error`. -/
def activeLockBlocksResumeError (taskId : String) (lock : TaskLock) : Raised :=
  let (diagnostics, remediation) := env.diagnoseLock lock
  .launch
    { message := "Implementation resume requires no active lock. Task " ++ taskId
        ++ " has a non-expired " ++ value lock.stage ++ " lock for " ++ lock.runId
        ++ " held by " ++ value lock.holder.actorType ++ ":" ++ lock.holder.actorName
        ++ (match lock.holder.pid with
          | some (n + 1) => " pid=" ++ Nat.repr (n + 1)
          | _ => "")
        ++ ". --repair-expired-lock only applies after the lock expires."
      exitCode := exitCodeLockConflict
      errorCode := "LOCK_CONFLICT"
      remediation :=
        if remediation.isEmpty then ["taskledger lock show --task " ++ taskId] else remediation
      data := [("task_id", .str taskId), ("lock", .dict lock.toDict),
        ("diagnostics", .dict diagnostics)] }

/-- What `resume_implementation` has read and checked: the task, the running run
and the reason. -/
def resumptionOf (taskRef : String) (runId : Option String) (reason : String) :
    LedgerQuery (TaskRecord × TaskRunRecord) := do
  let task ← resolveTask taskRef
  ensureNotArchived task "resume implementation for"
  raiseIf (Text.isBlank reason) <|
    cliError "Implementation resume requires --reason." exitCodeBadInput
  raiseIf (task.statusStage ∉ [.approved, .implementing]) <|
    cliError "Implementation resume requires approved or implementing state."
      exitCodeInvalidTransition
  let _ ← requireAcceptedPlanRecord task "Implementation resume"
  let run ← requireRun task (orOption runId task.latestImplementationRun)
  raiseIf (run.runType ≠ .implementation ∨ run.status ≠ .running) <|
    cliError "Implementation resume requires a running implementation run."
      exitCodeInvalidTransition
  return (task, run)

/-- The lock file a resumption meets: an expired one of the run is released when
that was asked for, any other one refuses. -/
def repairResumeLock (task : TaskRecord) (run : TaskRunRecord) (repairExpiredLock : Bool)
    (reason : String) (lock : TaskLock) : LedgerAction Unit := do
  let expired ← lockIsExpired env lock
  if repairExpiredLock && expired then do
    raiseIf (lock.runId ≠ run.runId ∨ lock.runType ≠ .implementation) <|
      cliError "Expired lock does not match the implementation run." exitCodeLockConflict
    releaseExpiredLock env task.id lock ("Expired lock released for resume: " ++ reason)
  else if expired then throw (staleLockError task.id lock)
  else throw (activeLockBlocksResumeError env task.id lock)

/-- The lock file before a resumption takes the lock. -/
def clearResumeLock (task : TaskRecord) (run : TaskRunRecord) (repairExpiredLock : Bool)
    (reason : String) : LedgerAction Unit := do
  let existing ← readLock task.id
  match existing with
  | none => pure ()
  | some lock => repairResumeLock env task run repairExpiredLock reason lock

/-- `resume_implementation`. -/
def resumeImplementation (taskRef : String) (runId : Option String) (reason : String)
    (actor : Option ActorRef := none) (harness : Option NamedHarness := none)
    (repairExpiredLock : Bool := false) : LedgerAction Dict := do
  let (task, run) ← resumptionOf taskRef runId reason
  let resumeReason := Text.strip reason
  clearResumeLock env task run repairExpiredLock resumeReason
  ensureDependenciesDone task
  let lock ← acquireLock env task run .implementation resumeReason
    (actor.getD (defaultActor env)) harness
  let updated := implementingTask env task run.runId
  saveTask updated
  appendEvent env updated.id "run.resumed"
    [("run_id", .str run.runId), ("run_type", .str "implementation"),
      ("reason", .str resumeReason)]
  rebuildV2Indexes
  return lifecyclePayload "implement resume" { updated with statusStage := task.statusStage } []
    true none (some run) (some lock)

-- ════════════════════════════════════════════════════════════════════════
-- Recording work
-- ════════════════════════════════════════════════════════════════════════

/-- `_require_running_implementation_with_decision`; `operation` is the text of
the refusal for an archived task. -/
def requireImplementationWork (taskRef operation action : String) :
    LedgerQuery (TaskRecord × TaskRunRecord) := do
  let task ← resolveTask taskRef
  ensureNotArchived task operation
  let run ← requireRunningRun task task.latestImplementationRun .implementation
  let lock ← lockForMutation env task.id
  enforceDecision (implementationMutationDecision task lock (some run) action)
  return (task, run)

/-- The common body of the recorders that only change the run. -/
def recordOnRun (taskRef action : String) (change : TaskRunRecord → TaskRunRecord)
    (data : Dict) : LedgerAction TaskRunRecord := do
  let (task, run) ← requireImplementationWork env taskRef (action ++ " on") action
  saveRun (change run)
  appendEvent env task.id "implementation.logged" (("run_id", .str run.runId) :: data)
  return change run

/-- `log_implementation`. -/
def logImplementation (taskRef message : String) : LedgerAction TaskRunRecord :=
  recordOnRun env taskRef "log implementation work"
    (fun run => { run with worklog := run.worklog ++ [Text.strip message] })
    [("message", .str (Text.strip message))]

/-- `add_implementation_deviation`. -/
def addImplementationDeviation (taskRef message : String) : LedgerAction TaskRunRecord :=
  recordOnRun env taskRef "record implementation deviations"
    (fun run => { run with
      deviationsFromPlan := run.deviationsFromPlan ++ [Text.strip message] })
    [("deviation", .str (Text.strip message))]

/-- `add_implementation_artifact`. -/
def addImplementationArtifact (taskRef path summary : String) : LedgerAction TaskRunRecord :=
  recordOnRun env taskRef "record implementation artifacts"
    (fun run => { run with
      artifactRefs := run.artifactRefs ++ [path ++ ": " ++ Text.strip summary] })
    [("artifact", .str path), ("summary", .str (Text.strip summary))]

-- ════════════════════════════════════════════════════════════════════════
-- Finishing
-- ════════════════════════════════════════════════════════════════════════

/-- A todo that keeps an implementation from finishing. -/
def blocksFinish (todo : TaskTodo) : Bool :=
  !todo.done && todo.status ∉ [.done, .skipped]
    && (!todo.mandatory || todo.activeAt.isSome || todo.source = some "plan"
      || todo.sourcePlanId.isSome)

/-- A blocker of `_build_todo_gate_report`. -/
def openTodoBlocker (id : String) : Dict :=
  [("kind", .str "todo_open"),
    ("ref", .str id),
    ("message", .str ("Todo " ++ id ++ " is not done.")),
    ("command_hint", .str ("taskledger todo done " ++ id ++ " --evidence \"...\""))]

structure TodoGateReport where
  taskId : String
  total : Nat
  openTodos : List String

/-- `_build_todo_gate_report`. -/
def buildTodoGateReport (task : TaskRecord) : LedgerQuery TodoGateReport := do
  let full ← taskWithSidecars task
  return {
    taskId := full.id
    total := full.todos.length
    openTodos := (full.todos.filter blocksFinish).map TaskTodo.id }

def TodoGateReport.toDict (r : TodoGateReport) : Dict :=
  [("kind", .str "todo_gate_report"),
    ("task_id", .str r.taskId),
    ("total", .int r.total),
    ("done", .int (r.total - r.openTodos.length : Nat)),
    ("open_todos", .ofStrings r.openTodos),
    ("blockers", .list (r.openTodos.map fun id => .dict (openTodoBlocker id))),
    ("can_finish_implementation", .bool r.openTodos.isEmpty)]

/-- `_require_todos_complete_for_implementation_finish`. -/
def requireTodosComplete (task : TaskRecord) : LedgerQuery Unit := do
  let report ← buildTodoGateReport task
  raiseIf (report.openTodos ≠ []) <| Raised.launch
    { message := "Cannot finish implementation because todos are incomplete."
      exitCode := exitCodeValidationFailed
      errorCode := "IMPLEMENTATION_TODOS_INCOMPLETE"
      data := report.toDict }

/-- The warning of `_implementation_finish_warnings`. -/
def manualChangesWarning : String :=
  ("Warning: implementation has manual change records but no git-backed scan. "
  ++ "Recommended: taskledger implement scan-changes --from-git "
  ++ "--summary \"Implementation diff summary.\"")

/-- `_implementation_finish_warnings`. -/
def implementationFinishWarnings (taskId runId : String) : LedgerQuery (List String) := do
  let all ← listChanges taskId
  let changes := all.filter fun c => c.implementationRun = runId
  return if changes.any (fun c => c.kind ≠ "scan") && !changes.any (fun c => c.kind = "scan")
      && env.isGitWorkspace then [manualChangesWarning]
    else []

/-- What `finish_implementation` has read and checked before it writes. -/
structure ImplementationFinish where
  task : TaskRecord
  run : TaskRunRecord
  warnings : List String

/-- The reads and checks of `finish_implementation`. -/
def implementationFinishOf (taskRef : String) : LedgerQuery ImplementationFinish := do
  let task ← resolveTask taskRef
  ensureNotArchived task "finish implementation for"
  let run ← requireRunningRun task task.latestImplementationRun .implementation
  let warnings ← implementationFinishWarnings env task.id run.runId
  requireTodosComplete task
  return { task := task, run := run, warnings := warnings }

/-- The run of a finished implementation, with the snapshot of its workspace. -/
def finishedImplementation (run : TaskRunRecord) (summary : String) : TaskRunRecord :=
  { run with
    status := .finished
    finishedAt := some (utcNow env)
    summary := some (Text.strip summary)
    workspaceGitCommit := env.snapshot.gitCommit
    workspaceDirty := env.snapshot.dirty
    workspaceDiffHash := env.snapshot.diffHash
    workspaceStatusHash := env.snapshot.statusHash
    workspaceSnapshotAt := env.snapshot.capturedAt }

/-- `finish_implementation`: the run and the task are written before the lock is
looked at. -/
def finishImplementation (taskRef summary : String) : LedgerAction Dict := do
  let f ← implementationFinishOf env taskRef
  let finished := finishedImplementation env f.run summary
  saveRun finished
  let updated := { f.task with statusStage := .implemented, updatedAt := utcNow env }
  saveTask updated
  releaseLock env updated .implementation f.run.runId .implemented "stage.completed" []
  appendEvent env updated.id "implementation.finished" [("run_id", .str f.run.runId)]
  rebuildV2Indexes
  return lifecyclePayload "implement finish" updated f.warnings true none (some finished)

end Taskledger
