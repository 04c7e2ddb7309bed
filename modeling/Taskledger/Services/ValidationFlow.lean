import Taskledger.Services.Validation

/-!
# The validation flow

Validation starts, checks and waivers are recorded on its run, and it finishes
with a verdict.
-/

namespace Taskledger

open Library

variable [Runtime] (env : Env)

-- ════════════════════════════════════════════════════════════════════════
-- Starting
-- ════════════════════════════════════════════════════════════════════════

/-- The note a reopened task carries contains this text. -/
def unarchivedNote : String := "Unarchived from non-terminal state"

/-- `_ensure_implementation_snapshot_current`. -/
def ensureImplementationSnapshotCurrent (task : TaskRecord) (run : TaskRunRecord) :
    Except Raised Unit :=
  match run.workspaceGitCommit with
  | none =>
    raiseIf (task.notes.any (Text.contains unarchivedNote) = true) <|
      cliError ("Cannot validate old implementation for " ++ task.id
        ++ (": implementation snapshot is missing. "
           ++ "Restart implementation or create a follow-up task.")) exitCodeInvalidTransition
  | some commit =>
    raiseIf (env.snapshot.gitCommit ≠ some commit
        ∨ env.snapshot.statusHash ≠ run.workspaceStatusHash
        ∨ env.snapshot.diffHash ≠ run.workspaceDiffHash) <|
      cliError ("Cannot start validation because the workspace differs from the "
              ++ "implementation snapshot recorded at implement finish. "
              ++ "Restart implementation or create a follow-up task.") exitCodeInvalidTransition

/-- The reads and checks of `start_validation`: the task and its implementation run. -/
def validationStartOf (taskRef : String) : LedgerQuery (TaskRecord × TaskRunRecord) := do
  let task ← resolveTask taskRef
  ensureNotArchived task "start validation for"
  raiseIf (task.statusStage ≠ .implemented) <|
    cliError "Validation requires implemented state." exitCodeInvalidTransition
  let run ← requireRun task task.latestImplementationRun
  raiseIf (run.runType ≠ .implementation ∨ run.status ≠ .finished) <|
    cliError "Validation requires a finished implementation run." exitCodeInvalidTransition
  ensureImplementationSnapshotCurrent env task run
  return (task, run)

/-- `start_validation`. -/
def startValidation (taskRef : String) (actor : Option ActorRef := none)
    (harness : Option NamedHarness := none) : LedgerAction Dict := do
  let (task, implementationRun) ← validationStartOf env taskRef
  let run ← startRun env task .validation actor harness
  let updatedRun := { run with basedOnImplementationRun := some implementationRun.runId }
  saveRun updatedRun
  let current ← resolveTask task.id
  let updated := { current with
    latestValidationRun := some updatedRun.runId
    updatedAt := utcNow env }
  saveTask updated
  appendEvent env updated.id "validation.started" [("run_id", .str updatedRun.runId)]
  rebuildV2Indexes
  let lock ← requireLock env updated.id
  return lifecyclePayload "validate start" updated [] true none (some updatedRun) (some lock)

-- ════════════════════════════════════════════════════════════════════════
-- Checks and waivers
-- ════════════════════════════════════════════════════════════════════════

/-- `_require_running_validation_with_decision`. -/
def requireValidationWork (taskRef : String) : LedgerQuery (TaskRecord × TaskRunRecord) := do
  let task ← resolveTask taskRef
  ensureNotArchived task "record validation checks on"
  let run ← requireRunningRun task task.latestValidationRun .validation
  let lock ← lockForMutation env task.id
  enforceDecision (validationCheckDecision task lock (some run))
  return (task, run)

/-- Two texts that are the same number. -/
def sameNumber (a b : String) : Bool :=
  match Runtime.parseInt a, Runtime.parseInt b with
  | some m, some n => m = n
  | _, _ => false

/-- A normalised reference names the criterion with this id in lower case. -/
def criterionMatches (ref idLower : String) : Bool :=
  idLower = ref || match Text.splitOn '-' idLower with
    | [kind, number] =>
      (match Text.splitOn '-' ref with
        | [refKind, refNumber] => refKind = kind && sameNumber refNumber number
        | _ => false)
      || ref = number || sameNumber ref number
    | _ => false

/-- `_resolve_criterion_ref`. -/
def resolveCriterionRef (plan : PlanRecord) (criterionRef : String) : Except Raised String :=
  if plan.criteria = [] then
    .error (cliError "No acceptance criteria defined in plan." exitCodeBadInput)
  else
    let lowered := Runtime.lower (Text.strip criterionRef)
    let ref := match localIdFromRef lowered "ac" with
      | .ok localId => localId
      | .error _ => lowered
    match plan.criteria.find? fun c => criterionMatches ref (Runtime.lower c.id) with
    | some criterion => .ok criterion.id
    | none =>
      .error (cliError ("Unknown acceptance criterion: " ++ criterionRef ++ ".\nKnown criteria: "
        ++ Text.join ", " (sortedBy id (plan.criteria.map AcceptanceCriterion.id)) ++ ".")
        exitCodeBadInput)

/-- The criterion of the accepted plan a reference names. -/
def acceptedCriterion (task : TaskRecord) (refusal criterionRef : String) :
    LedgerQuery String :=
  match task.acceptedPlanVersion with
  | none => throw (cliError refusal exitCodeBadInput)
  | some version => do
    let plan ← resolvePlan task.id (some version)
    resolveCriterionRef plan criterionRef

/-- The criterion a check names, when it names one. -/
def checkedCriterion (task : TaskRecord) : Option String → LedgerQuery (Option String)
  | none => pure none
  | some ref => do
    let criterion ← acceptedCriterion task
      ("Cannot add criterion check without an accepted plan. "
      ++ "Accept a plan first with: task accept-plan") ref
    return some criterion

/-- The id of the next check of a run. -/
def nextCheckId (run : TaskRunRecord) : String :=
  "check-" ++ Text.fourDigits (run.checks.length + 1)

/-- `text.strip() if text else None`. -/
def strippedOrNone (text : Option String) : Option String :=
  (orOption text none).map Text.strip

/-- The arguments of `add_validation_check` besides the task. -/
structure CheckRequest where
  name : Option String := none
  criterionId : Option String := none
  status : String
  details : Option String := none
  evidence : List String := []

/-- The check `add_validation_check` records. -/
def newCheck (run : TaskRunRecord) (request : CheckRequest) (status : ValidationCheckStatus)
    (criterion : Option String) : ValidationCheck where
  name := Text.strip <|
    (orOption request.name (orOption criterion (some (nextCheckId run)))).getD ""
  id := some (nextCheckId run)
  criterionId := criterion
  status := status
  details := strippedOrNone request.details
  evidence := (request.evidence.filter fun e => !Text.isBlank e).map Text.strip

/-- A run with one more check. -/
def withCheck (run : TaskRunRecord) (check : ValidationCheck) : TaskRunRecord :=
  { run with checks := run.checks ++ [check] }

/-- What `add_validation_check` has read and checked: the task, the run and the
new check. -/
def checkOf (taskRef : String) (request : CheckRequest) :
    LedgerQuery (TaskRecord × TaskRunRecord × ValidationCheck) := do
  let (task, run) ← requireValidationWork env taskRef
  let status ← (normalizeValidationCheckStatus request.status :
    Except Raised ValidationCheckStatus)
  let given := strippedOrNone request.criterionId
  raiseIf (status ≠ .notRun ∧ given = none) <|
    cliError "Validation checks must reference --criterion unless status is not_run."
      exitCodeBadInput
  let criterion ← checkedCriterion task given
  return (task, run, newCheck run request status criterion)

/-- `add_validation_check`. -/
def addValidationCheck (taskRef : String) (request : CheckRequest) :
    LedgerAction TaskRunRecord := do
  let (task, run, check) ← checkOf env taskRef request
  saveRun (withCheck run check)
  appendEvent env task.id "validation.check.logged"
    [("run_id", .str run.runId),
      ("check_id", .ofOption check.id),
      ("criterion_id", .ofOption check.criterionId),
      ("status", .str (value check.status)),
      ("evidence", .str (Text.join " | " check.evidence)),
      ("details", .ofOption check.details)]
  return withCheck run check

/-- The check a waiver of the user is recorded as. -/
def waivingCheck (run : TaskRunRecord) (criterion reason : String) (actorName : Option String) :
    ValidationCheck where
  name := criterion
  id := some (nextCheckId run)
  criterionId := some criterion
  status := .pass
  waiver := some
    { actor :=
        { actorType := .user
          actorName :=
            Text.strip (Text.orElse (actorName.getD "") (Text.orElse env.user "user"))
          tool := some "manual" }
      reason := Text.strip reason
      createdAt := utcNow env }

/-- What `waive_criterion` has read and checked: the task, the run and the
criterion. -/
def waiverOf (taskRef criterionRef reason : String) :
    LedgerQuery (TaskRecord × TaskRunRecord × String) := do
  let (task, run) ← requireValidationWork env taskRef
  let criterion ← acceptedCriterion task "Cannot waive criterion without an accepted plan."
    criterionRef
  raiseIf (Text.isBlank reason) (cliError "Waiver reason is required." exitCodeBadInput)
  return (task, run, criterion)

/-- `waive_criterion`. -/
def waiveCriterion (taskRef criterionRef reason : String) (actorName : Option String := none) :
    LedgerAction TaskRunRecord := do
  let (task, run, criterion) ← waiverOf env taskRef criterionRef reason
  let check := waivingCheck env run criterion reason actorName
  saveRun (withCheck run check)
  appendEvent env task.id "validation.criterion.waived"
    [("run_id", .str run.runId),
      ("check_id", .ofOption check.id),
      ("criterion_id", .str criterion),
      ("reason", .str (Text.strip reason))]
  return withCheck run check

-- ════════════════════════════════════════════════════════════════════════
-- Finishing
-- ════════════════════════════════════════════════════════════════════════

/-- The stage a verdict leads to. -/
def verdictStage : ValidationResult → TaskStatusStage
  | .passed => .done
  | .failed => .failedValidation
  | .blocked => .failedValidation

/-- The status of a validation run with a verdict. -/
def verdictStatus : ValidationResult → RunStatus
  | .passed => .finished
  | .failed => .failed
  | .blocked => .blocked

/-- The event of a stage that ended with a verdict. -/
def verdictEvent : ValidationResult → String
  | .passed => "stage.completed"
  | .failed => "stage.failed"
  | .blocked => "stage.failed"

/-- What `finish_validation` has read and checked before it writes. -/
structure ValidationFinish where
  task : TaskRecord
  run : TaskRunRecord
  result : ValidationResult

/-- The gate stands before the verdict `passed` only. -/
def verdictGate (task : TaskRecord) (run : TaskRunRecord) : ValidationResult → LedgerQuery Unit
  | .passed => ensureValidationCanPass task run
  | .failed => pure ()
  | .blocked => pure ()

/-- The reads and checks of `finish_validation`. -/
def validationFinishOf (taskRef result : String) : LedgerQuery ValidationFinish := do
  let task ← resolveTask taskRef
  ensureNotArchived task "finish validation for"
  let run ← requireRunningRun task task.latestValidationRun .validation
  let verdict ← (normalizeValidationResult result : Except Raised ValidationResult)
  verdictGate task run verdict
  return { task := task, run := run, result := verdict }

/-- The run of a finished validation. -/
def finishedValidation (f : ValidationFinish) (summary : String)
    (recommendation : Option String) : TaskRunRecord :=
  { f.run with
    status := verdictStatus f.result
    finishedAt := some (utcNow env)
    summary := some (Text.strip summary)
    recommendation := recommendation
    result := some f.result }

/-- `finish_validation`: the run and the task are written before the lock is looked
at. -/
def finishValidation (taskRef result summary : String) (recommendation : Option String := none) :
    LedgerAction Dict := do
  let f ← validationFinishOf taskRef result
  let finished := finishedValidation env f summary recommendation
  saveRun finished
  let updated := { f.task with statusStage := verdictStage f.result, updatedAt := utcNow env }
  saveTask updated
  releaseLock env updated .validation f.run.runId (verdictStage f.result) (verdictEvent f.result)
    [("result", .str (value f.result))]
  appendEvent env updated.id "validation.finished"
    [("run_id", .str f.run.runId), ("result", .str (value f.result))]
  rebuildV2Indexes
  return lifecyclePayload "validate finish" updated [] true none (some finished) none
    (some (value f.result))

end Taskledger
