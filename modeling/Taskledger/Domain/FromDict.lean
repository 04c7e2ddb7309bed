import Taskledger.Domain.ModelUtils

/-!
# Records read from plain data

The `from_dict` of every record kind. `now` is the time at which the record is
read, which stands in for a time that is missing.
-/

namespace Taskledger

open Library

section Actors

variable [Runtime]

/-- `ActorRef.from_dict`: what is no mapping reads as the default actor. -/
def ActorRef.fromDict : Value → Except Raised ActorRef :=
  ofMapping (.ok {}) fun data => do
    let actorType ← memberOr normalizeActorType "agent" (data.get "actor_type")
    let role ← memberUnlessEmpty normalizeActorRole (data.get "role")
    return {
      actorType := actorType
      actorName := (orOption (optionalString (data.get "actor_name")) none).getD "taskledger"
      tool := optionalString (data.get "tool")
      sessionId := optionalString (data.get "session_id")
      host := optionalString (data.get "host")
      pid := optionalNat (data.get "pid")
      actorId := optionalString (data.get "actor_id")
      role := role
      harnessId := optionalString (data.get "harness_id")
      commandPid := optionalNat (data.get "command_pid")
      pidScope := (optionalString (data.get "pid_scope")).bind Enumeration.ofValue? }

/-- `HarnessRef.from_dict`. -/
def HarnessRef.fromDict (now : String) : Value → Except Raised HarnessRef :=
  ofMapping (.error (launchError "Invalid harness data: expected mapping")) fun data => do
    requireContract data "harness"
    let harnessId ← stringValue data "harness_id"
    let name ← stringValue data "name"
    let kind ← memberOr normalizeHarnessKind "unknown" (data.get "kind")
    return {
      harnessId := harnessId
      name := name
      kind := kind
      sessionId := optionalString (data.get "session_id")
      workingDirectory := optionalString (data.get "working_directory")
      command := optionalString (data.get "command")
      version := optionalString (data.get "version")
      capabilities := stringTuple (data.get "capabilities")
      createdAt := stampValue now data "created_at" }

end Actors

-- ════════════════════════════════════════════════════════════════════════
-- Sidecars
-- ════════════════════════════════════════════════════════════════════════

section Sidecars

variable [Runtime]

/-- `CriterionWaiver.from_dict` and `DependencyWaiver.from_dict`, of the kind of waiver named. -/
def Waiver.fromDict (kind now : String) : Value → Except Raised (Option Waiver) :=
  unlessNone <|
    ofMapping (.error (launchError ("Invalid " ++ kind ++ " waiver: expected mapping.")))
      fun data => do
      let actor ← ActorRef.fromDict (data.get "actor")
      let reason ← stringValue data "reason"
      return { actor := actor, reason := reason, createdAt := stampValue now data "created_at" }

/-- `FileLink.from_dict`. -/
def FileLink.fromDict (now : String) : Value → Except Raised FileLink :=
  ofMapping (.error (launchError "Invalid file link: expected mapping.")) fun data => do
    requireSidecarContract data "link"
    let path ← stringValue data "path"
    let kind ← memberOr normalizeFileLinkKind "code" (data.get "kind")
    return {
      id := optionalString (data.get "id")
      taskId := optionalString (data.get "task_id")
      path := path
      kind := kind
      label := optionalString (data.get "label")
      requiredForValidation := (data.get "required_for_validation").truthy
      targetType := optionalString (data.get "target_type")
      baselineHash := optionalString (data.get "baseline_hash")
      baselineSize := optionalNat (data.get "baseline_size")
      baselineMtime := optionalString (data.get "baseline_mtime")
      baselineExists := optionalBool (data.get "baseline_exists")
      createdAt := stampValue now data "created_at"
      updatedAt := stampValue now data "updated_at" }

/-- The status of a todo; one without a status is open or done. -/
def todoStatus (data : Dict) : Except Raised TodoStatus :=
  match optionalString (data.get "status") with
  | none => .ok (if (data.get "done").truthy then .done else .open)
  | some text => normalizeTodoStatus text

/-- The references under `key`, or under the key of earlier versions. -/
def refsUnder (data : Dict) (key legacyKey : String) : List String :=
  if stringTuple (data.get key) = [] then stringTuple (data.get legacyKey)
  else stringTuple (data.get key)

/-- `TaskTodo.from_dict`. -/
def TaskTodo.fromDict (now : String) : Value → Except Raised TaskTodo :=
  ofMapping (.error (launchError "Invalid todo: expected mapping.")) fun data => do
    requireSidecarContract data "todo"
    let status ← todoStatus data
    let completedBy ← unlessEmpty ActorRef.fromDict (data.get "completed_by")
    let completedInHarness ←
      unlessEmpty (HarnessRef.fromDict now) (data.get "completed_in_harness")
    let skippedBy ← unlessEmpty ActorRef.fromDict (data.get "skipped_by")
    let id ← stringValue data "id"
    let text ← stringValue data "text"
    return {
      id := id
      text := text
      done := (data.get "done").truthy
      createdAt := stampValue now data "created_at"
      updatedAt := stampValue now data "updated_at"
      source := optionalString (data.get "source")
      mandatory := (data.get "mandatory").truthy
      status := status
      activeAt := optionalString (data.get "active_at")
      blockedReason := optionalString (data.get "blocked_reason")
      doneAt := optionalString (data.get "done_at")
      skippedAt := optionalString (data.get "skipped_at")
      completedBy := completedBy
      completedInHarness := completedInHarness
      skippedBy := skippedBy
      evidence := stringTuple (data.get "evidence")
      artifactRefs := refsUnder data "artifact_refs" "artifacts"
      changeRefs := refsUnder data "change_refs" "changes"
      commandRefs := stringTuple (data.get "command_refs")
      sourcePlanId := optionalString (data.get "source_plan_id")
      sourceQuestionIds := stringTuple (data.get "source_question_ids")
      validationHint := optionalString (data.get "validation_hint")
      workerStepId := optionalString (data.get "worker_step_id") }

/-- `AcceptanceCriterion.from_dict`: a criterion is mandatory unless it says otherwise. -/
def AcceptanceCriterion.fromDict : Value → Except Raised AcceptanceCriterion :=
  ofMapping (.error (launchError "Invalid acceptance criterion: expected mapping.")) fun data => do
    let id ← stringValue data "id"
    let text ← stringValue data "text"
    return {
      id := id
      text := text
      mandatory := ((data.get? "mandatory").getD (.bool true)).truthy }

/-- `DependencyRequirement.from_dict`. -/
def DependencyRequirement.fromDict (now : String) : Value → Except Raised DependencyRequirement :=
  ofMapping (.error (launchError "Invalid dependency requirement: expected mapping."))
    fun data => do
    requireSidecarContract data "requirement"
    let taskId ← match orOption (optionalString (data.get "required_task_id")) none with
      | some required => (.ok required : Except Raised String)
      | none => stringValue data "task_id"
    let waiver ← Waiver.fromDict "dependency" now (data.get "waiver")
    return {
      id := optionalString (data.get "id")
      taskId := taskId
      requiredTaskId := orOption (optionalString (data.get "required_task_id")) (some taskId)
      parentTaskId := optionalString (data.get "parent_task_id")
      requiredStatus := (orOption (optionalString (data.get "required_status")) none).getD "done"
      waiver := waiver
      createdAt := stampValue now data "created_at"
      updatedAt := stampValue now data "updated_at" }

/-- `ValidationCheck.from_dict`. -/
def ValidationCheck.fromDict (now : String) : Value → Except Raised ValidationCheck :=
  ofMapping (.error (launchError "Invalid validation check: expected mapping.")) fun data => do
    let identifier := orOption (optionalString (data.get "id"))
      (optionalString (data.get "criterion_id"))
    let statusText ← stringValue data "status"
    let status ← normalizeValidationCheckStatus statusText
    let criterionId := orOption (optionalString (data.get "criterion_id"))
      (if status = .notRun then none else identifier)
    raiseIf (status ≠ .notRun ∧ criterionId = none)
      (launchError "Validation checks must reference a criterion_id unless status is not_run.")
    let name ← stringValue data "name"
    let waiver ← Waiver.fromDict "criterion" now (data.get "waiver")
    return {
      id := identifier
      criterionId := criterionId
      name := name
      status := status
      details := optionalString (data.get "details")
      evidence := stringTuple (data.get "evidence")
      waiver := waiver }

end Sidecars

-- ════════════════════════════════════════════════════════════════════════
-- Tasks, plans and questions
-- ════════════════════════════════════════════════════════════════════════

section Tasks

variable [Runtime]

/-- The stage of a task under `status`, or under `status_stage`. -/
def stageText (data : Dict) : Except Raised String :=
  match orOption (optionalString (data.get "status")) none with
  | some text => .ok text
  | none => stringValue data "status_stage"

/-- `TaskRecord.from_dict`. -/
def TaskRecord.fromDict (now : String) (data : Dict) : Except Raised TaskRecord := do
  requireContract data "task"
  let id ← stringValue data "id"
  let slug ← stringValue data "slug"
  let title ← stringValue data "title"
  let stage ← stageText data
  let statusStage ← normalizeTaskStatusStage stage
  let fileLinks ← recordList (FileLink.fromDict now) (data.get "file_links")
  let todos ← recordList (TaskTodo.fromDict now) (data.get "todos")
  let parentRelation ← optionalParentRelation (data.get "parent_relation")
  let closedBy ← unlessNone ActorRef.fromDict (data.get "closed_by")
  let archivedBy ← unlessNone ActorRef.fromDict (data.get "archived_by")
  let taskType ← memberOr normalizeTaskType "managed" (data.get "task_type")
  let recordedBy ← unlessNone ActorRef.fromDict (data.get "recorded_by")
  return {
    id := id
    slug := slug
    title := title
    body := (optionalString (data.get "body")).getD ""
    statusStage := statusStage
    createdAt := stampValue now data "created_at"
    updatedAt := stampValue now data "updated_at"
    descriptionSummary := optionalString (data.get "description_summary")
    priority := optionalString (data.get "priority")
    labels := stringTuple (data.get "labels")
    owner := optionalString (data.get "owner")
    introductionRef := orOption (optionalString (data.get "introduction_ref"))
      (firstString (data.get "intro_refs"))
    requirements := stringTuple (data.get "requirements")
    fileLinks := fileLinks
    todos := todos
    latestPlanVersion := orNumber (optionalNat (data.get "latest_plan_version"))
      (planVersionValue (data.get "latest_plan"))
    acceptedPlanVersion := orNumber (optionalNat (data.get "accepted_plan_version"))
      (planVersionValue (data.get "accepted_plan"))
    latestPlanningRun := optionalString (data.get "latest_planning_run")
    latestImplementationRun := optionalString (data.get "latest_implementation_run")
    latestValidationRun := optionalString (data.get "latest_validation_run")
    codeChangeLogRefs := stringTuple (data.get "code_change_log_refs")
    notes := stringTuple (data.get "notes")
    parentTaskId := optionalString (data.get "parent_task_id")
    parentRelation := parentRelation
    closedAt := optionalString (data.get "closed_at")
    closedBy := closedBy
    closureNote := optionalString (data.get "closure_note")
    archivedAt := optionalString (data.get "archived_at")
    archivedBy := archivedBy
    archiveReason := optionalString (data.get "archive_reason")
    taskType := taskType
    recordedAt := optionalString (data.get "recorded_at")
    recordedBy := recordedBy }

/-- `PlanRecord.from_dict`: a plan without the ids of the questions it is based on takes all
its questions for them. -/
def PlanRecord.fromDict (now : String) (data : Dict) : Except Raised PlanRecord := do
  requireContract data "plan"
  let planVersion ← match orNumber (optionalNat (data.get "plan_version"))
      (orNumber (optionalNat (data.get "version"))
        (planVersionFromId (optionalString (data.get "plan_id")))) with
    | some version => (.ok version : Except Raised Nat)
    | none => .error (launchError "Missing or invalid 'plan_version' value.")
  let taskId ← stringValue data "task_id"
  let statusText ← stringValue data "status"
  let status ← normalizePlanStatus statusText
  let createdBy ← ActorRef.fromDict (data.get "created_by")
  let criteria ← recordList AcceptanceCriterion.fromDict (data.get "criteria")
  let todos ← recordList (TaskTodo.fromDict now) (data.get "todos")
  let approvedBy ← unlessNone ActorRef.fromDict (data.get "approved_by")
  return {
    taskId := taskId
    planVersion := planVersion
    body := (optionalString (data.get "body")).getD ""
    status := status
    createdAt := stampValue now data "created_at"
    createdBy := createdBy
    supersedes := optionalNat (data.get "supersedes")
    questionRefs := stringTuple (data.get "question_refs")
    criteria := criteria
    todos := todos
    generationReason := optionalString (data.get "generation_reason")
    basedOnQuestionIds := refsUnder data "based_on_question_ids" "question_refs"
    basedOnAnswerHash := optionalString (data.get "based_on_answer_hash")
    approvedAt := optionalString (data.get "approved_at")
    approvedBy := approvedBy
    approvalNote := optionalString (data.get "approval_note")
    approvalSource := optionalString (data.get "approval_source")
    approvedPlanHash := optionalString (data.get "approved_plan_hash")
    goal := optionalString (data.get "goal")
    files := stringTuple (data.get "files")
    testCommands := stringTuple (data.get "test_commands")
    expectedOutputs := stringTuple (data.get "expected_outputs")
    todosWaivedReason := optionalString (data.get "todos_waived_reason") }

/-- `QuestionRecord.from_dict`. -/
def QuestionRecord.fromDict (now : String) (data : Dict) : Except Raised QuestionRecord := do
  requireContract data "question"
  let id ← stringValue data "id"
  let taskId ← stringValue data "task_id"
  let question ← stringValue data "question"
  let statusText ← stringValue data "status"
  let status ← normalizeQuestionStatus statusText
  let answeredByActor ← unlessNone ActorRef.fromDict (data.get "answered_by_actor")
  let askedByActor ← unlessNone ActorRef.fromDict (data.get "asked_by_actor")
  let askedInHarness ← unlessNone (HarnessRef.fromDict now) (data.get "asked_in_harness")
  return {
    id := id
    taskId := taskId
    question := question
    planVersion := optionalNat (data.get "plan_version")
    status := status
    createdAt := stampValue now data "created_at"
    answeredAt := optionalString (data.get "answered_at")
    answeredBy := optionalString (data.get "answered_by")
    answeredByActor := answeredByActor
    askedByActor := askedByActor
    askedInHarness := askedInHarness
    requiredForPlan := (data.get "required_for_plan").truthy
    answerSource := optionalString (data.get "answer_source")
    answer := optionalString (data.get "answer") }

end Tasks

-- ════════════════════════════════════════════════════════════════════════
-- Runs, changes, checks and reviews
-- ════════════════════════════════════════════════════════════════════════

section Work

variable [Runtime]

/-- The result of a run, when it has one. -/
def runResult (v : Value) : Except Raised (Option ValidationResult) :=
  match optionalString v with
  | none => .ok none
  | some text => do
    let result ← normalizeValidationResult text
    return some result

/-- `TaskRunRecord.from_dict`. -/
def TaskRunRecord.fromDict (now : String) (data : Dict) : Except Raised TaskRunRecord := do
  requireContract data "run"
  let runId ← stringValue data "run_id"
  let taskId ← stringValue data "task_id"
  let runTypeText ← stringValue data "run_type"
  let runType ← normalizeRunType runTypeText
  let statusText ← stringValue data "status"
  let status ← normalizeRunStatus statusText
  let actor ← ActorRef.fromDict (data.get "actor")
  let harness ← unlessNone (HarnessRef.fromDict now) (data.get "harness")
  let checks ← recordList (ValidationCheck.fromDict now) (data.get "checks")
  let result ← runResult (data.get "result")
  let actorHistory ← recordList ActorRef.fromDict (data.get "actor_history")
  return {
    runId := runId
    taskId := taskId
    runType := runType
    status := status
    startedAt := stampValue now data "started_at"
    finishedAt := optionalString (data.get "finished_at")
    actor := actor
    harness := harness
    basedOnPlanVersion := orNumber (optionalNat (data.get "based_on_plan_version"))
      (planVersionValue (data.get "based_on_plan"))
    basedOnImplementationRun := optionalString (data.get "based_on_implementation_run")
    resumesRunId := optionalString (data.get "resumes_run_id")
    summary := optionalString (data.get "summary")
    worklog := stringTuple (data.get "worklog")
    deviationsFromPlan := stringTuple (data.get "deviations_from_plan")
    changeRefs := stringTuple (data.get "change_refs")
    checkRefs := stringTuple (data.get "check_refs")
    todoUpdates := stringTuple (data.get "todo_updates")
    artifactRefs := stringTuple (data.get "artifact_refs")
    checks := checks
    evidence := stringTuple (data.get "evidence")
    recommendation := optionalString (data.get "recommendation")
    result := result
    handoffRefs := stringTuple (data.get "handoff_refs")
    actorHistory := actorHistory
    basedOnPlan := optionalString (data.get "based_on_plan")
    workspaceGitCommit := optionalString (data.get "workspace_git_commit")
    workspaceDirty := optionalBool (data.get "workspace_dirty")
    workspaceDiffHash := optionalString (data.get "workspace_diff_hash")
    workspaceStatusHash := optionalString (data.get "workspace_status_hash")
    workspaceSnapshotAt := optionalString (data.get "workspace_snapshot_at") }

/-- `CodeChangeRecord.from_dict`. -/
def CodeChangeRecord.fromDict (now : String) (data : Dict) : Except Raised CodeChangeRecord := do
  requireContract data "change"
  let changeId ← stringValue data "change_id"
  let taskId ← stringValue data "task_id"
  let implementationRun ← stringValue data "implementation_run"
  let kind ← stringValue data "kind"
  let path ← stringValue data "path"
  let summary ← stringValue data "summary"
  return {
    changeId := changeId
    taskId := taskId
    implementationRun := implementationRun
    timestamp := stampValue now data "timestamp"
    kind := kind
    path := path
    summary := summary
    gitCommit := optionalString (data.get "git_commit")
    gitDiffStat := optionalString (data.get "git_diff_stat")
    command := optionalString (data.get "command")
    beforeHash := optionalString (data.get "before_hash")
    afterHash := optionalString (data.get "after_hash")
    exitCode := (data.get "exit_code").asInt? }

/-- `ImplementationCheckRecord.from_dict`. -/
def ImplementationCheckRecord.fromDict (now : String) (data : Dict) :
    Except Raised ImplementationCheckRecord := do
  requireContract data "implementation_check"
  let status ←
    memberOr (fun text => normalizeWith CheckStatus "Unsupported check status: " text text)
      "unknown" (data.get "status")
  let category ←
    memberOr (fun text => normalizeWith CheckCategory "Unsupported check category: " text text)
      "other" (data.get "category")
  let checkId ← stringValue data "check_id"
  let taskId ← stringValue data "task_id"
  let implementationRun ← stringValue data "implementation_run"
  let command ← stringValue data "command"
  return {
    checkId := checkId
    taskId := taskId
    implementationRun := implementationRun
    timestamp := stampValue now data "timestamp"
    command := command
    argv := stringTuple (data.get "argv")
    exitCode := (data.get "exit_code").asInt?
    status := status
    category := category
    summary := optionalString (data.get "summary")
    stdoutRef := optionalString (data.get "stdout_ref")
    stderrRef := optionalString (data.get "stderr_ref")
    combinedRef := optionalString (data.get "combined_ref") }

/-- `CodeReviewRecord.from_dict`. -/
def CodeReviewRecord.fromDict (now : String) (data : Dict) : Except Raised CodeReviewRecord := do
  requireContract data "code_review"
  let result ←
    memberOr (fun text => normalizeWith ReviewResult "Unsupported code review result: " text text)
      "blocked" (data.get "result")
  let source ←
    memberOr (fun text => normalizeWith ReviewSource "Unsupported code review source: " text text)
      "manual" (data.get "source")
  let reviewId ← stringValue data "review_id"
  let taskId ← stringValue data "task_id"
  let reviewer ← ActorRef.fromDict (data.get "reviewer")
  let harness ← unlessNone (HarnessRef.fromDict now) (data.get "harness")
  return {
    reviewId := reviewId
    taskId := taskId
    implementationRun := optionalString (data.get "implementation_run")
    reviewedAt := stampValue now data "reviewed_at"
    result := result
    source := source
    summary := optionalString (data.get "summary")
    body := (optionalString (data.get "body")).getD ""
    reviewer := reviewer
    harness := harness
    workerStepId := optionalString (data.get "worker_step_id")
    handoffId := optionalString (data.get "handoff_id")
    gitBranch := optionalString (data.get "git_branch")
    gitCommit := optionalString (data.get "git_commit")
    gitStatusShort := optionalString (data.get "git_status_short")
    gitDiffStat := optionalString (data.get "git_diff_stat")
    gitStagedDiffStat := optionalString (data.get "git_staged_diff_stat")
    gitChangedPaths := stringTuple (data.get "git_changed_paths")
    gitDiffHash := optionalString (data.get "git_diff_hash")
    artifactRefs := stringTuple (data.get "artifact_refs") }

/-- `TaskHandoffRecord.from_dict`. -/
def TaskHandoffRecord.fromDict (now : String) (data : Dict) : Except Raised TaskHandoffRecord := do
  requireContract data "handoff"
  let handoffId ← stringValue data "handoff_id"
  let taskId ← stringValue data "task_id"
  let modeText ← stringValue data "mode"
  let mode ← normalizeHandoffMode modeText
  let contextFor ← memberUnlessEmpty normalizeContextFor (data.get "context_for")
  let scope ← memberOr normalizeContextScope "task" (data.get "scope")
  let contextFormat ← memberOr normalizeContextFormat "markdown" (data.get "context_format")
  let status ← memberOr normalizeHandoffStatus "open" (data.get "status")
  let createdBy ← ActorRef.fromDict (data.get "created_by")
  let createdFromHarness ←
    unlessEmpty (HarnessRef.fromDict now) (data.get "created_from_harness")
  let intendedActorType ← memberUnlessEmpty normalizeActorType (data.get "intended_actor_type")
  let lockPolicy ← memberOr normalizeLockPolicy "none" (data.get "lock_policy")
  let claimedBy ← unlessEmpty ActorRef.fromDict (data.get "claimed_by")
  let claimedInHarness ← unlessEmpty (HarnessRef.fromDict now) (data.get "claimed_in_harness")
  return {
    handoffId := handoffId
    taskId := taskId
    mode := mode
    contextFor := contextFor
    workerStepId := optionalString (data.get "worker_step_id")
    scope := scope
    todoId := optionalString (data.get "todo_id")
    focusRunId := optionalString (data.get "focus_run_id")
    contextFormat := contextFormat
    contextHash := optionalString (data.get "context_hash")
    generatedAt := optionalString (data.get "generated_at")
    status := status
    createdAt := stampValue now data "created_at"
    createdBy := createdBy
    createdFromHarness := createdFromHarness
    intendedActorType := intendedActorType
    intendedActorName := optionalString (data.get "intended_actor_name")
    intendedHarness := optionalString (data.get "intended_harness")
    sourceRunId := optionalString (data.get "source_run_id")
    resumesRunId := optionalString (data.get "resumes_run_id")
    claimRunId := optionalString (data.get "claim_run_id")
    lockPolicy := lockPolicy
    releasedLockId := optionalString (data.get "released_lock_id")
    claimedAt := optionalString (data.get "claimed_at")
    claimedBy := claimedBy
    claimedInHarness := claimedInHarness
    summary := optionalString (data.get "summary")
    nextAction := optionalString (data.get "next_action")
    contextBody := (optionalString (data.get "context_body")).getD "" }

/-- `ReleaseRecord.from_dict`. -/
def ReleaseRecord.fromDict (now : String) (data : Dict) : Except Raised ReleaseRecord := do
  requireContract data "release"
  let version ← stringValue data "version"
  let boundaryTaskId ← stringValue data "boundary_task_id"
  let createdBy ← ActorRef.fromDict (data.get "created_by")
  return {
    version := version
    boundaryTaskId := boundaryTaskId
    createdAt := stampValue now data "created_at"
    createdBy := createdBy
    note := optionalString (data.get "note")
    taskCount := optionalNat (data.get "task_count")
    previousVersion := optionalString (data.get "previous_version") }

/-- `TaskEvent.from_dict`. -/
def TaskEvent.fromDict (now : String) (data : Dict) : Except Raised TaskEvent := do
  requireContract data "event"
  let eventId ← stringValue data "event_id"
  let ts ← stringValue data "ts"
  let event ← stringValue data "event"
  let taskId ← stringValue data "task_id"
  let actor ← ActorRef.fromDict (data.get "actor")
  let harness ← unlessNone (HarnessRef.fromDict now) (data.get "harness")
  return {
    ts := ts
    event := event
    taskId := taskId
    actor := actor
    harness := harness
    eventId := eventId
    data := match data.get "data" with
      | .dict payload => payload
      | _ => [] }

end Work

end Taskledger
