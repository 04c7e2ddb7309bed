import Taskledger.Services.PlanMaterialization
import Taskledger.Services.ImplementationFlow

/-!
# The task lifecycle

Tasks are created, recorded, activated, edited, cancelled, uncancelled and
closed.
-/

namespace Taskledger

open Library

variable [Runtime] (env : Env)

-- ════════════════════════════════════════════════════════════════════════
-- Ids and slugs
-- ════════════════════════════════════════════════════════════════════════

/-- The largest number of the task ids that parse. -/
def maxTaskNumber (existingIds : List String) : Nat :=
  (existingIds.filterMap (Runtime.parseNumber "task")).foldl max 0

/-- `allocate_ledger_task_id`. -/
def allocateLedgerTaskId (existingIds : List String) (configNextNumber : Nat) : String × Nat :=
  let nextNumber := max configNextNumber (maxTaskNumber existingIds + 1)
  (Runtime.formatId "task" nextNumber, nextNumber + 1)

/-- `_allocate_task_id_and_advance`. -/
def allocateTaskIdAndAdvance (existingIds : List String) : LedgerAction String := fun s =>
  let (taskId, newNext) := allocateLedgerTaskId existingIds s.nextTaskNumber
  (.ok taskId, if newNext ≠ s.nextTaskNumber then s.putCounter newNext else s)

/-- The first of `base-2`, `base-3`, … that is not taken. -/
def freeSlug (taken : List String) (base : String) : String :=
  let candidates := (List.range (taken.length + 1)).map fun i => base ++ "-" ++ Nat.repr (i + 2)
  (candidates.find? fun slug => slug ∉ taken).getD base

/-- `_unique_slug`. -/
def uniqueSlug (taken : List String) (text : String) : String :=
  let base := Runtime.slugifyRef text "task"
  if base ∉ taken then base else freeSlug taken base

-- ════════════════════════════════════════════════════════════════════════
-- Creation
-- ════════════════════════════════════════════════════════════════════════

/-- The arguments of `create_task`. -/
structure TaskRequest where
  title : String
  description : String
  slug : Option String := none
  priority : Option String := none
  labels : List String := []
  owner : Option String := none

/-- The id and the slug of a task to be created: the counter is advanced. -/
def newTaskIdentity (slug : Option String) (title : String) :
    LedgerAction (String × String) := do
  let all ← listTasks
  let visible ← listVisibleTasks
  let taskSlug := uniqueSlug (visible.map TaskRecord.slug)
    ((orOption slug (some title)).getD title)
  let taskId ← allocateTaskIdAndAdvance (all.map TaskRecord.id)
  return (taskId, taskSlug)

/-- The task `create_task` writes. -/
def newTask (taskId taskSlug : String) (request : TaskRequest) : TaskRecord where
  id := taskId
  slug := taskSlug
  title := request.title
  body := Text.strip request.description
  createdAt := utcNow env
  updatedAt := utcNow env
  descriptionSummary := summaryLine (some request.description)
  priority := request.priority
  labels := request.labels.eraseDups
  owner := request.owner

/-- `create_task`. -/
def createTask (request : TaskRequest) : LedgerAction TaskRecord := do
  let (taskId, taskSlug) ← newTaskIdentity request.slug request.title
  let task := newTask env taskId taskSlug request
  saveTask task
  appendEvent env task.id "task.created" [("slug", .str task.slug), ("title", .str task.title)]
  rebuildV2Indexes
  return task

-- ════════════════════════════════════════════════════════════════════════
-- The active task
-- ════════════════════════════════════════════════════════════════════════

/-- `_ensure_active_switch_allowed`. -/
def ensureActiveSwitchAllowed (taskId : String) (force : Bool) (reason : Option String) :
    LedgerQuery Unit := do
  let lock ← readLock taskId
  match lock with
  | none => return ()
  | some l =>
    let expired ← (lockIsExpired env l : Except Raised Bool)
    raiseIf (expired = false ∧ ¬ (force = true ∧ ¬ Text.isBlank (reason.getD ""))) <|
      Raised.launch
        { message := "Active task " ++ taskId ++ " has a live " ++ value l.stage
            ++ " lock from " ++ l.runId
            ++ ". Pass --force with --reason to switch or clear the active task."
          exitCode := exitCodeLockConflict
          errorCode := "LOCK_CONFLICT"
          errorType := "LockConflict"
          remediation := ["taskledger lock show --task " ++ taskId,
            "Pass --force --reason \"...\" only if you intend to leave the lock in place."]
          data := [("task_id", .str taskId), ("lock", .dict l.toDict)] }

/-- `_actor_for_active_task`. -/
def actorForActiveTask (actorType : String) : Except Raised ActorRef :=
  match Enumeration.ofValue? actorType with
  | some type => .ok { defaultActor env with actorType := type }
  | none => .error (cliError ("Unsupported actor type: " ++ actorType) exitCodeBadInput)

/-- `_task_active_stage`. -/
def taskActiveStage (task : TaskRecord) : LedgerQuery (Option RunType) := do
  let lock ← readLock task.id
  match lock with
  | none => return none
  | some l =>
    let expired ← (lockIsExpired env l : Except Raised Bool)
    if expired then return none
    else do
      let runs ← listRuns task.id
      return deriveActiveStage (some l) runs

/-- `_active_task_payload`; the active stage is looked up while the task is active. -/
def activeTaskPayload (task : TaskRecord) (state : ActiveTaskState) (changed : Bool)
    (previousTaskId : Option String) (active : Bool := true) : LedgerQuery Dict := do
  let stage ← if active then taskActiveStage env task else pure none
  return [("kind", .str "active_task"),
    ("task_id", .str task.id),
    ("task_ref", .str (Runtime.globalRef task.id)),
    ("slug", .str task.slug),
    ("title", .str task.title),
    ("status_stage", .str (value task.statusStage)),
    ("active_stage", .ofOption (stage.map value)),
    ("active", .bool active),
    ("changed", .bool changed),
    ("previous_task_id", .ofOption previousTaskId),
    ("state", .dict state.toDict)]

/-- The switch away from the previous active task. -/
def checkPrevious (previous : Option ActiveTaskState) (force : Bool) (reason : Option String) :
    LedgerQuery Unit :=
  match previous with
  | none => pure ()
  | some state => ensureActiveSwitchAllowed env state.taskId force reason

/-- The event on the task that is no longer active. -/
def notePrevious (previous : Option ActiveTaskState) (task : TaskRecord) (force : Bool)
    (reason : Option String) : LedgerAction Unit :=
  match previous with
  | none => pure ()
  | some state =>
    appendEvent env state.taskId "task.deactivated"
      [("reason", .ofOption reason), ("next_task_id", .str task.id), ("forced", .bool force)]

/-- `activate_task` when another task, or none, is active. -/
def switchActiveTask (task : TaskRecord) (previous : Option ActiveTaskState)
    (reason : Option String) (actorType : String) (force : Bool) : LedgerAction Dict := do
  checkPrevious env previous force reason
  let actor ← (actorForActiveTask env actorType : Except Raised ActorRef)
  let previousTaskId := previous.map ActiveTaskState.taskId
  let state : ActiveTaskState :=
    { taskId := task.id
      activatedAt := utcNow env
      activatedBy := actor
      reason := reason
      previousTaskId := previousTaskId }
  saveActiveTaskState state
  notePrevious env previous task force reason
  appendEvent env task.id "task.activated"
    [("reason", .ofOption reason), ("previous_task_id", .ofOption previousTaskId),
      ("forced", .bool force)]
  activeTaskPayload env task state true previousTaskId

/-- `activate_task`. -/
def activateTask (ref : String) (reason : Option String := none) (actorType : String := "user")
    (force : Bool := false) : LedgerAction Dict := do
  let task ← resolveTask ref
  ensureNotArchived task "activate"
  let previous ← loadActiveTaskState
  match previous.filter fun state => state.taskId = task.id with
  | some state => activeTaskPayload env task state false state.previousTaskId
  | none => switchActiveTask env task previous reason actorType force

/-- `NoActiveTask()`. -/
def noActiveTask : Raised :=
  .launch
    { message := ("No active task is set. Run `taskledger task activate <task-ref>` "
              ++ "or pass `--task <task-ref>`.")
      exitCode := exitCodeMissing
      errorCode := "NO_ACTIVE_TASK"
      errorType := "NoActiveTask"
      remediation := ["Run `taskledger task list` to find a task.",
        "Run `taskledger task activate <task-ref>` to set the active task.",
        "Or pass `--task <task-ref>` to this command."] }

/-- `resolve_active_task` from the pointer. -/
def activeTaskOf (state : ActiveTaskState) : LedgerQuery TaskRecord := do
  let task ← orNone (resolveTask state.taskId)
  match task with
  | some task => return task
  | none =>
    throw <| Raised.launch
      { message := "Active task points to missing task: " ++ state.taskId
        exitCode := exitCodeStorageError
        errorCode := "ACTIVE_TASK_NOT_FOUND"
        errorType := "StorageCorruption"
        data := [("task_id", .str state.taskId)] }

/-- `clear_active_task`; `deactivate_task` is the same operation. -/
def clearActiveTask (reason : String) (actorType : String := "user") (force : Bool := false) :
    LedgerAction Dict := do
  let loaded ← loadActiveTaskState
  match loaded with
  | none => throw noActiveTask
  | some state => do
    ensureActiveSwitchAllowed env state.taskId force (some reason)
    let task ← activeTaskOf state
    clearActiveTaskState
    appendEvent env task.id "task.deactivated"
      [("reason", .str reason), ("forced", .bool force), ("actor_type", .str actorType)]
    activeTaskPayload env task state true state.previousTaskId false

-- ════════════════════════════════════════════════════════════════════════
-- Follow-up tasks
-- ════════════════════════════════════════════════════════════════════════

/-- `_follow_up_description`. -/
def followUpDescription (parent : TaskRecord) (description reason : Option String) : String :=
  let given (text : Option String) : List String :=
    (text.filter fun t => !Text.isBlank t).toList.map Text.strip
  Text.join "\n\n" <|
    given description
    ++ ["Follow-up of " ++ parent.id ++ " (" ++ parent.slug ++ "): " ++ parent.title ++ "."]
    ++ (given reason).map fun text => "Reason: " ++ text

/-- `_is_external_task_link`. -/
def isExternalTaskLink (link : FileLink) : Bool :=
  link.kind = .other || Text.contains "://" link.path || Text.startsWith link.path "mailto:"

/-- `_copy_follow_up_links`. -/
def copyFollowUpLinks (links : List FileLink) (copyFiles copyLinks : Bool) : List FileLink :=
  (links.filter fun l => if isExternalTaskLink l then copyLinks else copyFiles).map fun l =>
    { path := l.path
      kind := l.kind
      label := l.label
      requiredForValidation := l.requiredForValidation
      targetType := l.targetType
      createdAt := utcNow env
      updatedAt := utcNow env }

/-- The arguments of `create_follow_up_task` besides the parent. -/
structure FollowUpRequest where
  title : String
  description : Option String := none
  slug : Option String := none
  labels : List String := []
  activate : Bool := false
  copyFiles : Bool := false
  copyLinks : Bool := false
  reason : Option String := none

/-- The task `create_follow_up_task` writes. -/
def followUpTask (parent : TaskRecord) (taskId taskSlug : String) (request : FollowUpRequest) :
    TaskRecord where
  id := taskId
  slug := taskSlug
  title := request.title
  body := followUpDescription parent request.description request.reason
  createdAt := utcNow env
  updatedAt := utcNow env
  descriptionSummary :=
    summaryLine (some (followUpDescription parent request.description request.reason))
  labels := (request.labels ++ ["follow-up"]).eraseDups
  fileLinks := copyFollowUpLinks env parent.fileLinks request.copyFiles request.copyLinks
  parentTaskId := some parent.id
  parentRelation := some "follow_up"

/-- The activation at the end of `create_follow_up_task`. -/
def activateFollowUp (child : TaskRecord) (request : FollowUpRequest) : LedgerAction Unit :=
  if request.activate then do
    let _ ← activateTask env child.id request.reason "agent"
    return ()
  else pure ()

/-- `create_follow_up_task`. -/
def createFollowUpTask (parentRef : String) (request : FollowUpRequest) : LedgerAction Dict := do
  let found ← resolveTask parentRef
  let parent ← taskWithSidecars found
  ensureNotArchived parent "create follow-up for"
  raiseIf (parent.statusStage ≠ .done) <|
    cliError "Follow-up tasks require a done parent task." exitCodeInvalidTransition
  let (taskId, taskSlug) ← newTaskIdentity request.slug request.title
  let child := followUpTask env parent taskId taskSlug request
  saveTask child
  Action.onlyIf (child.fileLinks ≠ []) (saveLinks child.id child.fileLinks)
  appendEvent env parent.id "task.follow_up.created"
    [("child_task_id", .str child.id), ("child_slug", .str child.slug),
      ("reason", .ofOption request.reason)]
  appendEvent env child.id "task.created"
    [("slug", .str child.slug), ("title", .str child.title),
      ("parent_task_id", .str parent.id), ("parent_relation", .str "follow_up")]
  rebuildV2Indexes
  activateFollowUp env child request
  return [("kind", .str "task_follow_up_created"),
    ("task_id", .str child.id),
    ("slug", .str child.slug),
    ("parent_task_id", .str parent.id),
    ("parent_relation", .str "follow_up"),
    ("activated", .bool request.activate),
    ("next_command", .str (if request.activate then "taskledger plan start"
      else "taskledger task activate " ++ child.id ++ " --reason \"Start follow-up delta\""))]

-- ════════════════════════════════════════════════════════════════════════
-- Recorded tasks
-- ════════════════════════════════════════════════════════════════════════

/-- A change given to `record_completed_task`. -/
structure RecordedChange where
  path : String
  kind : String
  summary : String

/-- The arguments of `record_completed_task`. -/
structure RecordRequest where
  title : String
  description : Option String := none
  summary : String
  slug : Option String := none
  labels : List String := []
  owner : Option String := none
  changes : List RecordedChange := []
  evidence : List String := []
  completedBy : Option ActorRef := none
  recordedBy : Option ActorRef := none
  harness : Option NamedHarness := none
  allowEmptyRecord : Bool := false
  reason : Option String := none

/-- A blank field of a recorded change. -/
def refuseBlankChange (change : RecordedChange) : Except Raised Unit := do
  raiseIf (Text.isBlank change.path) (cliError "Change path must not be empty." exitCodeBadInput)
  raiseIf (Text.isBlank change.kind) (cliError "Change kind must not be empty." exitCodeBadInput)
  raiseIf (Text.isBlank change.summary) <|
    cliError "Change summary must not be empty." exitCodeBadInput

/-- The first refusal of a list of recorded changes. -/
def refuseBlankChanges : List RecordedChange → Except Raised Unit
  | [] => .ok ()
  | change :: rest => do
    refuseBlankChange change
    refuseBlankChanges rest

/-- The checks of `record_completed_task` on its arguments. -/
def checkRecordRequest (request : RecordRequest) : Except Raised Unit := do
  raiseIf (Text.isBlank request.title) (cliError "Title must not be empty." exitCodeBadInput)
  raiseIf (Text.isBlank request.summary) (cliError "Summary must not be empty." exitCodeBadInput)
  raiseIf (request.changes.isEmpty ∧ request.evidence.isEmpty ∧ request.allowEmptyRecord = false)
    (cliError ("At least one --change or --evidence is required. "
              ++ "Use --allow-empty-record --reason \"...\" to record changes or evidence.") exitCodeBadInput)
  raiseIf (request.allowEmptyRecord = true ∧ Text.isBlank (request.reason.getD "")) <|
    cliError "--allow-empty-record requires --reason." exitCodeBadInput
  refuseBlankChanges request.changes

/-- The done task `record_completed_task` writes first. -/
def recordedTask (taskId taskSlug : String) (request : RecordRequest) : TaskRecord where
  id := taskId
  slug := taskSlug
  title := Text.strip request.title
  body := Text.strip (request.description.getD "")
  createdAt := utcNow env
  updatedAt := utcNow env
  descriptionSummary :=
    summaryLine (orOption request.description (some request.title))
  labels := request.labels.eraseDups
  owner := request.owner
  statusStage := .done
  taskType := .recorded
  recordedAt := some (utcNow env)
  recordedBy := some (request.recordedBy.getD (defaultActor env))

/-- The synthetic implementation run. -/
def recordedImplementation (runId : String) (task : TaskRecord) (request : RecordRequest) :
    TaskRunRecord where
  runId := runId
  taskId := task.id
  runType := .implementation
  status := .finished
  startedAt := utcNow env
  finishedAt := some (utcNow env)
  actor := request.completedBy.getD (defaultActor env)
  harness := request.harness.map NamedHarness.toHarnessRef
  summary := some (Text.strip request.summary)
  worklog := ["Recorded completed work after it was performed outside taskledger."]

/-- The synthetic validation run. -/
def recordedValidation (runId : String) (task : TaskRecord) (implementation : TaskRunRecord)
    (request : RecordRequest) : TaskRunRecord where
  runId := runId
  taskId := task.id
  runType := .validation
  status := .finished
  startedAt := utcNow env
  finishedAt := some (utcNow env)
  actor := request.completedBy.getD (defaultActor env)
  harness := request.harness.map NamedHarness.toHarnessRef
  basedOnImplementationRun := some implementation.runId
  summary := some "Recorded validation evidence for manually completed work."
  evidence := request.evidence
  result := some .passed

/-- The code changes of a recorded task, each with the next id after those in
`ids`. -/
def recordedChanges (task : TaskRecord) (runId : String) (ids : List String) :
    List RecordedChange → List CodeChangeRecord
  | [] => []
  | change :: rest =>
    { changeId := Runtime.nextId "change" ids
      taskId := task.id
      implementationRun := runId
      timestamp := utcNow env
      kind := Text.strip change.kind
      path := Text.strip change.path
      summary := Text.strip change.summary }
    :: recordedChanges task runId (ids ++ [Runtime.nextId "change" ids]) rest

/-- The synthetic validation run, when there is evidence. -/
def recordedValidation? (task : TaskRecord) (implementation : TaskRunRecord)
    (runIds : List String) (request : RecordRequest) : Option TaskRunRecord :=
  if request.evidence.isEmpty then none
  else some (recordedValidation env (Runtime.nextId "run" runIds) task implementation request)

/-- Write a run when there is one. -/
def saveRun? : Option TaskRunRecord → LedgerAction Unit
  | none => pure ()
  | some run => saveRun run

/-- The runs and changes of a recorded task. -/
structure RecordedWork where
  implementation : TaskRunRecord
  changes : List CodeChangeRecord
  validation : Option TaskRunRecord

def RecordedWork.changeIds (w : RecordedWork) : List String :=
  w.changes.map CodeChangeRecord.changeId

/-- The runs and changes of a recorded task, written one after the other. -/
def recordWork (task : TaskRecord) (request : RecordRequest) : LedgerAction RecordedWork := do
  let runs ← listRuns task.id
  let runIds := runs.map TaskRunRecord.runId
  let implementation := recordedImplementation env (Runtime.nextId "run" runIds) task request
  saveRun implementation
  let known ← listChanges task.id
  let changes := recordedChanges env task implementation.runId
    (known.map CodeChangeRecord.changeId) request.changes
  Action.each changes fun change => saveChange change
  let linked := { implementation with changeRefs := changes.map CodeChangeRecord.changeId }
  Action.onlyIf (changes ≠ []) (saveRun linked)
  let validation := recordedValidation? env task implementation
    (runIds ++ [implementation.runId]) request
  saveRun? validation
  return { implementation := linked, changes := changes, validation := validation }

/-- The task once its runs and changes are written. -/
def linkedRecordedTask (task : TaskRecord) (w : RecordedWork) : TaskRecord :=
  { task with
    latestImplementationRun := some w.implementation.runId
    latestValidationRun := w.validation.map TaskRunRecord.runId
    codeChangeLogRefs := w.changeIds }

/-- The events of a recorded task. -/
def noteRecordedTask (task : TaskRecord) (w : RecordedWork) (recordedBy : ActorRef) :
    LedgerAction Unit := do
  appendEvent env task.id "task.created"
    [("slug", .str task.slug), ("title", .str task.title), ("task_type", .str "recorded")]
  appendEvent env task.id "task.recorded"
    [("task_type", .str "recorded"), ("recorded_at", .str (utcNow env)),
      ("recorded_by", .dict recordedBy.toDict)]
  Action.each w.changeIds fun id => appendEvent env task.id "change.logged" [("change_id", .str id)]
  appendEvent env task.id "implementation.finished"
    [("run_id", .str w.implementation.runId), ("recorded", .bool true)]
  Action.each w.validation.toList fun run =>
    appendEvent env task.id "validation.finished"
      [("run_id", .str run.runId), ("result", .str "passed"), ("recorded", .bool true)]

/-- `record_completed_task`. -/
def recordCompletedTask (request : RecordRequest) : LedgerAction Dict := do
  checkRecordRequest request
  let (taskId, taskSlug) ← newTaskIdentity request.slug request.title
  let task := recordedTask env taskId taskSlug request
  saveTask task
  let work ← recordWork env task request
  saveTask (linkedRecordedTask task work)
  noteRecordedTask env task work (request.recordedBy.getD (defaultActor env))
  rebuildV2Indexes
  return [("kind", .str "recorded_task"),
    ("task_id", .str task.id),
    ("slug", .str task.slug),
    ("status_stage", .str "done"),
    ("task_type", .str "recorded"),
    ("implementation_run_id", .str work.implementation.runId),
    ("validation_run_id", .ofOption (work.validation.map TaskRunRecord.runId)),
    ("change_ids", .ofStrings work.changeIds),
    ("evidence", .ofStrings request.evidence),
    ("next_command", .str ("taskledger task show " ++ task.id))]

-- ════════════════════════════════════════════════════════════════════════
-- Editing
-- ════════════════════════════════════════════════════════════════════════

/-- The arguments of `edit_task` besides the task. -/
structure EditRequest where
  title : Option String := none
  description : Option String := none
  priority : Option String := none
  owner : Option String := none
  addLabels : List String := []
  removeLabels : List String := []
  addNotes : List String := []

/-- The labels of an edited task: new ones are appended once. -/
def editedLabels (labels addLabels removeLabels : List String) : List String :=
  addLabels.foldl (fun acc label => if label ∈ acc then acc else acc ++ [label])
    (labels.filter fun l => l ∉ removeLabels)

/-- The task `edit_task` writes. -/
def editedTask (task : TaskRecord) (request : EditRequest) : TaskRecord :=
  { task with
    title := (orOption request.title (some task.title)).getD task.title
    body := (request.description.map Text.strip).getD task.body
    descriptionSummary := match request.description with
      | some description => summaryLine (some description)
      | none => task.descriptionSummary
    priority := orOption request.priority task.priority
    owner := orOption request.owner task.owner
    labels := editedLabels task.labels request.addLabels request.removeLabels
    notes := task.notes ++ request.addNotes.filter (· ≠ "")
    updatedAt := utcNow env }

/-- `edit_task`. -/
def editTask (ref : String) (request : EditRequest) : LedgerAction TaskRecord := do
  let task ← resolveTask ref
  ensureNotArchived task "edit"
  let lock ← readLock task.id
  enforceDecision (metadataEditDecision task lock)
  let updated := editedTask env task request
  saveTask updated
  appendEvent env updated.id "task.updated" [("title", .str updated.title)]
  rebuildV2Indexes
  return updated

-- ════════════════════════════════════════════════════════════════════════
-- Cancelling
-- ════════════════════════════════════════════════════════════════════════

/-- The lock of a cancelled task is released; the task is then read again. -/
def releaseForCancel (task : TaskRecord) (ref : String) (reason : Option String) :
    Option TaskLock → LedgerAction TaskRecord
  | none => pure task
  | some lock => do
    releaseLock env task lock.runType lock.runId .cancelled "stage.failed"
      [("reason", .str ((orOption reason (some "cancelled")).getD "cancelled"))]
    resolveTask ref

/-- `cancel_task`. -/
def cancelTask (ref : String) (reason : Option String := none) : LedgerAction Dict := do
  let task ← resolveTask ref
  ensureNotArchived task "cancel"
  requireTransition task.statusStage .cancelled
  let lock ← readLock task.id
  let current ← releaseForCancel env task ref reason lock
  let updated := { current with statusStage := .cancelled, updatedAt := utcNow env }
  saveTask updated
  appendEvent env updated.id "task.cancelled" [("reason", .ofOption reason)]
  rebuildV2Indexes
  return lifecyclePayload "task cancel" updated [] true

/-- A finished implementation run. -/
def finishedImplementationRun (run : TaskRunRecord) : Bool :=
  run.runType = .implementation ∧ run.status = .finished

/-- Whether a task failed its validation; the plan is looked up for a failed one alone. -/
def validationFailed (task : TaskRecord) : LedgerQuery Bool := do
  let run ← optionalRun task task.latestValidationRun
  if run.any failedOrBlocked then do
    let accepted ← acceptedPlanRecordOrNone task
    return accepted.isSome
  else return false

/-- `_infer_uncancel_target`. -/
def inferUncancelTarget (task : TaskRecord) : LedgerQuery TaskStatusStage := do
  let failed ← validationFailed task
  if failed then return .failedValidation
  else do
    let implementationRun ← optionalRun task task.latestImplementationRun
    if implementationRun.any finishedImplementationRun then return .implemented
    else do
      let accepted ← acceptedPlanRecordOrNone task
      if accepted.isSome then return .approved
      else do
        let latestPlan ← latestPlanOrNone task.id
        return if latestPlan.any (fun p => p.status = .proposed) then .planReview else .draft

/-- `_validate_uncancel_target`. -/
def validateUncancelTarget (task : TaskRecord) : TaskStatusStage → LedgerQuery Unit
  | .draft => pure ()
  | .planReview => do
    let latestPlan ← latestPlanOrNone task.id
    raiseIf (latestPlan.any (fun p => p.status = .proposed) = false) <|
      cliError "Uncancel to plan_review requires a proposed plan." exitCodeInvalidTransition
  | .approved => do
    let accepted ← acceptedPlanRecordOrNone task
    raiseIf (accepted = none) <|
      cliError "Uncancel to approved requires an accepted plan record."
        exitCodeInvalidTransition
  | .implemented => do
    let run ← optionalRun task task.latestImplementationRun
    raiseIf (run.any finishedImplementationRun = false) <|
      cliError "Uncancel to implemented requires a finished implementation run."
        exitCodeInvalidTransition
  | .failedValidation => do
    let run ← optionalRun task task.latestValidationRun
    let accepted ← acceptedPlanRecordOrNone task
    raiseIf (accepted = none) <|
      cliError "Uncancel to failed_validation requires an accepted plan record."
        exitCodeInvalidTransition
    raiseIf (run.any failedOrBlocked = false) <|
      cliError "Uncancel to failed_validation requires a failed or blocked validation run."
        exitCodeInvalidTransition
  | target =>
    throw (cliError ("Invalid uncancel target: " ++ value target) exitCodeBadInput)

/-- `_resumable_implementation_run`. -/
def resumableImplementationRun (task : TaskRecord) (lock : Option TaskLock) :
    LedgerQuery (Option TaskRunRecord) :=
  match lock with
  | some _ => pure none
  | none => do
    let run ← optionalRun task task.latestImplementationRun
    let accepted ← acceptedPlanRecordOrNone task
    return run.filter fun r =>
      r.runType = .implementation ∧ r.status = .running ∧ accepted.isSome

/-- `_uncancel_resumable_implementation_error`. -/
def uncancelResumableError (task : TaskRecord) (run : TaskRunRecord) : Raised :=
  .launch
    { message := "Task " ++ task.id
        ++ " is not cancelled; it has a running implementation run with no active lock."
      exitCode := exitCodeInvalidTransition
      errorCode := "INVALID_TRANSITION"
      remediation := ["taskledger implement resume --task " ++ task.id
        ++ " --reason \"Reacquire implementation lock for existing running run.\""]
      data := [("code", .str "LAUNCH_ERROR"),
        ("details", .dict [("run_id", .str run.runId),
          ("status_stage", .str (value task.statusStage))]),
        ("task_id", .str task.id)] }

/-- The refusal of `uncancel_task` for a task that is not cancelled. -/
def refuseUncancelled (task : TaskRecord) : LedgerQuery Unit := do
  let lock ← readLock task.id
  let resumable ← resumableImplementationRun task lock
  match resumable.filter fun _ => task.statusStage = .implementing with
  | some run => throw (uncancelResumableError task run)
  | none =>
    throw (cliError "Only cancelled tasks can be uncancelled." exitCodeInvalidTransition)

/-- `uncancel_task` refuses while a lock file exists. -/
def refuseCancelledLock (task : TaskRecord) : Option TaskLock → Except Raised Unit
  | none => .ok ()
  | some lock => do
    let expired ← lockIsExpired env lock
    raiseIf (expired = true) (staleLockError task.id lock)
    throw (cliError "Cancelled task has an active lock; repair the lock first."
      exitCodeLockConflict)

/-- The stage an uncancelled task goes to. -/
def uncancelTarget (task : TaskRecord) : Option String → LedgerQuery TaskStatusStage
  | none => inferUncancelTarget task
  | some text => liftM (normalizeTaskStatusStage text)

/-- The checks of `uncancel_task` on the actor. -/
def checkUncancelActor (actor : ActorRef) (allowAgentUncancel : Bool) : Except Raised Unit := do
  raiseIf (actor.actorType = .system) <|
    cliError "System actors cannot uncancel tasks." exitCodeBadInput
  raiseIf (actor.actorType ≠ .user ∧ allowAgentUncancel = false) <|
    cliError "Agent uncancel requires --allow-agent-uncancel and --reason."
      exitCodeApprovalRequired

/-- What `uncancel_task` has read and checked: the task and its target stage. -/
def uncancellationOf (ref : String) (targetStage : Option String) (reason : String)
    (actor : ActorRef) (allowAgentUncancel : Bool) :
    LedgerQuery (TaskRecord × TaskStatusStage) := do
  let task ← resolveTask ref
  ensureNotArchived task "uncancel"
  if task.statusStage ≠ .cancelled then refuseUncancelled task
  let lock ← readLock task.id
  refuseCancelledLock env task lock
  raiseIf (Text.isBlank reason) (cliError "Uncancel requires --reason." exitCodeBadInput)
  checkUncancelActor actor allowAgentUncancel
  let target ← uncancelTarget task targetStage
  raiseIf (target ∈ activeTaskStages ∨ target ∈ [.done, .cancelled]) <|
    cliError ("Invalid uncancel target: " ++ value target) exitCodeBadInput
  validateUncancelTarget task target
  return (task, target)

/-- `uncancel_task`. -/
def uncancelTask (ref : String) (targetStage : Option String) (reason : String)
    (actor : Option ActorRef := none) (allowAgentUncancel : Bool := false) :
    LedgerAction Dict := do
  let resolvedActor := actor.getD (defaultActor env)
  let (task, target) ← uncancellationOf env ref targetStage reason resolvedActor
    allowAgentUncancel
  let updated := { task with statusStage := target, updatedAt := utcNow env }
  saveTask updated
  appendEvent env updated.id "task.uncancelled"
    [("from", .str "cancelled"),
      ("to", .str (value target)),
      ("reason", .str (Text.strip reason)),
      ("actor", .dict resolvedActor.toDict)]
  rebuildV2Indexes
  return lifecyclePayload "task uncancel" updated [] true

-- ════════════════════════════════════════════════════════════════════════
-- Closing
-- ════════════════════════════════════════════════════════════════════════

/-- `close_task` on a done task that is not closed. -/
def writeClosure (task : TaskRecord) (note : Option String) : LedgerAction Dict := do
  let updated := { task with
    closedAt := some (utcNow env)
    closedBy := some (defaultActor env)
    closureNote := note
    updatedAt := utcNow env }
  saveTask updated
  appendEvent env updated.id "task.closed"
    [("closed_at", .str (utcNow env)), ("note", .ofOption note)]
  rebuildV2Indexes
  return lifecyclePayload "task close" updated [] true

/-- `close_task`. -/
def closeTask (ref : String) (note : Option String := none) : LedgerAction Dict := do
  let task ← resolveTask ref
  ensureNotArchived task "close"
  raiseIf (task.statusStage ≠ .done) <|
    cliError "Only done tasks can be closed via task close." exitCodeInvalidTransition
  if task.closedAt.isSome then return lifecyclePayload "task close" task [] false
  else writeClosure env task note

end Taskledger
