import Taskledger.Services.NextAction
import Taskledger.Services.TaskLifecycle
import Taskledger.Services.Validation

/-!
# The dashboard and the handoff payload

Both views collect the records of one task. A section is kept as the records whose mappings the
payload shows.
-/

namespace Taskledger

open Library

variable [Runtime] (env : Env)

-- ════════════════════════════════════════════════════════════════════════
-- The dashboard
-- ════════════════════════════════════════════════════════════════════════

/-- The active stage that the views find from a lock and the runs that they have read. -/
def stageOfLock (lock : Option TaskLock) (runs : List TaskRunRecord) :
    Except Raised (Option RunType) :=
  match lock with
  | none => return none
  | some l => do
    let expired ← lockIsExpired env l
    return if expired then none else deriveActiveStage (some l) runs

/-- `_plan_summary`: the plan with the greatest version, the first of them. -/
def dashboardPlan (plans : List PlanRecord) : Option PlanRecord :=
  plans.foldl (fun latest p =>
    match latest with
    | none => some p
    | some l => if p.planVersion > l.planVersion then some p else some l) none

structure QuestionSection where
  total : Nat
  opened : Nat
  items : List QuestionRecord

structure TodoSection where
  total : Nat
  done : Nat
  items : List TaskTodo

structure FileSection where
  total : Nat
  links : List FileLink

def questionSection (questions : List QuestionRecord) : QuestionSection where
  total := questions.length
  opened := (questions.filter fun q => q.status = .open).length
  items := questions

def todoSection (todos : List TaskTodo) : TodoSection where
  total := todos.length
  done := (todos.filter TaskTodo.done).length
  items := todos

def fileSection (links : List FileLink) : FileSection where
  total := links.length
  links := links

/-- What `dashboard` returns. -/
structure DashboardPayload where
  task : TaskRecord
  activeStage : Option RunType
  plan : Option PlanRecord
  plans : List PlanRecord
  nextAction : NextActionPayload
  questions : QuestionSection
  todos : TodoSection
  files : FileSection
  runs : List TaskRunRecord
  changes : List CodeChangeRecord
  checks : List ImplementationCheckRecord
  validation : GateReport
  events : List TaskEvent
  lock : Option TaskLock

/-- `resolve_active_task`. -/
def resolveActiveTask : LedgerQuery TaskRecord := do
  let state ← loadActiveTaskState
  match state with
  | none => throw noActiveTask
  | some state => activeTaskOf state

/-- `_recent_task_events`: the last ones of the task, of those that the logs hold. -/
def recentTaskEvents (logged : Except Raised (List TaskEvent)) (taskId : String)
    (limit : Nat := 50) : Except Raised (List TaskEvent) := do
  let events ← logged
  let own := events.filter fun e => e.taskId = taskId
  return own.drop (own.length - limit)

/-- The task of the dashboard: the given one, or the active one. -/
def dashboardSubject : Option String → LedgerQuery TaskRecord
  | some ref => resolveTask ref
  | none => resolveActiveTask

/-- `dashboard`; `logged` is what `list_events` loads. -/
def dashboard (guidance : ProjectGuidance) (logged : Except Raised (List TaskEvent))
    (ref : Option String := none) : LedgerQuery DashboardPayload := do
  let task ← dashboardSubject ref
  let lock ← readLock task.id
  let plans ← listPlans task.id
  let questions ← listQuestions task.id
  let runs ← listRuns task.id
  let changes ← listChanges task.id
  let checks ← listChecks task.id
  let activeStage ← (stageOfLock env lock runs : Except Raised (Option RunType))
  let actionInfo ← nextActionForTask env guidance task
  let todos ← loadTodos task.id
  let validation ← buildValidationGateReport task none
  let events ← (recentTaskEvents logged task.id : Except Raised (List TaskEvent))
  return {
    task := task
    activeStage := activeStage
    plan := dashboardPlan plans
    plans := plans
    nextAction := actionInfo
    questions := questionSection questions
    todos := todoSection todos
    -- the links of the task file, not those of `load_links`
    files := fileSection task.fileLinks
    runs := runs
    changes := changes
    checks := checks
    validation := validation
    events := events
    lock := lock }

-- ════════════════════════════════════════════════════════════════════════
-- Context requests
-- ════════════════════════════════════════════════════════════════════════

/-- `_canonical_mode` of a mode that is given. -/
def canonicalMode : String → String
  | "plan-context" => "planning"
  | "implementation-context" => "implementation"
  | "validation-context" => "validation"
  | "show" => "full"
  | mode => mode

/-- `_default_context_for`. -/
def defaultContextFor : HandoffMode → ContextFor
  | .planning => .planner
  | .implementation => .implementer
  | .validation => .validator
  | .review => .reviewer
  | .full => .full

/-- `_mode_for_context_for`. -/
def modeForContextFor : ContextFor → HandoffMode
  | .planner => .planning
  | .implementer => .implementation
  | .validator => .validation
  | .reviewer | .specReviewer | .codeReviewer => .review
  | .full => .full

/-- The arguments of `build_handoff_payload` besides the task and the worker step. -/
structure ContextArguments where
  mode : Option String := none
  contextFor : Option String := none
  scope : Option String := none
  todoId : Option String := none
  focusRunId : Option String := none
  formatName : String := "markdown"

structure ContextRequest where
  mode : HandoffMode
  contextFor : ContextFor
  scope : ContextScope := .task
  todoId : Option String := none
  focusRunId : Option String := none
  formatName : ContextFormat := .markdown
  deriving DecidableEq

/-- `normalize(text) if text else None`. -/
def normalizeGiven {α : Type} (normalize : String → Except Raised α) (text : Option String) :
    Except Raised (Option α) :=
  match orOption text none with
  | none => .ok none
  | some text => some <$> normalize text

/-- The mode and the role of a request. -/
def contextRole : Option HandoffMode → Option ContextFor → Except Raised (HandoffMode × ContextFor)
  | none, none => .ok (.full, .full)
  | some mode, none => .ok (mode, defaultContextFor mode)
  | none, some role => .ok (modeForContextFor role, role)
  | some mode, some role => do
    raiseIf (mode ≠ modeForContextFor role) <| launchError
      ("Context role " ++ Runtime.repr (value role) ++ " is incompatible with mode "
        ++ Runtime.repr (value mode))
    return (mode, role)

/-- The scope of a request: a todo or a run that is named decides it. -/
def contextScope (explicit : Option ContextScope) (todoId focusRunId : Option String) :
    Except Raised ContextScope := do
  raiseIf (todoId.isSome ∧ explicit.isSome ∧ explicit ≠ some .todo)
    (launchError "--todo implies --scope todo")
  raiseIf (focusRunId.isSome ∧ explicit.isSome ∧ explicit ≠ some .run)
    (launchError "--run implies --scope run")
  let scope := if focusRunId.isSome then .run
    else if todoId.isSome then .todo
    else explicit.getD .task
  raiseIf (scope = .todo ∧ orOption todoId none = none)
    (launchError "--scope todo requires --todo")
  raiseIf (scope = .run ∧ orOption focusRunId none = none)
    (launchError "--scope run requires --run")
  return scope

/-- `build_context_request`. -/
def buildContextRequest (args : ContextArguments) : Except Raised ContextRequest := do
  let format ← normalizeContextFormat args.formatName
  let mode ← normalizeGiven (fun m => normalizeHandoffMode (canonicalMode m)) args.mode
  let role ← normalizeGiven normalizeContextFor args.contextFor
  let (mode, contextFor) ← contextRole mode role
  let explicit ← normalizeGiven normalizeContextScope args.scope
  let scope ← contextScope explicit args.todoId args.focusRunId
  raiseIf (contextFor ∈ [ContextFor.specReviewer, .codeReviewer] ∧ args.focusRunId = none
      ∧ explicit = none) <|
    launchError (value contextFor ++ " context requires --run or --scope task")
  return {
    mode := mode
    contextFor := contextFor
    scope := scope
    todoId := args.todoId
    focusRunId := args.focusRunId
    formatName := format }

/-- `_resolve_worker_step`; `steps` resolves an id in the worker pipeline of the project. -/
def resolveWorkerStep (steps : String → Except Raised WorkerStep) (args : ContextArguments)
    (workerStepId : Option String) : Except Raised (Option WorkerStep) :=
  match workerStepId with
  | none => .ok none
  | some id => do
    let step ← steps id
    match args.mode with
    | none => pure ()
    | some mode => do
      let normalized ← normalizeHandoffMode (canonicalMode mode)
      raiseIf (value normalized ≠ step.lifecycleStage) <| launchError
        ("Worker step '" ++ id ++ "' requires mode '" ++ step.lifecycleStage ++ "', not '"
          ++ mode ++ "'.")
    match args.contextFor with
    | none => pure ()
    | some role => do
      let normalized ← normalizeContextFor role
      raiseIf (value normalized ≠ step.baseContext) <| launchError
        ("Worker step '" ++ id ++ "' requires context '" ++ step.baseContext ++ "', not '"
          ++ role ++ "'.")
    return some step

-- ════════════════════════════════════════════════════════════════════════
-- The handoff payload
-- ════════════════════════════════════════════════════════════════════════

/-- `_latest_run`. -/
def latestRun (runs : List TaskRunRecord) (runType : RunType) : Option TaskRunRecord :=
  (runs.filter fun r => r.runType = runType).getLast?

/-- What the payload says of a required task. -/
structure DependencyEntry where
  taskId : String
  title : String
  statusStage : TaskStatusStage
  deriving DecidableEq

def TaskRecord.dependencyEntry (task : TaskRecord) : DependencyEntry where
  taskId := task.id
  title := task.title
  statusStage := task.statusStage

structure HandoffFocus where
  todoId : Option String
  todo : Option TaskTodo
  focusRunId : Option String
  run : Option TaskRunRecord
  focusedChanges : List CodeChangeRecord

/-- `_resolve_focus`. -/
def resolveFocus (taskId : String) (request : ContextRequest) (todos : List TaskTodo)
    (changes : List CodeChangeRecord) : LedgerQuery HandoffFocus := do
  match request.scope with
  | .task => return ⟨request.todoId, none, request.focusRunId, none, []⟩
  | .todo =>
    match todos.find? fun t => some t.id = request.todoId with
    | none => throw (launchError ("Todo not found: " ++ request.todoId.getD "None"))
    | some todo => return ⟨request.todoId, some todo, request.focusRunId, none, []⟩
  | .run => do
    let run ← resolveRun taskId (request.focusRunId.getD "")
    return ⟨request.todoId, none, request.focusRunId, some run,
      changes.filter fun c => c.implementationRun = run.runId⟩

structure TodoSummary where
  total : Nat
  done : Nat
  opened : Nat
  /-- The place of the focused todo, counted from 1. -/
  focusedIndex : Option Nat
  deriving DecidableEq

/-- `_todo_summary`. -/
def todoSummary (todos : List TaskTodo) (focusedTodoId : Option String) : TodoSummary where
  total := todos.length
  done := (todos.filter TaskTodo.done).length
  opened := (todos.filter fun t => !t.done && t.status ≠ .skipped).length
  focusedIndex := (todos.findIdx? fun t => some t.id = focusedTodoId).map (· + 1)

/-- `_relationship_task_summary`. -/
structure RelationshipSummary where
  task : TaskRecord
  activeStage : Option RunType
  latestValidation : Option TaskRunRecord

def relationshipTaskSummary (task : TaskRecord) : LedgerQuery RelationshipSummary := do
  let runs ← listRuns task.id
  let lock ← readLock task.id
  let activeStage ← (stageOfLock env lock runs : Except Raised (Option RunType))
  return ⟨task, activeStage, latestRun runs .validation⟩

structure Relationships where
  parentTask : Option RelationshipSummary
  followUpTasks : List RelationshipSummary

/-- `build_task_relationship_payload`. -/
def buildTaskRelationshipPayload (task : TaskRecord) : LedgerQuery Relationships := do
  let parent ← match task.parentTaskId with
    | none => pure none
    | some id => do
      let parent ← resolveTask id
      let summary ← relationshipTaskSummary env parent
      pure (some summary)
  let tasks ← listTasks
  let followUps ← (tasks.filter fun child => child.parentTaskId = some task.id
      && child.parentRelation = some "follow_up").mapM (relationshipTaskSummary env)
  return ⟨parent, followUps⟩

/-- What `build_handoff_payload` returns, without the texts that guide the reader. -/
structure HandoffPayload where
  request : ContextRequest
  focus : HandoffFocus
  task : TaskRecord
  activeStage : Option RunType
  introduction : Option IntroductionRecord
  acceptedPlan : Option PlanRecord
  plans : List PlanRecord
  openQuestions : List QuestionRecord
  answeredQuestions : List QuestionRecord
  dismissedQuestions : List QuestionRecord
  todos : List TaskTodo
  todoSummary : TodoSummary
  fileLinks : List FileLink
  dependencies : List DependencyEntry
  latestPlanning : Option TaskRunRecord
  latestImplementation : Option TaskRunRecord
  latestValidation : Option TaskRunRecord
  lock : Option TaskLock
  lockExpired : Bool
  changes : List CodeChangeRecord
  checks : List ImplementationCheckRecord
  validationHistory : List TaskRunRecord
  validationStatus : Option GateReport
  relationships : Relationships
  workerStep : Option WorkerStep

/-- The introduction of a task. -/
def introductionOf (task : TaskRecord) : LedgerQuery (Option IntroductionRecord) :=
  match orOption task.introductionRef none with
  | none => pure none
  | some ref => do
    let introduction ← resolveIntroduction ref
    return some introduction

/-- The required tasks of `build_handoff_payload`. -/
def handoffDependencies (taskId : String) : LedgerQuery (List DependencyEntry) := do
  let requirements ← loadRequirements taskId
  requirements.mapM fun requirement => do
    let dependency ← resolveTask requirement.taskId
    return dependency.dependencyEntry

/-- The gate report of the roles that validate. -/
def handoffValidation (contextFor : ContextFor) (task : TaskRecord) :
    LedgerQuery (Option GateReport) :=
  if contextFor ∈ [ContextFor.validator, .full] then some <$> buildValidationGateReport task none
  else pure none

/-- The arguments of the request, which a worker step decides. -/
def ContextArguments.ofStep (args : ContextArguments) : Option WorkerStep → ContextArguments
  | none => args
  | some step => { args with mode := some step.lifecycleStage, contextFor := some step.baseContext }

/-- `build_handoff_payload`. -/
def buildHandoffPayload (steps : String → Except Raised WorkerStep) (taskRef : String)
    (args : ContextArguments) (workerStepId : Option String := none) :
    LedgerQuery HandoffPayload := do
  let workerStep ← (resolveWorkerStep steps args workerStepId : Except Raised (Option WorkerStep))
  let request ← (buildContextRequest (args.ofStep workerStep) : Except Raised ContextRequest)
  let task ← resolveTask taskRef
  let introduction ← introductionOf task
  let plans ← listPlans task.id
  let questions ← listQuestions task.id
  let runs ← listRuns task.id
  let todos ← loadTodos task.id
  let changes ← listChanges task.id
  let checks ← listChecks task.id
  let acceptedPlan ← acceptedPlanOf task
  let lock ← readLock task.id
  let activeStage ← (stageOfLock env lock runs : Except Raised (Option RunType))
  let dependencies ← handoffDependencies task.id
  let focus ← resolveFocus task.id request todos changes
  let validationStatus ← handoffValidation request.contextFor task
  let relationships ← buildTaskRelationshipPayload env task
  let fileLinks ← loadLinks task.id
  let lockExpired ← (match lock with
    | none => .ok false
    | some l => lockIsExpired env l : Except Raised Bool)
  return {
    request := request
    focus := focus
    task := task
    activeStage := activeStage
    introduction := introduction
    acceptedPlan := acceptedPlan
    plans := plans
    openQuestions := questions.filter fun q => q.status = .open
    answeredQuestions := questions.filter fun q => q.status = .answered
    dismissedQuestions := questions.filter fun q => q.status = .dismissed
    todos := todos
    todoSummary := todoSummary todos request.todoId
    fileLinks := fileLinks
    dependencies := dependencies
    latestPlanning := latestRun runs .planning
    latestImplementation := latestRun runs .implementation
    latestValidation := latestRun runs .validation
    lock := lock
    lockExpired := lockExpired
    changes := changes
    checks := checks
    validationHistory := runs.filter fun r => r.runType = .validation && r.status ≠ .running
    validationStatus := validationStatus
    relationships := relationships
    workerStep := workerStep }

end Taskledger
