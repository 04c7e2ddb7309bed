import Taskledger.Services.PlanInput

/-!
# Plan materialisation

The todos of a plan become todos of its task, and a plan is written again from
the answers to its questions.
-/

namespace Taskledger

open Library

variable [Runtime] (env : Env)

/-- `_task_with_sidecars`. -/
def taskWithSidecars (task : TaskRecord) : LedgerQuery TaskRecord := do
  let requirements ← loadRequirements task.id
  let links ← loadLinks task.id
  let todos ← loadTodos task.id
  return { task with
    requirements := requirements.map DependencyRequirement.taskId
    fileLinks := links
    todos := todos }

-- ════════════════════════════════════════════════════════════════════════
-- Todos of a plan
-- ════════════════════════════════════════════════════════════════════════

/-- `_normalize_todo_text`. -/
def normalizeTodoText (text : String) : String :=
  Text.join " " (Text.split (Runtime.casefold text))

/-- The key under which a todo counts as materialised. -/
def todoKey (sourcePlanId : Option String) (text : String) : Option String × String :=
  (sourcePlanId, normalizeTodoText text)

/-- The todos a plan adds, each with the next id after those in `ids`. -/
def newPlanTodos (existing : List (Option String × String)) (sourcePlan : String)
    (ids : List String) : List TaskTodo → List TaskTodo
  | [] => []
  | todo :: rest =>
    if todoKey (some sourcePlan) todo.text ∈ existing then
      newPlanTodos existing sourcePlan ids rest
    else
      { todo with
        id := Runtime.nextId "todo" ids
        source := some "plan"
        sourcePlanId := some sourcePlan
        status := .open
        done := false
        createdAt := utcNow env
        updatedAt := utcNow env }
      :: newPlanTodos existing sourcePlan (ids ++ [Runtime.nextId "todo" ids]) rest

structure PlanTodoMaterializationPayload where
  taskId : String
  planId : String
  materializedTodos : Nat
  todos : List Dict
  dryRun : Bool

/-- The writes of `materialize_plan_todos`. -/
def writePlanTodos (task : TaskRecord) (sourcePlan : String) (todos : List TaskTodo) :
    LedgerAction Unit := do
  let updated := { task with todos := task.todos ++ todos, updatedAt := utcNow env }
  saveTodos updated.id updated.todos
  saveTask updated
  appendEvent env updated.id "todo.added"
    [("source_plan_id", .str sourcePlan), ("todo_ids", .ofStrings (todos.map TaskTodo.id))]

/-- `materialize_plan_todos`. -/
def materializePlanTodos (taskRef : String) (version : Nat) (dryRun : Bool := false) :
    LedgerAction PlanTodoMaterializationPayload := do
  let found ← resolveTask taskRef
  let task ← taskWithSidecars found
  let plan ← resolvePlan task.id (some version)
  let todos := newPlanTodos env (task.todos.map fun t => todoKey t.sourcePlanId t.text)
    (planId plan.planVersion) (task.todos.map TaskTodo.id) plan.todos
  Action.onlyIf (todos ≠ [] ∧ dryRun = false)
    (writePlanTodos env task (planId plan.planVersion) todos)
  return {
    taskId := task.id
    planId := planId plan.planVersion
    materializedTodos := todos.length
    todos := todos.map TaskTodo.toDict
    dryRun := dryRun }

-- ════════════════════════════════════════════════════════════════════════
-- Regeneration
-- ════════════════════════════════════════════════════════════════════════

/-- The planning run a regenerated plan finishes. -/
inductive RunToFinish where
  | none
  /-- The running run the active lock matches. -/
  | locked (run : TaskRunRecord)
  /-- The running run of a planning stage whose lock is gone. -/
  | orphaned (run : TaskRunRecord)

def RunToFinish.run? : RunToFinish → Option TaskRunRecord
  | .none => Option.none
  | .locked run => some run
  | .orphaned run => some run

def disagreeMessage : String :=
  ("Cannot regenerate plan because the latest planning run and active lock disagree. "
  ++ "Run `taskledger doctor`.")

def anotherRunMessage : String :=
  "Cannot regenerate plan while another run is still running. Run `taskledger doctor`."

/-- The running planning run against the lock file. -/
def planningRunToFinish (task : TaskRecord) (run : TaskRunRecord) (lock : Option TaskLock) :
    Except Raised RunToFinish := do
  let isMatch ← lockMatchesRun env lock run
  if isMatch then return .locked run
  else match lock with
    | none => return .orphaned run
    | some l =>
      throw (runningRunConflictError env task run (some l) (some disagreeMessage))

/-- Which run a regeneration finishes, from the running runs, the latest planning
run and the lock. -/
def runToFinish (task : TaskRecord) (running : List TaskRunRecord)
    (latest : Option TaskRunRecord) (lock : Option TaskLock) : Except Raised RunToFinish :=
  match running with
  | [] => .ok .none
  | run :: others =>
    match latest with
    | some planning =>
      if others = [] ∧ run.runId = planning.runId ∧ planning.runType = .planning then
        planningRunToFinish env task planning lock
      else .error (runningRunConflictError env task run lock (some anotherRunMessage))
    | none => .error (runningRunConflictError env task run lock (some anotherRunMessage))

/-- What `regenerate_plan_from_answers` has read and checked before it writes. -/
structure Regeneration where
  task : TaskRecord
  plan : PlanRecord
  previous : Option PlanRecord
  finish : RunToFinish
  planBody : String

/-- The version after the latest listed plan. -/
def nextPlanVersion : Option PlanRecord → Nat
  | none => 1
  | some plan => plan.planVersion + 1

/-- The reads and checks of `regenerate_plan_from_answers`. -/
def regenerationOf (taskRef body : String) (criteria : List String) (allowOpenQuestions : Bool) :
    LedgerQuery Regeneration := do
  let task ← resolveTask taskRef
  let questions ← listQuestions task.id
  let openRequired := requiredOpenQuestionIds questions
  raiseIf (openRequired ≠ [] ∧ allowOpenQuestions = false) <|
    cliError ("Plan regeneration is blocked by required open questions: "
      ++ Text.join ", " openRequired) exitCodeApprovalRequired
  let answered := requiredAnswers questions
  let plans ← listPlans task.id
  raiseIf (answered = [] ∧ plans = []) <|
    cliError "Plan regeneration requires answered questions or a previous plan."
      exitCodeApprovalRequired
  let running ← runningRuns task
  let latestPlanningRun ← optionalRun task task.latestPlanningRun
  let lock ← readLock task.id
  let finish ← (runToFinish env task running latestPlanningRun lock : Except Raised RunToFinish)
  let input ← (readPlanInput env body criteria : Except Raised PlanInput)
  let previous := plans.getLast?
  return {
    task := task
    plan := { planOfInput env input task.id (nextPlanVersion previous)
        (previous.map PlanRecord.planVersion) with
      questionRefs := openRequired
      generationReason := some "after_questions"
      basedOnQuestionIds := answered.map QuestionRecord.id
      basedOnAnswerHash := answerSnapshotHash questions }
    previous := previous
    finish := finish
    planBody := input.body }

/-- A proposed plan is superseded by its successor. -/
def supersedePrevious (previous : Option PlanRecord) : LedgerAction Unit :=
  match previous with
  | some plan =>
    Action.onlyIf (plan.status = .proposed) (overwritePlan { plan with status := .superseded })
  | none => pure ()

/-- The planning run after a plan was submitted. -/
def finishedPlanning (run : TaskRunRecord) (planBody : String) : TaskRunRecord :=
  { run with
    status := .finished
    finishedAt := some (utcNow env)
    summary := summaryLine (some planBody) }

/-- The planning run of a regeneration is finished. -/
def finishPlanningRun (finish : RunToFinish) (planBody : String) : LedgerAction Unit :=
  match finish.run? with
  | some run => saveRun (finishedPlanning env run planBody)
  | none => pure ()

/-- The lock of a finished planning run is removed; a missing one is noted. -/
def releasePlanningRun (task : TaskRecord) (finish : RunToFinish) (version : Nat) :
    LedgerAction Unit :=
  match finish with
  | .none => pure ()
  | .locked run =>
    deleteLock env task .planning run.runId "stage.completed" [("plan_version", .int version)]
  | .orphaned run =>
    appendEvent env task.id "run.recovered"
      [("stage", .str "planning"), ("run_id", .str run.runId),
        ("recovered_missing_lock", .bool true),
        ("reason", .str "plan regenerated from answers; planning lock was already missing"),
        ("plan_version", .int version)]

/-- The payload of a submitted plan. -/
def submittedPlanPayload (command : String) (task : TaskRecord) (version : Nat)
    (planBody : String) : Dict :=
  let warnings := if Text.isBlank planBody then
      ["Plan body is empty; implementation handoff will not contain a human plan."]
    else []
  lifecyclePayload command task warnings true (some version)
  ++ [("plan_body_chars", .int planBody.length),
    ("plan_body_lines", .int (Text.splitlines planBody).length),
    ("next_review_command", .str ("taskledger plan review --version " ++ Nat.repr version)),
    ("approval_command_hint", .str ("taskledger plan accept --version " ++ Nat.repr version
      ++ " --note \"User approved in harness.\""))]

/-- The task after a plan was submitted. -/
def taskInReview (task : TaskRecord) (version : Nat) : TaskRecord :=
  { task with
    latestPlanVersion := some version
    statusStage := .planReview
    updatedAt := utcNow env }

/-- `regenerate_plan_from_answers`. -/
def regeneratePlanFromAnswers (taskRef body : String) (criteria : List String := [])
    (allowOpenQuestions : Bool := false) : LedgerAction Dict := do
  let r ← regenerationOf env taskRef body criteria allowOpenQuestions
  let version := r.plan.planVersion
  savePlan r.plan
  supersedePrevious r.previous
  finishPlanningRun env r.finish r.planBody
  let updated := taskInReview env r.task version
  saveTask updated
  releasePlanningRun env updated r.finish version
  appendEvent env updated.id "plan.proposed"
    [("plan_version", .int version), ("generation_reason", .str "after_questions")]
  rebuildV2Indexes
  return submittedPlanPayload "plan regenerate" updated version r.planBody

end Taskledger
