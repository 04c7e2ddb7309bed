import Taskledger.Services.ReadViews
import Taskledger.Services.Tree
import Taskledger.Storage.EventLog

/-!
# Views of the active stage

What the task payload, the dashboard, the tree and the monitor report as the stage
that a task is being worked on in.
-/

namespace Taskledger

open Library

variable [Runtime] (env : Env)

/-- An active stage in a payload. -/
def stageValue (stage : Option RunType) : Value := .ofOption (stage.map value)

/-- `_task_payload`. -/
def taskPayload (task : TaskRecord) (activeStage : Option RunType) : Dict :=
  let archived := isArchivedTask task
  let payload := Dict.set task.toDict "archived" (.bool archived)
  let payload := Dict.set payload "visibility" (.str (if archived then "archived" else "visible"))
  let payload := Dict.set payload "global_ref" (.str (Runtime.globalRef task.id))
  let payload := Dict.set payload "file_ref" (.str (Runtime.fileRef task.id))
  Dict.set payload "active_stage" (stageValue activeStage)

/-- What `show_task` returns. -/
structure TaskView where
  task : Dict
  lock : Option TaskLock
  plans : List PlanRecord
  questions : List QuestionRecord
  runs : List TaskRunRecord
  changes : List CodeChangeRecord
  relationships : Relationships

/-- `show_task`. -/
def showTask (ref : String) (includeArchived : Bool := false) : LedgerQuery TaskView := do
  let found ← resolveTask ref includeArchived
  let task ← taskWithSidecars found
  let lock ← readLock task.id
  let plans ← listPlans task.id
  let questions ← listQuestions task.id
  let runs ← listRuns task.id
  let changes ← listChanges task.id
  let relationships ← buildTaskRelationshipPayload env task
  let activeStage ← (stageOfLock env lock runs : Except Raised (Option RunType))
  return {
    task := taskPayload task activeStage
    lock := lock
    plans := plans
    questions := questions
    runs := runs
    changes := changes
    relationships := relationships }

omit [Runtime] in
/-- The task as the payload of the dashboard shows it. -/
def DashboardPayload.taskSection (d : DashboardPayload) : Dict :=
  [("id", .str d.task.id),
    ("slug", .str d.task.slug),
    ("title", .str d.task.title),
    ("status_stage", .str (value d.task.statusStage)),
    ("active_stage", stageValue d.activeStage),
    ("created_at", .str d.task.createdAt),
    ("updated_at", .str d.task.updatedAt),
    ("description_summary", .ofOption d.task.descriptionSummary),
    ("priority", .ofOption d.task.priority),
    ("labels", .ofStrings d.task.labels),
    ("owner", .ofOption d.task.owner)]

-- ════════════════════════════════════════════════════════════════════════
-- The tree
-- ════════════════════════════════════════════════════════════════════════

/-- The locks of `lock_by_task`: those that are not expired. -/
def liveLocks : List TaskLock → Except Raised (List TaskLock)
  | [] => .ok []
  | lock :: rest => do
    let expired ← lockIsExpired env lock
    let live ← liveLocks rest
    return if expired then live else lock :: live

/-- `_active_stage` of the nodes of the current ledger. -/
def treeStage (live : List TaskLock) (taskId : String) : LedgerQuery (Option RunType) :=
  match (live.filter fun l => l.taskId = taskId).getLast? with
  | none => return none
  | some lock => do
    let runs ← listRuns taskId
    return deriveActiveStage (some lock) runs

/-- `TreeOptions`, as far as the current ledger goes. -/
structure TreeOptions where
  taskRef : Option String := none
  details : Bool := false
  includeArchived : Bool := false

/-- `_counts`. -/
def treeCounts (live : List TaskLock) (details : Bool) (taskId : String) : LedgerQuery Value :=
  if details then do
    let todos ← loadTodos taskId
    let plans ← listPlans taskId
    let questions ← listQuestions taskId
    let runs ← listRuns taskId
    let changes ← listChanges taskId
    let done := (todos.filter TaskTodo.done).length
    return .dict [("plans", .int plans.length),
      ("questions", .int questions.length),
      ("runs", .int runs.length),
      ("changes", .int changes.length),
      ("todos", .dict [("total", .int todos.length),
        ("done", .int done),
        ("open", .int (todos.length - done))]),
      ("has_lock", .bool (live.any fun l => l.taskId = taskId))]
  else return .null

/-- A node of the tree, without its children. -/
def treeNode (activeTaskId : Option String) (live : List TaskLock) (details : Bool)
    (task : TaskRecord) : LedgerQuery Dict := do
  let activeStage ← treeStage live task.id
  let counts ← treeCounts live details task.id
  return [("id", .str task.id),
    ("slug", .str task.slug),
    ("title", .str task.title),
    ("status_stage", .str (value task.statusStage)),
    ("archived", .bool (isArchivedTask task)),
    ("active_stage", stageValue activeStage),
    ("is_active", .bool (some task.id = activeTaskId)),
    ("task_type", .str (value task.taskType)),
    ("parent_task_id", .ofOption task.parentTaskId),
    ("parent_relation", .ofOption task.parentRelation),
    ("counts", counts)]

/-- The tasks a tree shows, in the order of its nodes. -/
def treeShown (fuel : ℕ) (options : TreeOptions) : LedgerQuery (Option (List TaskRecord)) :=
  fun s => do
    let tasks ← treeTasks options.includeArchived s
    return (buildTaskNodes fuel tasks options.taskRef s).map fun nodes =>
      WalkTree.allNodes (nodes.1 ++ nodes.2)

/-- The nodes of `build_tree` for the current ledger. -/
def treeNodes (fuel : ℕ) (options : TreeOptions) : LedgerQuery (Option (List Dict)) := do
  let state ← loadActiveTaskState
  let shown ← treeShown fuel options
  let _ ← listReleases
  let locks ← loadActiveLocks
  let live ← (liveLocks env locks : Except Raised (List TaskLock))
  match shown with
  | none => return none
  | some tasks => do
    let rows ← tasks.mapM
      (treeNode (state.map ActiveTaskState.taskId) live options.details)
    return some rows

-- ════════════════════════════════════════════════════════════════════════
-- The monitor
-- ════════════════════════════════════════════════════════════════════════

/-- `_status_to_active_stage`. -/
def statusToActiveStage : TaskStatusStage → Option RunType
  | .planning => some .planning
  | .implementing => some .implementation
  | .validating => some .validation
  | _ => none

/-- A row of the monitor. -/
def monitorRow (task : TaskRecord) (activeStage : Value) : Dict :=
  [("task_id", .str task.id),
    ("slug", .str task.slug),
    ("title", .str task.title),
    ("priority", .ofOption task.priority),
    ("status_stage", .str (value task.statusStage)),
    ("active_stage", activeStage)]

/-- `_summary_to_row`. -/
def summaryToRow (summary : TaskRecord) : Dict := monitorRow summary .null

/-- What the monitor shows of the task it focuses on. -/
structure FocusedTask where
  row : Dict
  nextAction : NextActionPayload
  todosDone : ℕ
  todosTotal : ℕ

/-- `_task_summary` with the next action. It does not look at the lock's expiry. -/
def monitorTaskSummary (guidance : ProjectGuidance) (task : TaskRecord) :
    LedgerQuery FocusedTask := do
  let lock ← readLock task.id
  let runs ← listRuns task.id
  let activeStage := (deriveActiveStage lock runs).or (statusToActiveStage task.statusStage)
  let todos ← loadTodos task.id
  let nextAction ← nextActionForTask env guidance task
  return {
    row := monitorRow task (stageValue activeStage)
    nextAction := nextAction
    todosDone := (todos.filter TaskTodo.done).length
    todosTotal := todos.length }

/-- The task `monitor_snapshot` focuses on: the given one, or the active one. -/
def monitorSubject : Option String → LedgerQuery (Option TaskRecord)
  | some ref => do
    let task ← resolveTask ref
    return some task
  | none => do
    let state ← loadActiveTaskState
    match state with
    | none => return none
    | some active => do
      let task ← resolveTask active.taskId
      return some task

/-- The task in focus. -/
def monitorActive (guidance : ProjectGuidance) :
    Option TaskRecord → LedgerQuery (Option FocusedTask)
  | none => return none
  | some task => do
    let summary ← monitorTaskSummary env guidance task
    return some summary

/-- `list_task_summaries(visibility="visible")`: every save of a task writes its summary. -/
def visibleSummaries (s : Ledger) : List TaskRecord :=
  sortedBy TaskRecord.id (s.tasks.files.filter fun t => !isArchivedTask t)

/-- `priority_rank`. Not every text of digits is a number. -/
def priorityRank : Option String → Except Raised (ℤ ×ₗ String)
  | none => .ok (toLex (99, ""))
  | some priority =>
    let normalized := Runtime.upper (Text.strip priority)
    let number := Text.dropStart normalized "P"
    if Text.startsWith normalized "P" ∧ number ≠ "" ∧ number.toList.all Runtime.isDigit then
      match Runtime.parseInt number with
      | some rank => .ok (toLex (rank, normalized))
      | none => .error (.python "ValueError"
          ("invalid literal for int() with base 10: " ++ Runtime.repr number))
    else .ok (toLex (50, normalized))

/-- Summaries with their ranks. -/
def rankedSummaries : List TaskRecord → Except Raised (List ((ℤ ×ₗ String) × TaskRecord))
  | [] => .ok []
  | t :: rest => do
    let rank ← priorityRank t.priority
    let others ← rankedSummaries rest
    return (rank, t) :: others

/-- The rows of summaries in the order of their priorities, and then of their ids. -/
def rowsByPriority (summaries : List TaskRecord) : Except Raised (List Dict) := do
  let ranked ← rankedSummaries summaries
  let key (r : (ℤ ×ₗ String) × TaskRecord) : (ℤ ×ₗ String) ×ₗ String := toLex (r.1, r.2.id)
  return (ranked.insertionSort fun a b => key a ≤ key b).map fun r => summaryToRow r.2

/-- `READY_STATUSES`. -/
def readyStatuses : List TaskStatusStage := [.approved, .failedValidation, .planReview]

/-- The rows of the tasks in some stages. -/
def rowsIn (stages : List TaskStatusStage) : LedgerQuery (List Dict) := fun s =>
  rowsByPriority ((visibleSummaries s).filter fun t => t.statusStage ∈ stages)

/-- `rows[:n]`. -/
def sliceTo {α : Type} (n : ℤ) (rows : List α) : List α :=
  rows.take (if 0 ≤ n then n else rows.length + n).toNat

/-- The arguments of `monitor_snapshot`. -/
structure MonitorArguments where
  taskRef : Option String := none
  maxEvents : ℤ := 10
  maxReady : ℤ := 10
  activityScope : String := "ledger"

/-- What `monitor_snapshot` returns; of the activity the events whose lines it shows. -/
structure MonitorSnapshot where
  active : Option FocusedTask
  inProgress : List Dict
  activity : List TaskEvent
  ready : List Dict

/-- `monitor_snapshot`; `recent` is what `load_recent_events` loads. -/
def monitorSnapshot (guidance : ProjectGuidance)
    (recent : Option String → ℤ → Except Raised (List TaskEvent)) (args : MonitorArguments) :
    LedgerQuery MonitorSnapshot := do
  let selected ← monitorSubject args.taskRef
  let inProgress ← rowsIn activeTaskStages
  let ready ← rowsIn readyStatuses
  let activityTaskId := if args.activityScope = "task" then selected.map TaskRecord.id else none
  let events ← (recent activityTaskId args.maxEvents : Except Raised (List TaskEvent))
  let active ← monitorActive env guidance selected
  return {
    active := active
    inProgress := inProgress
    activity := events.reverse
    ready := sliceTo args.maxReady ready }

end Taskledger
