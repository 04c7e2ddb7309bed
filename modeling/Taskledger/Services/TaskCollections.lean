import Taskledger.Services.TaskLifecycle

/-!
# Task collections

Introductions, requirements, file links and todos.
-/

namespace Taskledger

open Library

variable [Runtime] (env : Env)

-- ════════════════════════════════════════════════════════════════════════
-- Introductions
-- ════════════════════════════════════════════════════════════════════════

/-- `create_introduction`. -/
def createIntroduction (title body : String) (slug : Option String := none)
    (labels : List String := []) : LedgerAction IntroductionRecord := do
  let intros ← listIntroductions
  let intro : IntroductionRecord :=
    { id := Runtime.nextId "intro" (intros.map IntroductionRecord.id)
      slug := uniqueSlug (intros.map IntroductionRecord.slug)
        ((orOption slug (some title)).getD title)
      title := title
      body := Text.strip body
      createdAt := utcNow env
      updatedAt := utcNow env
      labels := labels.eraseDups }
  saveIntroduction intro
  rebuildV2Indexes
  return intro

/-- `link_introduction`. -/
def linkIntroduction (taskRef introductionRef : String) : LedgerAction TaskRecord := do
  let task ← resolveTask taskRef
  ensureNotArchived task "link introduction on"
  let intro ← resolveIntroduction introductionRef
  let updated := { task with introductionRef := some intro.id, updatedAt := utcNow env }
  saveTask updated
  appendEvent env updated.id "task.updated" [("introduction_ref", .str intro.id)]
  rebuildV2Indexes
  return updated

-- ════════════════════════════════════════════════════════════════════════
-- Requirements
-- ════════════════════════════════════════════════════════════════════════

/-- A requirement as `DependencyRequirement(task_id=…)` makes it. -/
def newRequirement (taskId : String) (waiver : Option Waiver) : DependencyRequirement where
  taskId := taskId
  waiver := waiver
  createdAt := utcNow env
  updatedAt := utcNow env

/-- The task and the task of a requirement on it; `operation` is the text of the
refusal for an archived task. -/
def requirementTasks (taskRef requiredTaskRef operation : String) :
    LedgerQuery (TaskRecord × TaskRecord) := do
  let found ← resolveTask taskRef
  let task ← taskWithSidecars found
  ensureNotArchived task operation
  let required ← resolveTask requiredTaskRef
  return (task, required)

/-- Write a task's requirements anew, without waivers, and the task. -/
def replaceRequirements (task : TaskRecord) (ids : List String) : LedgerAction TaskRecord := do
  let updated := { task with requirements := ids, updatedAt := utcNow env }
  saveRequirements updated.id (ids.map fun id => newRequirement env id none)
  saveTask updated
  rebuildV2Indexes
  return updated

/-- `add_requirement`. -/
def addRequirement (taskRef requiredTaskRef : String) : LedgerAction TaskRecord := do
  let (task, required) ← requirementTasks taskRef requiredTaskRef "add requirement to"
  replaceRequirements env task <|
    if required.id ∈ task.requirements then task.requirements
    else task.requirements ++ [required.id]

/-- `remove_requirement`. -/
def removeRequirement (taskRef requiredTaskRef : String) : LedgerAction TaskRecord := do
  let (task, required) ← requirementTasks taskRef requiredTaskRef "remove requirement from"
  replaceRequirements env task (task.requirements.filter (· ≠ required.id))

/-- A waiver of the user. -/
def userWaiver (reason : String) : Waiver where
  actor :=
    { actorType := .user
      actorName := Text.orElse env.user "user"
      tool := some "manual" }
  reason := Text.strip reason
  createdAt := utcNow env

/-- The first requirement on a task gets the waiver; a new one is appended when
there is none. -/
def waiveIn (taskId : String) (waiver : Waiver) :
    List DependencyRequirement → List DependencyRequirement
  | [] => [newRequirement env taskId (some waiver)]
  | r :: rest =>
    if r.taskId = taskId then { r with waiver := some waiver } :: rest
    else r :: waiveIn taskId waiver rest

/-- `waive_requirement`. -/
def waiveRequirement (taskRef requiredTaskRef actorType reason : String) :
    LedgerAction TaskRecord := do
  raiseIf (actorType ≠ "user") <|
    cliError "Only user dependency waivers can unblock implementation." exitCodeApprovalRequired
  raiseIf (Text.isBlank reason) (cliError "Dependency waiver requires --reason." exitCodeBadInput)
  let (task, required) ← requirementTasks taskRef requiredTaskRef "waive requirement on"
  let known ← loadRequirements task.id
  let requirements := waiveIn env required.id (userWaiver env reason) known
  saveRequirements task.id requirements
  let updated := { task with
    requirements := requirements.map DependencyRequirement.taskId
    updatedAt := utcNow env }
  saveTask updated
  appendEvent env updated.id "requirement.waived"
    [("required_task_id", .str required.id), ("reason", .str (Text.strip reason))]
  rebuildV2Indexes
  return updated

-- ════════════════════════════════════════════════════════════════════════
-- File links
-- ════════════════════════════════════════════════════════════════════════

/-- `snapshot_path` of a link's target: what is there now. -/
structure FileSnapshot where
  exists_ : Bool
  targetType : String
  hash : Option String := none
  size : Option Nat := none
  mtime : Option String := none

/-- `with_baseline`, from the snapshot of the link's target. -/
def withBaseline (link : FileLink) (snapshot : FileSnapshot) : FileLink :=
  { link with
    targetType := some snapshot.targetType
    baselineHash := snapshot.hash
    baselineSize := snapshot.size
    baselineMtime := snapshot.mtime
    baselineExists := some snapshot.exists_
    updatedAt := utcNow env }

/-- The arguments of `add_file_link` besides the task, and the snapshot of the
path. -/
structure LinkRequest where
  path : String
  kind : String
  label : Option String := none
  requiredForValidation : Bool := false
  snapshot : Option Bool := none
  target : FileSnapshot

/-- The link `add_file_link` writes, from the one there is for the path. -/
def requestedLink (request : LinkRequest) (kind : FileLinkKind) :
    Option FileLink → FileLink
  | none =>
    let link : FileLink :=
      { path := request.path
        kind := kind
        label := request.label
        requiredForValidation := request.requiredForValidation
        createdAt := utcNow env
        updatedAt := utcNow env }
    if request.snapshot = some false then link else withBaseline env link request.target
  | some existing =>
    let link := { existing with
      kind := kind
      label := request.label
      requiredForValidation := request.requiredForValidation
      updatedAt := utcNow env }
    if request.snapshot = some true then withBaseline env link request.target else link

/-- Write a task's links and the task. -/
def replaceLinks (task : TaskRecord) (links : List FileLink) : LedgerAction TaskRecord := do
  let updated := { task with fileLinks := links, updatedAt := utcNow env }
  saveLinks updated.id links
  saveTask updated
  return updated

/-- `add_file_link`. -/
def addFileLink (taskRef : String) (request : LinkRequest) : LedgerAction TaskRecord := do
  let found ← resolveTask taskRef
  let task ← taskWithSidecars found
  ensureNotArchived task "add file link to"
  let kind ← (normalizeFileLinkKind request.kind : Except Raised FileLinkKind)
  let link := requestedLink env request kind
    (task.fileLinks.find? fun l => l.path = request.path)
  let updated ← replaceLinks env task
    ((task.fileLinks.filter fun l => l.path ≠ request.path) ++ [link])
  appendEvent env updated.id "file.linked"
    [("path", .str request.path), ("kind", .str request.kind),
      ("snapshot", .ofBool? request.snapshot), ("target_type", .ofOption link.targetType)]
  rebuildV2Indexes
  return updated

/-- `remove_file_link`. -/
def removeFileLink (taskRef path : String) : LedgerAction TaskRecord := do
  let found ← resolveTask taskRef
  let task ← taskWithSidecars found
  ensureNotArchived task "remove file link from"
  let updated ← replaceLinks env task (task.fileLinks.filter fun l => l.path ≠ path)
  rebuildV2Indexes
  return updated

/-- `refresh_file_baseline`, with the snapshot of the path. -/
def refreshFileBaseline (taskRef path reason : String) (target : FileSnapshot) :
    LedgerAction Dict := do
  raiseIf (Text.isBlank reason) (launchError "file refresh requires --reason.")
  let found ← resolveTask taskRef
  let task ← taskWithSidecars found
  ensureNotArchived task "refresh file baseline on"
  match (task.fileLinks.filter fun l => l.path = path).getLast? with
  | none => throw (launchError ("File link not found: " ++ path))
  | some last => do
    let refreshed := withBaseline env last target
    let updated ← replaceLinks env task <| task.fileLinks.map fun l =>
      if l.path = path then withBaseline env l target else l
    appendEvent env updated.id "file.baseline_refreshed"
      [("path", .str path), ("reason", .str (Text.strip reason)),
        ("target_type", .ofOption refreshed.targetType)]
    rebuildV2Indexes
    return [("kind", .str "file_baseline_refreshed"),
      ("task_id", .str updated.id),
      ("path", .str path),
      ("reason", .str (Text.strip reason)),
      ("link", .dict refreshed.toDict)]

-- ════════════════════════════════════════════════════════════════════════
-- Todos
-- ════════════════════════════════════════════════════════════════════════

/-- The source of a todo: the given one, or the role that goes with the lock. -/
def todoSource (source : Option String) (lock : Option TaskLock) : String :=
  match source with
  | some text => text
  | none => match lock.map TaskLock.runType with
    | some .planning => "planner"
    | some .implementation => "implementer"
    | _ => "user"

/-- `require_known_actor_role`. -/
def requireKnownActorRole : String → Except Raised PolicyActor
  | "planner" => .ok .planner
  | "implementer" => .ok .implementer
  | "user" => .ok .user
  | other => .error (.python "ValueError" ("Unsupported actor role: " ++ other))

/-- What `add_todo` has read and checked: the task with its todos and the new one. -/
def newTodoOf (taskRef text : String) (source : Option String) (mandatory : Bool) :
    LedgerQuery (TaskRecord × TaskTodo) := do
  let found ← resolveTask taskRef
  let task ← taskWithSidecars found
  ensureNotArchived task "add todo to"
  let lock ← lockForMutation env task.id
  let role ← (requireKnownActorRole (todoSource source lock) : Except Raised PolicyActor)
  enforceDecision (todoAddDecision task lock role)
  return (task,
    { id := Runtime.nextId "todo" (task.todos.map TaskTodo.id)
      text := Text.strip text
      source := some (todoSource source lock)
      mandatory := mandatory
      createdAt := utcNow env
      updatedAt := utcNow env
      activeAt := if lock.any fun l => l.runType = .implementation then some (utcNow env)
        else none })

/-- Write a task's todos and the task. -/
def replaceTodos (task : TaskRecord) (todos : List TaskTodo) : LedgerAction TaskRecord := do
  let updated := { task with todos := todos, updatedAt := utcNow env }
  saveTodos updated.id todos
  saveTask updated
  return updated

/-- `add_todo`. -/
def addTodo (taskRef text : String) (source : Option String := none) (mandatory : Bool := false) :
    LedgerAction TaskRecord := do
  let (task, todo) ← newTodoOf env taskRef text source mandatory
  let updated ← replaceTodos env task (task.todos ++ [todo])
  appendEvent env updated.id "todo.added"
    [("todo_id", .str todo.id), ("text", .str todo.text)]
  return updated

/-- `_normalize_local_id`. -/
def normalizeLocalId (ref kind : String) : String :=
  let normalized := Runtime.lower (Text.strip ref)
  match localIdFromRef normalized kind with
  | .ok localId => localId
  | .error _ =>
    let digits := (Text.dropStart normalized (kind ++ "-")).toList
    if Text.startsWith normalized (kind ++ "-") ∧ digits ≠ [] ∧ digits.all Char.isDigit then
      kind ++ "-" ++ Text.fourDigits ((digits? digits).getD 0)
    else normalized

/-- The arguments of `set_todo_done` besides the task and the todo. -/
structure TodoDoneRequest where
  done : Bool
  evidence : Option String := none
  artifacts : List String := []
  changes : List String := []
  actor : Option ActorRef := none
  harness : Option NamedHarness := none

/-- A todo that is marked done. -/
def completedTodo (request : TodoDoneRequest) (todo : TaskTodo) : TaskTodo :=
  { todo with
    done := true
    status := .done
    updatedAt := utcNow env
    doneAt := some (utcNow env)
    completedBy := some (request.actor.getD (defaultActor env))
    completedInHarness := request.harness.map NamedHarness.toHarnessRef
    evidence := todo.evidence
      ++ ((request.evidence.filter fun e => !Text.isBlank e).map Text.strip).toList
    artifactRefs := todo.artifactRefs ++ request.artifacts
    changeRefs := todo.changeRefs ++ request.changes }

/-- A todo that is opened again. -/
def reopenedTodo (todo : TaskTodo) : TaskTodo :=
  { todo with
    done := false
    status := .open
    updatedAt := utcNow env
    doneAt := none
    completedBy := none
    completedInHarness := none }

/-- A todo after `set_todo_done`. -/
def markedTodo (request : TodoDoneRequest) (todo : TaskTodo) : TaskTodo :=
  if request.done then completedTodo env request todo else reopenedTodo env todo

/-- The task with its sidecars and the normalised id of one of its todos. -/
def todoToMark (taskRef todoId : String) : LedgerQuery (TaskRecord × String) := do
  let found ← resolveTask taskRef
  let task ← taskWithSidecars found
  ensureNotArchived task "update todo on"
  let normalizedId := normalizeLocalId todoId "todo"
  let lock ← lockForMutation env task.id
  enforceDecision (todoToggleDecision task lock .user)
  raiseIf (¬ task.todos.any fun t => refersTo todoId normalizedId t.id) <|
    cliError ("Todo not found: " ++ todoId) exitCodeMissing
  return (task, normalizedId)

/-- `set_todo_done`. -/
def setTodoDone (taskRef todoId : String) (request : TodoDoneRequest) :
    LedgerAction TaskRecord := do
  let (task, normalizedId) ← todoToMark env taskRef todoId
  let updated ← replaceTodos env task <| task.todos.map fun t =>
    if refersTo todoId normalizedId t.id then markedTodo env request t else t
  appendEvent env updated.id (if request.done then "todo.completed" else "todo.toggled")
    [("todo_id", .str todoId),
      ("done", .bool request.done),
      ("evidence", .ofOption request.evidence),
      ("artifacts", .ofStrings request.artifacts),
      ("changes", .ofStrings request.changes)]
  return updated

/-- `_todo_command_hints`. -/
def todoCommandHints (todoId : String) : List Dict :=
  [[("kind", .str "inspect"),
      ("label", .str "Show next todo"),
      ("command", .str ("taskledger todo show " ++ todoId)),
      ("primary", .bool true)],
    [("kind", .str "complete"),
      ("label", .str "Mark todo done after evidence exists"),
      ("command", .str ("taskledger todo done " ++ todoId ++ " --evidence \"...\"")),
      ("primary", .bool false)]]

/-- What `next_todo` reports: the todo to work on, when one is unfinished. -/
structure NextTodo where
  taskId : String
  todo : Option TaskTodo

/-- `can_finish_implementation` of the report. -/
def NextTodo.canFinish (n : NextTodo) : Bool := n.todo.isNone

def NextTodo.toDict (n : NextTodo) : Dict :=
  [("kind", .str "next_todo"),
    ("task_id", .str n.taskId),
    ("next_todo_id", .ofOption (n.todo.map TaskTodo.id)),
    ("next_todo", .ofDict? (n.todo.map TaskTodo.toDict)),
    ("commands", .list ((n.todo.map fun t => todoCommandHints t.id).getD [] |>.map .dict)),
    ("can_finish_implementation", .bool n.canFinish)]

/-- `next_todo`: an active todo first, then the first that is not done. -/
def nextTodo (taskRef : String) : LedgerQuery NextTodo := do
  let found ← resolveTask taskRef
  let task ← taskWithSidecars found
  return {
    taskId := task.id
    todo := (task.todos.find? fun t => !t.done && t.status = .active).or
      (task.todos.find? fun t => !t.done) }

end Taskledger
