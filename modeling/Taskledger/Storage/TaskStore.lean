import Mathlib.Data.List.Sort
import Taskledger.Storage.Ledger

/-!
# The task store

Listing, resolving, saving and loading of the records of a ledger.
-/

namespace Taskledger

open Library

/-- A snapshot of the workspace's version control state. -/
structure WorkspaceSnapshot where
  gitCommit : Option String := none
  dirty : Option Bool := none
  diffHash : Option String := none
  statusHash : Option String := none
  capturedAt : Option String := none

/-- What version control says about the code under review. -/
structure GitMetadata where
  branch : Option String := none
  commit : Option String := none
  statusShort : Option String := none
  diffStat : Option String := none
  stagedDiffStat : Option String := none
  changedPaths : List String := []
  diffHash : Option String := none

/-- What one operation reads from the process and the workspace it runs in. -/
structure Env where
  /-- The current instant, in microseconds. -/
  now : Nat
  /-- `getpass.getuser()`. -/
  user : String
  hostname : String
  pid : Nat
  cwd : String
  /-- `TASKLEDGER_HARNESS` and `TASKLEDGER_SESSION_ID`. -/
  harnessName : Option String := none
  sessionId : Option String := none
  /-- `event_logging_enabled`. -/
  eventLogging : Bool := true
  /-- The random suffix of the event appended at a position of the log. -/
  uuid : Nat → String
  /-- The results of `resolve_actor()` and `resolve_harness()`. -/
  resolvedActor : ActorRef
  resolvedHarness : NamedHarness
  /-- The steps of the worker pipeline, when one is configured and enabled. -/
  workerSteps : Option (List String) := none
  /-- `capture_workspace_snapshot`. -/
  snapshot : WorkspaceSnapshot := {}
  /-- `_is_git_workspace`. -/
  isGitWorkspace : Bool := false
  /-- `diagnose_lock`, which probes the processes of the host: its mapping and its
  remediation. -/
  diagnoseLock : TaskLock → Dict × List String := fun _ => ([], [])
  /-- `_validate_worker_step`, which reads the configured pipeline. -/
  validateWorkerStep : String → Except Raised Unit := fun _ => .ok ()
  /-- `_resolve_git_metadata`. -/
  gitMetadata : ReviewSource → Option String → Except Raised GitMetadata := fun _ _ => .ok {}

/-- `sorted(items, key=…)` on a text key. -/
def sortedBy {α : Type} (key : α → String) (items : List α) : List α :=
  items.insertionSort fun a b => key a ≤ key b

@[simp]
theorem mem_sortedBy {α : Type} {key : α → String} {items : List α} {a : α} :
    a ∈ sortedBy key items ↔ a ∈ items :=
  List.mem_insertionSort _

variable [Runtime]

/-- `utc_now_iso()`. -/
def utcNow (env : Env) : String := Runtime.utcNowIso env.now

-- ════════════════════════════════════════════════════════════════════════
-- References
-- ════════════════════════════════════════════════════════════════════════

/-- `[a-zA-Z][a-zA-Z0-9]{0,2}[-_][a-zA-Z]+[-_]\d+` on the whole text. -/
def isFileRef (cs : List Char) : Bool :=
  let isSep (c : Char) : Bool := c == '-' || c == '_'
  let ledger := cs.takeWhile Char.isAlphanum
  match cs.dropWhile Char.isAlphanum with
  | sep :: rest =>
    let kind := rest.takeWhile Char.isAlpha
    match rest.dropWhile Char.isAlpha with
    | sep' :: digits =>
      (ledger.head?.any Char.isAlpha) && ledger.length ≤ 3 && isSep sep && !kind.isEmpty
        && isSep sep' && !digits.isEmpty && digits.all Char.isDigit
    | [] => false
  | [] => false

/-- `_looks_like_global_ref`. -/
def looksLikeGlobalRef (text : String) : Bool :=
  text.toList.contains ':' || Text.startsWith (String.ofList (text.toList.map Char.toUpper)) "TL-"
    || isFileRef text.toList

/-- `normalize_numeric_ref`. -/
def normalizeNumericRef (ref kind : String) : String :=
  match Runtime.parseNumber kind ref with
  | some n => Runtime.formatId kind n
  | none => ref

/-- `local_id_from_ref`. -/
def localIdFromRef (text kind : String) : Except Raised String :=
  match Runtime.parseLocalId kind text with
  | .ok localId => .ok localId
  | .error reason =>
    .error (launchError
      ("Invalid taskledger resource ref " ++ Runtime.repr text ++ ": " ++ reason))

/-- `_normalize_resource_ref`. -/
def normalizeResourceRef (ref kind : String) : Except Raised String :=
  let normalized := Runtime.lower (Text.strip ref)
  match localIdFromRef normalized kind with
  | .ok localId => .ok localId
  | .error e =>
    if looksLikeGlobalRef normalized then .error e
    else .ok (normalizeNumericRef normalized kind)

/-- The reference was resolved to an id of the wanted kind that is `id`. -/
def refersTo (ref normalized id : String) : Bool := id = ref ∨ id = normalized

-- ════════════════════════════════════════════════════════════════════════
-- Tasks
-- ════════════════════════════════════════════════════════════════════════

/-- `list_tasks`. -/
def listTasks : LedgerQuery (List TaskRecord) := fun s => do
  let tasks ← reloadAll TaskRecord.reload s.tasks.files
  return sortedBy TaskRecord.id tasks

/-- `list_tasks_by_visibility(visibility="visible")`. -/
def listVisibleTasks : LedgerQuery (List TaskRecord) := fun s => do
  let tasks ← listTasks s
  return tasks.filter fun t => !isArchivedTask t

def taskNotFound (ref : String) : Raised := launchError ("Task not found: " ++ ref)

/-- The slug lookup at the end of `resolve_task`. -/
def resolveTaskBySlug (tasks : List TaskRecord) (ref slug : String) (includeArchived : Bool) :
    Except Raised TaskRecord :=
  match tasks.filter fun t => !isArchivedTask t && t.slug = slug with
  | [task] => .ok task
  | _ :: _ :: _ => .error (launchError ("Duplicate visible task slug: " ++ ref))
  | [] =>
    if !includeArchived then .error (taskNotFound ref)
    else match tasks.filter fun t => isArchivedTask t && t.slug = slug with
      | [task] => .ok task
      | [] => .error (taskNotFound ref)
      | archived =>
        .error (launchError ("Archived task slug is ambiguous: " ++ ref ++ ". Use one of: "
          ++ Text.join ", " (sortedBy id (archived.map TaskRecord.id))))

/-- The full scan of `resolve_task`: ids first, of archived tasks too, then slugs. -/
def scanForTask (ref normalizedRef normalizedId : String) (includeArchived : Bool) :
    LedgerQuery TaskRecord := fun s => do
  let tasks ← listTasks s
  match tasks.find? fun t => refersTo ref normalizedId t.id with
  | some task => .ok task
  | none => resolveTaskBySlug tasks ref normalizedRef includeArchived

/-- The task file a normalised id names directly. -/
def taskFile (normalizedId : String) : LedgerQuery (Option TaskRecord) := fun s =>
  if Text.startsWith normalizedId "task-" then
    match s.tasks.lookup normalizedId with
    | some stored => some <$> stored.reload
    | none => .ok none
  else .ok none

/-- `resolve_task`. -/
def resolveTask (ref : String) (includeArchived : Bool := false) : LedgerQuery TaskRecord := do
  let normalizedRef := Runtime.lower (Text.strip ref)
  let normalizedId ← (normalizeResourceRef normalizedRef "task" : Except Raised String)
  let file ← taskFile normalizedId
  match file.filter fun t => includeArchived || !isArchivedTask t with
  | some task => return task
  | none =>
    raiseIf (looksLikeGlobalRef normalizedRef ∧ ¬ Text.startsWith normalizedId "task-")
      (taskNotFound ref)
    scanForTask ref normalizedRef normalizedId includeArchived

/-- `save_task`. -/
def saveTask (task : TaskRecord) : LedgerAction Unit := .write (Ledger.putTask task)

-- ════════════════════════════════════════════════════════════════════════
-- Plans and questions
-- ════════════════════════════════════════════════════════════════════════

/-- `list_plans`: plan files that do not load are skipped. -/
def listPlans (taskId : String) : LedgerQuery (List PlanRecord) := fun s =>
  let plans := (s.plans.files.filter fun p => p.taskId = taskId).filterMap fun p =>
    p.reload.toOption
  .ok (plans.insertionSort fun p q => p.planVersion ≤ q.planVersion)

/-- `save_plan`. -/
def savePlan (plan : PlanRecord) : LedgerAction Unit := fun s =>
  match s.plans.lookup (plan.taskId, plan.planVersion) with
  | some _ =>
    (.error (launchError ("Plan version already exists: " ++ plan.taskId ++ " v"
      ++ Nat.repr plan.planVersion)), s)
  | none => (.ok (), s.putPlan plan)

/-- `overwrite_plan`. -/
def overwritePlan (plan : PlanRecord) : LedgerAction Unit := .write (Ledger.putPlan plan)

/-- `resolve_plan`; without a version the latest listed plan. -/
def resolvePlan (taskId : String) (version : Option Nat := none) : LedgerQuery PlanRecord := do
  let plans ← listPlans taskId
  match plans.getLast? with
  | none => throw (launchError ("No plans found for task " ++ taskId))
  | some latest =>
    match version with
    | none => return latest
    | some v =>
      match plans.find? fun p => p.planVersion = v with
      | some plan => return plan
      | none =>
        throw (launchError ("Plan version not found for task " ++ taskId ++ ": " ++ Nat.repr v))

/-- `list_questions`. -/
def listQuestions (taskId : String) : LedgerQuery (List QuestionRecord) := fun s => do
  let questions ← reloadAll QuestionRecord.reload
    (s.questions.files.filter fun q => q.taskId = taskId)
  return sortedBy QuestionRecord.id questions

/-- `resolve_question`. -/
def resolveQuestion (taskId questionId : String) : LedgerQuery QuestionRecord := do
  let normalizedId ← (normalizeResourceRef questionId "q" : Except Raised String)
  let questions ← listQuestions taskId
  match questions.find? fun q => refersTo questionId normalizedId q.id with
  | some question => return question
  | none => throw (launchError ("Question not found: " ++ questionId))

/-- `save_question`. -/
def saveQuestion (question : QuestionRecord) : LedgerAction Unit :=
  .write (Ledger.putQuestion question)

-- ════════════════════════════════════════════════════════════════════════
-- Runs and locks
-- ════════════════════════════════════════════════════════════════════════

/-- `list_runs`. -/
def listRuns (taskId : String) : LedgerQuery (List TaskRunRecord) := fun s => do
  let runs ← reloadAll TaskRunRecord.reload (s.runs.files.filter fun r => r.taskId = taskId)
  return sortedBy TaskRunRecord.runId runs

/-- `resolve_run`. -/
def resolveRun (taskId runId : String) : LedgerQuery TaskRunRecord := do
  let normalizedId ← (normalizeResourceRef runId "run" : Except Raised String)
  let runs ← listRuns taskId
  match runs.find? fun r => refersTo runId normalizedId r.runId with
  | some run => return run
  | none => throw (launchError ("Run not found: " ++ runId))

/-- `save_run`. -/
def saveRun (run : TaskRunRecord) : LedgerAction Unit := .write (Ledger.putRun run)

/-- `read_lock` of a task's lock file. -/
def readLock (taskId : String) : LedgerQuery (Option TaskLock) := fun s =>
  match s.locks.lookup taskId with
  | none => .ok none
  | some lock => some <$> lock.reload

/-- `load_active_locks`. -/
def loadActiveLocks : LedgerQuery (List TaskLock) := fun s =>
  reloadAll TaskLock.reload (sortedBy TaskLock.taskId s.locks.files)

/-- `write_lock`: the file is created exclusively; `none` when it exists. -/
def writeLock (lock : TaskLock) : LedgerAction Bool := fun s =>
  match s.locks.lookup lock.taskId with
  | some _ => (.ok false, s)
  | none => (.ok true, s.putLock lock)

/-- `remove_lock`. -/
def removeLock (taskId : String) : LedgerAction Unit := .write (Ledger.dropLock taskId)

/-- `lock_is_expired`. -/
def lockIsExpired (env : Env) (lock : TaskLock) : Except Raised Bool :=
  match lock.expiresAt with
  | none => .ok false
  | some text =>
    match Runtime.fromisoformat text with
    | some expiresAt => .ok (expiresAt < env.now)
    | none =>
      .error (launchError ("Invalid lock expiration on " ++ lock.taskId ++ " (" ++ lock.lockId
        ++ "): " ++ text))

-- ════════════════════════════════════════════════════════════════════════
-- Changes, checks, reviews and handoffs
-- ════════════════════════════════════════════════════════════════════════

/-- `list_changes`. -/
def listChanges (taskId : String) : LedgerQuery (List CodeChangeRecord) := fun s => do
  let changes ← reloadAll CodeChangeRecord.reload
    (s.changes.files.filter fun c => c.taskId = taskId)
  return sortedBy CodeChangeRecord.changeId changes

/-- `save_change`. -/
def saveChange (change : CodeChangeRecord) : LedgerAction Unit := .write (Ledger.putChange change)

/-- The removal of a change file, if there is one of the name. -/
def removeChangeFile (taskId name : String) : LedgerAction Unit :=
  .write (Ledger.dropChangeFile taskId name)

/-- `list_checks`. -/
def listChecks (taskId : String) : LedgerQuery (List ImplementationCheckRecord) := fun s => do
  let checks ← reloadAll ImplementationCheckRecord.reload
    (s.checks.files.filter fun c => c.taskId = taskId)
  return sortedBy ImplementationCheckRecord.checkId checks

/-- `save_check`. -/
def saveCheck (check : ImplementationCheckRecord) : LedgerAction Unit :=
  .write (Ledger.putCheck check)

/-- `list_code_reviews`. -/
def listCodeReviews (taskId : String) : LedgerQuery (List CodeReviewRecord) := fun s => do
  let reviews ← reloadAll CodeReviewRecord.reload
    (s.reviews.files.filter fun r => r.taskId = taskId)
  return sortedBy CodeReviewRecord.reviewId reviews

/-- `save_code_review`. -/
def saveCodeReview (review : CodeReviewRecord) : LedgerAction Unit :=
  .write (Ledger.putReview review)

/-- The refusals of a listing of handoffs name the malformed file; their text is
that of the file's own refusal. -/
def listHandoffs (taskId : String) : LedgerQuery (List TaskHandoffRecord) := fun s => do
  let handoffs ← reloadAll (fun h => h.reloadWith "")
    (s.handoffs.files.filter fun h => h.taskId = taskId)
  return sortedBy TaskHandoffRecord.createdAt handoffs

/-- `resolve_handoff`: the context body is the file's body. -/
def resolveHandoff (taskId handoffRef : String) : LedgerQuery TaskHandoffRecord := do
  let normalizedId ← (normalizeResourceRef handoffRef "handoff" : Except Raised String)
  let s ← read
  match s.handoffs.lookup (taskId, normalizedId) with
  | some stored =>
    stored.reloadWith (Runtime.normalizeNewlines (Text.rstrip stored.contextBody ++ "\n"))
  | none => throw (launchError ("Handoff not found: " ++ handoffRef))

/-- `save_handoff`. -/
def saveHandoff (handoff : TaskHandoffRecord) : LedgerAction Unit :=
  .write (Ledger.putHandoff handoff)

-- ════════════════════════════════════════════════════════════════════════
-- Todos, links and requirements
-- ════════════════════════════════════════════════════════════════════════

/-- The records filed under a task. -/
def filedUnder {α : Type} (taskId : String) (files : List (Filed α)) : List α :=
  (files.filter fun f => f.owner = taskId).map Filed.record

/-- `load_todos`. -/
def loadTodos (taskId : String) : LedgerQuery (List TaskTodo) := fun s => do
  let todos ← reloadAll TaskTodo.reload (filedUnder taskId s.todos.files)
  return sortedBy TaskTodo.id todos

/-- `save_todos`. -/
def saveTodos (taskId : String) (todos : List TaskTodo) : LedgerAction Unit :=
  .write (Ledger.putTodos taskId todos)

/-- `_link_id_from_path`. -/
def linkIdFromPath (path : String) : String :=
  "link-" ++ String.ofList ((Runtime.contentHash path).toList.take 8)

/-- `load_links`. -/
def loadLinks (taskId : String) : LedgerQuery (List FileLink) := fun s => do
  let links ← reloadAll FileLink.reload (filedUnder taskId s.links.files)
  return sortedBy (fun l => l.id.getD "") links

/-- `save_links`: each link is filed with its id, or one made from its path, and
with its task. -/
def saveLinks (taskId : String) (links : List FileLink) : LedgerAction Unit :=
  .write <| Ledger.putLinks taskId <| links.map fun l =>
    { l with id := orOption l.id (some (linkIdFromPath l.path)), taskId := some taskId }

/-- `_requirement_id_from_task`. -/
def requirementIdFromTask (taskId : String) : String :=
  let digits := if Text.startsWith taskId "task-" then
      (Text.dropStart taskId "task-").toList.takeWhile Char.isDigit
    else []
  if digits.isEmpty then "req-" ++ taskId else "req-" ++ String.ofList digits

/-- `load_requirements`. -/
def loadRequirements (taskId : String) : LedgerQuery (List DependencyRequirement) := fun s => do
  let requirements ← reloadAll DependencyRequirement.reload
    (filedUnder taskId s.requirements.files)
  return sortedBy (fun r => r.id.getD "") requirements

/-- `save_requirements`. -/
def saveRequirements (taskId : String) (requirements : List DependencyRequirement) :
    LedgerAction Unit :=
  .write <| Ledger.putRequirements taskId <| requirements.map fun r =>
    { r with id := orOption r.id (some (requirementIdFromTask r.taskId)) }

-- ════════════════════════════════════════════════════════════════════════
-- Records of the ledger
-- ════════════════════════════════════════════════════════════════════════

/-- `list_introductions`. -/
def listIntroductions : LedgerQuery (List IntroductionRecord) := fun s => do
  let introductions ← reloadAll IntroductionRecord.reload s.introductions.files
  return sortedBy IntroductionRecord.id introductions

/-- `resolve_introduction`. -/
def resolveIntroduction (ref : String) : LedgerQuery IntroductionRecord := do
  let introductions ← listIntroductions
  match introductions.find? fun i => i.id = ref ∨ i.slug = Runtime.lower (Text.strip ref) with
  | some introduction => return introduction
  | none => throw (launchError ("Introduction not found: " ++ ref))

/-- `save_introduction`. -/
def saveIntroduction (introduction : IntroductionRecord) : LedgerAction Unit :=
  .write (Ledger.putIntroduction introduction)

/-- `task_numeric_sort_key`. -/
def taskNumericSortKey (taskId : String) : Nat :=
  (Runtime.parseNumber "task" taskId).getD 1000000000

/-- The order of `list_releases`: by boundary, then by version. -/
def releaseBefore (a b : ReleaseRecord) : Bool :=
  let m := taskNumericSortKey a.boundaryTaskId
  let n := taskNumericSortKey b.boundaryTaskId
  m < n || m = n && (a.boundaryTaskId < b.boundaryTaskId
    || a.boundaryTaskId = b.boundaryTaskId && decide (a.version ≤ b.version))

/-- `list_releases`. -/
def listReleases : LedgerQuery (List ReleaseRecord) := fun s => do
  let releases ← reloadAll ReleaseRecord.reload s.releases.files
  return releases.insertionSort fun a b => releaseBefore a b = true

/-- `save_release`. -/
def saveRelease (release : ReleaseRecord) : LedgerAction Unit := fun s =>
  match s.releases.lookup release.version with
  | some _ =>
    (.error (launchError ("Release version already exists: " ++ release.version)), s)
  | none => (.ok (), s.putRelease release)

/-- `load_active_task_state`. -/
def loadActiveTaskState : LedgerQuery (Option ActiveTaskState) := fun s =>
  match s.activeTask with
  | none => .ok none
  | some state => some <$> state.reload

/-- `save_active_task_state`. -/
def saveActiveTaskState (state : ActiveTaskState) : LedgerAction Unit :=
  .write (Ledger.putActiveTask (some state))

/-- `clear_active_task_state`: the state is loaded before the file is removed. -/
def clearActiveTaskState : LedgerAction Unit := do
  let _ ← loadActiveTaskState
  .write (Ledger.putActiveTask none)

/-- The dependency listing of `rebuild_v2_indexes`. -/
def loadAllRequirements (s : Ledger) : List TaskRecord → Except Raised Unit
  | [] => .ok ()
  | task :: rest => do
    let _ ← loadRequirements task.id s
    loadAllRequirements s rest

/-- `rebuild_v2_indexes`: the indexes are derived, so only the reads that can
raise are left. -/
def rebuildV2Indexes : LedgerQuery Unit := fun s => do
  let tasks ← listTasks s
  let _ ← listIntroductions s
  let _ ← loadActiveLocks s
  loadAllRequirements s tasks

end Taskledger
