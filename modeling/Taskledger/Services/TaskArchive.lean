import Taskledger.Services.Tasks

/-!
# Archiving tasks
-/

namespace Taskledger

open Library

variable [Runtime] (env : Env)

/-- `_archive_allowed_status`. -/
def archiveAllowedStatus (stage : TaskStatusStage) : Bool := stage ∈ [.done, .cancelled]

/-- `archive_task` refuses while the lock is live. -/
def refuseLiveLock (task : TaskRecord) : Option TaskLock → Except Raised Unit
  | none => .ok ()
  | some lock => do
    let expired ← lockIsExpired env lock
    raiseIf (expired = false) <|
      cliError ("Cannot archive task " ++ task.id ++ ": active " ++ value lock.stage
        ++ " lock from " ++ lock.runId ++ " is still live.") exitCodeInvalidTransition

/-- The reads and checks of `archive_task` on a task that is not archived. -/
def checkArchive (task : TaskRecord) (force : Bool) : LedgerQuery Unit := do
  let lock ← readLock task.id
  refuseLiveLock env task lock
  raiseIf (task.statusStage ∈ activeTaskStages) <|
    cliError ("Cannot archive task " ++ task.id ++ " while status_stage is "
      ++ value task.statusStage ++ ".") exitCodeInvalidTransition
  raiseIf (archiveAllowedStatus task.statusStage = false ∧ force = false) <|
    cliError ("task archive only allows done/cancelled by default; " ++ task.id ++ " is "
      ++ value task.statusStage ++ ". Use --force with --reason.") exitCodeInvalidTransition

/-- The payload of `archive_task`. -/
def archivePayload (task : TaskRecord) (changed : Bool) : Dict :=
  [("kind", .str "task_archived"),
    ("task_id", .str task.id),
    ("slug", .str task.slug),
    ("archived_at", .ofOption task.archivedAt),
    ("changed", .bool changed)]

/-- The active-task pointer to an archived task is cleared. -/
def clearArchivedPointer (task : TaskRecord) : LedgerAction Unit := do
  let state ← loadActiveTaskState
  if state.any (fun a => a.taskId = task.id) && archiveAllowedStatus task.statusStage then
    clearActiveTaskState
  else pure ()

/-- `archive_task` on a task that is not archived. -/
def writeArchive (task : TaskRecord) (reason : String) (force : Bool) : LedgerAction Dict := do
  checkArchive env task force
  let updated := { task with
    archivedAt := some (utcNow env)
    archivedBy := some (defaultActor env)
    archiveReason := some (Text.strip reason)
    updatedAt := utcNow env }
  saveTask updated
  clearArchivedPointer updated
  appendEvent env updated.id "task.archived"
    [("archived_at", .str (utcNow env)), ("reason", .str (Text.strip reason)),
      ("force", .bool force)]
  rebuildV2Indexes
  return archivePayload updated true

/-- `archive_task`. -/
def archiveTask (ref reason : String) (force : Bool := false) : LedgerAction Dict := do
  raiseIf (Text.isBlank reason) (cliError "task archive requires --reason." exitCodeBadInput)
  let task ← resolveTask ref
  if isArchivedTask task then return archivePayload task false
  else writeArchive env task reason force

/-- `NONTERMINAL_UNARCHIVE_STALE_STAGES`. -/
def nonterminalUnarchiveStaleStages : List TaskStatusStage :=
  [.approved, .implemented, .failedValidation]

/-- An implemented task that is reopened for work has to be implemented again. -/
def staleValidationBlocked (task : TaskRecord) (reopenForWork : Bool) : Bool :=
  reopenForWork && task.statusStage = .implemented

/-- The stage of an unarchived task. -/
def unarchiveTarget (task : TaskRecord) (reopenForWork : Bool) : TaskStatusStage :=
  if staleValidationBlocked task reopenForWork then .failedValidation else task.statusStage

/-- The note a task reopened for work gets. -/
def reopenNote (task : TaskRecord) : String :=
  "Unarchived from non-terminal state " ++ value task.statusStage
    ++ "; old implementation evidence must not be validated directly."

/-- The task `unarchive_task` writes. -/
def unarchivedTask (task : TaskRecord) (slug : String) (reopenForWork : Bool) : TaskRecord :=
  { task with
    slug := slug
    statusStage := unarchiveTarget task reopenForWork
    archivedAt := none
    archivedBy := none
    archiveReason := none
    updatedAt := utcNow env
    notes := task.notes
      ++ if staleValidationBlocked task reopenForWork then [reopenNote task] else [] }

/-- `unarchive_task` refuses a slug of another visible task. -/
def refuseSlugConflict (task : TaskRecord) (slug : String) (visible : List TaskRecord) :
    Except Raised Unit :=
  match visible.find? fun t => t.slug = slug ∧ t.id ≠ task.id with
  | none => .ok ()
  | some other =>
    .error (cliError ("Cannot unarchive " ++ task.id ++ ": slug '" ++ slug ++ "' is used by "
      ++ other.id ++ ". Retry with --slug NEW_SLUG.") exitCodeInvalidTransition)

/-- The slug an unarchived task asks for. -/
def requestedSlug (task : TaskRecord) (slug : Option String) : String :=
  match orOption slug none with
  | some text => Runtime.slugifyRef text "task"
  | none => task.slug

/-- `unarchive_task` on an archived task. -/
def writeUnarchive (task : TaskRecord) (reason : String) (slug : Option String)
    (reopenForWork : Bool) : LedgerAction Dict := do
  raiseIf (task.statusStage ∈ nonterminalUnarchiveStaleStages ∧ reopenForWork = false) <|
    cliError ("Cannot unarchive non-terminal archived task " ++ task.id ++ " in status "
      ++ value task.statusStage ++ (" without selecting recovery mode. "
              ++ "Use --reopen-for-work to restore it as work that must be re-run; "
              ++ "do not validate old implementation evidence directly.")) exitCodeInvalidTransition
  let visible ← listVisibleTasks
  refuseSlugConflict task (requestedSlug task slug) visible
  let updated := unarchivedTask env task (requestedSlug task slug) reopenForWork
  saveTask updated
  appendEvent env updated.id "task.unarchived"
    [("reason", .str (Text.strip reason)),
      ("slug", .str updated.slug),
      ("reopen_for_work", .bool reopenForWork),
      ("target_stage", .str (value updated.statusStage))]
  rebuildV2Indexes
  return [("kind", .str "task_unarchived"),
    ("task_id", .str updated.id),
    ("slug", .str updated.slug),
    ("changed", .bool true),
    ("target_stage", .str (value updated.statusStage)),
    ("stale_validation_blocked", .bool (staleValidationBlocked task reopenForWork))]

/-- `unarchive_task`. -/
def unarchiveTask (ref reason : String) (slug : Option String := none)
    (reopenForWork : Bool := false) : LedgerAction Dict := do
  raiseIf (Text.isBlank reason) (cliError "task unarchive requires --reason." exitCodeBadInput)
  let task ← resolveTask ref true
  if isArchivedTask task then writeUnarchive env task reason slug reopenForWork
  else return [("kind", .str "task_unarchived"), ("task_id", .str task.id),
    ("slug", .str task.slug), ("changed", .bool false)]

end Taskledger
