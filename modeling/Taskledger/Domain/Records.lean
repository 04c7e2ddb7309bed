import Taskledger.Domain.Sidecars

/-!
# Records of a ledger

Tasks with their plans, questions, runs, locks, changes, checks, reviews and
handoffs, and the records of the ledger itself: introductions, releases,
events and the active-task pointer.
-/

namespace Taskledger

open Library

/-- `_plan_id`. -/
def planId (version : Nat) : String := "plan-v" ++ Nat.repr version

/-- The decimal digits of a text as a number. -/
def digits? : List Char → Option Nat
  | [] => none
  | cs => cs.foldl (fun acc c => match acc with
      | some n => if c.isDigit then some (10 * n + (c.toNat - '0'.toNat)) else none
      | none => none) (some 0)

/-- `_plan_version_from_id`. -/
def planVersionFromId : Option String → Option Nat
  | none => none
  | some text =>
    if Text.startsWith text "plan-v" then digits? (Text.dropStart text "plan-v").toList else none

/-- The body of a record read back from the file it was written to. -/
def fileBody [Runtime] (body : String) : String :=
  Text.rstripNewlines
    (Runtime.normalizeNewlines (Runtime.normalizeNewlines (Text.rstrip body ++ "\n")))

/-- A body reads back without its trailing blanks, and with unified line ends. -/
theorem fileBody_eq [Runtime] (body : String) :
    fileBody body = Text.normalizeNewlines (Text.rstrip body) := by
  have hlines : ∀ cs, Text.unifyLineEnds false (Text.unifyLineEnds false cs) =
      Text.unifyLineEnds false cs := fun cs =>
    Text.unifyLineEnds_of_not_mem (Text.not_mem_unifyLineEnds false cs)
  simp only [fileBody, Runtime.normalizeNewlines_eq, Text.normalizeNewlines, Text.rstripNewlines,
    Text.rstrip, String.toList_append, String.toList_ofList, hlines]
  rw [String.ofList_inj, show "\n".toList = ['\n'] from rfl]
  rcases Text.dropTrailing_last Text.isSpace body.toList with hnil | ⟨init, c, hlast, hc⟩
  · rw [hnil]
    rfl
  · have hr : c ≠ '\r' := fun h => by simp [h, Text.isSpace] at hc
    have hn : c ≠ '\n' := fun h => by simp [h, Text.isSpace] at hc
    rw [hlast, List.append_assoc, List.singleton_append, Text.unifyLineEnds_append hr,
      Text.unifyLineEnds_concat hr hn]
    have hend : Text.unifyLineEnds false ['\n'] = ['\n'] := rfl
    rw [hend, Text.dropTrailing_concat, if_pos (by simp), Text.dropTrailing_concat,
      if_neg (by simpa using hn)]

/-- A body that was read reads back as it is. -/
theorem fileBody_fileBody [Runtime] (body : String) : fileBody (fileBody body) = fileBody body := by
  rw [fileBody_eq, fileBody_eq]
  simp only [Text.normalizeNewlines, Text.rstrip, String.toList_ofList]
  rw [String.ofList_inj]
  rcases Text.dropTrailing_last Text.isSpace body.toList with hnil | ⟨init, c, hlast, hc⟩
  · rw [hnil]
    rfl
  · have hr : c ≠ '\r' := fun h => by simp [h, Text.isSpace] at hc
    have hn : c ≠ '\n' := fun h => by simp [h, Text.isSpace] at hc
    have hkept : Text.dropTrailing Text.isSpace (Text.unifyLineEnds false (init ++ [c])) =
        Text.unifyLineEnds false (init ++ [c]) := by
      rw [Text.unifyLineEnds_concat hr hn, Text.dropTrailing_concat, if_neg (by simp [hc])]
    rw [hlast, hkept]
    exact Text.unifyLineEnds_of_not_mem (Text.not_mem_unifyLineEnds false _)

/-- The first refusal of a list of readings, or all the records read. -/
def reloadAll {α : Type} (reload : α → Except Raised α) : List α → Except Raised (List α)
  | [] => .ok []
  | a :: rest => do
    let first ← reload a
    let others ← reloadAll reload rest
    return first :: others

-- ════════════════════════════════════════════════════════════════════════
-- Tasks
-- ════════════════════════════════════════════════════════════════════════

structure TaskRecord where
  id : String
  slug : String
  title : String
  body : String
  statusStage : TaskStatusStage := .draft
  createdAt : String
  updatedAt : String
  descriptionSummary : Option String := none
  priority : Option String := none
  labels : List String := []
  owner : Option String := none
  introductionRef : Option String := none
  requirements : List String := []
  fileLinks : List FileLink := []
  todos : List TaskTodo := []
  latestPlanVersion : Option Nat := none
  acceptedPlanVersion : Option Nat := none
  latestPlanningRun : Option String := none
  latestImplementationRun : Option String := none
  latestValidationRun : Option String := none
  codeChangeLogRefs : List String := []
  notes : List String := []
  parentTaskId : Option String := none
  parentRelation : Option String := none
  closedAt : Option String := none
  closedBy : Option ActorRef := none
  closureNote : Option String := none
  archivedAt : Option String := none
  archivedBy : Option ActorRef := none
  archiveReason : Option String := none
  taskType : TaskType := .managed
  recordedAt : Option String := none
  recordedBy : Option ActorRef := none
  deriving DecidableEq

/-- `is_archived_task`. -/
def isArchivedTask (task : TaskRecord) : Bool := task.archivedAt.isSome

/-- An entry of a mapping that is written only when there is a value. -/
def optionalEntry (key : String) : Option Value → Dict
  | none => []
  | some v => [(key, v)]

namespace TaskRecord

def toDict (t : TaskRecord) : Dict :=
  ([("schema_version", .int 1),
    ("object_type", .str "task"),
    ("file_version", .str "v2"),
    ("id", .str t.id),
    ("slug", .str t.slug),
    ("title", .str t.title),
    ("status", .str (value t.statusStage)),
    ("status_stage", .str (value t.statusStage)),
    ("created_at", .str t.createdAt),
    ("updated_at", .str t.updatedAt),
    ("description_summary", .ofOption t.descriptionSummary),
    ("priority", .ofOption t.priority),
    ("labels", .ofStrings t.labels),
    ("owner", .ofOption t.owner),
    ("intro_refs", .ofStrings (orOption t.introductionRef none).toList),
    ("introduction_ref", .ofOption t.introductionRef),
    ("requirements", .ofStrings t.requirements),
    ("file_links", .list (t.fileLinks.map fun l => .dict l.toDict)),
    ("todos", .list (t.todos.map fun todo => .dict todo.toDict)),
    ("latest_plan", .ofOption (t.latestPlanVersion.map planId)),
    ("latest_plan_version", .ofNat? t.latestPlanVersion),
    ("accepted_plan", .ofOption (t.acceptedPlanVersion.map planId)),
    ("accepted_plan_version", .ofNat? t.acceptedPlanVersion),
    ("latest_planning_run", .ofOption t.latestPlanningRun),
    ("latest_implementation_run", .ofOption t.latestImplementationRun),
    ("latest_validation_run", .ofOption t.latestValidationRun),
    ("code_change_log_refs", .ofStrings t.codeChangeLogRefs),
    ("notes", .ofStrings t.notes),
    ("body", .str t.body),
    ("task_type", .str (value t.taskType))] : Dict)
  ++ optionalEntry "parent_task_id" (t.parentTaskId.map .str)
  ++ optionalEntry "parent_relation" (t.parentRelation.map .str)
  ++ optionalEntry "closed_at" (t.closedAt.map .str)
  ++ optionalEntry "closed_by" (t.closedBy.map fun a => .dict a.toDict)
  ++ optionalEntry "closure_note" (t.closureNote.map .str)
  ++ optionalEntry "archived_at" (t.archivedAt.map .str)
  ++ optionalEntry "archived_by" (t.archivedBy.map fun a => .dict a.toDict)
  ++ optionalEntry "archive_reason" (t.archiveReason.map .str)
  ++ optionalEntry "recorded_at" (t.recordedAt.map .str)
  ++ optionalEntry "recorded_by" (t.recordedBy.map fun a => .dict a.toDict)

/-- `save_task` drops the embedded sidecars, so a task reads back without them. -/
def reload [Runtime] (t : TaskRecord) : Except Raised TaskRecord := do
  requireString "id" t.id
  requireString "slug" t.slug
  requireString "title" t.title
  return { t with
    body := fileBody t.body
    requirements := []
    fileLinks := []
    todos := []
    closedBy := t.closedBy.map ActorRef.reload
    archivedBy := t.archivedBy.map ActorRef.reload
    recordedBy := t.recordedBy.map ActorRef.reload }

end TaskRecord

structure IntroductionRecord where
  id : String
  slug : String
  title : String
  body : String
  createdAt : String
  updatedAt : String
  labels : List String := []
  deriving DecidableEq

namespace IntroductionRecord

def toDict (i : IntroductionRecord) : Dict :=
  [("schema_version", .int 1),
    ("object_type", .str "intro"),
    ("file_version", .str "v2"),
    ("id", .str i.id),
    ("slug", .str i.slug),
    ("title", .str i.title),
    ("created_at", .str i.createdAt),
    ("updated_at", .str i.updatedAt),
    ("labels", .ofStrings i.labels),
    ("body", .str i.body)]

def reload [Runtime] (i : IntroductionRecord) : Except Raised IntroductionRecord := do
  requireString "id" i.id
  requireString "slug" i.slug
  requireString "title" i.title
  return { i with body := fileBody i.body }

end IntroductionRecord

-- ════════════════════════════════════════════════════════════════════════
-- Plans and questions
-- ════════════════════════════════════════════════════════════════════════

structure PlanRecord where
  taskId : String
  planVersion : Nat
  body : String
  status : PlanStatus := .proposed
  createdAt : String
  createdBy : ActorRef := {}
  supersedes : Option Nat := none
  questionRefs : List String := []
  criteria : List AcceptanceCriterion := []
  todos : List TaskTodo := []
  generationReason : Option String := none
  basedOnQuestionIds : List String := []
  basedOnAnswerHash : Option String := none
  approvedAt : Option String := none
  approvedBy : Option ActorRef := none
  approvalNote : Option String := none
  approvalSource : Option String := none
  approvedPlanHash : Option String := none
  goal : Option String := none
  files : List String := []
  testCommands : List String := []
  expectedOutputs : List String := []
  todosWaivedReason : Option String := none
  deriving DecidableEq

namespace PlanRecord

def toDict (p : PlanRecord) : Dict :=
  [("schema_version", .int 1),
    ("object_type", .str "plan"),
    ("file_version", .str "v2"),
    ("task_id", .str p.taskId),
    ("plan_id", .str (planId p.planVersion)),
    ("version", .int p.planVersion),
    ("plan_version", .int p.planVersion),
    ("status", .str (value p.status)),
    ("created_at", .str p.createdAt),
    ("created_by", .dict p.createdBy.toDict),
    ("supersedes", .ofNat? p.supersedes),
    ("question_refs", .ofStrings p.questionRefs),
    ("criteria", .list (p.criteria.map fun c => .dict c.toDict)),
    ("todos", .list (p.todos.map fun t => .dict t.toDict)),
    ("generation_reason", .ofOption p.generationReason),
    ("based_on_question_ids", .ofStrings p.basedOnQuestionIds),
    ("based_on_answer_hash", .ofOption p.basedOnAnswerHash),
    ("supersedes_plan_id", .ofOption (p.supersedes.map planId)),
    ("approved_at", .ofOption p.approvedAt),
    ("approved_by", .ofDict? (p.approvedBy.map ActorRef.toDict)),
    ("approval_note", .ofOption p.approvalNote),
    ("approval_source", .ofOption p.approvalSource),
    ("approved_plan_hash", .ofOption p.approvedPlanHash),
    ("body", .str p.body),
    ("goal", .ofOption p.goal),
    ("files", .ofStrings p.files),
    ("test_commands", .ofStrings p.testCommands),
    ("expected_outputs", .ofStrings p.expectedOutputs),
    ("todos_waived_reason", .ofOption p.todosWaivedReason)]

def reload [Runtime] (p : PlanRecord) : Except Raised PlanRecord := do
  requireString "task_id" p.taskId
  let criteria ← reloadAll AcceptanceCriterion.reload p.criteria
  let todos ← reloadAll TaskTodo.reload p.todos
  return { p with
    body := fileBody p.body
    createdBy := p.createdBy.reload
    criteria := criteria
    todos := todos
    basedOnQuestionIds :=
      if p.basedOnQuestionIds = [] then p.questionRefs else p.basedOnQuestionIds
    approvedBy := p.approvedBy.map ActorRef.reload }

end PlanRecord

structure QuestionRecord where
  id : String
  taskId : String
  question : String
  planVersion : Option Nat := none
  status : QuestionStatus := .open
  createdAt : String
  answeredAt : Option String := none
  answeredBy : Option String := none
  answeredByActor : Option ActorRef := none
  askedByActor : Option ActorRef := none
  askedInHarness : Option HarnessRef := none
  requiredForPlan : Bool := false
  answerSource : Option String := none
  answer : Option String := none
  deriving DecidableEq

namespace QuestionRecord

def toDict (q : QuestionRecord) : Dict :=
  [("schema_version", .int 1),
    ("object_type", .str "question"),
    ("file_version", .str "v2"),
    ("id", .str q.id),
    ("task_id", .str q.taskId),
    ("plan_version", .ofNat? q.planVersion),
    ("status", .str (value q.status)),
    ("created_at", .str q.createdAt),
    ("answered_at", .ofOption q.answeredAt),
    ("answered_by", .ofOption q.answeredBy),
    ("answered_by_actor", .ofDict? (q.answeredByActor.map ActorRef.toDict)),
    ("asked_by_actor", .ofDict? (q.askedByActor.map ActorRef.toDict)),
    ("asked_in_harness", .ofDict? (q.askedInHarness.map HarnessRef.toDict)),
    ("required_for_plan", .bool q.requiredForPlan),
    ("answer_source", .ofOption q.answerSource),
    ("question", .str q.question),
    ("answer", .ofOption q.answer)]

def reload (q : QuestionRecord) : Except Raised QuestionRecord := do
  requireString "id" q.id
  requireString "task_id" q.taskId
  requireString "question" q.question
  let harness ← HarnessRef.reload? q.askedInHarness
  return { q with
    answeredByActor := q.answeredByActor.map ActorRef.reload
    askedByActor := q.askedByActor.map ActorRef.reload
    askedInHarness := harness }

end QuestionRecord

-- ════════════════════════════════════════════════════════════════════════
-- Runs and locks
-- ════════════════════════════════════════════════════════════════════════

structure TaskRunRecord where
  runId : String
  taskId : String
  runType : RunType
  status : RunStatus := .running
  startedAt : String
  finishedAt : Option String := none
  actor : ActorRef := {}
  harness : Option HarnessRef := none
  basedOnPlanVersion : Option Nat := none
  basedOnImplementationRun : Option String := none
  resumesRunId : Option String := none
  summary : Option String := none
  worklog : List String := []
  deviationsFromPlan : List String := []
  changeRefs : List String := []
  checkRefs : List String := []
  todoUpdates : List String := []
  artifactRefs : List String := []
  checks : List ValidationCheck := []
  evidence : List String := []
  recommendation : Option String := none
  result : Option ValidationResult := none
  handoffRefs : List String := []
  actorHistory : List ActorRef := []
  basedOnPlan : Option String := none
  workspaceGitCommit : Option String := none
  workspaceDirty : Option Bool := none
  workspaceDiffHash : Option String := none
  workspaceStatusHash : Option String := none
  workspaceSnapshotAt : Option String := none
  deriving DecidableEq

namespace TaskRunRecord

/-- `plan_ref`. -/
def planRef (r : TaskRunRecord) : Option String := r.basedOnPlanVersion.map planId

def toDict (r : TaskRunRecord) : Dict :=
  [("schema_version", .int 1),
    ("object_type", .str "run"),
    ("file_version", .str "v2"),
    ("run_id", .str r.runId),
    ("task_id", .str r.taskId),
    ("run_type", .str (value r.runType)),
    ("status", .str (value r.status)),
    ("started_at", .str r.startedAt),
    ("finished_at", .ofOption r.finishedAt),
    ("actor", .dict r.actor.toDict),
    ("harness", .ofDict? (r.harness.map HarnessRef.toDict)),
    ("based_on_plan", .ofOption (orOption r.basedOnPlan r.planRef)),
    ("based_on_plan_version", .ofNat? r.basedOnPlanVersion),
    ("based_on_implementation_run", .ofOption r.basedOnImplementationRun),
    ("resumes_run_id", .ofOption r.resumesRunId),
    ("summary", .ofOption r.summary),
    ("worklog", .ofStrings r.worklog),
    ("deviations_from_plan", .ofStrings r.deviationsFromPlan),
    ("change_refs", .ofStrings r.changeRefs),
    ("check_refs", .ofStrings r.checkRefs),
    ("todo_updates", .ofStrings r.todoUpdates),
    ("artifact_refs", .ofStrings r.artifactRefs),
    ("checks", .list (r.checks.map fun c => .dict c.toDict)),
    ("evidence", .ofStrings r.evidence),
    ("recommendation", .ofOption r.recommendation),
    ("result", .ofOption (r.result.map value)),
    ("handoff_refs", .ofStrings r.handoffRefs),
    ("actor_history", .list (r.actorHistory.map fun a => .dict a.toDict)),
    ("workspace_git_commit", .ofOption r.workspaceGitCommit),
    ("workspace_dirty", .ofBool? r.workspaceDirty),
    ("workspace_diff_hash", .ofOption r.workspaceDiffHash),
    ("workspace_status_hash", .ofOption r.workspaceStatusHash),
    ("workspace_snapshot_at", .ofOption r.workspaceSnapshotAt)]

/-- A missing or zero plan version is read off the plan id. -/
def reload (r : TaskRunRecord) : Except Raised TaskRunRecord := do
  requireString "run_id" r.runId
  requireString "task_id" r.taskId
  let harness ← HarnessRef.reload? r.harness
  let checks ← reloadAll ValidationCheck.reload r.checks
  return { r with
    actor := r.actor.reload
    harness := harness
    basedOnPlanVersion := match r.basedOnPlanVersion with
      | some (n + 1) => some (n + 1)
      | _ => planVersionFromId (orOption r.basedOnPlan r.planRef)
    basedOnPlan := orOption r.basedOnPlan r.planRef
    checks := checks
    actorHistory := r.actorHistory.map ActorRef.reload }

end TaskRunRecord

/-- One entry of a lock's transfer history: old holder, new holder, time. -/
abbrev LockTransfer : Type := String × String × String

structure TaskLock where
  lockId : String
  taskId : String
  /-- The run type that corresponds to the lock's stage. -/
  runType : RunType
  runId : String
  createdAt : String
  expiresAt : Option String
  reason : String
  holder : ActorRef
  leaseSeconds : Nat := 7200
  lastHeartbeatAt : Option String := none
  brokenAt : Option String := none
  brokenBy : Option ActorRef := none
  brokenReason : Option String := none
  actor : Option ActorRef := none
  harness : Option HarnessRef := none
  transferHistory : List LockTransfer := []
  transferDate : Option String := none
  deriving DecidableEq

namespace TaskLock

/-- The stage is one of the active stages, one for each run type. -/
def stage (l : TaskLock) : TaskStatusStage := l.runType.stage

def toDict (l : TaskLock) : Dict :=
  [("schema_version", .int 1),
    ("object_type", .str "lock"),
    ("file_version", .str "v2"),
    ("lock_id", .str l.lockId),
    ("task_id", .str l.taskId),
    ("stage", .str (value l.stage)),
    ("run_type", .str (value l.runType)),
    ("run_id", .str l.runId),
    ("created_at", .str l.createdAt),
    ("expires_at", .ofOption l.expiresAt),
    ("lease_seconds", .int l.leaseSeconds),
    ("last_heartbeat_at", .ofOption l.lastHeartbeatAt),
    ("reason", .str l.reason),
    ("holder", .dict l.holder.toDict),
    ("broken_at", .ofOption l.brokenAt),
    ("broken_by", .ofDict? (l.brokenBy.map ActorRef.toDict)),
    ("broken_reason", .ofOption l.brokenReason),
    ("actor", .ofDict? (l.actor.map ActorRef.toDict)),
    ("harness", .ofDict? (l.harness.map HarnessRef.toDict)),
    ("transfer_history",
      .list (l.transferHistory.map fun h => .ofStrings [h.1, h.2.1, h.2.2])),
    ("transfer_date", .ofOption l.transferDate)]

def reload (l : TaskLock) : Except Raised TaskLock := do
  requireString "lock_id" l.lockId
  requireString "task_id" l.taskId
  requireString "run_id" l.runId
  requireString "created_at" l.createdAt
  requireString "reason" l.reason
  let harness ← HarnessRef.reload? l.harness
  return { l with
    holder := l.holder.reload
    leaseSeconds := if l.leaseSeconds = 0 then 7200 else l.leaseSeconds
    brokenBy := l.brokenBy.map ActorRef.reload
    actor := l.actor.map ActorRef.reload
    harness := harness }

end TaskLock

-- ════════════════════════════════════════════════════════════════════════
-- Changes, checks and reviews
-- ════════════════════════════════════════════════════════════════════════

structure CodeChangeRecord where
  changeId : String
  taskId : String
  implementationRun : String
  timestamp : String
  kind : String
  path : String
  summary : String
  gitCommit : Option String := none
  gitDiffStat : Option String := none
  command : Option String := none
  beforeHash : Option String := none
  afterHash : Option String := none
  exitCode : Option Int := none
  deriving DecidableEq

namespace CodeChangeRecord

def toDict (c : CodeChangeRecord) : Dict :=
  [("schema_version", .int 1),
    ("object_type", .str "change"),
    ("file_version", .str "v2"),
    ("change_id", .str c.changeId),
    ("task_id", .str c.taskId),
    ("implementation_run", .str c.implementationRun),
    ("timestamp", .str c.timestamp),
    ("kind", .str c.kind),
    ("path", .str c.path),
    ("summary", .str c.summary),
    ("git_commit", .ofOption c.gitCommit),
    ("git_diff_stat", .ofOption c.gitDiffStat),
    ("command", .ofOption c.command),
    ("before_hash", .ofOption c.beforeHash),
    ("after_hash", .ofOption c.afterHash),
    ("exit_code", (c.exitCode.map Value.int).getD .null)]

def reload (c : CodeChangeRecord) : Except Raised CodeChangeRecord := do
  requireString "change_id" c.changeId
  requireString "task_id" c.taskId
  requireString "implementation_run" c.implementationRun
  requireString "kind" c.kind
  requireString "path" c.path
  requireString "summary" c.summary
  return c

end CodeChangeRecord

inductive CheckStatus where
  | passed | failed | unknown
  deriving DecidableEq

inductive CheckCategory where
  | test | lint | format | typecheck | build | security | other
  deriving DecidableEq

instance : Enumeration CheckStatus where
  members := [.passed, .failed, .unknown]
  value
    | .passed => "passed"
    | .failed => "failed"
    | .unknown => "unknown"
  complete a := by cases a <;> simp
  distinct := by decide

instance : Enumeration CheckCategory where
  members := [.test, .lint, .format, .typecheck, .build, .security, .other]
  value
    | .test => "test"
    | .lint => "lint"
    | .format => "format"
    | .typecheck => "typecheck"
    | .build => "build"
    | .security => "security"
    | .other => "other"
  complete a := by cases a <;> simp
  distinct := by decide

structure ImplementationCheckRecord where
  checkId : String
  taskId : String
  implementationRun : String
  timestamp : String
  command : String
  argv : List String := []
  exitCode : Option Int := none
  status : CheckStatus := .unknown
  category : CheckCategory := .other
  summary : Option String := none
  stdoutRef : Option String := none
  stderrRef : Option String := none
  combinedRef : Option String := none
  deriving DecidableEq

namespace ImplementationCheckRecord

def toDict (c : ImplementationCheckRecord) : Dict :=
  [("schema_version", .int 1),
    ("object_type", .str "implementation_check"),
    ("file_version", .str "v2"),
    ("check_id", .str c.checkId),
    ("task_id", .str c.taskId),
    ("implementation_run", .str c.implementationRun),
    ("timestamp", .str c.timestamp),
    ("command", .str c.command),
    ("argv", .ofStrings c.argv),
    ("exit_code", (c.exitCode.map Value.int).getD .null),
    ("status", .str (value c.status)),
    ("category", .str (value c.category)),
    ("summary", .ofOption c.summary),
    ("stdout_ref", .ofOption c.stdoutRef),
    ("stderr_ref", .ofOption c.stderrRef),
    ("combined_ref", .ofOption c.combinedRef)]

def reload (c : ImplementationCheckRecord) : Except Raised ImplementationCheckRecord := do
  requireString "check_id" c.checkId
  requireString "task_id" c.taskId
  requireString "implementation_run" c.implementationRun
  requireString "command" c.command
  return c

end ImplementationCheckRecord

inductive ReviewResult where
  | pass | fail | blocked
  deriving DecidableEq

inductive ReviewSource where
  | workingTree | commit | manual
  deriving DecidableEq

instance : Enumeration ReviewResult where
  members := [.pass, .fail, .blocked]
  value
    | .pass => "pass"
    | .fail => "fail"
    | .blocked => "blocked"
  complete a := by cases a <;> simp
  distinct := by decide

instance : Enumeration ReviewSource where
  members := [.workingTree, .commit, .manual]
  value
    | .workingTree => "working_tree"
    | .commit => "commit"
    | .manual => "manual"
  complete a := by cases a <;> simp
  distinct := by decide

structure CodeReviewRecord where
  reviewId : String
  taskId : String
  implementationRun : Option String
  reviewedAt : String
  result : ReviewResult := .blocked
  source : ReviewSource := .manual
  body : String := ""
  summary : Option String := none
  reviewer : ActorRef := {}
  harness : Option HarnessRef := none
  workerStepId : Option String := none
  handoffId : Option String := none
  gitBranch : Option String := none
  gitCommit : Option String := none
  gitStatusShort : Option String := none
  gitDiffStat : Option String := none
  gitStagedDiffStat : Option String := none
  gitChangedPaths : List String := []
  gitDiffHash : Option String := none
  artifactRefs : List String := []
  deriving DecidableEq

namespace CodeReviewRecord

def toDict (r : CodeReviewRecord) : Dict :=
  [("schema_version", .int 1),
    ("object_type", .str "code_review"),
    ("file_version", .str "v2"),
    ("review_id", .str r.reviewId),
    ("task_id", .str r.taskId),
    ("implementation_run", .ofOption r.implementationRun),
    ("reviewed_at", .str r.reviewedAt),
    ("result", .str (value r.result)),
    ("source", .str (value r.source)),
    ("summary", .ofOption r.summary),
    ("body", .str r.body),
    ("reviewer", .dict r.reviewer.toDict),
    ("harness", .ofDict? (r.harness.map HarnessRef.toDict)),
    ("worker_step_id", .ofOption r.workerStepId),
    ("handoff_id", .ofOption r.handoffId),
    ("git_branch", .ofOption r.gitBranch),
    ("git_commit", .ofOption r.gitCommit),
    ("git_status_short", .ofOption r.gitStatusShort),
    ("git_diff_stat", .ofOption r.gitDiffStat),
    ("git_staged_diff_stat", .ofOption r.gitStagedDiffStat),
    ("git_changed_paths", .ofStrings r.gitChangedPaths),
    ("git_diff_hash", .ofOption r.gitDiffHash),
    ("artifact_refs", .ofStrings r.artifactRefs)]

def reload [Runtime] (r : CodeReviewRecord) : Except Raised CodeReviewRecord := do
  requireString "review_id" r.reviewId
  requireString "task_id" r.taskId
  let harness ← HarnessRef.reload? r.harness
  return { r with body := fileBody r.body, reviewer := r.reviewer.reload, harness := harness }

end CodeReviewRecord

-- ════════════════════════════════════════════════════════════════════════
-- Handoffs
-- ════════════════════════════════════════════════════════════════════════

structure TaskHandoffRecord where
  handoffId : String
  taskId : String
  mode : HandoffMode
  contextFor : Option ContextFor := none
  workerStepId : Option String := none
  scope : ContextScope := .task
  todoId : Option String := none
  focusRunId : Option String := none
  contextFormat : ContextFormat := .markdown
  contextHash : Option String := none
  generatedAt : Option String := none
  status : HandoffStatus := .open
  lockPolicy : LockPolicy := .none
  contextBody : String := ""
  createdFromHarness : Option HarnessRef := none
  intendedActorType : Option ActorType := none
  intendedActorName : Option String := none
  intendedHarness : Option String := none
  sourceRunId : Option String := none
  resumesRunId : Option String := none
  claimRunId : Option String := none
  releasedLockId : Option String := none
  claimedAt : Option String := none
  claimedBy : Option ActorRef := none
  claimedInHarness : Option HarnessRef := none
  summary : Option String := none
  nextAction : Option String := none
  createdAt : String
  createdBy : ActorRef := {}
  deriving DecidableEq

namespace TaskHandoffRecord

def toDict (h : TaskHandoffRecord) : Dict :=
  ([("handoff_id", .str h.handoffId),
    ("task_id", .str h.taskId),
    ("mode", .str (value h.mode)),
    ("context_for", .ofOption (h.contextFor.map value)),
    ("scope", .str (value h.scope)),
    ("todo_id", .ofOption h.todoId),
    ("focus_run_id", .ofOption h.focusRunId),
    ("context_format", .str (value h.contextFormat)),
    ("context_hash", .ofOption h.contextHash),
    ("generated_at", .ofOption h.generatedAt),
    ("status", .str (value h.status)),
    ("created_at", .str h.createdAt),
    ("created_by", .dict h.createdBy.toDict),
    ("created_from_harness", .ofDict? (h.createdFromHarness.map HarnessRef.toDict)),
    ("intended_actor_type", .ofOption (h.intendedActorType.map value)),
    ("intended_actor_name", .ofOption h.intendedActorName),
    ("intended_harness", .ofOption h.intendedHarness),
    ("source_run_id", .ofOption h.sourceRunId),
    ("resumes_run_id", .ofOption h.resumesRunId),
    ("claim_run_id", .ofOption h.claimRunId),
    ("lock_policy", .str (value h.lockPolicy)),
    ("released_lock_id", .ofOption h.releasedLockId),
    ("claimed_at", .ofOption h.claimedAt),
    ("claimed_by", .ofDict? (h.claimedBy.map ActorRef.toDict)),
    ("claimed_in_harness", .ofDict? (h.claimedInHarness.map HarnessRef.toDict)),
    ("summary", .ofOption h.summary),
    ("next_action", .ofOption h.nextAction),
    ("context_body", .str h.contextBody),
    ("file_version", .str "v2"),
    ("schema_version", .int 1),
    ("object_type", .str "handoff")] : Dict)
  ++ optionalEntry "worker_step_id" (h.workerStepId.map .str)

/-- Read back with the given context body. -/
def reloadWith (h : TaskHandoffRecord) (contextBody : String) :
    Except Raised TaskHandoffRecord := do
  requireString "handoff_id" h.handoffId
  requireString "task_id" h.taskId
  let createdFrom ← HarnessRef.reload? h.createdFromHarness
  let claimedIn ← HarnessRef.reload? h.claimedInHarness
  return { h with
    contextBody := contextBody
    createdBy := h.createdBy.reload
    createdFromHarness := createdFrom
    claimedBy := h.claimedBy.map ActorRef.reload
    claimedInHarness := claimedIn }

end TaskHandoffRecord

-- ════════════════════════════════════════════════════════════════════════
-- Records of the ledger
-- ════════════════════════════════════════════════════════════════════════

structure ReleaseRecord where
  version : String
  boundaryTaskId : String
  createdAt : String
  createdBy : ActorRef := {}
  note : Option String := none
  taskCount : Option Nat := none
  previousVersion : Option String := none
  deriving DecidableEq

namespace ReleaseRecord

def toDict (r : ReleaseRecord) : Dict :=
  [("schema_version", .int 1),
    ("object_type", .str "release"),
    ("file_version", .str "v2"),
    ("version", .str r.version),
    ("boundary_task_id", .str r.boundaryTaskId),
    ("created_at", .str r.createdAt),
    ("created_by", .dict r.createdBy.toDict),
    ("note", .ofOption r.note),
    ("task_count", .ofNat? r.taskCount),
    ("previous_version", .ofOption r.previousVersion)]

def reload (r : ReleaseRecord) : Except Raised ReleaseRecord := do
  requireString "version" r.version
  requireString "boundary_task_id" r.boundaryTaskId
  return { r with createdBy := r.createdBy.reload }

end ReleaseRecord

structure TaskEvent where
  ts : String
  event : String
  taskId : String
  actor : ActorRef
  harness : Option HarnessRef := none
  eventId : String
  data : Dict := []

namespace TaskEvent

def toDict (e : TaskEvent) : Dict :=
  [("schema_version", .int 1),
    ("object_type", .str "event"),
    ("file_version", .str "v2"),
    ("event_id", .str e.eventId),
    ("ts", .str e.ts),
    ("event", .str e.event),
    ("task_id", .str e.taskId),
    ("actor", .dict e.actor.toDict),
    ("harness", .ofDict? (e.harness.map HarnessRef.toDict)),
    ("data", .dict e.data)]

def reload (e : TaskEvent) : Except Raised TaskEvent := do
  requireString "event_id" e.eventId
  requireString "ts" e.ts
  requireString "event" e.event
  requireString "task_id" e.taskId
  let harness ← HarnessRef.reload? e.harness
  return { e with actor := e.actor.reload, harness := harness }

end TaskEvent

structure ActiveTaskState where
  taskId : String
  activatedAt : String
  activatedBy : ActorRef := {}
  reason : Option String := none
  previousTaskId : Option String := none
  deriving DecidableEq

namespace ActiveTaskState

def toDict (a : ActiveTaskState) : Dict :=
  [("schema_version", .int 1),
    ("object_type", .str "active_task"),
    ("file_version", .str "v2"),
    ("task_id", .str a.taskId),
    ("activated_at", .str a.activatedAt),
    ("activated_by", .dict a.activatedBy.toDict),
    ("reason", .ofOption a.reason),
    ("previous_task_id", .ofOption a.previousTaskId)]

def reload (a : ActiveTaskState) : Except Raised ActiveTaskState := do
  requireString "task_id" a.taskId
  return { a with activatedBy := a.activatedBy.reload }

end ActiveTaskState

end Taskledger
