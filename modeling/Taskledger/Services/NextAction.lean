import Taskledger.Services.Navigation
import Taskledger.Services.Questions
import Taskledger.Services.TaskCollections

/-!
# The next action

What the program says is to be done next with a task, the command for it, and the list of
commands it offers. The command and the list are computed by two functions from the same action
and item.
-/

namespace Taskledger

open Library

-- ════════════════════════════════════════════════════════════════════════
-- Actions, items and commands
-- ════════════════════════════════════════════════════════════════════════

/-- The actions of `next_action_for_task`. -/
inductive NextActionKind where
  | plan | planPropose | questionAnswer | planRegenerate | planApprove
  | implement | implementRestart | implementResume | expiredLockResume | todoWork | implementFinish
  | validate | validateCheck | validateFinish
  | repairLock | repairRunState | repairActiveStage | none | archived
  deriving DecidableEq, Repr

instance : Enumeration NextActionKind where
  members := [.plan, .planPropose, .questionAnswer, .planRegenerate, .planApprove, .implement,
    .implementRestart, .implementResume, .expiredLockResume, .todoWork, .implementFinish,
    .validate, .validateCheck, .validateFinish, .repairLock, .repairRunState, .repairActiveStage,
    .none, .archived]
  value
    | .plan => "plan"
    | .planPropose => "plan-propose"
    | .questionAnswer => "question-answer"
    | .planRegenerate => "plan-regenerate"
    | .planApprove => "plan-approve"
    | .implement => "implement"
    | .implementRestart => "implement-restart"
    | .implementResume => "implement-resume"
    | .expiredLockResume => "expired-lock-resume"
    | .todoWork => "todo-work"
    | .implementFinish => "implement-finish"
    | .validate => "validate"
    | .validateCheck => "validate-check"
    | .validateFinish => "validate-finish"
    | .repairLock => "repair-lock"
    | .repairRunState => "repair-run-state"
    | .repairActiveStage => "repair-active-stage"
    | .none => "none"
    | .archived => "archived"
  complete a := by cases a <;> simp
  distinct := by decide

/-- The item a next action is about. -/
inductive NextItem where
  | question (q : QuestionRecord)
  | answeredQuestion (q : QuestionRecord)
  | todo (t : TaskTodo)
  | criterion (r : CriterionReport)
  | dependency (ref : String)
  | plan (p : PlanRecord)
  | task (t : TaskRecord)
  | lock (t : TaskRecord) (l : TaskLock) (expired : Bool)

/-- `_todo_done_command`. -/
def todoDoneCommand (todoId : String) : String :=
  "taskledger todo done " ++ todoId ++ " --evidence \"...\""

/-- The mappings of `_question_next_item` and its siblings. -/
def NextItem.toDict : NextItem → Dict
  | .question q =>
    [("kind", .str "question"),
      ("id", .str q.id),
      ("text", .str q.question),
      ("status", .str (value q.status)),
      ("required_for_plan", .bool q.requiredForPlan),
      ("plan_version", .ofNat? q.planVersion)]
  | .answeredQuestion q =>
    [("kind", .str "answered_question"),
      ("id", .str q.id),
      ("text", .str q.question),
      ("status", .str (value q.status)),
      ("answer", .ofOption q.answer),
      ("answered_at", .ofOption q.answeredAt),
      ("required_for_plan", .bool q.requiredForPlan),
      ("plan_version", .ofNat? q.planVersion)]
  | .todo t =>
    [("kind", .str "todo"),
      ("id", .str t.id),
      ("text", .str t.text),
      ("status", .str (value t.status)),
      ("mandatory", .bool t.mandatory),
      ("source", .ofOption t.source),
      ("done", .bool t.done),
      ("validation_hint", .ofOption t.validationHint),
      ("done_command_hint", .str (todoDoneCommand t.id))]
  | .criterion r =>
    [("kind", .str "criterion"),
      ("id", .str r.criterion.id),
      ("text", .str r.criterion.text),
      ("mandatory", .bool r.criterion.mandatory),
      ("latest_status", .str (value r.latestStatus)),
      ("satisfied", .bool r.satisfied)]
  | .dependency ref => [("kind", .str "dependency"), ("id", .str ref)]
  | .plan p =>
    [("kind", .str "plan"),
      ("id", .str (planId p.planVersion)),
      ("version", .int p.planVersion),
      ("status", .str (value p.status))]
  | .task t =>
    [("kind", .str "task"), ("id", .str t.id), ("status_stage", .str (value t.statusStage))]
  | .lock t l expired =>
    [("kind", .str "lock"),
      ("id", .str l.lockId),
      ("task_id", .str t.id),
      ("stage", .str (value l.stage)),
      ("run_id", .str l.runId),
      ("expired", .bool expired)]

/-- An entry of the list of commands. -/
structure CommandHint where
  kind : String
  label : String
  command : String
  primary : Bool
  deriving DecidableEq

namespace CommandHint

def toDict (c : CommandHint) : Dict :=
  [("kind", .str c.kind),
    ("label", .str c.label),
    ("command", .str c.command),
    ("primary", .bool c.primary)]

/-- `_command` with `primary=True`. -/
def first (kind label command : String) : CommandHint := ⟨kind, label, command, true⟩

/-- `_command` with `primary=False`. -/
def other (kind label command : String) : CommandHint := ⟨kind, label, command, false⟩

end CommandHint

open CommandHint in
/-- `_todo_command_hints`. -/
def todoHints (todoId : String) : List CommandHint :=
  [first "inspect" "Show next todo" ("taskledger todo show " ++ todoId),
    other "complete" "Mark todo done after evidence exists" (todoDoneCommand todoId)]

/-- `_next_action_command`. -/
def nextActionCommand : NextActionKind → Option String
  | .plan => some "taskledger plan start"
  | .planPropose => some "taskledger plan upsert --file plan.md"
  | .questionAnswer => some "taskledger question answer-many --file answers.yaml"
  | .planRegenerate => some "taskledger plan upsert --from-answers --file plan.md"
  | .planApprove => some "taskledger plan review --version VERSION"
  | .implement => some "taskledger implement start"
  | .implementRestart => some "taskledger implement restart --summary SUMMARY"
  | .implementResume => some "taskledger implement resume --reason REASON"
  | .expiredLockResume =>
    some "taskledger implement resume --repair-expired-lock --reason REASON"
  | .todoWork => some "taskledger implement checklist"
  | .implementFinish => some "taskledger implement finish --summary SUMMARY"
  | .validate => some "taskledger validate start"
  | .validateCheck =>
    some "taskledger validate check --criterion CRITERION --status pass --evidence \"...\""
  | .validateFinish => some "taskledger validate finish --result passed --summary SUMMARY"
  | .repairLock => some "taskledger lock show"
  | .repairRunState => some "taskledger doctor"
  | .repairActiveStage | .none | .archived => Option.none

/-- `taskledger validate check` of a criterion. -/
def checkCommand (criterionId : String) : String :=
  "taskledger validate check --criterion " ++ criterionId ++ " --status pass --evidence \"...\""

def answerCommand (questionId : String) : String :=
  "taskledger question answer " ++ questionId ++ " --text \"...\""

def reviewCommand (version : Nat) : String :=
  "taskledger plan review --version " ++ Nat.repr version

def repairLockCommand (taskId : String) : String :=
  "taskledger repair lock --task " ++ taskId ++ " --reason \"...\""

/-- `_primary_command_for_next_item`. -/
def primaryCommandForNextItem (action : NextActionKind) : Option NextItem → Option String
  | none => nextActionCommand action
  | some (.question q) => some (answerCommand q.id)
  | some (.todo t) => some ("taskledger todo show " ++ t.id)
  | some (.criterion r) => some (checkCommand r.criterion.id)
  | some (.plan p) => some (reviewCommand p.planVersion)
  | some (.task t) =>
    if action = .implementResume ∨ action = .expiredLockResume then
      some (implementResumeCommand t.id)
    else if action = .repairActiveStage then some ("taskledger task show --task " ++ t.id)
    else nextActionCommand action
  | some (.lock t _ _) =>
    if action = .expiredLockResume then
      some ("taskledger implement resume --repair-expired-lock --task " ++ t.id
        ++ " --reason \"...\"")
    else some (repairLockCommand t.id)
  | some (.answeredQuestion _) | some (.dependency _) => nextActionCommand action

/-- The labels of the primary command when there is no item. -/
def labelOfAction : NextActionKind → String
  | .plan => "Start planning"
  | .planPropose => "Propose plan"
  | .planRegenerate => "Regenerate plan from answers"
  | .planApprove => "Review proposed plan"
  | .implement => "Start implementation"
  | .implementRestart => "Restart implementation"
  | .todoWork => "Show implementation checklist"
  | .implementFinish => "Finish implementation"
  | .validate => "Start validation"
  | .validateCheck => "Record validation check"
  | .validateFinish => "Finish validation"
  | .repairLock => "Show current lock"
  | _ => "Show next action"

/-- Its kinds then. -/
def kindOfAction : NextActionKind → String
  | .plan => "start"
  | .planPropose => "regenerate"
  | .planRegenerate => "regenerate"
  | .planApprove => "inspect"
  | .implement => "start"
  | .implementRestart => "restart"
  | .todoWork => "context"
  | .implementFinish => "finish"
  | .validate => "start"
  | .validateCheck => "check"
  | .validateFinish => "finish"
  | .repairLock => "inspect"
  | _ => "context"

/-- The labels of the primary command of an item without commands of its own. -/
def itemLabelOfAction : NextActionKind → String
  | .implement => "Start implementation"
  | .implementRestart => "Restart implementation"
  | .implementResume => "Resume implementation"
  | .implementFinish => "Finish implementation"
  | .expiredLockResume => "Resume with expired lock"
  | .repairActiveStage => "Inspect task state"
  | .validate => "Start validation"
  | .validateFinish => "Finish validation"
  | _ => "Show next action"

/-- Its kinds then. -/
def itemKindOfAction : NextActionKind → String
  | .implement => "start"
  | .implementRestart => "restart"
  | .implementResume => "resume"
  | .implementFinish => "finish"
  | .expiredLockResume => "resume"
  | .repairActiveStage => "inspect"
  | .validate => "start"
  | .validateFinish => "finish"
  | _ => "context"

section Commands

open CommandHint

/-- What `_commands_for_next_item` gives for an item without commands of its own. -/
def commandsOfAction (action : NextActionKind) (item : NextItem) : List CommandHint :=
  match primaryCommandForNextItem action (some item) with
  | none => []
  | some primary =>
    [first (itemKindOfAction action) (itemLabelOfAction action) primary]
      ++ (if action = .implementFinish then
        [other "context" "Show implementation checklist" "taskledger implement checklist"] else [])
      ++ (if action = .validateFinish then
        [other "context" "Show validation status" "taskledger validate status"] else [])

/-- `_commands_for_next_item`. -/
def commandsForNextItem (action : NextActionKind) : Option NextItem → List CommandHint
  | none =>
    match primaryCommandForNextItem action none with
    | none => []
    | some primary => [first (kindOfAction action) (labelOfAction action) primary]
  | some (.question q) =>
    [first "answer" "Answer required question" (answerCommand q.id),
      other "context" "Show question status" "taskledger question status"]
  | some (.answeredQuestion _) =>
    [first "regenerate" "Regenerate plan from answers"
        "taskledger plan upsert --from-answers --file plan.md",
      other "context" "Show answered questions" "taskledger question answers"]
  | some (.todo t) =>
    todoHints t.id
      ++ [other "context" "Show implementation checklist" "taskledger implement checklist"]
  | some (.criterion r) =>
    [first "check" "Record validation check" (checkCommand r.criterion.id),
      other "context" "Show validation status" "taskledger validate status"]
  | some (.plan p) =>
    [first "inspect" "Review proposed plan" (reviewCommand p.planVersion)]
      ++ if action = .planApprove then
        [other "accept" "Accept plan after explicit user approval"
            ("taskledger plan accept --version " ++ Nat.repr p.planVersion
              ++ " --note \"User approved in harness.\""),
          other "revise" "Revise proposed plan" "taskledger plan revise",
          other "export" "Export editable plan"
            ("taskledger plan export --version " ++ Nat.repr p.planVersion ++ " --file ./plan.md")]
        else []
  | some (.task t) =>
    if action = .implementResume ∨ action = .expiredLockResume then
      [first "resume" "Resume implementation" (implementResumeCommand t.id),
        other "context" "Show implementation checklist" "taskledger implement checklist"]
    else if action = .repairActiveStage then
      [first "inspect" "Inspect task state" ("taskledger task show --task " ++ t.id),
        other "inspect" "Run doctor" "taskledger doctor"]
    else commandsOfAction action (.task t)
  | some (.lock t _ _) =>
    [first "repair" "Repair stale lock" (repairLockCommand t.id),
      other "inspect" "Show current lock" "taskledger lock show"]
  | some (.dependency ref) => commandsOfAction action (.dependency ref)

end Commands

-- ════════════════════════════════════════════════════════════════════════
-- Decisions
-- ════════════════════════════════════════════════════════════════════════

/-- `NextActionDecision`. -/
structure NextActionDecision where
  action : NextActionKind
  reason : String
  nextItem : Option NextItem := none
  blockers : List Dict := []
  progress : Dict := []

/-- `_find_run`. -/
def findRun (runs : List TaskRunRecord) (runId : Option String) : Option TaskRunRecord :=
  match runId with
  | none => none
  | some id => runs.find? fun run => run.runId = id

/-- The plan of the accepted version is among the plans, and accepted. -/
def hasAcceptedPlan (task : TaskRecord) (plans : List PlanRecord) : Bool :=
  plans.any fun plan => some plan.planVersion = task.acceptedPlanVersion && plan.status = .accepted

/-- `decide_orphaned_active_stage`. -/
def decideOrphanedActiveStage (task : TaskRecord) (plans : List PlanRecord)
    (runs : List TaskRunRecord) (lock : Option TaskLock) : NextActionDecision :=
  let stageBlocker := blocker "active_stage"
    ("Task status is " ++ value task.statusStage ++ ", but active_stage is missing.")
  match (findRun runs task.latestImplementationRun).filter fun run =>
    task.statusStage = .implementing && isRunningImplementation run && lock.isNone
      && hasAcceptedPlan task plans with
  | some run => {
      action := .implementResume
      reason := "Implementation run is running but the lock is missing."
      nextItem := some (.task task)
      blockers := [stageBlocker,
        blocker "lock" ("Missing active implementation lock for run " ++ run.runId ++ ".")] }
  | none => {
      action := .repairActiveStage
      reason := "Task is " ++ value task.statusStage ++ ", but no matching active lock/run exists."
      nextItem := some (.task task)
      blockers := [stageBlocker] }

/-- The running implementation run of the task that the lock names. -/
def runOfExpiredLock (task : TaskRecord) (lock : TaskLock) (runs : List TaskRunRecord) :
    Option TaskRunRecord :=
  (findRun runs task.latestImplementationRun).filter fun run =>
    isRunningImplementation run && lock.runId = run.runId

/-- The blocker of a lock that belongs to no running run. -/
def unmatchedLockBlocker (lock : TaskLock) : Dict :=
  blocker "lock" ("Task has a " ++ value lock.stage ++ " lock from " ++ lock.runId
    ++ " without a matching running run.")

def repairLockReason : String :=
  "A stale or broken lock must be repaired before work can continue."

/-- `decide_expired_lock_action`; the item is that of the lock. -/
def decideExpiredLockAction (task : TaskRecord) (lock : TaskLock) (runs : List TaskRunRecord)
    (lockItem : NextItem) : NextActionDecision :=
  match runOfExpiredLock task lock runs with
  | some run => {
      action := .expiredLockResume
      reason := "Implementation lock expired; resume to continue the run."
      nextItem := some lockItem
      blockers := [blocker "expired_lock"
        ("Implementation lock for run " ++ run.runId ++ " has expired.")] }
  | none => {
      action := .repairLock
      reason := repairLockReason
      nextItem := some lockItem
      blockers := [unmatchedLockBlocker lock] }

/-- The first question with one of these ids. -/
def firstQuestionByIds (questions : List QuestionRecord) (ids : List String) :
    Option QuestionRecord :=
  questions.find? fun q => q.id ∈ ids

/-- `progress["questions"]` while required questions are open. -/
def openQuestionsProgress (ids : List String) : Dict :=
  [("questions", .dict
    [("required_open", .int ids.length), ("required_open_ids", .ofStrings ids)])]

/-- `progress["questions"]` when answers are not in the latest plan. -/
def staleAnswersProgress (ids : List String) : Dict :=
  [("questions", .dict
    [("required_open", .int 0), ("required_open_ids", .ofStrings []),
      ("answered_since_latest_plan", .ofStrings ids)])]

/-- A blocker about questions. -/
def questionsBlocker (kind message : String) (ids : List String) : Dict :=
  [("kind", .str kind), ("question_ids", .ofStrings ids), ("message", .str message)]

/-- The decision while required questions are open. -/
def openQuestionsDecision (questions : List QuestionRecord) (ids : List String) :
    NextActionDecision where
  action := .questionAnswer
  reason := "Required planning questions are open."
  nextItem := (firstQuestionByIds questions ids).map .question
  blockers := [questionsBlocker "open_questions" "Required planning questions must be answered." ids]
  progress := openQuestionsProgress ids

variable [Runtime]

/-- The required answers that the latest plan does not reflect. -/
def answersToReflect (questions : List QuestionRecord) : Option PlanRecord → List String
  | some plan => staleAnswerQuestionIds questions plan
  | none => (requiredAnswers questions).map QuestionRecord.id

/-- The branch of the active stage `planning`. -/
def planningDecision (task : TaskRecord) : LedgerQuery NextActionDecision := do
  let questions ← listQuestions task.id
  let openQuestions := requiredOpenQuestionIds questions
  let latestPlan ← latestPlanOrNone task.id
  let staleAnswers := answersToReflect questions latestPlan
  return if openQuestions ≠ [] then openQuestionsDecision questions openQuestions
    else if staleAnswers ≠ [] then {
      action := .planRegenerate
      reason := "Answered planning questions should be reflected in the plan."
      nextItem := (firstQuestionByIds questions staleAnswers).map .answeredQuestion
      progress := staleAnswersProgress staleAnswers }
    else {
      action := .planPropose
      reason := "Planning is active; propose the next plan." }

/-- `_first_open_todo_from_report`. -/
def firstOpenTodoFromReport (task : TaskRecord) (openIds : List String) :
    LedgerQuery (Option TaskTodo) := do
  let full ← taskWithSidecars task
  return (full.todos.find? fun t => t.id ∈ openIds && t.status = .active && !t.done).or
    (full.todos.find? fun t => t.id ∈ openIds && !t.done)

/-- The branch of the active stage `implementation`. -/
def implementationDecision (task : TaskRecord) : LedgerQuery NextActionDecision := do
  let report ← buildTodoGateReport task
  let openCount := report.openTodos.length
  let progress : Dict := [("todos", .dict
    [("total", .int report.total),
      ("done", .int (report.total - openCount : Nat)),
      ("open", .int openCount),
      ("open_ids", .ofStrings report.openTodos)])]
  if 0 < openCount then do
    let todo ← firstOpenTodoFromReport task report.openTodos
    return {
      action := .todoWork
      reason := "Implementation is in progress; " ++ Nat.repr openCount ++ " todos remain."
      nextItem := todo.map .todo
      progress := progress }
  else
    return {
      action := .implementFinish
      reason := "All todos done; ready to finish implementation."
      nextItem := some (.task task)
      progress := progress }

/-- A blocker of the gate, as `_compact_next_action_blockers` has it. -/
def compactBlocker (b : Dict) : Dict :=
  ([("kind", .str (Runtime.strOf ((b.get? "kind").getD (.str "blocker")))),
    ("message", .str (Runtime.strOf ((b.get? "message").getD (.str "Next-action blocker"))))] : Dict)
  ++ optionalEntry "ref" (((b.get "ref").asString?.filter (· ≠ "")).map .str)
  ++ optionalEntry "command_hint" ((optionalStringValue (b.get "command_hint")).map .str)

/-- `_validation_progress`. -/
def validationProgress (report : GateReport) : Dict :=
  let satisfied := (report.criteria.filter CriterionReport.satisfied).length
  let blockingIds := (report.blockers.filterMap fun b =>
    (b.get "ref").asString?.filter (· ≠ "")).eraseDups
  [("total", .int report.criteria.length),
    ("satisfied", .int satisfied),
    ("remaining", .int (max blockingIds.length (report.criteria.length - satisfied) : Nat)),
    ("blocking_ids", .ofStrings blockingIds)]

/-- The kinds of blockers, the most urgent first. -/
def blockerPriority : List String :=
  ["criterion_fail", "criterion_missing", "criterion_unsatisfied", "todo_open",
    "no_finished_implementation", "dependency_blocker", "no_accepted_plan", "plan_not_accepted"]

/-- The item of a blocker of one of these kinds, when it names one. -/
def itemOfBlocker (task : TaskRecord) (report : GateReport) (kind : String) (b : Dict) :
    LedgerQuery (Option NextItem) :=
  let ref := (b.get "ref").asString?
  if Text.startsWith kind "criterion_" then
    return ref.bind fun id =>
      (report.criteria.find? fun c => c.criterion.id = id).map .criterion
  else if kind = "todo_open" then
    match ref with
    | none => return none
    | some id => do
      let todo ← firstOpenTodoFromReport task [id]
      return todo.map .todo
  else if kind = "dependency_blocker" then return ref.map .dependency
  else if kind = "no_finished_implementation" then return some (.task task)
  else do
    let plan ← latestPlanOrNone task.id
    return some ((plan.map NextItem.plan).getD (.task task))

/-- The first item that a blocker names, in the order of the kinds. -/
def firstBlockedItem (task : TaskRecord) (report : GateReport) :
    List (String × Dict) → LedgerQuery (Option NextItem)
  | [] => return none
  | (kind, b) :: rest => do
    let item ← itemOfBlocker task report kind b
    match item with
    | some item => return some item
    | none => firstBlockedItem task report rest

/-- `_next_validation_item`. -/
def nextValidationItem (task : TaskRecord) (report : GateReport) :
    LedgerQuery (Option NextItem) := do
  let ofKind (kind : String) : List (String × Dict) :=
    (report.blockers.filter fun b => (b.get "kind").asString? = some kind).map fun b => (kind, b)
  let item ← firstBlockedItem task report (blockerPriority.flatMap ofKind)
  return item.or
    ((report.criteria.find? fun c => !c.blockers.isEmpty).map .criterion)

/-- The branch of the active stage `validation`. -/
def validationDecision (task : TaskRecord) : LedgerQuery NextActionDecision := do
  let report ← buildValidationGateReport task none
  let blockers := report.blockers.map compactBlocker
  let progress : Dict := [("validation", .dict (validationProgress report))]
  if report.blockers ≠ [] then do
    let item ← nextValidationItem task report
    return {
      action := .validateCheck
      reason := "Validation is in progress; required checks remain."
      nextItem := item
      blockers := blockers
      progress := progress }
  else
    return {
      action := .validateFinish
      reason := "Validation is complete enough to finish."
      nextItem := some (.task task)
      blockers := blockers
      progress := progress }

-- ════════════════════════════════════════════════════════════════════════
-- Without an active stage
-- ════════════════════════════════════════════════════════════════════════

/-- The branch `plan_review` of `_inactive_status_next_action`. -/
def reviewedPlanDecision (task : TaskRecord) : LedgerQuery NextActionDecision := do
  let questions ← listQuestions task.id
  let openQuestions := requiredOpenQuestionIds questions
  let latestPlan ← latestPlanOrNone task.id
  let staleAnswers := (latestPlan.map (staleAnswerQuestionIds questions)).getD []
  return if openQuestions ≠ [] then openQuestionsDecision questions openQuestions
    else if staleAnswers ≠ [] then {
      action := .planRegenerate
      reason := "Answered planning questions are not reflected in the latest plan."
      nextItem := (firstQuestionByIds questions staleAnswers).map .answeredQuestion
      blockers := [questionsBlocker "stale_answers"
        "Regenerate the plan from answered questions." staleAnswers]
      progress := staleAnswersProgress staleAnswers }
    else {
      action := .planApprove
      reason := "A proposed plan is waiting for review."
      nextItem := latestPlan.map .plan }

variable (env : Env)

/-- The decision about a run that is still marked running. -/
def runStateDecision (task : TaskRecord) (run : TaskRunRecord) (lock : Option TaskLock) :
    Except Raised NextActionDecision := do
  let details ← runningRunDetails env task run lock
  return {
    action := .repairRunState
    reason := "Task is approved, but " ++ value run.runType ++ " run " ++ run.runId
      ++ " is still marked running."
    nextItem := some (.task task)
    blockers := [blocker "running_run" ("Task has running " ++ value run.runType ++ " run "
      ++ run.runId ++ "; run `taskledger doctor`.") ++ details] }

/-- The branch `approved`. -/
def approvedDecision (task : TaskRecord) (lock : Option TaskLock) :
    LedgerQuery NextActionDecision := do
  let running ← runningRuns task
  let nonResumable := running.filter fun run =>
    !(run.runType = .implementation && task.latestImplementationRun = some run.runId && lock.isNone)
  match nonResumable with
  | run :: _ => (runStateDecision env task run lock : Except Raised NextActionDecision)
  | [] => do
    let resumable ← resumableImplementationRun task lock
    match resumable with
    | some run => return {
        action := .implementResume
        reason := "Implementation run is running but the lock is missing."
        nextItem := some (.task task)
        blockers := [blocker "lock"
          ("Missing active implementation lock for run " ++ run.runId ++ ".")] }
    | none => do
      let dependencies ← dependencyBlockers task
      return {
        action := .implement
        reason := "The approved plan is ready for implementation."
        nextItem := some (.task task)
        blockers := (if task.acceptedPlanVersion.isNone then
          [blocker "approval" "No accepted plan version is recorded."] else []) ++ dependencies }

/-- The branch `implemented`. -/
def implementedDecision (task : TaskRecord) : LedgerQuery NextActionDecision := do
  let run ← optionalRun task task.latestImplementationRun
  return {
    action := .validate
    reason := "Implementation is complete and ready to validate."
    nextItem := some (.task task)
    blockers := if run.any isFinishedImplementation then [] else
      [blocker "implementation" "Validation requires a finished implementation run."] }

/-- The branch `failed_validation`. -/
def failedValidationDecision (task : TaskRecord) : LedgerQuery NextActionDecision := do
  let dependencies ← dependencyBlockers task
  return {
    action := .implementRestart
    reason := "Validation failed; restart implementation."
    nextItem := some (.task task)
    blockers := dependencies }

/-- `_orphaned_active_stage_action`. -/
def orphanedActiveStageAction (task : TaskRecord) (lock : Option TaskLock) :
    LedgerQuery NextActionDecision := do
  let runs ← listRuns task.id
  let plans ← listPlans task.id
  return decideOrphanedActiveStage task plans runs lock

/-- `_inactive_status_next_action`. -/
def inactiveStatusNextAction (task : TaskRecord) (lock : Option TaskLock) :
    LedgerQuery NextActionDecision :=
  match task.statusStage with
  | .draft =>
    return { action := .plan, reason := "Draft tasks need planning before work starts." }
  | .planReview => reviewedPlanDecision task
  | .approved => approvedDecision env task lock
  | .implemented => implementedDecision task
  | .failedValidation => failedValidationDecision task
  | .planning | .implementing | .validating => orphanedActiveStageAction task lock
  | .done => return { action := .none, reason := "The task is complete." }
  | .cancelled => return { action := .none, reason := "The task is cancelled." }

/-- The decision of the active stage, or of the status when there is none. -/
def stageDecision (task : TaskRecord) (lock : Option TaskLock) :
    Option RunType → LedgerQuery NextActionDecision
  | some .planning => planningDecision task
  | some .implementation => implementationDecision task
  | some .validation => validationDecision task
  | none => inactiveStatusNextAction env task lock

/-- `_lock_next_item`. -/
def lockNextItem (task : TaskRecord) (lock : TaskLock) : Except Raised NextItem := do
  let expired ← lockIsExpired env lock
  return .lock task lock expired

/-- A decision about a lock without an active stage; the progress and the blockers of the status
stay. -/
def inactiveLockDecision (task : TaskRecord) (lock : TaskLock) (runs : List TaskRunRecord)
    (decision : NextActionDecision) : Except Raised NextActionDecision := do
  let expired ← lockIsExpired env lock
  let item ← lockNextItem env task lock
  let found := if expired then decideExpiredLockAction task lock runs item
    else {
      action := .repairLock
      reason := repairLockReason
      nextItem := some item
      blockers := [unmatchedLockBlocker lock] }
  return { found with
    blockers := decision.blockers ++ found.blockers
    progress := decision.progress }

/-- What `diagnose_lock` says of a holder whose process is gone. -/
def deadHolder : String := "active_dead_local_process"

/-- The diagnostics of a lock. -/
def lockDiagnostics (lock : Option TaskLock) : Option Dict :=
  lock.map fun l => (env.diagnoseLock l).1

/-- The class of the diagnostics of a lock. -/
def lockClassification (lock : TaskLock) : Option String :=
  ((env.diagnoseLock lock).1.get "classification").asString?

/-- The decision when the holder's process is gone. -/
def deadHolderDecision (task : TaskRecord) (lock : TaskLock) (decision : NextActionDecision) :
    Except Raised NextActionDecision := do
  let item ← lockNextItem env task lock
  let diagnostics := (env.diagnoseLock lock).1
  return { decision with
    action := .repairLock
    reason := "Implementation lock is active but the recorded holder process is not running."
    nextItem := some item
    blockers := decision.blockers
      ++ [blocker "lock" (Runtime.strOf ((diagnostics.get? "summary").getD (.str "")))
        ++ [("diagnostics", .dict diagnostics)]] }

/-- What a lock without an active stage does to a decision. -/
def withInactiveLock (task : TaskRecord) (lock : Option TaskLock) (activeStage : Option RunType)
    (runs : List TaskRunRecord) (decision : NextActionDecision) :
    Except Raised NextActionDecision :=
  match lock, activeStage with
  | some l, none => inactiveLockDecision env task l runs decision
  | _, _ => return decision

/-- What a lock does whose holder's process is gone. -/
def withDeadHolder (task : TaskRecord) (lock : Option TaskLock) (decision : NextActionDecision) :
    Except Raised NextActionDecision :=
  match lock with
  | none => return decision
  | some l =>
    if lockClassification env l = some deadHolder then deadHolderDecision env task l decision
    else return decision

/-- `_lock_warning_for_action`. -/
def lockWarningForAction (lock : Option TaskLock) : Option String :=
  match lock with
  | none => none
  | some l =>
    if lockClassification env l ∈ [some deadHolder, some "expired", some "active_same_actor"] then
      none
    else
      some ("Warning: task has an active lock held by " ++ value l.holder.actorType ++ ":"
        ++ l.holder.actorName
        ++ ((l.holder.host.filter (· ≠ "")).map fun host => " host=" ++ host).getD ""
        ++ ((l.holder.pid.filter (· ≠ 0)).map fun pid => " pid=" ++ Nat.repr pid).getD ""
        ++ ". Do not take over from another live holder; inspect with "
        ++ "taskledger lock show or use a handoff.")

-- ════════════════════════════════════════════════════════════════════════
-- Guidance and the worker pipeline
-- ════════════════════════════════════════════════════════════════════════

/-- What the payload shows of a step of the worker pipeline. -/
structure WorkerStep where
  id : String
  lifecycleStage : String
  baseContext : String
  payload : Dict

/-- What the configuration of the project says: whether it has a planning profile, and the step
of a guided worker pipeline that comes next. -/
structure ProjectGuidance where
  hasPlanningProfile : Bool := false
  nextWorkerStep : TaskRecord → LedgerQuery (Option WorkerStep) := fun _ => pure none

omit [Runtime] in
/-- `_planning_guidance_already_viewed`. -/
def planningGuidanceAlreadyViewed (task : TaskRecord) (runs : List TaskRunRecord) : Bool :=
  match task.latestPlanningRun with
  | none => false
  | some id => (runs.find? fun run => run.runId = id && run.runType = .planning).any fun run =>
      run.worklog.any fun line => Text.startsWith line planningGuidanceWorklogMark

omit [Runtime] in
/-- `_guidance_command`. -/
def guidanceCommand (guidance : ProjectGuidance) (task : TaskRecord) (action : NextActionKind)
    (activeStage : Option RunType) (runs : List TaskRunRecord) : Option String :=
  if activeStage = some .planning ∧ action ∈ [.planPropose, .questionAnswer, .planRegenerate]
      ∧ guidance.hasPlanningProfile = true ∧ planningGuidanceAlreadyViewed task runs = false then
    some "taskledger plan guidance"
  else none

namespace WorkerStep

variable (step : WorkerStep)

def contextCommand : String := "taskledger pipeline context " ++ step.id

/-- `_guided_worker_handoff_command`. -/
def handoffCommand : String :=
  "taskledger handoff create --worker " ++ step.id
    ++ (if step.baseContext ∈ ["spec-reviewer", "code-reviewer"] then " --scope task" else "")
    ++ " --summary \"...\""

/-- `_guided_worker_review_command`. -/
def reviewCommand : Option String :=
  if step.lifecycleStage ≠ "review" then none
  else some ("taskledger review record --worker " ++ step.id
    ++ " --from-git --result pass --summary-file REVIEW.md")

/-- `_guided_worker_pipeline_payload`. -/
def toDict : Dict :=
  ([("configured", .bool true),
    ("enabled", .bool true),
    ("mode", .str "guided"),
    ("next_step", .dict step.payload),
    ("context_command", .str step.contextCommand),
    ("handoff_command", .str step.handoffCommand)] : Dict)
  ++ optionalEntry "review_command" (step.reviewCommand.map .str)

/-- The commands of a step. -/
def commands : List CommandHint :=
  [CommandHint.other "context" "Show worker context" step.contextCommand,
    CommandHint.other "handoff" "Create worker handoff" step.handoffCommand]
  ++ (step.reviewCommand.map (CommandHint.other "review" "Record code review")).toList

end WorkerStep

/-- Commands after the first primary one, or at the end. -/
def insertAfterPrimary (extras : List CommandHint) : List CommandHint → List CommandHint
  | [] => extras
  | c :: rest => if c.primary then c :: (extras ++ rest) else c :: insertAfterPrimary extras rest

/-- `_append_guided_worker_pipeline_commands`. -/
def appendWorkerCommands (commands : List CommandHint) : Option WorkerStep → List CommandHint
  | none => commands
  | some step => insertAfterPrimary step.commands commands

-- ════════════════════════════════════════════════════════════════════════
-- The payload
-- ════════════════════════════════════════════════════════════════════════

/-- What `next_action_for_task` returns. -/
structure NextActionPayload where
  task : TaskRecord
  activeStage : Option RunType
  decision : NextActionDecision
  nextCommand : Option String
  guidanceCommand : Option String := none
  commands : List CommandHint
  lockStatus : Option Dict := none
  lockWarning : Option String := none
  templateHints : Dict := []
  workerPipeline : Option WorkerStep := none

omit [Runtime] in
/-- The mapping of a payload. -/
def NextActionPayload.toDict (p : NextActionPayload) : Dict :=
  ([("kind", .str "task_next_action"),
    ("task_id", .str p.task.id),
    ("status_stage", .str (value p.task.statusStage)),
    ("active_stage", .ofOption (p.activeStage.map value)),
    ("action", .str (value p.decision.action)),
    ("reason", .str p.decision.reason),
    ("blocking", .list (p.decision.blockers.map .dict)),
    ("next_command", .ofOption p.nextCommand)] : Dict)
  ++ (if p.decision.action = .archived then [] else
    [("guidance_command", .ofOption p.guidanceCommand),
      ("next_item", .ofDict? (p.decision.nextItem.map NextItem.toDict))] : Dict)
  ++ ([("commands", .list (p.commands.map fun c => .dict c.toDict)),
    ("progress", .dict p.decision.progress)] : Dict)
  ++ optionalEntry "lock_status" (p.lockStatus.map .dict)
  ++ optionalEntry "lock_warning" (p.lockWarning.map .str)
  ++ p.templateHints
  ++ optionalEntry "worker_pipeline" (p.workerPipeline.map fun step => .dict step.toDict)

omit [Runtime] in
/-- The template of a payload with guidance, and the hints of `_finalize_next_action_payload`. -/
def payloadTemplateHints (guidance : Option String) (action : NextActionKind) : Dict :=
  if action = .planRegenerate then planningTemplateHints
  else if guidance.isSome ∧ action = .planPropose then
    [("template_command", .str "taskledger plan template --include-guidance --file plan.md")]
  else []

omit [Runtime] in
/-- `_archived_next_action_payload`. -/
def archivedNextActionPayload (task : TaskRecord) : NextActionPayload :=
  let command := "taskledger task unarchive " ++ task.id ++ " --reason \"Restore archived task.\""
  { task := task
    activeStage := none
    decision := {
      action := .archived
      reason := "Task is archived and read-only."
      blockers := [archivedBlocker task] }
    nextCommand := some command
    commands := [CommandHint.other "unarchive" "Unarchive task" command] }

/-- `next_action_for_task`. -/
def nextActionForTask (guidance : ProjectGuidance) (task : TaskRecord) :
    LedgerQuery NextActionPayload := do
  let lock ← readLock task.id
  let runs ← listRuns task.id
  let activeStage ← taskActiveStage env task
  if isArchivedTask task then return archivedNextActionPayload task
  else do
    let byStage ← stageDecision env task lock activeStage
    let byLock ← (withInactiveLock env task lock activeStage runs byStage :
      Except Raised NextActionDecision)
    let decision ← (withDeadHolder env task lock byLock : Except Raised NextActionDecision)
    let guidanceText := guidanceCommand guidance task decision.action activeStage runs
    let step ← guidance.nextWorkerStep task
    let commands := commandsForNextItem decision.action decision.nextItem
    return {
      task := task
      activeStage := activeStage
      decision := decision
      nextCommand := primaryCommandForNextItem decision.action decision.nextItem
      guidanceCommand := guidanceText
      commands := appendWorkerCommands
        ((guidanceText.map (CommandHint.other "guidance" "Review planning guidance")).toList
          ++ commands) step
      lockStatus := lockDiagnostics env lock
      lockWarning := lockWarningForAction env lock
      templateHints := payloadTemplateHints guidanceText decision.action
      workerPipeline := step }

/-- `next_action`. -/
def nextAction (guidance : ProjectGuidance) (taskRef : String) :
    LedgerQuery NextActionPayload := do
  let task ← resolveTask taskRef
  nextActionForTask env guidance task

end Taskledger
