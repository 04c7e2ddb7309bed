import Taskledger.Services.PlanningFlow

/-!
# Plan review

The review of a plan reads what an approval would read, and reports what stands in the
approval's way.
-/

namespace Taskledger

open Library

/-- An entry of `blockers`. -/
structure ReviewBlocker where
  kind : String
  message : String
  ref : String

/-- An entry of `commands`. -/
structure ReviewCommand where
  kind : String
  label : String
  command : String
  primary : Bool
  deriving DecidableEq

/-- `PlanReviewOptions`. -/
structure PlanReviewOptions where
  includeLint : Bool := true
  includeQuestions : Bool := true
  includeNextCommands : Bool := true

-- ════════════════════════════════════════════════════════════════════════
-- Commands and summary
-- ════════════════════════════════════════════════════════════════════════

/-- The `accept` entry of `_review_commands`. -/
def acceptCommand (version : Nat) : ReviewCommand where
  kind := "accept"
  label := "Approve after explicit user approval"
  command := "taskledger plan accept --version " ++ Nat.repr version
    ++ " --note \"User approved in harness.\""
  primary := true

/-- `_review_commands`. -/
def reviewCommands (version : Nat) : List ReviewCommand :=
  [acceptCommand version,
    { kind := "revise"
      label := "Revise proposed plan"
      command := "taskledger plan revise"
      primary := false },
    { kind := "export"
      label := "Export editable plan"
      command := "taskledger plan export --version " ++ Nat.repr version ++ " --file ./plan.md"
      primary := false }]

/-- `text.split("\n\n")`; `part` holds the block so far, reversed. -/
def blocksFrom (part : List Char) : List Char → List String
  | [] => [String.ofList part.reverse]
  | '\n' :: '\n' :: rest => String.ofList part.reverse :: blocksFrom [] rest
  | c :: rest => blocksFrom (c :: part) rest

/-- `_first_paragraph`. -/
def firstParagraph (text : String) : String :=
  (((blocksFrom [] text.toList).map Text.strip).find? fun block => block ≠ "").getD ""

/-- `_plan_summary`. -/
def planSummary (taskDescription : String) (goal : Option String) (body : String) : String :=
  Text.orElse (Text.strip (goal.getD "")) <| Text.orElse (firstParagraph body) <|
    Text.orElse (Text.strip taskDescription) "(no summary available)"

-- ════════════════════════════════════════════════════════════════════════
-- The review
-- ════════════════════════════════════════════════════════════════════════

variable [Runtime]

/-- `_resolve_target_plan`. -/
def resolveTargetPlan (taskId : String) (statusStage : TaskStatusStage) :
    Option Nat → LedgerQuery PlanRecord
  | some version => resolvePlan taskId (some version)
  | none => do
    let latest ← latestPlanOrNone taskId
    match latest with
    | none => throw (launchError ("Task " ++ taskId ++ " has no plans to review."))
    | some latest =>
      if statusStage ≠ .planReview then return latest
      else do
        let plans ← listPlans taskId
        return (plans.reverse.find? fun plan => plan.status = .proposed).getD latest

/-- A blocker when `c` holds. -/
def blockerWhen (c : Bool) (kind message ref : String) : List ReviewBlocker :=
  if c then [{ kind := kind, message := message, ref := ref }] else []

/-- The blockers of a plan, before its lint. -/
def reviewBlockers (task : TaskRecord) (plan : PlanRecord) (openRequired stale : List String) :
    List ReviewBlocker :=
  blockerWhen (task.statusStage ≠ .planReview) "stage"
    "Plan review is only actionable in plan_review stage." (value task.statusStage)
  ++ blockerWhen (plan.status ≠ .proposed) "plan_status"
    "Only proposed plans are reviewable for approval." (planId plan.planVersion)
  ++ blockerWhen (openRequired ≠ []) "open_questions"
    "Plan approval is blocked by open required planning questions." (Text.join ", " openRequired)
  ++ blockerWhen (stale ≠ []) "stale_answers"
    ("Plan approval is blocked by answered planning questions "
      ++ "not reflected in this plan.") (Text.join ", " stale)
  ++ blockerWhen plan.criteria.isEmpty "missing_criteria"
    "Plan approval requires at least one acceptance criterion." (planId plan.planVersion)
  ++ blockerWhen (plan.todos.isEmpty && Text.isBlank (plan.todosWaivedReason.getD ""))
    "missing_todos" "Plan approval requires todos or a todo waiver reason."
    (planId plan.planVersion)

/-- The blocker of a plan with lint errors. -/
def lintBlockers (plan : PlanRecord) (issues : List PlanLintIssue) : List ReviewBlocker :=
  blockerWhen (!issues.isEmpty) "lint_errors" "Plan approval is blocked by plan lint errors."
    (planId plan.planVersion)

/-- What `build_plan_review_payload` has read: the task, the plan, its questions and, when
asked for, its lint errors. -/
structure ReviewInput where
  task : TaskRecord
  plan : PlanRecord
  questions : List QuestionRecord
  lint : Option (List PlanLintIssue)

/-- The reads of `build_plan_review_payload`. -/
def reviewInputOf (taskRef : String) (version : Option Nat) (options : PlanReviewOptions) :
    LedgerQuery ReviewInput := do
  let task ← resolveTask taskRef
  let plan ← resolveTargetPlan task.id task.statusStage version
  let questions ← listQuestions task.id
  let lint ← if options.includeLint then some <$> lintPlan task.id plan.planVersion
    else pure none
  return { task := task, plan := plan, questions := questions, lint := lint }

/-- The blockers of a review. -/
def ReviewInput.blockers (r : ReviewInput) : List ReviewBlocker :=
  reviewBlockers r.task r.plan (requiredOpenQuestionIds r.questions)
    (staleAnswerQuestionIds r.questions r.plan)
  ++ (r.lint.map (lintBlockers r.plan)).getD []

/-- The payload of `build_plan_review_payload`, as its fields; of the lint it keeps the
errors. -/
structure PlanReview where
  taskId : String
  taskTitle : String
  taskDescription : Option String
  statusStage : TaskStatusStage
  planId : String
  planVersion : Nat
  planStatus : PlanStatus
  approvalReady : Bool
  blockers : List ReviewBlocker
  warnings : List String
  lint : Option (List PlanLintIssue)
  openRequiredQuestions : List String
  staleAnswerQuestionIds : List String
  todosToMaterialize : Nat
  commands : List ReviewCommand
  summary : String
  planBody : String
  goal : Option String
  criteria : List AcceptanceCriterion
  todos : List TaskTodo
  files : List String
  testCommands : List String
  expectedOutputs : List String
  todosWaivedReason : Option String

/-- The payload built from what was read. -/
def ReviewInput.payload (r : ReviewInput) (options : PlanReviewOptions) : PlanReview where
  taskId := r.task.id
  taskTitle := r.task.title
  taskDescription := r.task.descriptionSummary
  statusStage := r.task.statusStage
  planId := planId r.plan.planVersion
  planVersion := r.plan.planVersion
  planStatus := r.plan.status
  approvalReady := r.blockers.isEmpty
  blockers := r.blockers
  warnings :=
    if options.includeLint then [] else ["Plan lint was not included in this review output."]
  lint := r.lint
  openRequiredQuestions :=
    if options.includeQuestions then requiredOpenQuestionIds r.questions else []
  staleAnswerQuestionIds :=
    if options.includeQuestions then Taskledger.staleAnswerQuestionIds r.questions r.plan else []
  todosToMaterialize := r.plan.todos.length
  commands := if options.includeNextCommands then reviewCommands r.plan.planVersion else []
  summary := planSummary (r.task.descriptionSummary.getD "") r.plan.goal r.plan.body
  planBody := r.plan.body
  goal := r.plan.goal
  criteria := r.plan.criteria
  todos := r.plan.todos
  files := r.plan.files
  testCommands := r.plan.testCommands
  expectedOutputs := r.plan.expectedOutputs
  todosWaivedReason := r.plan.todosWaivedReason

/-- `build_plan_review_payload`. -/
def buildPlanReviewPayload (taskRef : String) (version : Option Nat := none)
    (options : PlanReviewOptions := {}) : LedgerQuery PlanReview := do
  let r ← reviewInputOf taskRef version options
  return r.payload options

end Taskledger
