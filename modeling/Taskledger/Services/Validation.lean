import Taskledger.Services.Tasks

/-!
# The validation gate

What stands between a validation run and the verdict `passed`.
-/

namespace Taskledger

open Library

/-- `_criterion_has_user_waiver`. -/
def criterionHasUserWaiver (check : ValidationCheck) : Bool := hasUserWaiver check.waiver

/-- The checks of a run that name a criterion, in the order they were recorded. -/
def checksByCriterion (checks : List ValidationCheck) (criterionId : String) :
    List ValidationCheck :=
  checks.filter fun c => c.criterionId = some criterionId

/-- How the gate sees a criterion. -/
structure CriterionReport where
  criterion : AcceptanceCriterion
  checks : List ValidationCheck

namespace CriterionReport

variable (r : CriterionReport)

/-- `latest_check`. -/
def latestCheck : Option ValidationCheck := r.checks.getLast?

/-- `latest_status`. -/
def latestStatus : ValidationCheckStatus := (r.latestCheck.map ValidationCheck.status).getD .notRun

/-- `has_waiver`. -/
def hasWaiver : Bool := r.latestCheck.any criterionHasUserWaiver

/-- `satisfied`. -/
def satisfied : Bool := r.latestStatus = .pass || r.hasWaiver

/-- The criterion goes to `failing_criteria`. -/
def isFailing : Bool := r.criterion.mandatory && r.latestStatus = .fail

/-- The criterion goes to `missing_criteria`. -/
def isMissing : Bool :=
  r.criterion.mandatory && r.latestStatus ≠ .fail && (r.latestStatus = .notRun || !r.satisfied)

/-- The blockers listed with the criterion. -/
def blockers : List Dict :=
  if r.isFailing then
    [[("kind", .str "criterion_fail"), ("message", .str "Latest check failed")]]
  else if r.isMissing then
    if r.latestStatus = .notRun then
      [[("kind", .str "criterion_missing"), ("message", .str "No passing check recorded")]]
    else
      [[("kind", .str "criterion_unsatisfied"),
        ("message", .str ("Latest check status: " ++ value r.latestStatus))]]
  else []

def toDict : Dict :=
  [("id", .str r.criterion.id),
    ("text", .str r.criterion.text),
    ("mandatory", .bool r.criterion.mandatory),
    ("latest_check_id", .ofOption (r.latestCheck.bind ValidationCheck.id)),
    ("latest_status", .str (value r.latestStatus)),
    ("satisfied", .bool r.satisfied),
    ("has_waiver", if r.latestCheck.isSome then .bool r.hasWaiver else .null),
    ("evidence", .ofStrings ((r.latestCheck.map ValidationCheck.evidence).getD [])),
    ("history", .list (r.checks.map fun c =>
      .dict [("check_id", .ofOption c.id), ("status", .str (value c.status))])),
    ("blockers", .list (r.blockers.map .dict))]

end CriterionReport

/-- `dependency_blockers` from the tasks that block. -/
def dependencyBlocker (required : TaskRecord) : Dict :=
  [("kind", .str "dependency"),
    ("message", .str ("Requirement " ++ required.id ++ " is still "
      ++ value required.statusStage ++ "."))]

/-- What `build_validation_gate_report` has read. -/
structure GateReport where
  task : TaskRecord
  run : Option TaskRunRecord
  /-- The plan of the accepted version, when there is one. -/
  acceptedPlan : Option PlanRecord
  implementationRun : Option TaskRunRecord
  openTodos : List String
  blocking : List TaskRecord

namespace GateReport

variable (r : GateReport)

/-- `report["criteria"]`. -/
def criteria : List CriterionReport :=
  (r.acceptedPlan.map PlanRecord.criteria).getD [] |>.map fun c =>
    { criterion := c
      checks := checksByCriterion ((r.run.map TaskRunRecord.checks).getD []) c.id }

def missingCriteria : List String :=
  (r.criteria.filter CriterionReport.isMissing).map fun c => c.criterion.id

def failingCriteria : List String :=
  (r.criteria.filter CriterionReport.isFailing).map fun c => c.criterion.id

def planBlockers : List Dict :=
  match r.acceptedPlan with
  | none =>
    [[("kind", .str "no_accepted_plan"),
      ("message", .str "No accepted plan is recorded."),
      ("command_hint", .str "taskledger plan propose ... && taskledger plan approve ...")]]
  | some plan =>
    if plan.status = .accepted then []
    else
      [[("kind", .str "plan_not_accepted"),
        ("message", .str ("Accepted plan record status is " ++ value plan.status
          ++ ", not accepted."))]]

def implementationBlockers : List Dict :=
  if r.implementationRun.any fun run => run.status = .finished then []
  else
    [[("kind", .str "no_finished_implementation"),
      ("message", .str "No finished implementation run is recorded."),
      ("command_hint", .str
        "taskledger implement start ... && taskledger implement finish ...")]]

/-- A blocker about a criterion, and the command that would lift it. -/
def criterionBlocker (kind problem criterionId : String) : Dict :=
  [("kind", .str kind),
    ("ref", .str criterionId),
    ("message", .str ("Mandatory criterion " ++ criterionId ++ " has " ++ problem ++ " check.")),
    ("command_hint", .str ("taskledger validate check --criterion " ++ criterionId
      ++ " --status pass --evidence \"...\""))]

def todoBlocker (todoId : String) : Dict :=
  [("kind", .str "todo_open"),
    ("ref", .str todoId),
    ("message", .str ("Mandatory todo " ++ todoId ++ " is not done.")),
    ("command_hint", .str ("taskledger todo done " ++ todoId ++ " --evidence \"...\""))]

/-- A blocking requirement; the reference is the requirement's own mapping, shown
in the message by its text. -/
def requirementBlocker [Runtime] (required : TaskRecord) : Dict :=
  let blocker := Value.dict (dependencyBlocker required)
  [("kind", .str "dependency_blocker"),
    ("ref", blocker),
    ("message", .str ("Dependency " ++ Runtime.strOf blocker ++ " blocks this task."))]

variable [Runtime]

/-- `report["blockers"]`. -/
def blockers : List Dict :=
  r.planBlockers ++ r.implementationBlockers
  ++ r.missingCriteria.map (criterionBlocker "criterion_missing" "no passing")
  ++ r.failingCriteria.map (criterionBlocker "criterion_fail" "a failing")
  ++ r.openTodos.map todoBlocker
  ++ r.blocking.map requirementBlocker

/-- `report["can_finish_passed"]`. -/
def canFinishPassed : Bool := r.blockers.isEmpty

def toDict : Dict :=
  [("kind", .str "validation_status"),
    ("task_id", .str r.task.id),
    ("task_slug", .str r.task.slug),
    ("status_stage", .str (value r.task.statusStage)),
    ("active_stage", .null),
    ("run_id", .ofOption (r.run.map TaskRunRecord.runId)),
    ("can_finish_passed", .bool r.canFinishPassed),
    ("accepted_plan", .dict (match r.acceptedPlan with
      | none => []
      | some plan =>
        [("version", .ofNat? r.task.acceptedPlanVersion), ("status", .str (value plan.status))])),
    ("implementation", .dict (match r.implementationRun with
      | none => []
      | some run =>
        [("run_id", .str run.runId), ("status", .str (value run.status)),
          ("satisfied", .bool (run.status = .finished))])),
    ("criteria", .list (r.criteria.map fun c => .dict c.toDict)),
    ("behavior_evidence", .dict []),
    ("todos", .dict [("open_mandatory", .ofStrings r.openTodos)]),
    ("dependencies", .dict
      [("blockers", .list (r.blocking.map fun t => .dict (dependencyBlocker t)))]),
    ("blockers", .list (r.blockers.map .dict))]

end GateReport

variable [Runtime]

/-- The plan of a task's accepted version. -/
def acceptedPlanOf (task : TaskRecord) : LedgerQuery (Option PlanRecord) :=
  match task.acceptedPlanVersion with
  | none => pure none
  | some version => do
    let plan ← resolvePlan task.id (some version)
    return some plan

/-- The run a gate report is about. -/
def gateRun (task : TaskRecord) : Option TaskRunRecord → LedgerQuery (Option TaskRunRecord)
  | some run => pure (some run)
  | none => optionalRun task task.latestValidationRun

/-- `build_validation_gate_report`. -/
def buildValidationGateReport (task : TaskRecord) (run : Option TaskRunRecord) :
    LedgerQuery GateReport := do
  let gated ← gateRun task run
  let acceptedPlan ← acceptedPlanOf task
  let implementationRun ← optionalRun task task.latestImplementationRun
  let todos ← loadTodos task.id
  let blocking ← blockingTasks task
  return {
    task := task
    run := gated
    acceptedPlan := acceptedPlan
    implementationRun := implementationRun
    openTodos := (todos.filter fun t => t.mandatory && !t.done).map TaskTodo.id
    blocking := blocking }

/-- `_ensure_validation_can_pass`. -/
def ensureValidationCanPass (task : TaskRecord) (run : TaskRunRecord) : LedgerQuery Unit := do
  let report ← buildValidationGateReport task (some run)
  raiseIf (report.canFinishPassed = false) <| Raised.launch
    { message := "Cannot mark validation passed because mandatory validation gates are incomplete."
      exitCode := exitCodeValidationFailed
      errorCode := "VALIDATION_INCOMPLETE"
      data := [("missing_criteria", .ofStrings report.missingCriteria),
        ("failing_criteria", .ofStrings report.failingCriteria),
        ("open_mandatory_todos", .ofStrings report.openTodos),
        ("dependency_blockers",
          .list (report.blocking.map fun t => .dict (dependencyBlocker t))),
        ("blockers", .list (report.blockers.map .dict))] }

/-- `validation_status`. -/
def validationStatus (taskRef : String) (runId : Option String := none) : LedgerQuery Dict := do
  let task ← resolveTask taskRef
  let run ← match runId with
    | none => pure none
    | some id => some <$> resolveRun task.id id
  let report ← buildValidationGateReport task run
  return [("kind", .str "validation_status"), ("result", .dict report.toDict)]

end Taskledger
