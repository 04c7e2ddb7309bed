import Taskledger.Domain.Actor

/-!
# Sidecar records

File links, todos, acceptance criteria, waivers, dependency requirements and
validation checks.
-/

namespace Taskledger

open Library

/-- `CriterionWaiver` and `DependencyWaiver`: who waives, why and since when. -/
structure Waiver where
  actor : ActorRef := {}
  reason : String := ""
  createdAt : String
  deriving DecidableEq

namespace Waiver

/-- `_waiver_to_dict`. -/
def toDict (w : Waiver) : Dict :=
  [("actor", .dict w.actor.toDict),
    ("reason", .str w.reason),
    ("created_at", .str w.createdAt)]

/-- `_waiver_from_dict` on a written waiver. -/
def reload (w : Waiver) : Except Raised Waiver := do
  requireString "reason" w.reason
  return { w with actor := w.actor.reload }

def reload? : Option Waiver → Except Raised (Option Waiver)
  | none => .ok none
  | some w => do
    let waiver ← w.reload
    return some waiver

end Waiver

structure FileLink where
  path : String
  kind : FileLinkKind := .code
  label : Option String := none
  requiredForValidation : Bool := false
  id : Option String := none
  taskId : Option String := none
  targetType : Option String := none
  baselineHash : Option String := none
  baselineSize : Option Nat := none
  baselineMtime : Option String := none
  baselineExists : Option Bool := none
  createdAt : String
  updatedAt : String
  deriving DecidableEq

namespace FileLink

def toDict (l : FileLink) : Dict :=
  [("id", .ofOption l.id),
    ("task_id", .ofOption l.taskId),
    ("path", .str l.path),
    ("kind", .str (value l.kind)),
    ("label", .ofOption l.label),
    ("required_for_validation", .bool l.requiredForValidation),
    ("target_type", .ofOption l.targetType),
    ("baseline_hash", .ofOption l.baselineHash),
    ("baseline_size", .ofNat? l.baselineSize),
    ("baseline_mtime", .ofOption l.baselineMtime),
    ("baseline_exists", .ofBool? l.baselineExists),
    ("file_version", .str "v2"),
    ("schema_version", .int 1),
    ("object_type", .str "link"),
    ("created_at", .str l.createdAt),
    ("updated_at", .str l.updatedAt)]

def reload (l : FileLink) : Except Raised FileLink := do
  requireString "path" l.path
  return l

end FileLink

structure TaskTodo where
  id : String
  text : String
  done : Bool := false
  createdAt : String
  updatedAt : String
  source : Option String := none
  mandatory : Bool := false
  status : TodoStatus := .open
  activeAt : Option String := none
  blockedReason : Option String := none
  doneAt : Option String := none
  skippedAt : Option String := none
  completedBy : Option ActorRef := none
  completedInHarness : Option HarnessRef := none
  skippedBy : Option ActorRef := none
  evidence : List String := []
  artifactRefs : List String := []
  changeRefs : List String := []
  commandRefs : List String := []
  sourcePlanId : Option String := none
  sourceQuestionIds : List String := []
  validationHint : Option String := none
  workerStepId : Option String := none
  deriving DecidableEq

namespace TaskTodo

def toDict (t : TaskTodo) : Dict :=
  ([("id", .str t.id),
    ("text", .str t.text),
    ("done", .bool t.done),
    ("created_at", .str t.createdAt),
    ("updated_at", .str t.updatedAt),
    ("source", .ofOption t.source),
    ("mandatory", .bool t.mandatory),
    ("status", .str (value t.status)),
    ("active_at", .ofOption t.activeAt),
    ("blocked_reason", .ofOption t.blockedReason),
    ("done_at", .ofOption t.doneAt),
    ("skipped_at", .ofOption t.skippedAt),
    ("completed_by", .ofDict? (t.completedBy.map ActorRef.toDict)),
    ("completed_in_harness", .ofDict? (t.completedInHarness.map HarnessRef.toDict)),
    ("skipped_by", .ofDict? (t.skippedBy.map ActorRef.toDict)),
    ("evidence", .ofStrings t.evidence),
    ("artifact_refs", .ofStrings t.artifactRefs),
    ("change_refs", .ofStrings t.changeRefs),
    ("command_refs", .ofStrings t.commandRefs),
    ("source_plan_id", .ofOption t.sourcePlanId),
    ("source_question_ids", .ofStrings t.sourceQuestionIds),
    ("validation_hint", .ofOption t.validationHint)] : Dict)
  ++ match t.workerStepId with
    | none => []
    | some step => [("worker_step_id", .str step)]

def reload (t : TaskTodo) : Except Raised TaskTodo := do
  let harness ← HarnessRef.reload? t.completedInHarness
  requireString "id" t.id
  requireString "text" t.text
  return { t with
    completedBy := t.completedBy.map ActorRef.reload
    completedInHarness := harness
    skippedBy := t.skippedBy.map ActorRef.reload }

end TaskTodo

structure AcceptanceCriterion where
  id : String
  text : String
  mandatory : Bool := true
  deriving DecidableEq

namespace AcceptanceCriterion

def toDict (c : AcceptanceCriterion) : Dict :=
  [("id", .str c.id), ("text", .str c.text), ("mandatory", .bool c.mandatory)]

def reload (c : AcceptanceCriterion) : Except Raised AcceptanceCriterion := do
  requireString "id" c.id
  requireString "text" c.text
  return c

end AcceptanceCriterion

structure DependencyRequirement where
  taskId : String
  requiredStatus : String := "done"
  waiver : Option Waiver := none
  id : Option String := none
  requiredTaskId : Option String := none
  parentTaskId : Option String := none
  createdAt : String
  updatedAt : String
  deriving DecidableEq

namespace DependencyRequirement

/-- `self.required_task_id or self.task_id`. -/
def requiredTask (r : DependencyRequirement) : String :=
  (orOption r.requiredTaskId (some r.taskId)).getD r.taskId

def toDict (r : DependencyRequirement) : Dict :=
  [("id", .ofOption r.id),
    ("task_id", .str r.requiredTask),
    ("required_task_id", .str r.requiredTask),
    ("parent_task_id", .ofOption r.parentTaskId),
    ("required_status", .str r.requiredStatus),
    ("waiver", .ofDict? (r.waiver.map Waiver.toDict)),
    ("file_version", .str "v2"),
    ("schema_version", .int 1),
    ("object_type", .str "requirement"),
    ("created_at", .str r.createdAt),
    ("updated_at", .str r.updatedAt)]

/-- The written `required_task_id` names the required task of the record read. -/
def reload (r : DependencyRequirement) : Except Raised DependencyRequirement := do
  let waiver ← Waiver.reload? r.waiver
  return { r with
    taskId := r.requiredTask
    requiredTaskId := some r.requiredTask
    requiredStatus := Text.orElse r.requiredStatus "done"
    waiver := waiver }

end DependencyRequirement

structure ValidationCheck where
  name : String
  id : Option String := none
  criterionId : Option String := none
  status : ValidationCheckStatus := .pass
  details : Option String := none
  evidence : List String := []
  waiver : Option Waiver := none
  deriving DecidableEq

namespace ValidationCheck

def toDict (c : ValidationCheck) : Dict :=
  [("id", .ofOption c.id),
    ("criterion_id", .ofOption c.criterionId),
    ("name", .str c.name),
    ("status", .str (value c.status)),
    ("details", .ofOption c.details),
    ("evidence", .ofStrings c.evidence),
    ("waiver", .ofDict? (c.waiver.map Waiver.toDict))]

/-- A check without a criterion takes its id for one, unless it was not run. -/
def reload (c : ValidationCheck) : Except Raised ValidationCheck := do
  let identifier := orOption c.id c.criterionId
  let criterionId := orOption c.criterionId (if c.status = .notRun then none else identifier)
  raiseIf (c.status ≠ .notRun ∧ criterionId = none)
    (launchError "Validation checks must reference a criterion_id unless status is not_run.")
  requireString "name" c.name
  let waiver ← Waiver.reload? c.waiver
  return { c with id := identifier, criterionId := criterionId, waiver := waiver }

end ValidationCheck

end Taskledger
