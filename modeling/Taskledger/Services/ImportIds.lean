import Taskledger.Domain.ModelUtils
import Taskledger.Services.TaskLifecycle

/-!
# Ids of imported tasks

An import that does not replace the ledger gives each incoming task id its own or, when it is
taken, the next free one. The payload is rewritten under the new ids.
-/

namespace Taskledger

open Library

/-- What an import does about an incoming id that is taken. -/
inductive ImportIdPolicy where
  | preserve | renumberOnConflict | failOnConflict
  deriving DecidableEq

/-- The loop state of `_build_import_task_id_map`. -/
structure ImportIds where
  /-- `allocated_ids`, a set. -/
  allocated : List String
  nextNumber : Nat
  /-- `id_map`: each incoming id with the id it is imported as. -/
  idMap : List (String × String)

namespace ImportIds

def incoming (ids : ImportIds) : List String := ids.idMap.map Prod.fst
def targets (ids : ImportIds) : List String := ids.idMap.map Prod.snd

/-- An incoming id is imported as a target that was not allocated. -/
def assign (ids : ImportIds) (id target : String) (nextNumber : Nat) : ImportIds where
  allocated := target :: ids.allocated
  nextNumber := nextNumber
  idMap := ids.idMap ++ [(id, target)]

end ImportIds

section Assigning

variable [Runtime]

/-- `incoming_task_ids` of `import_project_payload`: the ids of the tasks of the payload that have
one. -/
def incomingTaskIds (payload : Dict) : List String :=
  ((dictList (payload.get "tasks")).filter fun item => (item.get "id").truthy).map fun item =>
    Runtime.strOf (item.get "id")

/-- One round of `_build_import_task_id_map`. -/
def importId (policy : ImportIdPolicy) (ids : ImportIds) (id : String) :
    Except Raised ImportIds :=
  if id ∈ ids.incoming then .ok ids
  else if id ∉ ids.allocated then .ok (ids.assign id id ids.nextNumber)
  else if policy = .preserve ∨ policy = .failOnConflict then
    .error (launchError ("Task id already exists: " ++ id))
  else
    let (target, nextNumber) := allocateLedgerTaskId ids.allocated ids.nextNumber
    .ok (ids.assign id target nextNumber)

/-- `_build_import_task_id_map`. -/
def buildImportTaskIdMap (policy : ImportIdPolicy) (incoming : List String) :
    LedgerQuery (List (String × String)) := fun s => do
  let tasks ← listTasks s
  let start : ImportIds := ⟨tasks.map TaskRecord.id, s.nextTaskNumber, []⟩
  let ids ← incoming.foldlM (importId policy) start
  return ids.idMap

end Assigning

-- ════════════════════════════════════════════════════════════════════════
-- The payload under the new ids
-- ════════════════════════════════════════════════════════════════════════

section Rewriting

variable (idMap : List (String × String))

/-- `rewrite_task_id`. -/
def rewriteTaskId : Value → Value
  | .str id => .str ((idMap.lookup id).getD id)
  | v => v

/-- A field of an item that holds a task id, when it is there. -/
def rewriteField (key : String) (item : Dict) : Dict :=
  match item.get? key with
  | some v => item.set key (rewriteTaskId idMap v)
  | none => item

/-- The required tasks that a task lists. -/
def rewriteRequirements (item : Dict) : Dict :=
  match item.get "requirements" with
  | .list ids => item.set "requirements" (.list (ids.map (rewriteTaskId idMap)))
  | _ => item

/-- An item of `tasks`. -/
def rewriteTask (item : Dict) : Dict :=
  let renamed := item.set "id" (rewriteTaskId idMap (item.get "id"))
  rewriteRequirements idMap (rewriteField idMap "parent_task_id" renamed)

/-- An item of `requirements`. -/
def rewriteRequirement (item : Dict) : Dict :=
  rewriteField idMap "required_task_id"
    (rewriteField idMap "parent_task_id" (rewriteField idMap "task_id" item))

/-- The active task of the payload. -/
def rewriteActiveTask : Value → Value
  | .dict item =>
    match Dict.get? item "task_id" with
    | some _ => .dict (rewriteField idMap "previous_task_id" (rewriteField idMap "task_id" item))
    | none => .dict item
  | v => v

end Rewriting

/-- The items of a list that are mappings are changed, and nothing else. -/
def onItem (f : Dict → Dict) : Value → Value
  | .dict item => .dict (f item)
  | v => v

def onItems (f : Dict → Dict) : Value → Value
  | .list items => .list (items.map (onItem f))
  | v => v

/-- The items of one collection of the payload are changed. -/
def onSection (key : String) (f : Dict → Dict) (payload : Dict) : Dict :=
  match payload.get? key with
  | some v => payload.set key (onItems f v)
  | none => payload

/-- The collections whose items name their task. -/
def taskIdSections : List String :=
  ["plans", "questions", "runs", "changes", "checks", "code_reviews", "handoffs", "todos", "links",
    "locks", "events", "agent_command_logs"]

/-- The collections of the payload under the new ids. -/
def rewriteCollections (idMap : List (String × String)) (payload : Dict) : Dict :=
  let tasks := onSection "tasks" (rewriteTask idMap) payload
  let owned := taskIdSections.foldl
    (fun p key => onSection key (rewriteField idMap "task_id") p) tasks
  let required := onSection "requirements" (rewriteRequirement idMap) owned
  onSection "releases" (rewriteField idMap "boundary_task_id") required

/-- `_rewrite_task_ids_in_payload`. -/
def rewriteTaskIdsInPayload (idMap : List (String × String)) (includeActiveTask : Bool)
    (payload : Dict) : Dict :=
  let rewritten := if idMap = [] then payload else rewriteCollections idMap payload
  if includeActiveTask = false then rewritten.set "active_task" .null
  else if idMap = [] then rewritten
  else match rewritten.get? "active_task" with
    | some v => rewritten.set "active_task" (rewriteActiveTask idMap v)
    | none => rewritten

end Taskledger
