import Taskledger.Library.Traversal
import Taskledger.Services.TaskLifecycle

/-!
# The tree of the tasks

Parent links are read from the task records and checked by nothing. The tree is walked down from
the tasks without a parent, and then from those whose parent is not among the tasks.
-/

namespace Taskledger

open Library

variable [Runtime]

/-- Tasks in the order of their numbers; the id decides among equal ones. -/
def sortedByTaskNumber (tasks : List TaskRecord) : List TaskRecord :=
  tasks.insertionSort fun a b =>
    taskNumericSortKey a.id < taskNumericSortKey b.id ∨
      taskNumericSortKey a.id = taskNumericSortKey b.id ∧ a.id ≤ b.id

omit [Runtime] in
/-- The parent a task names; an empty text is no parent. -/
def parentId (task : TaskRecord) : Option String := task.parentTaskId.filter (· ≠ "")

omit [Runtime] in
/-- `children_by_parent.get(id, [])`. -/
def childrenByParent (tasks : List TaskRecord) (id : String) : List TaskRecord :=
  if id ∈ tasks.map TaskRecord.id then tasks.filter fun t => parentId t = some id else []

omit [Runtime] in
def treeRoots (tasks : List TaskRecord) : List TaskRecord :=
  tasks.filter fun t => parentId t = none

omit [Runtime] in
def treeOrphans (tasks : List TaskRecord) : List TaskRecord :=
  tasks.filter fun t => (parentId t).any fun p => p ∉ tasks.map TaskRecord.id

omit [Runtime] in
/-- `_collect_subtree_ids`. -/
def collectSubtreeIds (fuel : ℕ) (rootId : String) (children : String → List TaskRecord) :
    Option (List String) :=
  collect (fun id => (children id).map TaskRecord.id) fuel [rootId] []

/-- `node`, for each of the tasks. -/
def treeWalk (fuel : ℕ) (children : String → List TaskRecord) :
    List TaskRecord → List String → Option (List (WalkTree TaskRecord) × List String) :=
  walkEach (walk TaskRecord.id (fun t => sortedByTaskNumber (children t.id)) fuel)

/-- `root_nodes` and `orphan_nodes`. -/
def rootAndOrphanNodes (fuel : ℕ) (roots orphans : List TaskRecord)
    (children : String → List TaskRecord) :
    Option (List (WalkTree TaskRecord) × List (WalkTree TaskRecord)) := do
  let (rootNodes, visited) ← treeWalk fuel children (sortedByTaskNumber roots) []
  let (orphanNodes, _) ← treeWalk fuel children (sortedByTaskNumber orphans) visited
  return (rootNodes, orphanNodes)

omit [Runtime] in
/-- The roots of the view of one subtree. -/
def subtreeRoots (tasks : List TaskRecord) (target : TaskRecord) (ids : List String) :
    List TaskRecord :=
  -- a task below another one is a root in the view of its subtree
  if (parentId target).any fun p => p ∈ tasks.map TaskRecord.id then [target]
  else (treeRoots tasks).filter fun t => t.id ∈ ids

omit [Runtime] in
/-- The children lists of the view of one subtree. -/
def subtreeChildren (tasks : List TaskRecord) (ids : List String) (id : String) :
    List TaskRecord :=
  if id ∈ ids then (childrenByParent tasks id).filter fun t => t.id ∈ ids else []

/-- `_build_task_nodes`, as far as the tree goes. `fuel` bounds the depth and the stack. -/
def buildTaskNodes (fuel : ℕ) (tasks : List TaskRecord) (taskRef : Option String) (s : Ledger) :
    Option (List (WalkTree TaskRecord) × List (WalkTree TaskRecord)) :=
  match taskRef.filter (· ≠ "") with
  | none => rootAndOrphanNodes fuel (treeRoots tasks) (treeOrphans tasks) (childrenByParent tasks)
  | some ref =>
    match resolveTask ref true s with
    | .error _ => some ([], [])
    | .ok target => do
      let ids ← collectSubtreeIds fuel target.id (childrenByParent tasks)
      rootAndOrphanNodes fuel (subtreeRoots tasks target ids)
        ((treeOrphans tasks).filter fun t => t.id ∈ ids) (subtreeChildren tasks ids)

/-- The tasks `_build_ledger` shows. -/
def treeTasks (includeArchived : Bool) : LedgerQuery (List TaskRecord) := do
  let tasks ← listTasks
  return if includeArchived then tasks else tasks.filter fun t => !isArchivedTask t

mutual

/-- A node as it stands in the payload, with the entries of `fields`. -/
def nodeValue (fields : TaskRecord → Dict) : WalkTree TaskRecord → Value
  | .again task => .dict [("id", .str task.id), ("_cycle", .bool true)]
  | .node task below => .dict (fields task ++ [("children", .list (nodeValues fields below))])

def nodeValues (fields : TaskRecord → Dict) : List (WalkTree TaskRecord) → List Value
  | [] => []
  | node :: rest => nodeValue fields node :: nodeValues fields rest

end

end Taskledger
