import Taskledger.Domain.Policies
import Taskledger.Library.Directory

/-!
# The ledger

The record files of one ledger, and its primitive writes. A file is
represented by the record handed to the write; reading it back is `reload`.
The indexes under `indexes/` are derived caches and are not part of the state.
-/

namespace Taskledger

open Library

/-- A sidecar filed under a task. -/
structure Filed (α : Type) where
  owner : String
  record : α

/-- An audit copy of a lock that was broken or released when expired. -/
structure LockAudit where
  taskId : String
  /-- The file name without `broken-lock-` and `.yaml`. -/
  stamp : String
  lock : TaskLock

/-- `change_markdown_path`: the name of the file of a change. -/
def changeFileName (changeId : String) : String := changeId ++ ".md"

/-- The record files of a ledger and the task counter of its configuration. -/
structure Ledger where
  tasks : Directory TaskRecord.id
  plans : Directory fun p : PlanRecord => (p.taskId, p.planVersion)
  questions : Directory fun q : QuestionRecord => (q.taskId, q.id)
  runs : Directory fun r : TaskRunRecord => (r.taskId, r.runId)
  locks : Directory TaskLock.taskId
  changes : Directory fun c : CodeChangeRecord => (c.taskId, c.changeId)
  checks : Directory fun c : ImplementationCheckRecord => (c.taskId, c.checkId)
  reviews : Directory fun r : CodeReviewRecord => (r.taskId, r.reviewId)
  handoffs : Directory fun h : TaskHandoffRecord => (h.taskId, h.handoffId)
  todos : Directory fun t : Filed TaskTodo => (t.owner, t.record.id)
  links : Directory fun l : Filed FileLink => (l.owner, l.record.id)
  requirements : Directory fun r : Filed DependencyRequirement => (r.owner, r.record.id)
  introductions : Directory IntroductionRecord.id
  releases : Directory ReleaseRecord.version
  audits : Directory fun a : LockAudit => (a.taskId, a.stamp)
  /-- Events in the order they were appended. -/
  events : List TaskEvent
  activeTask : Option ActiveTaskState
  /-- `ledger_next_task_number`. -/
  nextTaskNumber : Nat

namespace Ledger

/-- A ledger nothing was recorded in. -/
def empty : Ledger where
  tasks := .empty
  plans := .empty
  questions := .empty
  runs := .empty
  locks := .empty
  changes := .empty
  checks := .empty
  reviews := .empty
  handoffs := .empty
  todos := .empty
  links := .empty
  requirements := .empty
  introductions := .empty
  releases := .empty
  audits := .empty
  events := []
  activeTask := none
  nextTaskNumber := 1

-- ════════════════════════════════════════════════════════════════════════
-- File writes
-- ════════════════════════════════════════════════════════════════════════

def putTask (t : TaskRecord) (s : Ledger) : Ledger := { s with tasks := s.tasks.save t }
def putPlan (p : PlanRecord) (s : Ledger) : Ledger := { s with plans := s.plans.save p }
def putQuestion (q : QuestionRecord) (s : Ledger) : Ledger :=
  { s with questions := s.questions.save q }
def putRun (r : TaskRunRecord) (s : Ledger) : Ledger := { s with runs := s.runs.save r }
def putLock (l : TaskLock) (s : Ledger) : Ledger := { s with locks := s.locks.save l }
def dropLock (taskId : String) (s : Ledger) : Ledger :=
  { s with locks := s.locks.remove taskId }
def putChange (c : CodeChangeRecord) (s : Ledger) : Ledger :=
  { s with changes := s.changes.save c }
/-- The change file of the name in the `changes` directory of the task. -/
def dropChangeFile (taskId name : String) (s : Ledger) : Ledger :=
  { s with changes := s.changes.removeWhere fun c =>
      c.taskId = taskId && changeFileName c.changeId = name }
def putCheck (c : ImplementationCheckRecord) (s : Ledger) : Ledger :=
  { s with checks := s.checks.save c }
def putReview (r : CodeReviewRecord) (s : Ledger) : Ledger :=
  { s with reviews := s.reviews.save r }
def putHandoff (h : TaskHandoffRecord) (s : Ledger) : Ledger :=
  { s with handoffs := s.handoffs.save h }
def putIntroduction (i : IntroductionRecord) (s : Ledger) : Ledger :=
  { s with introductions := s.introductions.save i }
def putRelease (r : ReleaseRecord) (s : Ledger) : Ledger :=
  { s with releases := s.releases.save r }
def putAudit (a : LockAudit) (s : Ledger) : Ledger := { s with audits := s.audits.save a }
def addEvent (e : TaskEvent) (s : Ledger) : Ledger := { s with events := s.events ++ [e] }
/-- A ledger with another list of events. -/
def withEvents (events : List TaskEvent) (s : Ledger) : Ledger := { s with events := events }
def putActiveTask (a : Option ActiveTaskState) (s : Ledger) : Ledger := { s with activeTask := a }
def putCounter (n : Nat) (s : Ledger) : Ledger := { s with nextTaskNumber := n }

/-- Write a task's todo files and remove the other ones of the task. -/
def putTodos (owner : String) (todos : List TaskTodo) (s : Ledger) : Ledger :=
  let written := todos.foldl (fun d t => d.save ⟨owner, t⟩) s.todos
  { s with todos := written.removeWhere fun f =>
      f.owner = owner ∧ f.record.id ∉ todos.map TaskTodo.id }

def putLinks (owner : String) (links : List FileLink) (s : Ledger) : Ledger :=
  let written := links.foldl (fun d l => d.save ⟨owner, l⟩) s.links
  { s with links := written.removeWhere fun f =>
      f.owner = owner ∧ f.record.id ∉ links.map FileLink.id }

def putRequirements (owner : String) (requirements : List DependencyRequirement) (s : Ledger) :
    Ledger :=
  let written := requirements.foldl (fun d r => d.save ⟨owner, r⟩) s.requirements
  { s with requirements := written.removeWhere fun f =>
      f.owner = owner ∧ f.record.id ∉ requirements.map DependencyRequirement.id }

end Ledger

/-- A read of the ledger. -/
abbrev LedgerQuery (α : Type) : Type := Query Ledger Raised α

/-- An operation on the ledger. -/
abbrev LedgerAction (α : Type) : Type := Action Ledger Raised α

end Taskledger
