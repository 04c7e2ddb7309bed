import Taskledger.Library.Interleaving
import Taskledger.Services.Operations

/-!
# Storage steps

The steps that calls of several processes interleave at. Every read of the store is a
step, and so is the write of a file. A step that rewrites a file also names the record
its call has read from it.
-/

namespace Taskledger

open Library

/-- A step of a call on the storage. -/
inductive StorageStep where
  | read
  /-- The run file of a run that is started. -/
  | newRun (run : TaskRunRecord)
  | putRun (read new : TaskRunRecord)
  /-- The exclusive creation of a lock file. -/
  | createLock (lock : TaskLock)
  | putLock (lock : TaskLock)
  /-- `ledger_next_task_number` in the configuration. -/
  | putCounter (number : Nat)
  | newTask (task : TaskRecord)
  | putTask (read new : TaskRecord)
  | newChange (change : CodeChangeRecord)
  | newCheck (check : ImplementationCheckRecord)
  | putTodos (owner : String) (read new : List TaskTodo)
  | putHandoff (read new : TaskHandoffRecord)
  | event (env : Env) (taskId name : String) (data : Dict)

variable [Runtime]

namespace StorageStep

/-- What a step does to the ledger. -/
def effect : StorageStep → Ledger → Ledger
  | read, s => s
  | newRun run, s => s.putRun run
  | putRun _ run, s => s.putRun run
  | createLock lock, s => ((writeLock lock).runOn s).2
  | putLock lock, s => s.putLock lock
  | putCounter number, s => s.putCounter number
  | newTask task, s => s.putTask task
  | putTask _ task, s => s.putTask task
  | newChange change, s => s.putChange change
  | newCheck check, s => s.putCheck check
  | putTodos owner _ todos, s => s.putTodos owner todos
  | putHandoff _ handoff, s => s.putHandoff handoff
  | event env taskId name data, s => ((appendEvent env taskId name data).runOn s).2

end StorageStep

/-- A service call cut into its storage steps. -/
abbrev Call (α : Type) : Type := Process StorageStep Ledger Raised α

instance : MonadLift LedgerQuery Call := ⟨Process.read .read⟩
instance : MonadLift (Except Raised) Call := ⟨Process.check⟩

/-- A step that writes. -/
def perform (l : StorageStep) : Call Unit := Process.write l

/-- The exclusive creation of a lock file: whether it succeeded. -/
def tryLock (lock : TaskLock) : Call Bool := .step (.createLock lock) fun s =>
  .done (.ok (s.locks.lookup lock.taskId).isNone)

/-- The action of a call that runs alone. -/
def Call.alone {α : Type} (c : Call α) : LedgerAction α := Process.alone StorageStep.effect c

namespace Call

variable {α β : Type} {c : Call α} {f : α → Call β} {env : Env}

theorem alone_bind : (c >>= f).alone = c.alone >>= fun a => (f a).alone := Process.alone_bind

@[simp] theorem alone_pure (a : α) : (pure a : Call α).alone = pure a := rfl

@[simp]
theorem alone_query (q : LedgerQuery α) : (liftM q : Call α).alone = liftM q :=
  Process.alone_read fun _ => rfl

@[simp]
theorem alone_except (x : Except Raised α) : (liftM x : Call α).alone = liftM x := rfl

@[simp]
theorem alone_perform (l : StorageStep) : (perform l).alone = Action.write l.effect := rfl

@[simp]
theorem alone_event (taskId name : String) (data : Dict) :
    (perform (.event env taskId name data)).alone = appendEvent env taskId name data := rfl

@[simp]
theorem alone_tryLock (lock : TaskLock) : (tryLock lock).alone = writeLock lock := by
  funext s
  show (Except.ok _, ((writeLock lock).runOn s).2) = (writeLock lock).runOn s
  unfold Action.runOn writeLock
  cases s.locks.lookup lock.taskId <;> rfl

@[simp]
theorem alone_throw (e : Raised) : Call.alone (.done (.error e) : Call α) = throw e := rfl

end Call

end Taskledger
