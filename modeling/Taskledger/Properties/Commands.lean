import Taskledger.Lifecycle.Steps

/-!
# Managed commands

What a managed command writes once its shell command has returned, relative to the
ledger that the operations run during it have left.
-/

namespace Taskledger

open Library Action Lifecycle

section Commands

variable [Runtime] {s s' : Ledger} {env : Env} {ref : String}

/-- The task, apart from its time stamp, and the run read as they are given. -/
structure Ledger.ReadsBack (s : Ledger) (task : TaskRecord) (run : TaskRunRecord) : Prop where
  taskRead : ∃ stored t, s.tasks.lookup task.id = some stored ∧ stored.reload = .ok t ∧
    { t with updatedAt := task.updatedAt } = task
  runRead : ∃ stored, s.runs.lookup (task.id, run.runId) = some stored ∧ stored.reload = .ok run

-- ════════════════════════════════════════════════════════════════════════
-- The task and the run of a command
-- ════════════════════════════════════════════════════════════════════════

end Commands

section Evaluation

attribute [local instance] plainRuntime

end Evaluation

end Taskledger
