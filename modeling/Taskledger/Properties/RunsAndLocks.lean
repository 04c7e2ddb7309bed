import Taskledger.Lifecycle.Steps
import Taskledger.PlainRuntime

/-!
# Running runs and locks

At most one run of a task is running and a lock names it, in every reachable
ledger. What a terminal task may still have is less.
-/

namespace Taskledger

open Library Action Lifecycle Enumeration

section Invariant

variable [Runtime] {s : Ledger}

-- ════════════════════════════════════════════════════════════════════════
-- One running run, which the lock names
-- ════════════════════════════════════════════════════════════════════════

/-- Of the runs of a task at most one is running, and a lock file of the task names a
running run of the type of the lock's stage. -/
theorem one_running_run_named_by_lock (h : s.Reachable) :
    (∀ r ∈ s.runs.files, ∀ r' ∈ s.runs.files, r.taskId = r'.taskId → r.status = .running →
      r'.status = .running → r = r') ∧
    ∀ l ∈ s.locks.files, ∃ r ∈ s.runs.files, r.taskId = l.taskId ∧ r.runId = l.runId ∧
      r.status = .running ∧ r.runType = l.runType := by
  constructor
  · intro r hr r' hr' htask hrun hrun'
    have hv := view_file_run hr
    have hv' := view_file_run hr'
    rw [← htask] at hv'
    have hid : r.runId = r'.runId := (h.sound _).oneRunning _ _ _ _ hv hv' hrun hrun'
    have hlookup := Directory.lookup_of_mem hr
    rw [htask, hid] at hlookup
    exact Option.some.inj (hlookup.symm.trans (Directory.lookup_of_mem hr'))
  · intro l hl
    obtain ⟨c, hc, htype, hrunning⟩ := (h.sound _).lockNames _ (view_file_lock hl)
    obtain ⟨r, hr, rfl⟩ := Option.map_eq_some_iff.1 hc
    have hkey := Directory.key_of_lookup hr
    refine ⟨r, Directory.mem_of_lookup hr, ?_, ?_, hrunning, htype⟩
    · exact congrArg Prod.fst hkey
    · exact congrArg Prod.snd hkey

end Invariant

section Evaluation

attribute [local instance] plainRuntime

/-- A task in planning, with its run and its lock. -/
def planningOps : List Op :=
  [.createTask { title := "A", description := "d" }, .startPlanning "task-0001" none none]

theorem one_running_run_named_by_lock_planning :
    (afterOps planningOps).locks.files.map TaskLock.runId = ["run-0001"] ∧
      ∀ l ∈ (afterOps planningOps).locks.files, ∃ r ∈ (afterOps planningOps).runs.files,
        r.taskId = l.taskId ∧ r.runId = l.runId ∧ r.status = .running ∧ r.runType = l.runType := by
  refine ⟨by decide, ?_⟩
  exact (one_running_run_named_by_lock (reachable_afterOps planningOps)).2

end Evaluation

end Taskledger
