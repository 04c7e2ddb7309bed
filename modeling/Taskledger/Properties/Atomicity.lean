import Taskledger.Lifecycle.Listings
import Taskledger.Lifecycle.Steps

/-!
# Finishing and errors

Both finishing operations write the run and the task before they look for the lock,
and list the records of the ledger at their end. So what an operation that raises
leaves behind depends on the lock, and on whether all of these records load.
-/

namespace Taskledger

open Library Action Lifecycle

-- ════════════════════════════════════════════════════════════════════════
-- What a call that raises leaves
-- ════════════════════════════════════════════════════════════════════════

/-- The task, its runs, its lock and its events are the same in two ledgers. -/
structure Ledger.SameRecords (s s' : Ledger) (id : String) : Prop where
  task : s'.tasks.lookup id = s.tasks.lookup id
  runs : ∀ runId, s'.runs.lookup (id, runId) = s.runs.lookup (id, runId)
  lock : s'.locks.lookup id = s.locks.lookup id
  events : s'.events.filter (fun e => e.taskId = id) = s.events.filter fun e => e.taskId = id

theorem Ledger.SameRecords.refl (s : Ledger) (id : String) : s.SameRecords s id :=
  ⟨rfl, fun _ => rfl, rfl, rfl⟩

/-- Where the action raises, the records of every task stay. -/
def AtomicOnError {α : Type} (m : LedgerAction α) (s : Ledger) : Prop :=
  ∀ e, (m.runOn s).1 = .error e → ∀ id, s.SameRecords (m.runOn s).2 id

section Finishing

variable [Runtime] {s : Ledger} {env : Env} {α β : Type}

omit [Runtime] in
/-- After reads the action is atomic where what follows them is. -/
theorem atomicOnError_query {q : LedgerQuery β} {k : β → LedgerAction α} :
    AtomicOnError ((liftM q : LedgerAction β) >>= k) s ↔
      ∀ b, q s = .ok b → AtomicOnError (k b) s := by
  cases hq : q s with
  | error e =>
    constructor
    · intro _ b hb
      cases hb
    · intro _ e' _ id
      rw [runOn_query_error hq]
      exact .refl s id
  | ok b =>
    unfold AtomicOnError
    rw [runOn_query hq]
    constructor
    · rintro h _ ⟨⟩
      exact h
    · intro h
      exact h b rfl

/-- The lock of a stage and a run is removed, and the list of events grows. -/
theorem sat_deleteLock_locked {task : TaskRecord} {lock : TaskLock} {runType : RunType}
    {runId event : String} {data : Dict} {k : Unit → LedgerAction α}
    {Q : Except Raised α → Ledger → Prop} (hlock : readLock task.id s = .ok (some lock))
    (htype : lock.runType = runType) (hrun : lock.runId = runId)
    (hk : ∀ events, (k ()).Sat ((s.dropLock task.id).withEvents events) Q) :
    (deleteLock env task runType runId event data >>= k).Sat s Q := by
  have hmatch : matchingLock task runType runId (some lock) = .ok lock := by
    simp [matchingLock, htype, hrun]
  refine Sat.bind (P := fun r s' => r = .ok () ∧ ∃ events,
    s' = (s.dropLock task.id).withEvents events) ?_ ?_ ?_
  · refine sat_known hlock (sat_known (q := fun _ => _) hmatch (sat_eventList fun events => ?_))
    refine Sat.write ?_
    by_cases h : env.eventLogging = true
    · exact ⟨rfl, _, by simp only [runOn, appendEvent, Action.write, if_pos h]; rfl⟩
    · exact ⟨rfl, events, by simp only [runOn, appendEvent, Action.write, if_neg h]; rfl⟩
  · rintro e _ ⟨h, -⟩
    cases h
  · rintro _ _ ⟨-, events, rfl⟩
    exact hk events

/-- The ledger once a run and its task are written and the lock is released. -/
def Ledger.afterRelease (s : Ledger) (finished : TaskRunRecord) (updated released : TaskRecord)
    (events : List TaskEvent) : Ledger :=
  ((((s.putRun finished).putTask updated).dropLock updated.id).withEvents events).putTask released

/-- The writes of a finishing operation with the matching lock. -/
theorem sat_finishRun_locked {finished : TaskRunRecord} {updated : TaskRecord} {lock : TaskLock}
    {runType : RunType} {runId event : String} {stage : TaskStatusStage} {data : Dict}
    {k : Unit → LedgerAction α} {Q : Except Raised α → Ledger → Prop}
    (hlock : readLock updated.id s = .ok (some lock)) (htype : lock.runType = runType)
    (hrun : lock.runId = runId)
    (hk : ∀ events, (k ()).Sat (s.afterRelease finished updated
      { updated with statusStage := stage, updatedAt := utcNow env } events) Q) :
    (saveRun finished >>= fun _ => saveTask updated >>= fun _ =>
      releaseLock env updated runType runId stage event data >>= k).Sat s Q := by
  have hlock' : readLock updated.id ((s.putRun finished).putTask updated) = .ok (some lock) := by
    unfold readLock at *
    exact hlock
  refine Sat.write (Sat.write (Sat.bind (P := fun r s' => r = .ok () ∧ ∃ events,
    s' = s.afterRelease finished updated
      { updated with statusStage := stage, updatedAt := utcNow env } events) ?_ ?_ ?_))
  · exact sat_deleteLock_locked hlock' htype hrun fun events => ⟨rfl, events, rfl⟩
  · rintro e _ ⟨h, -⟩
    cases h
  · rintro _ _ ⟨-, events, rfl⟩
    exact hk events

/-- The lock of the task is there, and the records of the ledger load. -/
structure Ledger.Releases (s : Ledger) (id : String) : Prop where
  lock : ∃ l, s.locks.lookup id = some l
  loads : ∃ u, rebuildV2Indexes s = .ok u

/-- A rebuild after the release loads what a rebuild before it does. -/
theorem Ledger.rebuilds_afterRelease {t updated released : TaskRecord}
    {finished : TaskRunRecord} {events : List TaskEvent} (hs : s.Sound)
    (ht : s.tasks.lookup updated.id = some t) (hload : ∃ t', t.reload = .ok t')
    (hupdated : ∃ u, updated.reload = .ok u) (hreleased : ∃ u, released.reload = .ok u)
    (hid : released.id = updated.id) :
    (s.afterRelease finished updated released events).Rebuilds ↔ s.Rebuilds := by
  have hlocks : ∀ l ∈ s.locks.files, ∃ l', l.reload = .ok l' := fun l hl =>
    TaskLock.loads_of_isSound (lock_file_sound hs hl)
  have hwritten : (((s.putRun finished).putTask updated).dropLock updated.id).tasks.lookup
      released.id = some updated := by
    rw [hid]
    exact Directory.lookup_save_self _ _
  calc (s.afterRelease finished updated released events).Rebuilds
      ↔ ((((s.putRun finished).putTask updated).dropLock updated.id).putTask released).Rebuilds :=
        Ledger.Rebuilds.congr rfl rfl rfl rfl
    _ ↔ (((s.putRun finished).putTask updated).dropLock updated.id).Rebuilds :=
        Ledger.rebuilds_putTask hwritten hupdated hreleased
    _ ↔ ((s.putRun finished).putTask updated).Rebuilds := Ledger.rebuilds_dropLock hlocks
    _ ↔ (s.putRun finished).Rebuilds := Ledger.rebuilds_putTask ht hload hupdated
    _ ↔ s.Rebuilds := Ledger.Rebuilds.congr rfl rfl rfl rfl

/-- The end of a finishing operation: an event, the rebuild and the payload. -/
def finishTail (env : Env) (taskId event : String) (data d : Dict) : LedgerAction Dict :=
  appendEvent env taskId event data >>= fun _ =>
    (liftM rebuildV2Indexes : LedgerAction Unit) >>= fun _ => pure d

/-- Without the lock the run is written, and then the release raises. -/
theorem not_atomicOnError_unlocked {updated : TaskRecord} {run finished : TaskRunRecord}
    {event : String} {stage : TaskStatusStage} {runType : RunType} {data : Dict}
    {k : Unit → LedgerAction α} (hlock : readLock updated.id s = .ok none)
    (hrun : (s.view updated.id).Running run.runId run.core runType)
    (hkey : (finished.taskId, finished.runId) = (updated.id, run.runId))
    (hstopped : finished.status ≠ .running) :
    ¬ AtomicOnError (saveRun finished >>= fun _ => saveTask updated >>= fun _ =>
      releaseLock env updated runType run.runId stage event data >>= k) s := by
  intro hatomic
  obtain ⟨⟨e, he⟩, hafter⟩ : (saveRun finished >>= fun _ => saveTask updated >>= fun _ =>
      releaseLock env updated runType run.runId stage event data >>= k).Sat s _ :=
    sat_finishRun_unlocked hlock
  have hsame := (hatomic e he updated.id).runs run.runId
  rw [hafter] at hsame
  obtain ⟨old, hold, hcore⟩ := Option.map_eq_some_iff.1 hrun.stored
  have hnew : (s.putRun finished).runs.lookup (updated.id, run.runId) = some finished :=
    hkey ▸ Directory.lookup_save_self _ _
  have heq : finished = old := Option.some.inj (hnew.symm.trans (hsame.trans hold))
  have hrunning : old.status = .running := (congrArg RunCore.status hcore).trans hrun.running
  rw [heq] at hstopped
  exact hstopped hrunning

/-- The writes of a finishing operation are atomic when the lock is there and the records
load, and only then. -/
theorem atomicOnError_finishRun {t updated : TaskRecord} {run finished : TaskRunRecord}
    {event event' : String} {stage : TaskStatusStage} {runType : RunType} {data data' d : Dict}
    (hs : s.Sound) (ht : s.tasks.lookup updated.id = some t) (hload : ∃ t', t.reload = .ok t')
    (hupdated : ∃ u, updated.reload = .ok u)
    (hrun : (s.view updated.id).Running run.runId run.core runType)
    (hkey : (finished.taskId, finished.runId) = (updated.id, run.runId))
    (hstopped : finished.status ≠ .running) :
    AtomicOnError (saveRun finished >>= fun _ => saveTask updated >>= fun _ =>
      releaseLock env updated runType run.runId stage event data >>= fun _ =>
        finishTail env updated.id event' data' d) s ↔ s.Releases updated.id := by
  obtain ⟨lock, hlock⟩ := readLock_loads hs updated.id
  cases lock with
  | none =>
    refine iff_of_false (not_atomicOnError_unlocked hlock hrun hkey hstopped) ?_
    rintro ⟨⟨l, hl⟩, -⟩
    rw [readLock_none hlock] at hl
    cases hl
  | some l =>
    obtain ⟨hlid, hltype⟩ := (hs _).lock_of_running (view_locked hlock) hrun.stored hrun.running
    obtain ⟨stored, hstored, -⟩ := readLock_some hlock
    have hreleased : ∃ u, TaskRecord.reload { updated with
        statusStage := stage, updatedAt := utcNow env } = .ok u :=
      TaskRecord.loads_congr hupdated rfl rfl rfl
    have hafter : (saveRun finished >>= fun _ => saveTask updated >>= fun _ =>
        releaseLock env updated runType run.runId stage event data >>= fun _ =>
          finishTail env updated.id event' data' d).Sat s
        fun r s' => s'.locks.lookup updated.id = none ∧ ((∃ d, r = .ok d) ↔ s.Rebuilds) := by
      refine sat_finishRun_locked hlock (hltype.trans hrun.ofType) hlid fun events => ?_
      refine sat_eventList fun events' => ?_
      have hfree : (s.locks.remove updated.id).lookup updated.id = none := by
        simp [Directory.lookup_remove]
      have hiff : Ledger.Rebuilds ((s.afterRelease finished updated { updated with
          statusStage := stage, updatedAt := utcNow env } events).withEvents events') ↔
            s.Rebuilds :=
        Ledger.rebuilds_withEvents.trans
          (Ledger.rebuilds_afterRelease hs ht hload hupdated hreleased rfl)
      rw [← hiff, ← rebuildV2Indexes_loads]
      refine Sat.query (fun e he => ⟨hfree, ?_⟩) fun u hu => Sat.pure ⟨hfree, ?_⟩
      · refine iff_of_false not_error_ok ?_
        rintro ⟨u, hu⟩
        cases he.symm.trans hu
      · exact iff_of_true ⟨d, rfl⟩ ⟨u, hu⟩
    obtain ⟨hfree, hreturns⟩ := hafter
    constructor
    · intro hatomic
      refine ⟨⟨stored, hstored⟩, rebuildV2Indexes_loads.2 (hreturns.1 ?_)⟩
      cases hr : (runOn _ s).1 with
      | ok d => exact ⟨d, rfl⟩
      | error e =>
        have hsame := (hatomic e hr updated.id).lock
        rw [hfree, hstored] at hsame
        cases hsame
    · rintro ⟨-, hloads⟩ e he
      obtain ⟨d, hd⟩ := hreturns.2 (rebuildV2Indexes_loads.1 hloads)
      cases he.symm.trans hd

/-- A finishing operation is atomic on errors exactly when its checks refuse it, or the
lock of the task is there and the records of the ledger load. -/
theorem finish_atomic_iff (h : s.Reachable) (env : Env) (ref summary : String) :
    (AtomicOnError (finishImplementation env ref summary) s ↔
      ∀ f, implementationFinishOf env ref s = .ok f → s.Releases f.task.id) ∧
    ∀ result recommendation,
      (AtomicOnError (finishValidation env ref result summary recommendation) s ↔
        ∀ f, validationFinishOf ref result s = .ok f → s.Releases f.task.id) := by
  have hs := h.sound
  constructor
  · refine atomicOnError_query.trans (forall₂_congr fun f hf => ?_)
    obtain ⟨hfound, hr⟩ := implementationFinishOf_eq_ok hf
    obtain ⟨stored, hstored, hreload⟩ := resolveTask_stored hfound
    obtain ⟨-, hrunning, hfiled⟩ := view_runningRun
      (fun i hi => (hs _).links _ (view_resolved hfound) i (.inr (.inl hi))) hr
    refine atomicOnError_finishRun hs (show s.tasks.lookup f.task.id = _ from hstored) ⟨_, hreload⟩
      (TaskRecord.loads_congr (TaskRecord.reload_again hreload) rfl rfl rfl) hrunning
      (congrArg₂ Prod.mk hfiled rfl) ?_
    simp [finishedImplementation]
  · intro result recommendation
    refine atomicOnError_query.trans (forall₂_congr fun f hf => ?_)
    obtain ⟨hfound, hr, -, -⟩ := validationFinishOf_eq_ok hf
    obtain ⟨stored, hstored, hreload⟩ := resolveTask_stored hfound
    obtain ⟨-, hrunning, hfiled⟩ := view_runningRun
      (fun i hi => (hs _).links _ (view_resolved hfound) i (.inr (.inr hi))) hr
    refine atomicOnError_finishRun hs (show s.tasks.lookup f.task.id = _ from hstored) ⟨_, hreload⟩
      (TaskRecord.loads_congr (TaskRecord.reload_again hreload) rfl rfl rfl) hrunning
      (congrArg₂ Prod.mk hfiled rfl) ?_
    simp only [finishedValidation]
    cases f.result <;> decide

end Finishing

section Evaluation

attribute [local instance] plainRuntime

/-- A task under implementation. -/
def implementingOps : List Op := approvedOps ++ [.startImplementation "task-0001" none none]

/-- A task under implementation whose lock was broken. -/
def brokenLockOps : List Op := implementingOps ++ [.breakLock "task-0001" "stale"]

theorem finish_atomic_iff_locked :
    (afterOps implementingOps).Reachable ∧
      AtomicOnError (finishImplementation plainEnv "task-0001" "done")
        (afterOps implementingOps) := by
  have hreachable := reachable_afterOps implementingOps
  refine ⟨hreachable, (finish_atomic_iff hreachable plainEnv "task-0001" "done").1.2 ?_⟩
  have hid : ((implementationFinishOf plainEnv "task-0001" (afterOps implementingOps)).toOption.map
      fun f => f.task.id) = some "task-0001" := by decide +kernel
  have hlock : ((afterOps implementingOps).locks.lookup "task-0001").isSome = true := by
    decide +kernel
  have hloads : (rebuildV2Indexes (afterOps implementingOps)).toOption.isSome = true := by
    decide +kernel
  intro f hf
  rw [hf] at hid
  have hfid : f.task.id = "task-0001" := Option.some.inj hid
  rw [hfid]
  exact ⟨Option.isSome_iff_exists.1 hlock, isSome_toOption.1 hloads⟩

/-- With the lock broken the call raises, and the run is finished all the same. -/
theorem finish_raises_with_run_written :
    (afterOps brokenLockOps).Reachable ∧
      ¬ AtomicOnError (finishImplementation plainEnv "task-0001" "done")
        (afterOps brokenLockOps) := by
  refine ⟨reachable_afterOps _, fun h => ?_⟩
  have hraises : ((finishImplementation plainEnv "task-0001" "done").runOn
      (afterOps brokenLockOps)).1.isOk = false := by decide +kernel
  have hwritten : (((finishImplementation plainEnv "task-0001" "done").runOn
      (afterOps brokenLockOps)).2.runs.lookup ("task-0001", "run-0002")) ≠
        (afterOps brokenLockOps).runs.lookup ("task-0001", "run-0002") := by decide +kernel
  cases hr : ((finishImplementation plainEnv "task-0001" "done").runOn
      (afterOps brokenLockOps)).1 with
  | error e => exact hwritten ((h e hr "task-0001").runs "run-0002")
  | ok d =>
    rw [hr] at hraises
    cases hraises

end Evaluation

end Taskledger
