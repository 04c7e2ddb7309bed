import Taskledger.Lifecycle.Listings
import Taskledger.Lifecycle.Steps
import Taskledger.Properties.StageReports
import Taskledger.Services.Doctor

/-!
# Doctor's repair commands

Doctor looks at the lock of a task only while it has not expired; both operations that its
commands run refuse while there is a lock file at all. A resumption asks for more: the task is
not archived and did not fail its validation, its accepted plan is stored, and its requirements
are done.
-/

namespace Taskledger

open Library Action Lifecycle

section Doctor

variable [Runtime] {s : Ledger} {env after : Env} {task : TaskRecord} {run : TaskRunRecord}
  {m : RunLockMismatch} {actor : Option ActorRef} {harness : Option NamedHarness}

-- ════════════════════════════════════════════════════════════════════════
-- What a mismatch says
-- ════════════════════════════════════════════════════════════════════════

/-- What doctor has read when it reports a running run of a task without a lock. -/
structure Reported (s : Ledger) (env : Env) (task : TaskRecord) (run : TaskRunRecord) : Prop where
  listed : ∃ tasks, listTasks s = .ok tasks ∧ task ∈ tasks
  runs : ∃ runs, listRuns task.id s = .ok runs ∧ run ∈ runs
  running : run.status = .running
  unlocked : ∃ locks runs active, loadActiveLocks s = .ok locks ∧ listRuns task.id s = .ok runs ∧
    activeLockOf env task.id locks = .ok active ∧
    deriveActiveStage active (runs.filter fun r => r.status = .running) = none

/-- Doctor has loaded the tasks, the locks and the requirements. -/
structure DoctorReads (s : Ledger) : Prop where
  tasks : ∀ t ∈ s.tasks.files, ∃ t', t.reload = .ok t'
  locks : ∀ l ∈ s.locks.files, ∃ l', l.reload = .ok l'
  requirements : ∀ t ∈ s.tasks.files, ∀ f ∈ s.requirements.files, f.owner = t.id →
    ∃ r, f.record.reload = .ok r

theorem reported_of_mismatch {found : List RunLockMismatch}
    (h : runLockMismatches env s = .ok found) (hm : m ∈ found) :
    DoctorReads s ∧ ∃ task run, Reported s env task run ∧ m = mismatchOf task run := by
  obtain ⟨tasks, htasks, h⟩ := Query.bind_eq_ok.1 h
  obtain ⟨locks, hlocks, h⟩ := Query.bind_eq_ok.1 h
  obtain ⟨scanned, hscanned, h⟩ := Query.bind_eq_ok.1 h
  obtain ⟨lists, hlists, h⟩ := Query.bind_eq_ok.1 h
  obtain ⟨_, -, h⟩ := Query.bind_eq_ok.1 h
  cases Query.pure_eq_ok.1 h
  have hpair (t : TaskRecord) (ht : t ∈ tasks) :
      ∃ runs, (t, runs) ∈ scanned := by
    obtain ⟨pair, hpair⟩ := readAll_returns hscanned ht
    obtain ⟨runs, -, rfl⟩ := map_eq_ok.1 hpair
    exact ⟨runs, (mem_readAll hscanned).2 ⟨t, ht, hpair⟩⟩
  refine ⟨⟨listTasks_loads.1 ⟨_, htasks⟩, loadActiveLocks_loads.1 ⟨_, hlocks⟩, ?_⟩, ?_⟩
  · intro stored hstored
    obtain ⟨t, hreload⟩ := listTasks_loads.1 ⟨_, htasks⟩ stored hstored
    have ht : t ∈ tasks := (mem_listTasks htasks).2 ⟨stored, hstored, hreload⟩
    obtain ⟨runs, hmem⟩ := hpair t ht
    obtain ⟨list, hlist⟩ := readAll_returns hlists hmem
    obtain ⟨requirements, hrequirements, -⟩ := Query.bind_eq_ok.1 hlist
    rw [← (TaskRecord.of_reload hreload).1]
    exact loadRequirements_loads.1 ⟨_, hrequirements⟩
  · obtain ⟨list, hlist, hm⟩ := List.mem_flatten.1 hm
    obtain ⟨⟨task, runs⟩, hmem, hscan⟩ := (mem_readAll hlists).1 hlist
    obtain ⟨t, ht, hload⟩ := (mem_readAll hscanned).1 hmem
    obtain ⟨runs', hruns, hpair⟩ := map_eq_ok.1 hload
    cases hpair
    obtain ⟨_, -, hscan⟩ := Query.bind_eq_ok.1 hscan
    obtain ⟨_, -, hscan⟩ := Query.bind_eq_ok.1 hscan
    obtain ⟨active, hactive, hscan⟩ := Query.bind_eq_ok.1 hscan
    obtain ⟨_, -, hscan⟩ := Query.bind_eq_ok.1 hscan
    cases Query.pure_eq_ok.1 hscan
    unfold mismatchesOf at hm
    simp only at hm
    split at hm
    · rename_i hmismatch
      obtain ⟨run, hrun, rfl⟩ := List.mem_map.1 hm
      obtain ⟨hrun, hrunning⟩ := List.mem_filter.1 hrun
      refine ⟨task, run, ⟨⟨tasks, htasks, ht⟩, ⟨runs, hruns, hrun⟩, by simpa using hrunning,
        locks, runs, active, hlocks, hruns, hactive, ?_⟩, rfl⟩
      exact Option.isNone_iff_eq_none.1 hmismatch.2
    · cases hm

-- ════════════════════════════════════════════════════════════════════════
-- What the operations do
-- ════════════════════════════════════════════════════════════════════════

/-- A listed run resolves by its id. -/
theorem resolveRun_of_listed {id : String} {runs : List TaskRunRecord}
    (hruns : listRuns id s = .ok runs) (hrun : run ∈ runs) (hcan : Canonical "run" run.runId) :
    resolveRun id run.runId s = .ok run := by
  have hid : normalizeResourceRef run.runId "run" = .ok run.runId :=
    hcan.normalizeResourceRef_eq (by decide)
  refine Query.bind_eq_ok.2 ⟨_, hid, Query.bind_eq_ok.2 ⟨runs, hruns, ?_⟩⟩
  cases hfind : runs.find? fun r => refersTo run.runId run.runId r.runId with
  | none =>
    have hnone := List.find?_eq_none.1 hfind run hrun
    simp [refersTo] at hnone
  | some r =>
    have hr : r.runId = run.runId := by simpa [refersTo] using List.find?_some hfind
    obtain ⟨stored, hstored, htask, hread⟩ :=
      (mem_listRuns hruns).1 (List.mem_of_find?_eq_some hfind)
    obtain ⟨stored', hstored', htask', hread'⟩ := (mem_listRuns hruns).1 hrun
    have hkey : (stored.taskId, stored.runId) = (stored'.taskId, stored'.runId) := by
      rw [htask, htask', ← (TaskRunRecord.of_reload hread).1,
        ← (TaskRunRecord.of_reload hread').1, hr]
    have hlookup := Directory.lookup_of_mem hstored
    rw [hkey, Directory.lookup_of_mem hstored'] at hlookup
    cases hlookup
    cases hread.symm.trans hread'
    rfl

theorem requireRun_of_listed {runs : List TaskRunRecord} {latest : Option String}
    (hruns : listRuns task.id s = .ok runs) (hrun : run ∈ runs)
    (hcan : Canonical "run" run.runId) :
    requireRun task (orOption (some run.runId) latest) s = .ok run := by
  have hne : run.runId ≠ "" := hcan.ne_empty (by decide)
  have hid : orOption (some run.runId) latest = some run.runId := by
    simp [orOption, hne]
  rw [hid]
  exact resolveRun_of_listed hruns hrun hcan

/-- A rebuild at the end of an operation. -/
theorem sat_rebuildTail {d : Dict} :
    ((liftM rebuildV2Indexes : LedgerAction Unit) >>= fun _ => pure d).Sat s fun r s' =>
      ((∃ d, r = .ok d) ↔ s.Rebuilds) ∧ s' = s := by
  rw [← rebuildV2Indexes_loads]
  refine Sat.query (fun e he => ⟨iff_of_false ?_ ?_, rfl⟩) fun u hu =>
    Sat.pure ⟨iff_of_true ⟨d, rfl⟩ ⟨u, hu⟩, rfl⟩
  · rintro ⟨d, h⟩
    cases h
  · rintro ⟨u, hu⟩
    cases he.symm.trans hu

/-- The checks of a run repair. -/
theorem runRepairOf_eq_ok_iff {reason : String} (hreason : Text.isBlank reason = false)
    (hfound : resolveTask task.id false s = .ok task)
    (hrun : requireRun task (orOption (some run.runId) task.latestPlanningRun) s = .ok run)
    (htype : run.runType = .planning)
    (hrunning : run.status = .running) :
    (∃ p, runRepairOf env task.id (some run.runId) reason s = .ok p) ↔
      readLock task.id s = .ok none := by
  constructor
  · rintro ⟨⟨task', run'⟩, h⟩
    obtain ⟨-, hfound', -, -, -, hlock⟩ := runRepairOf_checks.1 h
    cases hfound.symm.trans hfound'
    exact hlock
  · intro hlock
    exact ⟨(task, run), runRepairOf_checks.2 ⟨hreason, hfound, hrun, htype, hrunning, hlock⟩⟩

/-- A run repair returns when there is no lock file and the ledger's records load; it finishes
the run. -/
theorem sat_repairRun {reason : String} (hreason : Text.isBlank reason = false)
    (hfound : resolveTask task.id false s = .ok task)
    (hrun : requireRun task (orOption (some run.runId) task.latestPlanningRun) s = .ok run)
    (htype : run.runType = .planning) (hrunning : run.status = .running) :
    (repairOrphanedPlanningRun env task.id (some run.runId) reason).Sat s fun r s' =>
      ((∃ d, r = .ok d) ↔ readLock task.id s = .ok none ∧ s.Rebuilds) ∧
        ((∃ d, r = .ok d) → ∃ finished : TaskRunRecord, finished.runId = run.runId ∧
          finished.taskId = run.taskId ∧ finished.status = .finished ∧
          s'.runs = s.runs.save finished) := by
  have hchecks : (∃ p, runRepairOf env task.id (some run.runId) reason s = .ok p) ↔
      readLock task.id s = .ok none :=
    runRepairOf_eq_ok_iff hreason hfound hrun htype hrunning
  refine Sat.query (fun e he => ⟨iff_of_false ?_ ?_, ?_⟩) fun p hp => ?_
  · rintro ⟨d, h⟩
    cases h
  · rintro ⟨hlock, -⟩
    obtain ⟨p, hp⟩ := hchecks.2 hlock
    cases he.symm.trans hp
  · rintro ⟨d, h⟩
    cases h
  obtain ⟨task', run'⟩ := p
  obtain rfl : run' = run := by
    obtain ⟨_, -, h⟩ := Query.bind_eq_ok.1 hp
    obtain ⟨_, hfound', h⟩ := Query.bind_eq_ok.1 h
    obtain ⟨_, hrun', h⟩ := Query.bind_eq_ok.1 h
    iterate 4 obtain ⟨_, -, h⟩ := Query.bind_eq_ok.1 h
    cases Query.pure_eq_ok.1 h
    cases hfound.symm.trans hfound'
    cases hrun.symm.trans hrun'
    rfl
  refine Sat.write (sat_eventList fun events => sat_rebuildTail.mono ?_)
  rintro r s' ⟨hreturns, rfl⟩
  refine ⟨hreturns.trans ?_, fun _ => ⟨{ run' with
    status := .finished
    finishedAt := some (utcNow env)
    summary := some ("Repaired orphaned planning run: " ++ Text.strip reason) },
    rfl, rfl, rfl, rfl⟩⟩
  have hkeep (finished : TaskRunRecord) : (s.putRun finished).Rebuilds ↔ s.Rebuilds :=
    Ledger.Rebuilds.congr rfl rfl rfl rfl
  rw [Ledger.rebuilds_withEvents, hkeep]
  exact ⟨fun h => ⟨hchecks.1 ⟨_, hp⟩, h⟩, fun h => h.2⟩

-- ════════════════════════════════════════════════════════════════════════
-- Resuming
-- ════════════════════════════════════════════════════════════════════════

/-- What only a resumption asks of a task whose implementation run is running. -/
structure MayResume (s : Ledger) (task : TaskRecord) : Prop where
  visible : isArchivedTask task = false
  passed : task.statusStage ≠ .failedValidation
  accepted : ∃ plan, requireAcceptedPlanRecord task "Implementation resume" s = .ok plan
  unblocked : blockingTasks task s = .ok []

theorem ensureDependenciesDone_eq_ok {u : Unit} :
    ensureDependenciesDone task s = .ok u ↔ blockingTasks task s = .ok [] := by
  constructor
  · intro h
    obtain ⟨blocked, hblocked, h⟩ := Query.bind_eq_ok.1 h
    rw [Query.liftM_eq_ok, raiseIf_eq_ok, not_not] at h
    rwa [h] at hblocked
  · intro h
    exact Query.bind_eq_ok.2 ⟨[], h, raiseIf_eq_ok.2 fun hne => hne rfl⟩

/-- The checks of a resumption of a running run. -/
theorem resumptionOf_eq_ok_iff {reason : String} (hreason : Text.isBlank reason = false)
    (hfound : resolveTask task.id false s = .ok task)
    (hrun : requireRun task (orOption (some run.runId) task.latestImplementationRun) s = .ok run)
    (htype : run.runType = .implementation) (hrunning : run.status = .running)
    {p : TaskRecord × TaskRunRecord} :
    resumptionOf task.id (some run.runId) reason s = .ok p ↔
      p = (task, run) ∧ isArchivedTask task = false ∧
        task.statusStage ∈ [TaskStatusStage.approved, .implementing] ∧
        ∃ plan, requireAcceptedPlanRecord task "Implementation resume" s = .ok plan := by
  obtain ⟨task', run'⟩ := p
  rw [resumptionOf_checks]
  constructor
  · rintro ⟨-, hfound', hvisible, hstage, hplan, hrun', -⟩
    cases hfound.symm.trans hfound'
    cases hrun.symm.trans hrun'
    exact ⟨rfl, hvisible, hstage, hplan⟩
  · rintro ⟨hp, hvisible, hstage, hplan⟩
    cases hp
    exact ⟨hreason, hfound, hvisible, hstage, hplan, hrun, htype, hrunning⟩

/-- Without the repair of expired locks a resumption goes on when there is no lock file. -/
theorem sat_clearNoLock {α : Type} {reason : String} {k : Unit → LedgerAction α}
    {Q : Except Raised α → Ledger → Prop}
    (hlocked : readLock task.id s ≠ .ok none → ∀ e, Q (.error e) s)
    (hfree : readLock task.id s = .ok none → (k ()).Sat s Q) :
    (clearResumeLock env task run false reason >>= k).Sat s Q := by
  refine Sat.bind (P := fun r s' => s' = s ∧ ((∃ u, r = .ok u) ↔ readLock task.id s = .ok none))
    ?_ ?_ ?_
  · have hraises {e : Raised} (hne : readLock task.id s ≠ .ok none) :
        (∃ u : Unit, (.error e : Except Raised Unit) = .ok u) ↔ readLock task.id s = .ok none :=
      iff_of_false (fun ⟨_, h⟩ => by cases h) hne
    refine Sat.query (fun e he => ⟨rfl, hraises ?_⟩) fun lock hlock => ?_
    · rw [he]
      exact nofun
    · cases lock with
      | none => exact ⟨rfl, iff_of_true ⟨(), rfl⟩ hlock⟩
      | some l =>
        have hne : readLock task.id s ≠ .ok none := by
          rw [hlock]
          exact nofun
        refine Sat.except (fun e _ => ⟨rfl, hraises hne⟩) fun expired _ => ?_
        rw [Bool.false_and, if_neg (by decide)]
        split
        · exact Sat.throw ⟨rfl, hraises hne⟩
        · exact Sat.throw ⟨rfl, hraises hne⟩
  · rintro e s' ⟨rfl, h⟩
    exact hlocked (fun hlock => by
      obtain ⟨u, hu⟩ := h.2 hlock
      cases hu) e
  · rintro u s' ⟨rfl, h⟩
    exact hfree (h.1 ⟨u, rfl⟩)

/-- The lock of a resumption. -/
structure ResumedLock (env : Env) (task : TaskRecord) (run : TaskRunRecord) (lock : TaskLock) :
    Prop where
  taskId : lock.taskId = task.id
  runId : lock.runId = run.runId
  runType : lock.runType = .implementation
  lease : lock.expiresAt = some (Runtime.isoformat (env.now + lockLease))
  loads : ∃ l, lock.reload = .ok l

/-- A free lock is taken; but for it only the events change. -/
theorem sat_takeLock {α : Type} {reason : String} {who : ActorRef}
    {k : TaskLock → LedgerAction α} {Q : Except Raised α → Ledger → Prop} (hs : s.Sound)
    (hfree : readLock task.id s = .ok none) (htask : Canonical "task" task.id)
    (hrun : Canonical "run" run.runId) (hreason : reason ≠ "")
    (hk : ∀ lock events, ResumedLock env task run lock →
      (k lock).Sat ((s.putLock lock).withEvents events) Q) :
    (acquireLock env task run .implementation reason who harness >>= k).Sat s Q := by
  obtain ⟨lockId, hlockId, hne⟩ : ∃ lockId, nextLockId env s = .ok lockId ∧ lockId ≠ "" :=
    nextLockId_loads fun l hl => lock_file_sound hs hl
  let lock := newLock env lockId task run .implementation reason who harness
  have hsound : lock.isSound = true := newLock_isSound hne htask hrun hreason
  have hlock : ResumedLock env task run lock := ⟨rfl, rfl, rfl, rfl, TaskLock.loads_of_isSound hsound⟩
  refine Sat.bind (P := fun r s' => ∃ events, r = .ok lock ∧
    s' = (s.putLock lock).withEvents events) ?_ ?_ ?_
  · refine sat_known hfree (sat_known hlockId (sat_writeLock (readLock_none hfree) ?_))
    exact sat_eventList fun _ => sat_eventList fun events => Sat.pure ⟨events, rfl, rfl⟩
  · rintro e s' ⟨_, h, -⟩
    cases h
  · rintro l s' ⟨events, h, rfl⟩
    cases h
    exact hk lock events hlock

/-- A rebuild reads a lock file that was free and loads. -/
theorem rebuilds_putLock {lock : TaskLock} (hfree : s.locks.lookup lock.taskId = none)
    (hloads : ∃ l, lock.reload = .ok l) : (s.putLock lock).Rebuilds ↔ s.Rebuilds := by
  have hfiles (l : TaskLock) :
      l ∈ (s.putLock lock).locks.files ↔ l = lock ∨ l ∈ s.locks.files ∧ l.taskId ≠ lock.taskId :=
    Directory.mem_files_save
  constructor
  · rintro ⟨h1, h2, h3, h4⟩
    refine ⟨h1, h2, fun l hl => h3 l ((hfiles l).2 (.inr ⟨hl, fun htask => ?_⟩)), h4⟩
    exact Directory.lookup_eq_none_iff.1 hfree l hl htask
  · rintro ⟨h1, h2, h3, h4⟩
    refine ⟨h1, h2, fun l hl => ?_, h4⟩
    rcases (hfiles l).1 hl with rfl | ⟨hl, -⟩
    · exact hloads
    · exact h3 l hl

/-- A resumption of a running run returns when nothing stands in its way and the ledger's records
load; it leaves the runs, and a lock that names the run. -/
theorem sat_resume {reason : String} (hs : s.Sound) (hreason : Text.isBlank reason = false)
    (hfound : resolveTask task.id false s = .ok task)
    (hrun : requireRun task (orOption (some run.runId) task.latestImplementationRun) s = .ok run)
    (hcan : Canonical "run" run.runId) (htype : run.runType = .implementation)
    (hrunning : run.status = .running)
    (hstage : task.statusStage ∈ [TaskStatusStage.approved, .implementing, .failedValidation]) :
    (resumeImplementation env task.id (some run.runId) reason actor harness).Sat s fun r s' =>
      ((∃ d, r = .ok d) ↔ readLock task.id s = .ok none ∧ MayResume s task ∧ s.Rebuilds) ∧
        ((∃ d, r = .ok d) → s'.runs = s.runs ∧ ∃ lock, ResumedLock env task run lock ∧
          s'.locks = s.locks.save lock) := by
  have hchecks (p : TaskRecord × TaskRunRecord) :=
    @resumptionOf_eq_ok_iff _ s task run reason hreason hfound hrun htype hrunning p
  have hstages : task.statusStage ∈ [TaskStatusStage.approved, .implementing] ↔
      task.statusStage ≠ .failedValidation := by
    revert hstage
    cases task.statusStage <;> decide
  have hraises {e : Raised} {s' : Ledger}
      (h : ¬ (readLock task.id s = .ok none ∧ MayResume s task ∧ s.Rebuilds)) :
      ((∃ d : Dict, (.error e : Except Raised Dict) = .ok d) ↔
          readLock task.id s = .ok none ∧ MayResume s task ∧ s.Rebuilds) ∧
        ((∃ d : Dict, (.error e : Except Raised Dict) = .ok d) → s'.runs = s.runs ∧
          ∃ lock, ResumedLock env task run lock ∧ s'.locks = s.locks.save lock) := by
    refine ⟨iff_of_false ?_ h, ?_⟩
    · rintro ⟨d, h⟩
      cases h
    · rintro ⟨d, h⟩
      cases h
  refine Sat.query (fun e he => hraises ?_) fun p hp => ?_
  · rintro ⟨-, hmay, -⟩
    have hok := (hchecks _).2 ⟨rfl, hmay.visible, hstages.2 hmay.passed, hmay.accepted⟩
    cases he.symm.trans hok
  obtain ⟨rfl, hvisible, hpassed, haccepted⟩ := (hchecks p).1 hp
  refine sat_clearNoLock (fun hlock e => hraises fun h => hlock h.1) fun hlock => ?_
  refine Sat.query (fun e he => hraises ?_) fun _ hdone => ?_
  · rintro ⟨-, hmay, -⟩
    have hok : ensureDependenciesDone task s = .ok () :=
      ensureDependenciesDone_eq_ok.2 hmay.unblocked
    cases he.symm.trans hok
  have hstripped : Text.strip reason ≠ "" := by simpa [Text.isBlank] using hreason
  have htask := canonical_resolved hs hfound
  refine sat_takeLock hs hlock htask hcan hstripped fun lock events hresumed => Sat.write ?_
  refine sat_eventList fun events' => sat_rebuildTail.mono ?_
  rintro r s' ⟨hreturns, rfl⟩
  refine ⟨hreturns.trans ?_, fun _ => ⟨rfl, lock, hresumed, rfl⟩⟩
  obtain ⟨stored, hstored, hreload⟩ := resolveTask_stored hfound
  let updated := implementingTask env task run.runId
  have hloads : ∃ v, updated.reload = .ok v :=
    TaskRecord.loads_congr (TaskRecord.reload_again hreload) rfl rfl rfl
  have hlookup : ((s.putLock lock).withEvents events).tasks.lookup updated.id = some stored :=
    hstored
  have hmay : MayResume s task :=
    ⟨hvisible, hstages.1 hpassed, haccepted, ensureDependenciesDone_eq_ok.1 hdone⟩
  have hrebuilds : (((s.putLock lock).withEvents events).putTask updated).Rebuilds ↔ s.Rebuilds := by
    rw [Ledger.rebuilds_putTask hlookup ⟨_, hreload⟩ hloads, Ledger.rebuilds_withEvents]
    refine rebuilds_putLock ?_ hresumed.loads
    rw [hresumed.taskId]
    exact readLock_none hlock
  rw [Ledger.rebuilds_withEvents, hrebuilds]
  exact ⟨fun h => ⟨hlock, hmay, h⟩, fun h => h.2.2⟩

-- ════════════════════════════════════════════════════════════════════════
-- Doctor afterwards
-- ════════════════════════════════════════════════════════════════════════

/-- Doctor does not report a running run of a task without a lock. -/
def NotReported (s : Ledger) (env : Env) (taskId runId : String) : Prop :=
  ∀ found, runLockMismatches env s = .ok found →
    ∀ m ∈ found, ¬ (m.taskId = taskId ∧ m.runId = runId)

theorem notReported_of {taskId runId : String}
    (h : ∀ task run, Reported s env task run → task.id = taskId → run.runId = runId → False) :
    NotReported s env taskId runId := by
  rintro found hfound m hm ⟨htask, hrun⟩
  obtain ⟨-, task, run, hreported, rfl⟩ := reported_of_mismatch hfound hm
  exact h task run hreported htask hrun

/-- A run that was finished is not reported. -/
theorem notReported_finished {before : Ledger} {finished : TaskRunRecord}
    (hruns : s.runs = before.runs.save finished) (hstatus : finished.status = .finished) :
    NotReported s env finished.taskId finished.runId := by
  refine notReported_of fun task run hreported htask hrun => ?_
  obtain ⟨runs, hlist, hmem⟩ := hreported.runs
  obtain ⟨stored, hstored, howner, hread⟩ := (mem_listRuns hlist).1 hmem
  obtain ⟨hid, -, -, hsame, -⟩ := TaskRunRecord.of_reload hread
  have hlookup := Directory.lookup_of_mem hstored
  rw [howner, htask, ← hid, hrun, hruns] at hlookup
  cases (Directory.lookup_save_self before.runs finished).symm.trans hlookup
  have hrunning := hreported.running
  rw [hsame, hstatus] at hrunning
  cases hrunning

/-- A lock that has not expired and names a running run of its type is the active one. -/
theorem activeLockOf_mem {locks : List TaskLock} {lock : TaskLock} {id : String}
    (hmem : lock ∈ locks) (hid : lock.taskId = id)
    (hunique : ∀ l ∈ locks, l.taskId = id → l = lock)
    (hlive : lockIsExpired env lock = .ok false) :
    activeLockOf env id locks = .ok (some lock) := by
  induction locks with
  | nil => cases hmem
  | cons l rest ih =>
    rw [activeLockOf]
    by_cases hl : l.taskId = id
    · obtain rfl := hunique l (List.mem_cons_self ..) hl
      rw [if_pos hl, hlive]
      rfl
    · rw [if_neg hl]
      refine ih ?_ fun l' hl' => hunique l' (List.mem_cons_of_mem _ hl')
      exact (List.mem_cons.1 hmem).resolve_left fun h => hl (h ▸ hid)

/-- While its lock lasts, a resumed run is not reported. -/
theorem notReported_resumed {before : Ledger} {lock : TaskLock} {runs : List TaskRunRecord}
    (hlocks : s.locks = before.locks.save lock) (hlock : ResumedLock env task run lock)
    (hruns : listRuns task.id s = .ok runs) (hmem : run ∈ runs)
    (htype : run.runType = .implementation) (hrunning : run.status = .running)
    (hlease : after.now ≤ env.now + lockLease) :
    NotReported s after task.id run.runId := by
  refine notReported_of fun task' run' hreported htask _ => ?_
  obtain ⟨locks, runs', active, hload, hruns', hactive, hnone⟩ := hreported.unlocked
  rw [htask] at hruns' hactive
  cases hruns.symm.trans hruns'
  obtain ⟨l, hl⟩ := hlock.loads
  obtain ⟨hltask, hlrun, hltype, -⟩ := TaskLock.of_reload hl
  have hstored : s.locks.lookup task.id = some lock := by
    rw [hlocks, ← hlock.taskId]
    exact Directory.lookup_save_self _ _
  have hread : readLock task.id s = .ok (some l) := by
    simp [readLock, hstored, hl, Functor.map, Except.map]
  have hlid : l.taskId = task.id := hltask.trans hlock.taskId
  have hlmem : l ∈ locks := by
    rw [mem_loadActiveLocks hload, hlid]
    exact hread
  have hlive : lockIsExpired after l = .ok false := by
    have hexpires : l.expiresAt = some (Runtime.isoformat (env.now + lockLease)) := by
      rw [← hlock.lease]
      simp only [TaskLock.reload, bind_eq_ok, pure_eq_ok] at hl
      obtain ⟨-, -, -, -, -, -, -, -, -, -, -, -, rfl⟩ := hl
      rfl
    unfold lockIsExpired
    simp only [hexpires, Runtime.fromisoformat_isoformat]
    simpa using hlease
  have hfirst : activeLockOf after task.id locks = .ok (some l) := by
    refine activeLockOf_mem hlmem hlid (fun l' hl' htask' => ?_) hlive
    rw [mem_loadActiveLocks hload, htask', hread] at hl'
    cases hl'
    rfl
  cases hactive.symm.trans hfirst
  have hfind := (List.find?_eq_none.1 (Option.map_eq_none_iff.1 hnone)) run
    (List.mem_filter.2 ⟨hmem, by simpa using hrunning⟩)
  simp [hlrun, hlock.runId, hltype, hlock.runType, htype, hrunning] at hfind

-- ════════════════════════════════════════════════════════════════════════
-- Both
-- ════════════════════════════════════════════════════════════════════════

/-- The command of a mismatch works: the operation it runs returns, and doctor does not report
the mismatch any more, as long as a lock that it took lasts. -/
structure RepairWorks (s : Ledger) (env : Env) (m : RunLockMismatch) (op : LedgerAction Dict) :
    Prop where
  returns : ∃ d, (op.runOn s).1 = .ok d
  repaired : ∀ after : Env, after.now ≤ env.now + lockLease →
    NotReported (op.runOn s).2 after m.taskId m.runId

/-- Nothing stands in the way of the command of a mismatch. -/
structure Repairable (s : Ledger) (m : RunLockMismatch) : Prop where
  unlocked : s.locks.lookup m.taskId = none
  introductions : ∀ i ∈ s.introductions.files, ∃ i', i.reload = .ok i'
  resumes : m.runType = .implementation →
    ∀ task, resolveTask m.taskId false s = .ok task → MayResume s task

omit [Runtime] in
theorem readLock_eq_none {id : String} : readLock id s = .ok none ↔ s.locks.lookup id = none := by
  refine ⟨readLock_none, fun h => ?_⟩
  rw [readLock, h]

/-- Where doctor has read the ledger, a rebuild needs the introductions only. -/
theorem DoctorReads.rebuilds (h : DoctorReads s) :
    s.Rebuilds ↔ ∀ i ∈ s.introductions.files, ∃ i', i.reload = .ok i' :=
  ⟨fun hrebuilds => hrebuilds.introductions,
    fun hintroductions => ⟨h.tasks, hintroductions, h.locks, h.requirements⟩⟩

/-- The task and the run that doctor reports resolve by their ids. -/
theorem Reported.resolves (hs : s.Sound) (h : Reported s env task run) :
    resolveTask task.id false s = .ok task ∧ run.taskId = task.id ∧ Canonical "run" run.runId := by
  obtain ⟨tasks, htasks, hmem⟩ := h.listed
  obtain ⟨stored, hstored, hreload⟩ := (mem_listTasks htasks).1 hmem
  have hcan : Canonical "task" task.id := by
    rw [(TaskRecord.of_reload hreload).1]
    exact canonical_files hs hstored
  obtain ⟨runs, hruns, hrun⟩ := h.runs
  obtain ⟨file, hfile, howner, hread⟩ := (mem_listRuns hruns).1 hrun
  obtain ⟨hid, htask, -⟩ := TaskRunRecord.of_reload hread
  refine ⟨resolveTask_of_listed hcan htasks hmem, htask.trans howner, ?_⟩
  have hview := view_file_run hfile
  rw [hid]
  exact (hs _).runIds _ _ hview

theorem repairWorks_repairRun (hs : s.Sound) (hreads : DoctorReads s)
    (h : Reported s env task run) (htype : run.runType = .planning) :
    RepairWorks s env (mismatchOf task run)
        (repairOrphanedPlanningRun env task.id (some run.runId) "Finish orphaned planning run.") ↔
      Repairable s (mismatchOf task run) := by
  obtain ⟨hfound, htask, hcan⟩ := h.resolves hs
  obtain ⟨runs, hruns, hrun⟩ := h.runs
  have hsat : (repairOrphanedPlanningRun env task.id (some run.runId)
      "Finish orphaned planning run.").Sat s _ :=
    sat_repairRun (by decide) hfound (requireRun_of_listed hruns hrun hcan) htype h.running
  obtain ⟨hreturns, hfinished⟩ := hsat
  rw [readLock_eq_none, hreads.rebuilds] at hreturns
  have hplanning : (mismatchOf task run).runType ≠ .implementation := by
    rw [show (mismatchOf task run).runType = run.runType from rfl, htype]
    decide
  constructor
  · rintro ⟨hd, -⟩
    obtain ⟨hfree, hintroductions⟩ := hreturns.1 hd
    exact ⟨hfree, hintroductions, fun himplementation => absurd himplementation hplanning⟩
  · rintro ⟨hfree, hintroductions, -⟩
    have hd := hreturns.2 ⟨hfree, hintroductions⟩
    refine ⟨hd, fun after _ => ?_⟩
    obtain ⟨finished, hid, howner, hstatus, hsaved⟩ := hfinished hd
    have hquiet : NotReported _ after finished.taskId finished.runId :=
      notReported_finished hsaved hstatus
    rw [hid, howner, htask] at hquiet
    exact hquiet

theorem repairWorks_implementResume (hs : s.Sound) (hreads : DoctorReads s)
    (h : Reported s env task run) (htype : run.runType = .implementation)
    (hstage : task.statusStage ∈ [TaskStatusStage.approved, .implementing, .failedValidation]) :
    RepairWorks s env (mismatchOf task run)
        (resumeImplementation env task.id (some run.runId) "Reacquire implementation lock." actor
          harness) ↔
      Repairable s (mismatchOf task run) := by
  obtain ⟨hfound, htask, hcan⟩ := h.resolves hs
  obtain ⟨runs, hruns, hrun⟩ := h.runs
  have hsat : (resumeImplementation env task.id (some run.runId) "Reacquire implementation lock."
      actor harness).Sat s _ :=
    sat_resume hs (by decide) hfound (requireRun_of_listed hruns hrun hcan) hcan htype
      h.running hstage
  obtain ⟨hreturns, hresumed⟩ := hsat
  rw [readLock_eq_none, hreads.rebuilds] at hreturns
  constructor
  · rintro ⟨hd, -⟩
    obtain ⟨hfree, hmay, hintroductions⟩ := hreturns.1 hd
    refine ⟨hfree, hintroductions, fun _ task' hfound' => ?_⟩
    cases hfound.symm.trans hfound'
    exact hmay
  · rintro ⟨hfree, hintroductions, hmay⟩
    have hd := hreturns.2 ⟨hfree, hmay htype task hfound, hintroductions⟩
    refine ⟨hd, fun after hlease => ?_⟩
    obtain ⟨hsame, lock, hlock, hsaved⟩ := hresumed hd
    have hruns' : listRuns task.id ((resumeImplementation env task.id (some run.runId)
        "Reacquire implementation lock." actor harness).runOn s).2 = .ok runs := by
      unfold listRuns
      rw [hsame]
      exact hruns
    exact notReported_resumed hsaved hlock hruns' hrun htype h.running hlease

/-- The command of a mismatch works exactly when there is no lock file for the task, the
introductions load and, for a resumption, nothing else stands in its way. -/
theorem doctor_repair_works_iff {found : List RunLockMismatch} {op : LedgerAction Dict}
    (h : s.Reachable) (hfound : runLockMismatches env s = .ok found) (hm : m ∈ found)
    (hop : m.nextCommand.operation env actor harness = some op) :
    RepairWorks s env m op ↔ Repairable s m := by
  obtain ⟨hreads, task, run, hreported, rfl⟩ := reported_of_mismatch hfound hm
  have hcommand : (mismatchOf task run).nextCommand = (mismatchCommand task run).1 := rfl
  rw [hcommand, mismatchCommand] at hop
  cases htype : run.runType with
  | planning =>
    rw [htype] at hop
    cases hop
    exact repairWorks_repairRun h.sound hreads hreported htype
  | implementation =>
    rw [htype] at hop
    simp only at hop
    split at hop
    · rename_i hresumable
      cases hop
      exact repairWorks_implementResume h.sound hreads hreported htype hresumable.2
    · cases hop
  | validation =>
    rw [htype] at hop
    cases hop

end Doctor

section Evaluation

attribute [local instance] plainRuntime

/-- The command that doctor prints for a planning run. -/
def planningMismatch : RunLockMismatch where
  taskId := "task-0001"
  runId := "run-0001"
  runType := .planning
  status := .running
  nextCommand := .repairRun "task-0001" "run-0001" "Finish orphaned planning run."
  note := "Planning run can be explicitly finished with repair run."

def planningRepair (env : Env) : LedgerAction Dict :=
  repairOrphanedPlanningRun env "task-0001" (some "run-0001") "Finish orphaned planning run."

/-- A task in planning. -/
def startedPlanningOps : List Op :=
  [.createTask { title := "A", description := "d" }, .startPlanning "task-0001" none none]

/-- Its lock was broken. -/
def orphanedPlanningOps : List Op := startedPlanningOps ++ [.breakLock "task-0001" "gone"]

theorem doctor_repair_works_broken :
    RepairWorks (afterOps orphanedPlanningOps) plainEnv planningMismatch
      (planningRepair plainEnv) := by
  have hfound : (runLockMismatches plainEnv (afterOps orphanedPlanningOps)).toOption =
      some [planningMismatch] := by decide
  have hlocks : (afterOps orphanedPlanningOps).locks.files = [] := by decide
  have hintroductions : (afterOps orphanedPlanningOps).introductions.files = [] := by decide
  cases hread : runLockMismatches plainEnv (afterOps orphanedPlanningOps) with
  | error e =>
    rw [hread] at hfound
    cases hfound
  | ok found =>
    rw [hread] at hfound
    cases hfound
    have hop : planningMismatch.nextCommand.operation plainEnv none none =
        some (planningRepair plainEnv) := rfl
    have hworks := doctor_repair_works_iff (reachable_afterOps orphanedPlanningOps) hread
      (List.mem_singleton_self planningMismatch) hop
    refine hworks.2 ⟨?_, ?_, fun htype => ?_⟩
    · rw [Directory.lookup_eq_none_iff, hlocks]
      intro l hl
      cases hl
    · rw [hintroductions]
      intro l hl
      cases hl
    · exact absurd htype (by decide)

/-- The process, after the lease of its first lock. -/
def lateEnv : Env := { plainEnv with now := 7200000001 }

/-- The lock of the planning run expires, and the printed command is refused. -/
theorem expired_lock_refuses_repair :
    (afterOps startedPlanningOps).Reachable ∧
      runLockMismatches lateEnv (afterOps startedPlanningOps) = .ok [planningMismatch] ∧
      planningMismatch.nextCommand.operation lateEnv none none = some (planningRepair lateEnv) ∧
      ¬ RepairWorks (afterOps startedPlanningOps) lateEnv planningMismatch (planningRepair lateEnv) := by
  have hfound : (runLockMismatches lateEnv (afterOps startedPlanningOps)).toOption =
      some [planningMismatch] := by decide
  have hraises : ((planningRepair lateEnv).runOn (afterOps startedPlanningOps)).1.isOk = false := by
    decide
  refine ⟨reachable_afterOps _, ?_, rfl, fun h => ?_⟩
  · cases hread : runLockMismatches lateEnv (afterOps startedPlanningOps) with
    | error e =>
      rw [hread] at hfound
      cases hfound
    | ok found =>
      rw [hread] at hfound
      cases hfound
      rfl
  · obtain ⟨d, hd⟩ := h.returns
    rw [hd] at hraises
    cases hraises

end Evaluation

end Taskledger
