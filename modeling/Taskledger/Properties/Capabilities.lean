import Taskledger.Lifecycle.Listings
import Taskledger.Lifecycle.Steps
import Taskledger.Services.Navigation

/-!
# What can be performed

`can_perform` writes the guards of five operations a second time. What it asks for,
each operation asks for too; the operations ask for more.
-/

namespace Taskledger

open Library Action Lifecycle

section Capabilities

variable [Runtime] {s : Ledger} {env : Env} {ref : String} {task : TaskRecord} {α β : Type}

/-- The operation an action stands for. -/
def WorkAction.operation (env : Env) (ref summary reason : String) (actor : Option ActorRef)
    (harness : Option NamedHarness) : WorkAction → LedgerAction Dict
  | plan => startPlanning env ref actor harness
  | implement => startImplementation env ref actor harness
  | implementResume => resumeImplementation env ref none reason actor harness
  | expiredLockResume => resumeImplementation env ref none reason actor harness true
  | implementRestart => restartImplementation env ref summary actor harness
  | validate => startValidation env ref actor harness

/-- What `can_perform` asks of a task. -/
def WorkAction.Admits (task : TaskRecord) (s : Ledger) : WorkAction → Prop
  | plan => task.statusStage ∈ [.draft, .planReview] ∧ readLock task.id s = .ok none
  | implement => task.statusStage ∈ implementableTaskStages ∧ task.acceptedPlanVersion ≠ none ∧
      blockingTasks task s = .ok [] ∧ runningRuns task s = .ok [] ∧ readLock task.id s = .ok none
  | implementResume => task.statusStage ∈ [.approved, .implementing] ∧
      task.acceptedPlanVersion ≠ none ∧
      (∃ run, requireRun task task.latestImplementationRun s = .ok run ∧
        isRunningImplementation run = true) ∧
      blockingTasks task s = .ok [] ∧ readLock task.id s = .ok none
  | expiredLockResume => False
  | implementRestart => task.statusStage = .failedValidation ∧ task.acceptedPlanVersion ≠ none ∧
      (∃ run, requireRun task task.latestValidationRun s = .ok run ∧ failedOrBlocked run = true) ∧
      (∃ run, requireRun task task.latestImplementationRun s = .ok run ∧
        run.runType = .implementation) ∧
      blockingTasks task s = .ok [] ∧ readLock task.id s = .ok none
  | validate => task.statusStage = .implemented ∧ readLock task.id s = .ok none ∧
      ∃ run, requireRun task task.latestImplementationRun s = .ok run ∧
        isFinishedImplementation run = true

/-- The plan of the accepted version is there, and is accepted. -/
def HasAcceptedPlan (task : TaskRecord) (s : Ledger) : Prop :=
  ∃ plan, acceptedPlanRecordOrNone task s = .ok (some plan)

/-- What the operations ask for besides. -/
def WorkAction.Guards (env : Env) (task : TaskRecord) (s : Ledger) : WorkAction → Prop
  | plan => runningRuns task s = .ok []
  | implement => HasAcceptedPlan task s
  | implementResume => HasAcceptedPlan task s
  | expiredLockResume => True
  | implementRestart => HasAcceptedPlan task s ∧ runningRuns task s = .ok []
  | validate => runningRuns task s = .ok [] ∧
      ∀ run, requireRun task task.latestImplementationRun s = .ok run →
        ensureImplementationSnapshotCurrent env task run = .ok ()

-- ════════════════════════════════════════════════════════════════════════
-- Readings
-- ════════════════════════════════════════════════════════════════════════

/-- A run that is required is found exactly when it is found at all. -/
theorem requireRun_eq_ok_iff {runId : Option String} {run : TaskRunRecord} :
    requireRun task runId s = .ok run ↔ optionalRun task runId s = .ok (some run) := by
  cases runId with
  | none =>
    constructor
    · intro h
      cases h
    · intro h
      cases Query.pure_eq_ok.1 h
  | some id =>
    unfold requireRun optionalRun orNone
    cases h : resolveRun task.id id s with
    | ok r => simp [h]
    | error e => cases e <;> simp [h]

/-- An accepted plan that is required is there. -/
theorem requireAcceptedPlanRecord_eq_ok_iff {action : String} :
    (∃ plan, requireAcceptedPlanRecord task action s = .ok plan) ↔ HasAcceptedPlan task s := by
  unfold HasAcceptedPlan requireAcceptedPlanRecord acceptedPlanRecordOrNone
  cases hv : task.acceptedPlanVersion with
  | none =>
    constructor
    · rintro ⟨plan, h⟩
      cases h
    · rintro ⟨plan, h⟩
      cases Query.pure_eq_ok.1 h
  | some version =>
    simp only [Query.bind_eq_ok]
    constructor
    · rintro ⟨plan, accepted, ⟨found, hfound, haccepted⟩, h⟩
      cases accepted with
      | some p => exact ⟨p, found, hfound, haccepted⟩
      | none =>
        -- the stored plan is read again, and it is not accepted
        obtain ⟨stored, hstored, h⟩ := Query.bind_eq_ok.1 h
        cases hfound.symm.trans hstored
        cases found with
        | none => cases h
        | some p =>
          obtain ⟨_, hstatus, -⟩ := Query.bind_eq_ok.1 h
          rw [Query.liftM_eq_ok, raiseIf_eq_ok, not_not] at hstatus
          simp [Query.pure_eq_ok, hstatus] at haccepted
    · rintro ⟨plan, found, hfound, haccepted⟩
      exact ⟨plan, some plan, ⟨found, hfound, haccepted⟩, rfl⟩

-- ════════════════════════════════════════════════════════════════════════
-- Starting a run
-- ════════════════════════════════════════════════════════════════════════

/-- The ledgers in which a run is filed. -/
def Files (id runId : String) (s : Ledger) : Prop := s.runs.lookup (id, runId) ≠ none

variable {id runId : String}

theorem keeps_files_event {taskId event : String} {data : Dict} :
    Keeps (Files id runId) (appendEvent env taskId event data) :=
  Keeps.write fun s h => by
    split
    · exact h
    · exact h

omit [Runtime] in
theorem keeps_files_saveTask {t : TaskRecord} : Keeps (Files id runId) (saveTask t) :=
  Keeps.write fun _ h => h

omit [Runtime] in
theorem keeps_files_saveRun {r : TaskRunRecord} : Keeps (Files id runId) (saveRun r) :=
  Keeps.write fun s h => by
    unfold Files Ledger.putRun at *
    rw [Directory.lookup_save]
    split
    · exact Option.some_ne_none r
    · exact h

omit [Runtime] in
theorem keeps_files_writeLock {lock : TaskLock} : Keeps (Files id runId) (writeLock lock) := by
  intro s h
  unfold Action.Sat Action.runOn writeLock
  split
  · exact h
  · exact h

theorem keeps_files_acquireLock {run : TaskRunRecord} {runType : RunType} {reason : String}
    {actor : ActorRef} {harness : Option NamedHarness} :
    Keeps (Files id runId) (acquireLock env task run runType reason actor harness) := by
  refine Keeps.query fun existing _ _ _ => ?_
  cases existing with
  | some lock =>
    refine Keeps.except fun _ _ => Keeps.except fun _ _ => ?_
    split
    · exact Keeps.pure
    · exact Keeps.except fun _ _ => Keeps.throw
  | none =>
    refine Keeps.query fun _ _ _ _ => keeps_files_writeLock.bind fun created => ?_
    cases created with
    | false => exact Keeps.query fun _ _ _ _ => Keeps.except fun _ _ => Keeps.throw
    | true =>
      exact keeps_files_event.bind fun _ => keeps_files_event.bind fun _ => Keeps.pure

/-- Starting a run goes on exactly when there is no lock file and no running run. -/
theorem not_refuses_startRun {runType : RunType} {actor : Option ActorRef}
    {harness : Option NamedHarness} {k : TaskRunRecord → LedgerAction α}
    (hk : ∀ run, Keeps (Files task.id run.runId) (k run)) :
    ¬ Refuses (startRun env task runType actor harness >>= k) s ↔
      readLock task.id s = .ok none ∧ runningRuns task s = .ok [] := by
  simp only [startRun, bind_assoc, pure_bind, not_refuses_query, not_refuses_except]
  constructor
  · rintro ⟨lock, hlock, _, hrefuse, running, hrunning, _, hidle, -⟩
    cases refuseLock_eq_ok hrefuse
    cases refuseRunning_eq_ok hidle
    exact ⟨hlock, hrunning⟩
  · rintro ⟨hlock, hrunning⟩
    obtain ⟨runs, hruns, -⟩ := runningRuns_eq_ok hrunning
    refine ⟨none, hlock, (), rfl, [], hrunning, (), rfl, runs, hruns, not_refuses ?_⟩
    -- the run is filed, and everything after keeps it
    have hfree : (s.view task.id).runs (Runtime.nextId "run" (runs.map TaskRunRecord.runId)) =
        none := view_freeRun hruns (Runtime.nextId_fresh "run" _)
    have hrest (run : TaskRunRecord) (hrun : run.taskId = task.id) :
        (saveRun run >>= fun _ => acquireLock env task run runType (startReason runType)
          (actor.getD (defaultActor env)) harness >>= fun _ => k run).Sat s
          fun _ s' => Files task.id run.runId s' := by
      refine Sat.write (Keeps.bind keeps_files_acquireLock (fun _ => hk run) _ ?_)
      unfold Files Ledger.putRun
      rw [← hrun, Directory.lookup_save_self]
      exact Option.some_ne_none run
    refine Sat.mono (hrest _ rfl) fun _ s' hfiled heq => ?_
    have hlookup : s.runs.lookup (task.id, Runtime.nextId "run"
        (runs.map TaskRunRecord.runId)) = none := by simpa [Ledger.view] using hfree
    subst heq
    exact hfiled hlookup

-- ════════════════════════════════════════════════════════════════════════
-- What can_perform asks for
-- ════════════════════════════════════════════════════════════════════════

theorem dependencyBlockers_eq_ok {dependencies : List Dict}
    (h : dependencyBlockers task s = .ok dependencies) :
    ∃ blocking, blockingTasks task s = .ok blocking ∧ (dependencies = [] ↔ blocking = []) := by
  obtain ⟨blocking, hb, h⟩ := Query.bind_eq_ok.1 h
  refine ⟨blocking, hb, ?_⟩
  rw [← Query.pure_eq_ok.1 h, List.map_eq_nil_iff]

/-- A test of a run that may be there is one of the run that is required. -/
theorem any_optionalRun {runId : Option String} {found : Option TaskRunRecord}
    (h : optionalRun task runId s = .ok found) (p : TaskRunRecord → Bool) :
    found.any p = true ↔ ∃ run, requireRun task runId s = .ok run ∧ p run = true := by
  simp only [requireRun_eq_ok_iff, h, Except.ok.injEq]
  cases found with
  | none => simp
  | some r => simp

theorem taskActiveStage_unlocked (h : readLock task.id s = .ok none) :
    taskActiveStage env task s = .ok none :=
  Query.bind_eq_ok.2 ⟨none, h, rfl⟩

/-- What a branch of `can_perform` finds is what the action asks for. -/
theorem findingFor_ok_iff {action : WorkAction} {lock : Option TaskLock} {stage : Option RunType}
    {f : Finding} (hlock : readLock task.id s = .ok lock)
    (hstage : taskActiveStage env task s = .ok stage)
    (haction : action ≠ .expiredLockResume)
    (h : findingFor env action task lock stage s = .ok f) :
    f.ok = true ↔ action.Admits task s := by
  have hidle : lock = none → stage = none := by
    rintro rfl
    exact Except.ok.inj (hstage.symm.trans (taskActiveStage_unlocked hlock))
  have hunlocked : readLock task.id s = .ok none ↔ lock = none := by
    rw [hlock, Except.ok.injEq]
  cases action with
  | plan =>
    cases Query.pure_eq_ok.1 h
    simp [canPlan, finding, WorkAction.Admits, hunlocked]
  | implement =>
    obtain ⟨running, hrunning, h⟩ := Query.bind_eq_ok.1 h
    obtain ⟨dependencies, hdependencies, h⟩ := Query.bind_eq_ok.1 h
    obtain ⟨_, _, h⟩ := Query.bind_eq_ok.1 h
    obtain ⟨blocking, hblocking, hempty⟩ := dependencyBlockers_eq_ok hdependencies
    cases Query.pure_eq_ok.1 h
    simp only [finding, WorkAction.Admits, hunlocked, hblocking, hrunning, Except.ok.injEq,
      Bool.and_eq_true, decide_eq_true_eq, List.isEmpty_iff, hempty, Option.isNone_iff_eq_none]
    rw [← Option.ne_none_iff_isSome]
    tauto
  | implementResume =>
    obtain ⟨found, hfound, h⟩ := Query.bind_eq_ok.1 h
    obtain ⟨dependencies, hdependencies, h⟩ := Query.bind_eq_ok.1 h
    obtain ⟨_, _, h⟩ := Query.bind_eq_ok.1 h
    obtain ⟨blocking, hblocking, hempty⟩ := dependencyBlockers_eq_ok hdependencies
    cases Query.pure_eq_ok.1 h
    simp only [finding, WorkAction.Admits, hunlocked, hblocking, Except.ok.injEq,
      Bool.and_eq_true, decide_eq_true_eq, List.isEmpty_iff, hempty, Option.isNone_iff_eq_none,
      any_optionalRun hfound, Bool.false_eq_true, if_false]
    rw [← Option.ne_none_iff_isSome]
    tauto
  | expiredLockResume => exact absurd rfl haction
  | implementRestart =>
    obtain ⟨validation, hvalidation, h⟩ := Query.bind_eq_ok.1 h
    obtain ⟨implementation, himplementation, h⟩ := Query.bind_eq_ok.1 h
    obtain ⟨dependencies, hdependencies, h⟩ := Query.bind_eq_ok.1 h
    obtain ⟨blocking, hblocking, hempty⟩ := dependencyBlockers_eq_ok hdependencies
    cases Query.pure_eq_ok.1 h
    simp only [finding, WorkAction.Admits, hunlocked, hblocking, Except.ok.injEq,
      Bool.and_eq_true, decide_eq_true_eq, List.isEmpty_iff, hempty, Option.isNone_iff_eq_none,
      any_optionalRun hvalidation, any_optionalRun himplementation]
    rw [← Option.ne_none_iff_isSome]
    tauto
  | validate =>
    obtain ⟨found, hfound, h⟩ := Query.bind_eq_ok.1 h
    cases Query.pure_eq_ok.1 h
    simp only [finding, WorkAction.Admits, hunlocked, Bool.and_eq_true, decide_eq_true_eq,
      Option.isNone_iff_eq_none, any_optionalRun hfound]
    tauto

-- ════════════════════════════════════════════════════════════════════════
-- What the operations ask for
-- ════════════════════════════════════════════════════════════════════════

/-- The end of a start keeps the run. -/
theorem keeps_files_rest {taskId event : String} {data : TaskRecord → Dict}
    {update : TaskRecord → TaskRecord} {payload : TaskRecord → TaskLock → Dict} :
    Keeps (Files id runId) ((liftM (resolveTask taskId) : LedgerAction TaskRecord) >>= fun current =>
      saveTask (update current) >>= fun _ =>
        appendEvent env (update current).id event (data current) >>= fun _ =>
          (liftM rebuildV2Indexes : LedgerAction Unit) >>= fun _ =>
            (liftM (requireLock env (update current).id) : LedgerAction TaskLock) >>= fun lock =>
              pure (payload current lock)) :=
  Keeps.query fun _ _ _ _ => keeps_files_saveTask.bind fun _ => keeps_files_event.bind fun _ =>
    Keeps.query fun _ _ _ _ => Keeps.query fun _ _ _ _ => Keeps.pure

theorem operation_accepted_plan {actor : Option ActorRef} {harness : Option NamedHarness}
    (hfound : resolveTask ref false s = .ok task) (hvisible : isArchivedTask task = false) :
    ¬ Refuses (startPlanning env ref actor harness) s ↔
      WorkAction.plan.Admits task s ∧ WorkAction.plan.Guards env task s := by
  simp only [startPlanning, not_refuses_query, hfound, Except.ok.injEq, exists_eq_left',
    ensureNotArchived, not_refuses_guard, hvisible, WorkAction.Admits, WorkAction.Guards]
  rw [not_refuses_startRun]
  · tauto
  · exact fun run => keeps_files_rest

theorem ensureDependenciesDone_eq_ok_iff {u : Unit} :
    ensureDependenciesDone task s = .ok u ↔ blockingTasks task s = .ok [] := by
  simp only [ensureDependenciesDone, Query.bind_eq_ok, Query.liftM_eq_ok, raiseIf_eq_ok, not_not]
  constructor
  · rintro ⟨blocked, hblocked, rfl⟩
    exact hblocked
  · intro h
    exact ⟨[], h, rfl⟩

theorem HasAcceptedPlan.version (h : HasAcceptedPlan task s) : task.acceptedPlanVersion ≠ none := by
  obtain ⟨plan, h⟩ := h
  intro hv
  rw [acceptedPlanRecordOrNone, hv] at h
  cases Query.pure_eq_ok.1 h

theorem operation_accepted_implement {actor : Option ActorRef} {harness : Option NamedHarness}
    (hfound : resolveTask ref false s = .ok task) (hvisible : isArchivedTask task = false) :
    ¬ Refuses (startImplementation env ref actor harness) s ↔
      WorkAction.implement.Admits task s ∧ WorkAction.implement.Guards env task s := by
  simp only [startImplementation, implementationStartOf, not_refuses_query, Query.bind_eq_ok,
    hfound, Except.ok.injEq, exists_eq_left', ensureNotArchived, Query.liftM_eq_ok, raiseIf_eq_ok,
    hvisible, ensureDependenciesDone_eq_ok_iff, Query.pure_eq_ok, WorkAction.Admits,
    WorkAction.Guards, not_not]
  constructor
  · rintro ⟨_, ⟨_, -, _, hstage, plan, hplan, _, hblocking, rfl⟩, hstart⟩
    rw [not_refuses_startRun fun _ => keeps_files_rest] at hstart
    have haccepted := requireAcceptedPlanRecord_eq_ok_iff.1 ⟨plan, hplan⟩
    exact ⟨⟨hstage, haccepted.version, hblocking, hstart.2, hstart.1⟩, haccepted⟩
  · rintro ⟨⟨hstage, -, hblocking, hrunning, hlock⟩, haccepted⟩
    obtain ⟨plan, hplan⟩ := requireAcceptedPlanRecord_eq_ok_iff.2 haccepted
    refine ⟨task, ⟨(), by simp, (), hstage, plan, hplan, (), hblocking, rfl⟩, ?_⟩
    rw [not_refuses_startRun fun _ => keeps_files_rest]
    exact ⟨hlock, hrunning⟩

omit [Runtime] in
/-- The end of a restart or of a validation start keeps the run too. -/
theorem keeps_files_saveRun_rest {r : TaskRunRecord} {m : LedgerAction β}
    (h : Keeps (Files id runId) m) : Keeps (Files id runId) (saveRun r >>= fun _ => m) :=
  keeps_files_saveRun.bind fun _ => h

theorem operation_accepted_restart {summary : String} {actor : Option ActorRef}
    {harness : Option NamedHarness} (hfound : resolveTask ref false s = .ok task)
    (hvisible : isArchivedTask task = false) (hsummary : Text.isBlank summary = false) :
    ¬ Refuses (restartImplementation env ref summary actor harness) s ↔
      WorkAction.implementRestart.Admits task s ∧
        WorkAction.implementRestart.Guards env task s := by
  simp only [restartImplementation, restartOf, not_refuses_query, Query.bind_eq_ok,
    hfound, Except.ok.injEq, exists_eq_left', ensureNotArchived, Query.liftM_eq_ok, raiseIf_eq_ok,
    hvisible, hsummary, ensureDependenciesDone_eq_ok_iff, Query.pure_eq_ok, WorkAction.Admits,
    WorkAction.Guards, not_not]
  constructor
  · rintro ⟨_, ⟨_, -, _, hstage, plan, hplan, _, -, validation, hvalidation, _, hfailed, _, -,
      previous, hprevious, _, htype, _, -, _, hblocking, rfl⟩, hstart⟩
    rw [not_refuses_startRun fun _ => keeps_files_saveRun_rest keeps_files_rest] at hstart
    have haccepted := requireAcceptedPlanRecord_eq_ok_iff.1 ⟨plan, hplan⟩
    exact ⟨⟨hstage, haccepted.version, ⟨validation, hvalidation, by simpa using hfailed⟩,
      ⟨previous, hprevious, htype⟩, hblocking, hstart.1⟩, haccepted, hstart.2⟩
  · rintro ⟨⟨hstage, -, ⟨validation, hvalidation, hfailed⟩, ⟨previous, hprevious, htype⟩,
      hblocking, hlock⟩, haccepted, hrunning⟩
    obtain ⟨plan, hplan⟩ := requireAcceptedPlanRecord_eq_ok_iff.2 haccepted
    have hlinked {runId : Option String} {run : TaskRunRecord}
        (h : requireRun task runId s = .ok run) : runId ≠ none := by
      rintro rfl
      cases h
    refine ⟨_, ⟨(), by simp, (), hstage, plan, hplan, (), hlinked hvalidation, validation,
      hvalidation, (), by simp [hfailed], (), hlinked hprevious, previous, hprevious, (), htype, (),
      by simp, (), hblocking, rfl⟩, ?_⟩
    rw [not_refuses_startRun fun _ => keeps_files_saveRun_rest keeps_files_rest]
    exact ⟨hlock, hrunning⟩

theorem operation_accepted_validate {actor : Option ActorRef} {harness : Option NamedHarness}
    (hfound : resolveTask ref false s = .ok task) (hvisible : isArchivedTask task = false) :
    ¬ Refuses (startValidation env ref actor harness) s ↔
      WorkAction.validate.Admits task s ∧ WorkAction.validate.Guards env task s := by
  simp only [startValidation, validationStartOf, not_refuses_query, Query.bind_eq_ok,
    hfound, Except.ok.injEq, exists_eq_left', ensureNotArchived, Query.liftM_eq_ok, raiseIf_eq_ok,
    hvisible, Query.pure_eq_ok, WorkAction.Admits, WorkAction.Guards, not_not]
  constructor
  · rintro ⟨_, ⟨_, -, _, hstage, run, hrun, _, hfinished, _, hsnapshot, rfl⟩, hstart⟩
    rw [not_refuses_startRun fun _ => keeps_files_saveRun_rest keeps_files_rest] at hstart
    refine ⟨⟨hstage, hstart.1, run, hrun, ?_⟩, hstart.2, fun run' hrun' => ?_⟩
    · rw [not_or, not_not, not_not] at hfinished
      simp [isFinishedImplementation, hfinished]
    · cases hrun.symm.trans hrun'
      exact hsnapshot
  · rintro ⟨⟨hstage, hlock, run, hrun, hfinished⟩, hrunning, hsnapshot⟩
    have hfinished' : run.runType = .implementation ∧ run.status = .finished := by
      simpa [isFinishedImplementation] using hfinished
    refine ⟨(task, run), ⟨(), by simp, (), hstage, run, hrun, (), by simp [hfinished'], (),
      hsnapshot run hrun, rfl⟩, ?_⟩
    rw [not_refuses_startRun fun _ => keeps_files_saveRun_rest keeps_files_rest]
    exact ⟨hlock, hrunning⟩

/-- The ledgers in which a task is locked. -/
def Held (id : String) (s : Ledger) : Prop := s.locks.lookup id ≠ none

theorem keeps_held_resume {t : TaskRecord} {event : String} {data payload : Dict} :
    Keeps (Held id) (saveTask t >>= fun _ => appendEvent env t.id event data >>= fun _ =>
      (liftM rebuildV2Indexes : LedgerAction Unit) >>= fun _ => pure payload) := by
  refine Keeps.bind (Keeps.write fun _ h => h) fun _ => Keeps.bind (Keeps.write fun s h => ?_)
    fun _ => Keeps.query fun _ _ _ _ => Keeps.pure
  split
  · exact h
  · exact h

/-- Without a repair a resumption goes on exactly when there is no lock file. -/
theorem not_refuses_clearResumeLock {run : TaskRunRecord} {reason : String}
    {k : Unit → LedgerAction α} :
    ¬ Refuses (clearResumeLock env task run false reason >>= k) s ↔
      readLock task.id s = .ok none ∧ ¬ Refuses (k ()) s := by
  rw [clearResumeLock, bind_assoc, not_refuses_query]
  constructor
  · rintro ⟨lock, hlock, h⟩
    cases lock with
    | none => exact ⟨hlock, by simpa using h⟩
    | some l =>
      refine absurd ?_ h
      unfold repairResumeLock
      rw [bind_assoc]
      cases hexpired : lockIsExpired env l with
      | error e => exact ⟨e, rfl⟩
      | ok expired => cases expired <;> exact ⟨_, rfl⟩
  · rintro ⟨hlock, h⟩
    exact ⟨none, hlock, by simpa using h⟩

theorem operation_accepted_resume {reason : String} {actor : Option ActorRef}
    {harness : Option NamedHarness} (hs : s.Sound) (hfound : resolveTask ref false s = .ok task)
    (hvisible : isArchivedTask task = false) (hreason : Text.isBlank reason = false) :
    ¬ Refuses (resumeImplementation env ref none reason actor harness) s ↔
      WorkAction.implementResume.Admits task s ∧ WorkAction.implementResume.Guards env task s := by
  have hlink : orOption none task.latestImplementationRun = task.latestImplementationRun := rfl
  simp only [resumeImplementation, resumptionOf, not_refuses_query, not_refuses_clearResumeLock,
    Query.bind_eq_ok, hfound, Except.ok.injEq, exists_eq_left', ensureNotArchived,
    Query.liftM_eq_ok, raiseIf_eq_ok, hvisible, hreason, ensureDependenciesDone_eq_ok_iff,
    Query.pure_eq_ok, WorkAction.Admits, WorkAction.Guards, not_not, hlink]
  constructor
  · rintro ⟨_, ⟨_, -, _, -, _, hstage, plan, hplan, run, hrun, _, hrunning, rfl⟩, hlock, _,
      hblocking, -⟩
    have haccepted := requireAcceptedPlanRecord_eq_ok_iff.1 ⟨plan, hplan⟩
    rw [not_or, not_not, not_not] at hrunning
    exact ⟨⟨hstage, haccepted.version, ⟨run, hrun, by simp [isRunningImplementation, hrunning]⟩,
      hblocking, hlock⟩, haccepted⟩
  · rintro ⟨⟨hstage, -, ⟨run, hrun, hrunning⟩, hblocking, hlock⟩, haccepted⟩
    obtain ⟨plan, hplan⟩ := requireAcceptedPlanRecord_eq_ok_iff.2 haccepted
    have hrunning' : run.runType = .implementation ∧ run.status = .running := by
      simpa [isRunningImplementation] using hrunning
    refine ⟨(task, run), ⟨(), by simp, (), by simp, (), hstage, plan, hplan, run, hrun, (),
      by simp [hrunning'], rfl⟩, hlock, (), hblocking, not_refuses ?_⟩
    obtain ⟨_, _, hresolved⟩ := requireRun_eq_ok hrun
    refine sat_acquireLock (fun l hl => lock_file_sound hs hl) hlock (canonical_resolved hs hfound)
      ((hs _).runIds _ _ (view_run hresolved).1) ?_ fun lock s' _ hview => ?_
    · simpa [Text.isBlank] using hreason
    · have hheld : Held task.id s' := by
        intro hnone
        have hlocked := congrArg View.lock (congrFun hview task.id)
        simp [Ledger.view, hnone] at hlocked
      refine Sat.mono (keeps_held_resume s' hheld) fun _ s'' hheld' heq => ?_
      subst heq
      exact hheld' (readLock_none hlock)

-- ════════════════════════════════════════════════════════════════════════
-- Agreement
-- ════════════════════════════════════════════════════════════════════════

section Agreement

variable {summary reason : String} {actor : Option ActorRef} {harness : Option NamedHarness}
  {action : WorkAction}

/-- An operation goes on exactly when what `can_perform` asks for and its other guards hold. -/
theorem operation_accepted_iff (hs : s.Sound) (hfound : resolveTask ref false s = .ok task)
    (hvisible : isArchivedTask task = false) (hsummary : Text.isBlank summary = false)
    (hreason : Text.isBlank reason = false) (haction : action ≠ .expiredLockResume) :
    ¬ Refuses (action.operation env ref summary reason actor harness) s ↔
      action.Admits task s ∧ action.Guards env task s := by
  cases action with
  | plan => exact operation_accepted_plan hfound hvisible
  | implement => exact operation_accepted_implement hfound hvisible
  | implementResume => exact operation_accepted_resume hs hfound hvisible hreason
  | expiredLockResume => exact absurd rfl haction
  | implementRestart => exact operation_accepted_restart hfound hvisible hsummary
  | validate => exact operation_accepted_validate hfound hvisible

/-- On an archived task every operation refuses. -/
theorem operation_refuses_archived (hfound : resolveTask ref false s = .ok task)
    (harchived : isArchivedTask task = true) :
    Refuses (action.operation env ref summary reason actor harness) s := by
  by_contra h
  cases action with
  | plan =>
    simp [WorkAction.operation, startPlanning, not_refuses_query, hfound, ensureNotArchived,
      not_refuses_guard, harchived] at h
  | implement =>
    simp [WorkAction.operation, startImplementation, implementationStartOf, not_refuses_query,
      Query.bind_eq_ok, hfound, ensureNotArchived, Query.liftM_eq_ok, harchived] at h
  | implementResume | expiredLockResume =>
    simp [WorkAction.operation, resumeImplementation, resumptionOf, not_refuses_query,
      Query.bind_eq_ok, hfound, ensureNotArchived, Query.liftM_eq_ok, harchived] at h
  | implementRestart =>
    simp [WorkAction.operation, restartImplementation, restartOf, not_refuses_query,
      Query.bind_eq_ok, hfound, ensureNotArchived, Query.liftM_eq_ok, harchived] at h
  | validate =>
    simp [WorkAction.operation, startValidation, validationStartOf, not_refuses_query,
      Query.bind_eq_ok, hfound, ensureNotArchived, Query.liftM_eq_ok, harchived] at h

/-- What `can_perform` reports is what it asks for. -/
theorem canPerform_ok_iff {c : Capability} (hc : canPerform env ref action s = .ok c)
    (hfound : resolveTask ref false s = .ok task) (haction : action ≠ .expiredLockResume) :
    c.finding.ok = true ↔ isArchivedTask task = false ∧ action.Admits task s := by
  obtain ⟨t, ht, h⟩ := Query.bind_eq_ok.1 hc
  cases hfound.symm.trans ht
  cases harchived : isArchivedTask task with
  | true =>
    rw [if_pos harchived] at h
    cases Query.pure_eq_ok.1 h
    simp [archivedFinding]
  | false =>
    rw [if_neg (by simp [harchived])] at h
    obtain ⟨lock, hlock, h⟩ := Query.bind_eq_ok.1 h
    obtain ⟨stage, hstage, h⟩ := Query.bind_eq_ok.1 h
    obtain ⟨f, hf, h⟩ := Query.bind_eq_ok.1 h
    cases Query.pure_eq_ok.1 h
    simpa using findingFor_ok_iff hlock hstage haction hf

/-- `can_perform` reports what the operation does exactly when the operation's other guards
hold where `can_perform` finds nothing in the way. -/
theorem capability_agrees_iff {c : Capability} (h : s.Reachable)
    (haction : action ≠ .expiredLockResume) (hc : canPerform env ref action s = .ok c)
    (hsummary : Text.isBlank summary = false) (hreason : Text.isBlank reason = false) :
    (c.finding.ok = true ↔
        ¬ Refuses (action.operation env ref summary reason actor harness) s) ↔
      ∀ task, resolveTask ref false s = .ok task → isArchivedTask task = false →
        action.Admits task s → action.Guards env task s := by
  obtain ⟨task, hfound, -⟩ := Query.bind_eq_ok.1 hc
  have hok := canPerform_ok_iff hc hfound haction
  cases harchived : isArchivedTask task with
  | true =>
    refine iff_of_true ?_ fun task' htask' hvisible => ?_
    · rw [hok]
      exact iff_of_false (by simp [harchived]) fun h => h (operation_refuses_archived hfound harchived)
    · cases hfound.symm.trans htask'
      simp [harchived] at hvisible
  | false =>
    have hrefuses : ¬ Refuses (action.operation env ref summary reason actor harness) s ↔
        action.Admits task s ∧ action.Guards env task s :=
      operation_accepted_iff h.sound hfound harchived hsummary hreason haction
    rw [hok, hrefuses]
    constructor
    · intro hagree task' htask' hvisible hadmits
      cases hfound.symm.trans htask'
      exact (hagree.1 ⟨hvisible, hadmits⟩).2
    · intro hguards
      constructor
      · rintro ⟨-, hadmits⟩
        exact ⟨hadmits, hguards task hfound harchived hadmits⟩
      · rintro ⟨hadmits, -⟩
        exact ⟨harchived, hadmits⟩

end Agreement

end Capabilities

section Evaluation

attribute [local instance] plainRuntime

/-- A task in planning whose lock was broken. -/
def brokenPlanningOps : List Op :=
  [.createTask { title := "A", description := "d" }, .startPlanning "task-0001" none none,
    .breakLock "task-0001" "stale"]

/-- Whether `can_perform` allows an action on the task. -/
def allowedOn (s : Ledger) (action : WorkAction) : Option Bool :=
  (canPerform plainEnv "task-0001" action s).toOption.map fun c => c.finding.ok

theorem allowed_of_allowedOn {s : Ledger} {action : WorkAction} {b : Bool}
    (h : allowedOn s action = some b) :
    ∃ c, canPerform plainEnv "task-0001" action s = .ok c ∧ c.finding.ok = b := by
  unfold allowedOn at h
  cases hc : canPerform plainEnv "task-0001" action s with
  | error e => simp [hc, Except.toOption] at h
  | ok c => exact ⟨c, rfl, by simpa [hc, Except.toOption] using h⟩

/-- The running runs of the task. -/
def runningOn (s : Ledger) : Option (List String) :=
  ((resolveTask "task-0001" >>= fun t => runningRuns t : LedgerQuery _) s).toOption.map
    fun runs => runs.map TaskRunRecord.runId

theorem runningRuns_of_runningOn {s : Ledger} {ids : List String} {task : TaskRecord}
    (h : runningOn s = some ids) (hfound : resolveTask "task-0001" false s = .ok task) :
    ∃ runs, runningRuns task s = .ok runs ∧ runs.map TaskRunRecord.runId = ids := by
  have hread : (resolveTask "task-0001" >>= fun t => runningRuns t : LedgerQuery _) s =
      runningRuns task s := by
    change (resolveTask "task-0001" false s >>= fun t => runningRuns t s) = runningRuns task s
    rw [hfound]
    rfl
  rw [runningOn, hread] at h
  cases hruns : runningRuns task s with
  | error e => simp [hruns, Except.toOption] at h
  | ok runs => exact ⟨runs, rfl, by simpa [hruns, Except.toOption] using h⟩

/-- A task that was just created. -/
def createdOps : List Op := [.createTask { title := "A", description := "d" }]

theorem capability_agrees_iff_created :
    ∃ c, canPerform plainEnv "task-0001" .plan (afterOps createdOps) = .ok c ∧
      (c.finding.ok = true ↔
        ¬ Refuses (startPlanning plainEnv "task-0001" none none) (afterOps createdOps)) := by
  have hreachable : (afterOps createdOps).Reachable := reachable_afterOps _
  have hallowed : allowedOn (afterOps createdOps) .plan = some true := by decide
  have hrunning : runningOn (afterOps createdOps) = some [] := by decide
  have hblank : Text.isBlank "again" = false := by decide
  obtain ⟨c, hc, -⟩ := allowed_of_allowedOn hallowed
  refine ⟨c, hc, ?_⟩
  refine (capability_agrees_iff hreachable (by decide) hc hblank hblank).2
    fun task hfound _ _ => ?_
  obtain ⟨runs, hruns, hids⟩ := runningRuns_of_runningOn hrunning hfound
  cases List.map_eq_nil_iff.1 hids
  exact hruns

/-- Planning may start, it is said, and it is refused: the run of the broken lock runs. -/
theorem plan_allowed_and_refused :
    (afterOps brokenPlanningOps).Reachable ∧
      ∃ c, canPerform plainEnv "task-0001" .plan (afterOps brokenPlanningOps) = .ok c ∧
        c.finding.ok = true ∧
        Refuses (startPlanning plainEnv "task-0001" none none) (afterOps brokenPlanningOps) := by
  have hreachable : (afterOps brokenPlanningOps).Reachable := reachable_afterOps _
  have hallowed : allowedOn (afterOps brokenPlanningOps) .plan = some true := by decide
  have hrunning : runningOn (afterOps brokenPlanningOps) = some ["run-0001"] := by decide
  obtain ⟨c, hc, hok⟩ := allowed_of_allowedOn hallowed
  refine ⟨hreachable, c, hc, hok, ?_⟩
  obtain ⟨task, hfound, -⟩ := Query.bind_eq_ok.1 hc
  obtain ⟨hvisible, -⟩ := (canPerform_ok_iff hc hfound (by decide)).1 hok
  by_contra haccepted
  have hguards := ((operation_accepted_plan hfound hvisible).1 haccepted).2
  obtain ⟨runs, hruns, hids⟩ := runningRuns_of_runningOn hrunning hfound
  have hnone : runningRuns task (afterOps brokenPlanningOps) = .ok [] := hguards
  cases hnone.symm.trans hruns
  cases hids

end Evaluation

end Taskledger
