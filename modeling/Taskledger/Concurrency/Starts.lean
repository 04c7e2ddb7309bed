import Taskledger.Concurrency.StorageSteps
import Taskledger.Lifecycle.Listings
import Taskledger.Lifecycle.Steps
import Taskledger.PlainRuntime

/-!
# Concurrent starts

A start looks for the lock and for running runs, lists the runs, writes its run file and
only then creates the lock file. A lock file with its own run id it takes for its own.
-/

namespace Taskledger

open Library Process

section Starts

variable [Runtime] {env : Env}

-- ════════════════════════════════════════════════════════════════════════
-- The starts in their storage steps
-- ════════════════════════════════════════════════════════════════════════

/-- `_acquire_lock` when the exclusive creation failed. -/
def lockTakenCall (env : Env) (task : TaskRecord) (lock : TaskLock) : Call TaskLock := do
  let existing ← readLock task.id
  let message ← lockConflictMessage env task.id (existing.getD lock)
  .done (.error (cliError message exitCodeLockConflict))

/-- `_acquire_lock` when a lock file was found. -/
def keepLockCall (env : Env) (task : TaskRecord) (run : TaskRunRecord) (existing : TaskLock) :
    Call TaskLock := do
  let expired ← lockIsExpired env existing
  raiseIf (expired = true) (staleLockError task.id existing)
  if existing.runId = run.runId then return existing
  else do
    let message ← lockConflictMessage env task.id existing
    .done (.error (cliError message exitCodeLockConflict))

/-- `_acquire_lock` once no lock file was found. -/
def createLockCall (env : Env) (task : TaskRecord) (run : TaskRunRecord) (runType : RunType)
    (reason : String) (actor : ActorRef) (harness : Option NamedHarness) : Call TaskLock := do
  let lockId ← nextLockId env
  let lock := newLock env lockId task run runType reason actor harness
  let created ← tryLock lock
  if created then do
    perform (.event env task.id "lock.acquired" lock.toDict)
    perform (.event env task.id "stage.entered"
      [("stage", .str (value lock.stage)), ("run_id", .str run.runId)])
    return lock
  else lockTakenCall env task lock

/-- `_acquire_lock` in its storage steps. -/
def acquireLockCall (env : Env) (task : TaskRecord) (run : TaskRunRecord) (runType : RunType)
    (reason : String) (actor : ActorRef) (harness : Option NamedHarness) : Call TaskLock := do
  let existing ← readLock task.id
  match existing with
  | some lock => keepLockCall env task run lock
  | none => createLockCall env task run runType reason actor harness

/-- `_start_run` in its storage steps. -/
def startRunCall (env : Env) (task : TaskRecord) (runType : RunType) (actor : Option ActorRef)
    (harness : Option NamedHarness) : Call TaskRunRecord := do
  let existingLock ← readLock task.id
  refuseLock env task existingLock
  let running ← runningRuns task
  refuseRunning env task running
  let resolvedActor := actor.getD (defaultActor env)
  let runs ← listRuns task.id
  let run := newRun env (Runtime.nextId "run" (runs.map TaskRunRecord.runId)) task runType
    resolvedActor harness
  perform (.newRun run)
  let _ ← acquireLockCall env task run runType (startReason runType) resolvedActor harness
  return run

/-- The end of a start: the task is read again and written with its run. -/
def enterStageCall (env : Env) (taskId event : String) (data : Dict)
    (update : TaskRecord → TaskRecord) (payload : TaskRecord → TaskLock → Dict) : Call Dict := do
  let current ← resolveTask taskId
  let updated := update current
  perform (.putTask current updated)
  perform (.event env updated.id event data)
  rebuildV2Indexes
  let lock ← requireLock env updated.id
  return payload updated lock

/-- A call to start work on a task. -/
inductive Start where
  | planning
  | implementation
  | restart (summary : String)
  | validation

/-- The task once a planning run is its latest one. -/
def planningTask (env : Env) (task : TaskRecord) (runId : String) : TaskRecord :=
  { task with latestPlanningRun := some runId, updatedAt := utcNow env }

/-- The task once a validation run is its latest one. -/
def validatingTask (env : Env) (task : TaskRecord) (runId : String) : TaskRecord :=
  { task with latestValidationRun := some runId, updatedAt := utcNow env }

/-- `start_planning` in its storage steps. -/
def startPlanningCall (env : Env) (taskRef : String) (actor : Option ActorRef)
    (harness : Option NamedHarness) : Call Dict := do
  let task ← resolveTask taskRef
  ensureNotArchived task "start planning for"
  raiseIf (task.statusStage ∉ [.draft, .planReview]) <|
    cliError "Planning can only start from draft or plan_review." exitCodeInvalidTransition
  let run ← startRunCall env task .planning actor harness
  enterStageCall env task.id "plan.started" [("run_id", .str run.runId)]
    (fun current => planningTask env current run.runId)
    fun updated lock => lifecyclePayload "plan start" updated [] true none (some run) (some lock)

/-- `start_implementation` in its storage steps. -/
def startImplementationCall (env : Env) (taskRef : String) (actor : Option ActorRef)
    (harness : Option NamedHarness) : Call Dict := do
  let task ← resolveTask taskRef
  ensureNotArchived task "start implementation for"
  raiseIf (task.statusStage ∉ implementableTaskStages) <|
    cliError "Implementation requires approved or failed_validation state."
      exitCodeInvalidTransition
  let _ ← requireAcceptedPlanRecord task "Implementation"
  ensureDependenciesDone task
  let run ← startRunCall env task .implementation actor harness
  enterStageCall env task.id "implementation.started" [("run_id", .str run.runId)]
    (fun current => implementingTask env current run.runId)
    fun updated lock => lifecyclePayload "implement start"
      { updated with statusStage := task.statusStage } [] true none (some run) (some lock)

/-- The reads and checks of `restart_implementation`, a read at a time. -/
def restartCall (taskRef summary : String) : Call Restart := do
  let task ← resolveTask taskRef
  ensureNotArchived task "restart implementation for"
  raiseIf (task.statusStage ≠ .failedValidation) <|
    cliError "Implementation restart requires failed_validation state." exitCodeInvalidTransition
  let _ ← requireAcceptedPlanRecord task "Implementation restart"
  raiseIf (task.latestValidationRun = none) <|
    cliError "Implementation restart requires a failed validation run." exitCodeInvalidTransition
  let validationRun ← requireRun task task.latestValidationRun
  raiseIf (failedOrBlocked validationRun = false) <|
    cliError "Implementation restart requires the latest validation run to be failed or blocked."
      exitCodeInvalidTransition
  raiseIf (task.latestImplementationRun = none) <|
    cliError "Implementation restart requires a previous implementation run."
      exitCodeInvalidTransition
  let previousRun ← requireRun task task.latestImplementationRun
  raiseIf (previousRun.runType ≠ .implementation) <|
    cliError "Implementation restart requires a previous implementation run."
      exitCodeInvalidTransition
  raiseIf (Text.isBlank summary) <|
    cliError "Implementation restart requires a non-empty summary." exitCodeBadInput
  ensureDependenciesDone task
  return {
    task := task
    validationRun := validationRun
    previousRun := previousRun
    summary := Text.strip summary }

/-- `restart_implementation` in its storage steps. -/
def restartImplementationCall (env : Env) (taskRef summary : String) (actor : Option ActorRef)
    (harness : Option NamedHarness) : Call Dict := do
  let r ← restartCall taskRef summary
  let run ← startRunCall env r.task .implementation actor harness
  let restarted := restartedRun r run
  perform (.putRun run restarted)
  enterStageCall env r.task.id "implementation.started"
    [("run_id", .str restarted.runId),
      ("restart", .bool true),
      ("summary", .str r.summary),
      ("after_validation_run", .str r.validationRun.runId),
      ("resumes_run_id", .str r.previousRun.runId)]
    (fun current => implementingTask env current restarted.runId)
    fun updated lock => lifecyclePayload "implement restart"
      { updated with statusStage := r.task.statusStage } [] true none (some restarted) (some lock)

/-- `start_validation` in its storage steps. -/
def startValidationCall (env : Env) (taskRef : String) (actor : Option ActorRef)
    (harness : Option NamedHarness) : Call Dict := do
  let task ← resolveTask taskRef
  ensureNotArchived task "start validation for"
  raiseIf (task.statusStage ≠ .implemented) <|
    cliError "Validation requires implemented state." exitCodeInvalidTransition
  let implementationRun ← requireRun task task.latestImplementationRun
  raiseIf (implementationRun.runType ≠ .implementation ∨ implementationRun.status ≠ .finished) <|
    cliError "Validation requires a finished implementation run." exitCodeInvalidTransition
  ensureImplementationSnapshotCurrent env task implementationRun
  let run ← startRunCall env task .validation actor harness
  let updatedRun := { run with basedOnImplementationRun := some implementationRun.runId }
  perform (.putRun run updatedRun)
  enterStageCall env task.id "validation.started" [("run_id", .str updatedRun.runId)]
    (fun current => validatingTask env current updatedRun.runId)
    fun updated lock =>
      lifecyclePayload "validate start" updated [] true none (some updatedRun) (some lock)

/-- A start by a reference to the task. -/
def Start.call (env : Env) (taskRef : String) (actor : Option ActorRef)
    (harness : Option NamedHarness) : Start → Call Dict
  | planning => startPlanningCall env taskRef actor harness
  | implementation => startImplementationCall env taskRef actor harness
  | restart summary => restartImplementationCall env taskRef summary actor harness
  | validation => startValidationCall env taskRef actor harness

/-- The operation of a start. -/
def Start.operation (env : Env) (taskRef : String) (actor : Option ActorRef)
    (harness : Option NamedHarness) : Start → LedgerAction Dict
  | planning => startPlanning env taskRef actor harness
  | implementation => startImplementation env taskRef actor harness
  | restart summary => restartImplementation env taskRef summary actor harness
  | validation => startValidation env taskRef actor harness

-- ════════════════════════════════════════════════════════════════════════
-- Alone
-- ════════════════════════════════════════════════════════════════════════

section Alone

variable {task : TaskRecord} {run : TaskRunRecord} {runType : RunType} {reason : String}
  {actor : ActorRef} {harness : Option NamedHarness}

theorem lockTakenCall_alone (lock : TaskLock) :
    (lockTakenCall env task lock).alone = lockTaken env task lock := by
  simp only [lockTakenCall, lockTaken, Call.alone_bind, Call.alone_query, Call.alone_except,
    Call.alone_throw]

theorem keepLockCall_alone (existing : TaskLock) :
    (keepLockCall env task run existing).alone = keepLock env task run existing := by
  unfold keepLockCall keepLock
  by_cases h : existing.runId = run.runId
  · simp only [if_pos h, Call.alone_bind, Call.alone_except, Call.alone_pure]
  · simp only [if_neg h, Call.alone_bind, Call.alone_except, Call.alone_throw]

theorem createLockCall_alone :
    (createLockCall env task run runType reason actor harness).alone =
      createLock env task run runType reason actor harness := by
  simp only [createLockCall, createLock, Call.alone_bind, Call.alone_query, Call.alone_tryLock]
  congr 1
  funext lockId
  congr 1
  funext created
  cases created with
  | false => exact lockTakenCall_alone _
  | true => simp only [if_true, Call.alone_bind, Call.alone_event, Call.alone_pure]

theorem acquireLockCall_alone :
    (acquireLockCall env task run runType reason actor harness).alone =
      acquireLock env task run runType reason actor harness := by
  unfold acquireLockCall acquireLock
  rw [Call.alone_bind, Call.alone_query]
  congr 1
  funext existing
  cases existing with
  | none => exact createLockCall_alone
  | some lock => exact keepLockCall_alone lock

theorem startRunCall_alone {actor : Option ActorRef} :
    (startRunCall env task runType actor harness).alone =
      startRun env task runType actor harness := by
  simp only [startRunCall, startRun, Call.alone_bind, Call.alone_query, Call.alone_except,
    Call.alone_perform, Call.alone_pure, acquireLockCall_alone]
  rfl

theorem enterStageCall_alone {taskId event : String} {data : Dict}
    {update : TaskRecord → TaskRecord} {payload : TaskRecord → TaskLock → Dict} :
    (enterStageCall env taskId event data update payload).alone = (do
      let current ← resolveTask taskId
      saveTask (update current)
      appendEvent env (update current).id event data
      rebuildV2Indexes
      let lock ← requireLock env (update current).id
      return payload (update current) lock : LedgerAction Dict) := by
  simp only [enterStageCall, Call.alone_bind, Call.alone_query, Call.alone_perform,
    Call.alone_pure]
  rfl

theorem restartCall_alone (taskRef summary : String) :
    (restartCall taskRef summary).alone = liftM (restartOf taskRef summary) := by
  simp only [restartCall, restartOf, Call.alone_bind, Call.alone_query, Call.alone_except,
    Call.alone_pure, Action.liftM_bind]
  rfl

/-- Alone, the steps of a start are those of its operation. -/
theorem Start.call_alone {taskRef : String} {actor : Option ActorRef} (start : Start) :
    (start.call env taskRef actor harness).alone =
      start.operation env taskRef actor harness := by
  cases start with
  | planning =>
    simp only [Start.call, startPlanningCall, Call.alone_bind, Call.alone_query, Call.alone_except,
      startRunCall_alone, enterStageCall_alone]
    rfl
  | implementation =>
    simp only [Start.call, startImplementationCall, Call.alone_bind, Call.alone_query,
      Call.alone_except, startRunCall_alone, enterStageCall_alone, Start.operation,
      startImplementation, implementationStartOf, Action.liftM_bind, bind_assoc]
    rfl
  | restart summary =>
    simp only [Start.call, restartImplementationCall, Call.alone_bind, Call.alone_perform,
      startRunCall_alone, restartCall_alone, enterStageCall_alone]
    rfl
  | validation =>
    simp only [Start.call, startValidationCall, Call.alone_bind, Call.alone_query,
      Call.alone_except, Call.alone_perform, startRunCall_alone, enterStageCall_alone,
      Start.operation, startValidation, validationStartOf, Action.liftM_bind, bind_assoc]
    rfl

end Alone

-- ════════════════════════════════════════════════════════════════════════
-- Phases of a start
-- ════════════════════════════════════════════════════════════════════════

/-- A running run of the task is filed, and the task was at most written over by one of
its id, slug and visibility. -/
structure Ledger.Busy (s₀ : Ledger) (task : TaskRecord) (s : Ledger) : Prop where
  running : ∃ run ∈ s.runs.files, run.taskId = task.id ∧ run.status = .running
  tasks : s.tasks = s₀.tasks ∨ ∃ written, s.tasks = s₀.tasks.save written ∧
    written.id = task.id ∧ written.slug = task.slug ∧
      written.archivedAt.isSome = task.archivedAt.isSome

/-- How far a start has come: it has only read, and what its readings tell of the first
ledger; or it has written, and nobody else has. -/
inductive StartPhase where
  | reading (seen : Prop)
  | holding (s : Ledger)

/-- The steps of a start. -/
inductive StartMove (s₀ : Ledger) (task : TaskRecord) :
    StartPhase → StorageStep → Ledger → StartPhase → Prop
  | read {seen seen' : Prop} {s : Ledger} (h : seen → s = s₀ → seen') :
    StartMove s₀ task (.reading seen) .read s (.reading seen')
  | enter {seen : Prop} {run : TaskRunRecord} (h : seen) (hidle : ¬ s₀.Busy task s₀)
    (hbusy : s₀.Busy task (s₀.putRun run)) :
    StartMove s₀ task (.reading seen) (.newRun run) s₀ (.holding (s₀.putRun run))
  | hold {l : StorageStep} {s : Ledger} (hbusy : s₀.Busy task (l.effect s)) :
    StartMove s₀ task (.holding s) l s (.holding (l.effect s))

/-- A start that has written returns; one that has only read raises. -/
def starting (s₀ : Ledger) (task : TaskRecord) :
    Discipline StorageStep Ledger Raised Dict StartPhase where
  knows
    | .reading seen, s => seen ∧ s = s₀ ∨ s₀.Busy task s
    | .holding s, s' => s' = s
  move := StartMove s₀ task
  ends
    | .reading _, .error _ => True
    | .holding _, .ok _ => True
    | _, _ => False

/-- The run file is written while the task still has no lock file and no running run. -/
def StartsFree : StorageStep → Ledger → Prop
  | .newRun run, s => s.locks.lookup run.taskId = none ∧
      ∀ r ∈ s.runs.files, r.taskId = run.taskId → r.status ≠ .running
  | _, _ => True

instance (l : StorageStep) (s : Ledger) : Decidable (StartsFree l s) :=
  match l with
  | .newRun run => inferInstanceAs (Decidable (s.locks.lookup run.taskId = none ∧
      ∀ r ∈ s.runs.files, r.taskId = run.taskId → r.status ≠ .running))
  | .read | .putRun .. | .createLock _ | .putLock _ | .putCounter _ | .newTask _ | .putTask ..
  | .newChange _ | .newCheck _ | .putTodos .. | .putHandoff .. | .event .. => isTrue trivial

section Phases

variable {s₀ s : Ledger} {task : TaskRecord} {seen : Prop} {α : Type}

/-- A reading of a start, by which it learns what the first ledger reads as. -/
theorem obeys_startRead {q : LedgerQuery α} {f : α → Call Dict}
    (h : ∀ s a, (seen ∧ s = s₀ ∨ s₀.Busy task s) → q s = .ok a →
      (f a).Obeys (starting s₀ task) StartsFree (.reading (seen ∧ q s₀ = .ok a))) :
    ((liftM q : Call α) >>= f).Obeys (starting s₀ task) StartsFree (.reading seen) := by
  intro s hs _
  cases hq : q s with
  | error e =>
    refine ⟨.reading seen, .read fun hseen _ => hseen, ?_⟩
    show (check (q s) >>= f).Obeys _ _ _
    rw [hq]
    trivial
  | ok a =>
    refine ⟨.reading (seen ∧ q s₀ = .ok a), .read ?_, ?_⟩
    · rintro hseen rfl
      exact ⟨hseen, hq⟩
    · show (check (q s) >>= f).Obeys _ _ _
      rw [hq]
      exact h s a hs hq

theorem obeys_startCheck {x : Except Raised α} {f : α → Call Dict}
    (h : ∀ a, x = .ok a → (f a).Obeys (starting s₀ task) StartsFree (.reading seen)) :
    ((liftM x : Call α) >>= f).Obeys (starting s₀ task) StartsFree (.reading seen) :=
  Obeys.check (fun _ _ => trivial) h

/-- From the write of its run file on a start runs as alone. -/
theorem obeys_startHolding {p : Call Dict}
    (h : p.Through StorageStep.effect (s₀.Busy task) (fun r => ∃ d, r = .ok d) s) :
    p.Obeys (starting s₀ task) StartsFree (.holding s) := by
  refine Obeys.of_through (fun s s' h => h) (fun l s hbusy => .hold hbusy) ?_ h
  rintro r s ⟨d, rfl⟩
  trivial

omit [Runtime] in
theorem Ledger.Busy.congr {s' : Ledger} (h : s₀.Busy task s) (hruns : s'.runs = s.runs)
    (htasks : s'.tasks = s.tasks) : s₀.Busy task s' where
  running := hruns ▸ h.running
  tasks := htasks ▸ h.tasks

theorem event_effect (env : Env) (taskId event : String) (data : Dict) (s : Ledger) :
    ∃ events, (StorageStep.event env taskId event data).effect s = s.withEvents events := by
  simp only [StorageStep.effect, appendEvent, Action.runOn, Action.write]
  split
  · exact ⟨_, rfl⟩
  · exact ⟨s.events, rfl⟩

/-- The steps of a start that has written its run keep the task busy, and it returns. -/
abbrev Completes (s₀ : Ledger) (task : TaskRecord) (p : Call Dict) (s : Ledger) : Prop :=
  p.Through StorageStep.effect (s₀.Busy task) (fun r => ∃ d, r = .ok d) s

theorem completes_event {taskId event : String} {data : Dict} {f : Unit → Call Dict}
    (hbusy : s₀.Busy task s)
    (h : ∀ events, Completes s₀ task (f ()) (s.withEvents events)) :
    Completes s₀ task (perform (.event env taskId event data) >>= f) s := by
  obtain ⟨events, heq⟩ := event_effect env taskId event data s
  refine Through.write ?_ ?_
  · rw [heq]
    exact hbusy.congr rfl rfl
  · rw [heq]
    exact h events

/-- A lock file is created where there is none. -/
theorem completes_tryLock {lock : TaskLock} {f : Bool → Call Dict}
    (hfree : s.locks.lookup lock.taskId = none) (hbusy : s₀.Busy task s)
    (h : Completes s₀ task (f true) (s.putLock lock)) :
    Completes s₀ task (tryLock lock >>= f) s := by
  have hcreate : (StorageStep.createLock lock).effect s = s.putLock lock := by
    simp [StorageStep.effect, Action.runOn, writeLock, hfree]
  refine ⟨hcreate ▸ hbusy.congr rfl rfl, ?_⟩
  rw [hcreate]
  show Completes s₀ task (f (s.locks.lookup lock.taskId).isNone) (s.putLock lock)
  rw [hfree]
  exact h

/-- The ledger once a start has its run and its lock. -/
structure Ledger.Opened (s₀ : Ledger) (env : Env) (task : TaskRecord) (s : Ledger) : Prop where
  tasks : s.tasks = s₀.tasks
  introductions : s.introductions = s₀.introductions
  requirements : s.requirements = s₀.requirements
  locks : ∀ l ∈ s.locks.files, ∃ l', l.reload = .ok l'
  lock : ∃ l, requireLock env task.id s = .ok l

theorem requireLock_congr {s' : Ledger} {id : String} (h : s'.locks = s.locks) :
    requireLock env id s' = requireLock env id s := by
  have hread : readLock id s' = readLock id s := by
    unfold readLock
    rw [h]
  refine Query.bind_congr (Query.bind_congr hread fun lock => ?_) fun lock => ?_
  · cases lock <;> rfl
  · cases lock <;> rfl

theorem Ledger.Opened.putRun (h : s₀.Opened env task s) (run : TaskRunRecord) :
    s₀.Opened env task (s.putRun run) where
  tasks := h.tasks
  introductions := h.introductions
  requirements := h.requirements
  locks := h.locks
  lock := by
    obtain ⟨l, hl⟩ := h.lock
    exact ⟨l, (requireLock_congr (show (s.putRun run).locks = s.locks from rfl)).trans hl⟩

theorem Ledger.Opened.rebuilds (h : s₀.Opened env task s) (hload : s₀.Rebuilds) : s.Rebuilds := by
  obtain ⟨htasks, hintroductions, -, hrequirements⟩ := hload
  refine ⟨?_, ?_, h.locks, ?_⟩
  · rwa [h.tasks]
  · rwa [h.introductions]
  · rwa [h.tasks, h.requirements]

/-- The end of a start goes through. -/
theorem completes_enterStage {event : String} {data : Dict} {update : TaskRecord → TaskRecord}
    {payload : TaskRecord → TaskLock → Dict} (hbusy : s₀.Busy task s)
    (hopened : s₀.Opened env task s) (hload : s₀.Rebuilds)
    (hfound : resolveTask task.id false s₀ = .ok task) (hid : (update task).id = task.id)
    (hslug : (update task).slug = task.slug) (htitle : (update task).title = task.title)
    (harch : (update task).archivedAt = task.archivedAt) :
    Completes s₀ task (enterStageCall env task.id event data update payload) s := by
  have hcurrent : resolveTask task.id false s = .ok task :=
    (resolveTask_congr hopened.tasks).trans hfound
  obtain ⟨stored, hstored, hreload⟩ := resolveTask_stored hcurrent
  have hbusy' : s₀.Busy task (s.putTask (update task)) := by
    refine ⟨hbusy.running, .inr ⟨update task, ?_, hid, hslug, by rw [harch]⟩⟩
    rw [← hopened.tasks]
    rfl
  have hrebuilds : (s.putTask (update task)).Rebuilds :=
    (Ledger.rebuilds_putTask (hid ▸ hstored) ⟨_, hreload⟩
      (TaskRecord.loads_congr (TaskRecord.reload_again hreload) hid hslug htitle)).2
      (hopened.rebuilds hload)
  refine Through.read rfl hbusy hcurrent (Through.write hbusy' ?_)
  refine completes_event hbusy' fun events => ?_
  have hrebuilds' : ((s.putTask (update task)).withEvents events).Rebuilds :=
    Ledger.rebuilds_withEvents.2 hrebuilds
  obtain ⟨u, hu⟩ := rebuildV2Indexes_loads.2 hrebuilds'
  obtain ⟨l, hl⟩ := hopened.lock
  have hlock : requireLock env (update task).id
      ((s.putTask (update task)).withEvents events) = .ok l :=
    (requireLock_congr (show ((s.putTask (update task)).withEvents events).locks = s.locks
      from rfl)).trans (hid ▸ hl)
  exact Through.read rfl (hbusy'.congr rfl rfl) hu
    (Through.read rfl (hbusy'.congr rfl rfl) hlock ⟨_, rfl⟩)

/-- A lock that was just made is held by its maker. -/
theorem requireLock_newLock {lockId reason : String} {run : TaskRunRecord} {runType : RunType}
    {actor : ActorRef} {harness : Option NamedHarness} {l : TaskLock}
    (hl : (newLock env lockId task run runType reason actor harness).reload = .ok l)
    (hlock : s.locks.lookup task.id = some
      (newLock env lockId task run runType reason actor harness)) :
    requireLock env task.id s = .ok l := by
  have hexpires : l.expiresAt = some (Runtime.isoformat (env.now + lockLease)) := by
    simp only [TaskLock.reload, bind_eq_ok, pure_eq_ok] at hl
    obtain ⟨-, -, -, -, -, -, -, -, -, -, -, -, rfl⟩ := hl
    rfl
  have hexpired : lockIsExpired env l = .ok false := by
    simp [lockIsExpired, hexpires, Runtime.fromisoformat_isoformat]
  have hread : readLock task.id s = .ok (some l) := by
    simp [readLock, hlock, hl, Functor.map, Except.map]
  have hmutation : lockForMutation env task.id s = .ok (some l) :=
    Query.bind_eq_ok.2 ⟨some l, hread, Query.bind_eq_ok.2 ⟨false, hexpired, rfl⟩⟩
  exact Query.bind_eq_ok.2 ⟨some l, hmutation, rfl⟩

/-- A start that has written its run takes the lock. -/
theorem completes_acquireLock {run : TaskRunRecord} {runType : RunType} {reason : String}
    {actor : ActorRef} {harness : Option NamedHarness} {f : TaskLock → Call Dict}
    (hs₀ : s₀.Sound) (hfree : s₀.locks.lookup task.id = none)
    (htask : Canonical "task" task.id) (hrun : Canonical "run" run.runId) (hreason : reason ≠ "")
    (hbusy : s₀.Busy task (s₀.putRun run))
    (hf : ∀ lock s, s.runs = s₀.runs.save run → s₀.Opened env task s →
      Completes s₀ task (f lock) s) :
    Completes s₀ task (acquireLockCall env task run runType reason actor harness >>= f)
      (s₀.putRun run) := by
  have hlocks : ∀ l ∈ s₀.locks.files, l.isSound = true := fun l hl => lock_file_sound hs₀ hl
  obtain ⟨lockId, hlockId, hne⟩ : ∃ lockId, nextLockId env (s₀.putRun run) = .ok lockId ∧
      lockId ≠ "" := nextLockId_loads hlocks
  have hsound : (newLock env lockId task run runType reason actor harness).isSound = true :=
    newLock_isSound hne htask hrun hreason
  have hread : readLock task.id (s₀.putRun run) = .ok none := by
    show readLock task.id s₀ = .ok none
    simp [readLock, hfree]
  rw [acquireLockCall, bind_bind]
  refine Through.read rfl hbusy hread ?_
  show Completes s₀ task (createLockCall env task run runType reason actor harness >>= f) _
  rw [createLockCall, bind_bind]
  refine Through.read rfl hbusy hlockId ?_
  generalize hlock : newLock env lockId task run runType reason actor harness = lock at hsound
  have hid : lock.taskId = task.id := by rw [← hlock]; rfl
  have hbusy' : s₀.Busy task ((s₀.putRun run).putLock lock) := hbusy.congr rfl rfl
  show Completes s₀ task ((tryLock lock >>= _) >>= f) _
  rw [bind_bind]
  refine completes_tryLock (hid ▸ hfree) hbusy ?_
  rw [if_pos rfl, bind_bind]
  refine completes_event hbusy' fun events => ?_
  rw [bind_bind]
  refine completes_event (hbusy'.congr rfl rfl) fun events' => ?_
  refine hf _ _ rfl ⟨rfl, rfl, rfl, fun l hl => ?_, ?_⟩
  · rcases Directory.mem_files_save.1 hl with rfl | ⟨hl, -⟩
    · exact TaskLock.loads_of_isSound hsound
    · exact TaskLock.loads_of_isSound (hlocks l hl)
  · obtain ⟨l, hl⟩ := TaskLock.loads_of_isSound hsound
    refine ⟨l, ?_⟩
    subst hlock
    exact requireLock_newLock hl (Directory.lookup_save_self _ _)

variable {ref : String} {u : TaskRecord} {actor : Option ActorRef}
  {harness : Option NamedHarness}

/-- While starts go on, a reference to the task finds it. -/
theorem id_of_startRead (hids : ∀ u ∈ s₀.tasks.files, Canonical "task" u.id)
    (hfound : resolveTask ref false s₀ = .ok task) (hs : seen ∧ s = s₀ ∨ s₀.Busy task s)
    (hu : resolveTask ref false s = .ok u) : u.id = task.id := by
  rcases hs with ⟨-, rfl⟩ | hbusy
  · cases hfound.symm.trans hu
    rfl
  · rcases hbusy.tasks with htasks | ⟨written, htasks, hid, hslug, harch⟩
    · rw [resolveTask_congr htasks, hfound] at hu
      cases hu
      rfl
    · exact resolveTask_rewritten hids hfound hid hslug harch htasks hu

/-- The run file is written: the task was free, so nobody had written. -/
theorem obeys_startWrite {run : TaskRunRecord} {f : Unit → Call Dict}
    (hid : run.taskId = task.id) (hrunning : run.status = .running)
    (h : seen → s₀.locks.lookup task.id = none → s₀.Busy task (s₀.putRun run) →
      Completes s₀ task (f ()) (s₀.putRun run)) :
    (perform (.newRun run) >>= f).Obeys (starting s₀ task) StartsFree (.reading seen) := by
  intro s hs hfree
  have hbusy : s₀.Busy task (s₀.putRun run) :=
    ⟨⟨run, Directory.mem_files_save.2 (.inl rfl), hid, hrunning⟩, .inl rfl⟩
  have hidle : ¬ s₀.Busy task s := by
    rintro ⟨⟨r, hr, hrid, hrr⟩, -⟩
    exact hfree.2 r hr (hrid.trans hid.symm) hrr
  rcases hs with ⟨hseen, rfl⟩ | hbusy'
  · exact ⟨_, .enter hseen hidle hbusy, obeys_startHolding (h hseen (hid ▸ hfree.1) hbusy)⟩
  · exact absurd hbusy' hidle

/-- A start writes its run while the task is free, and the rest goes through. -/
theorem obeys_startRun {runType : RunType} {f : TaskRunRecord → Call Dict} (hs₀ : s₀.Sound)
    (htask : Canonical "task" task.id) (hu : u.id = task.id) (hsame : seen → u = task)
    (hf : seen → ∀ run s, run.taskId = task.id → run.status = .running →
      s.runs = s₀.runs.save run → s₀.Opened env task s → Completes s₀ task (f run) s) :
    (startRunCall env u runType actor harness >>= f).Obeys (starting s₀ task) StartsFree
      (.reading seen) := by
  rw [startRunCall, bind_bind]
  refine obeys_startRead fun _ lock _ _ => ?_
  rw [bind_bind]
  refine obeys_startCheck fun _ _ => ?_
  rw [bind_bind]
  refine obeys_startRead fun _ running _ _ => ?_
  rw [bind_bind]
  refine obeys_startCheck fun _ _ => ?_
  rw [bind_bind]
  refine obeys_startRead fun _ runs _ _ => ?_
  show (((perform (.newRun _) : Call Unit) >>= _) >>= f).Obeys _ _ _
  rw [bind_bind]
  refine obeys_startWrite hu rfl fun hseen hfree hbusy => ?_
  obtain rfl := hsame hseen.1.1.1
  rw [bind_bind]
  refine completes_acquireLock hs₀ hfree htask (canonical_nextId _ _) (startReason_ne _)
    hbusy fun _ s hruns hopened => ?_
  exact hf hseen.1.1.1 _ s hu rfl hruns hopened

/-- The first ledger of starts on a task: it is sound, its records load, and it has the
task. -/
structure Ledger.Startable (s₀ : Ledger) (task : TaskRecord) : Prop where
  sound : s₀.Sound
  loads : s₀.Rebuilds
  found : resolveTask task.id false s₀ = .ok task

theorem Ledger.Startable.canonical (h : s₀.Startable task) : Canonical "task" task.id :=
  canonical_resolved h.sound h.found

/-- The end of a start on the task goes through. -/
theorem Ledger.Startable.completes (h₀ : s₀.Startable task) {event : String} {data : Dict}
    {update : TaskRecord → TaskRecord} {payload : TaskRecord → TaskLock → Dict}
    {run : TaskRunRecord} (hrun : run.taskId = task.id) (hrunning : run.status = .running)
    (hfiled : run ∈ s.runs.files) (hopened : s₀.Opened env task s)
    (hid : (update task).id = task.id) (hslug : (update task).slug = task.slug)
    (htitle : (update task).title = task.title)
    (harch : (update task).archivedAt = task.archivedAt) :
    Completes s₀ task (enterStageCall env task.id event data update payload) s :=
  completes_enterStage ⟨⟨run, hfiled, hrun, hrunning⟩, .inl hopened.tasks⟩ hopened h₀.loads h₀.found
    hid hslug htitle harch

/-- The same after the run file is written again. -/
theorem Ledger.Startable.completes_putRun (h₀ : s₀.Startable task) {event : String} {data : Dict}
    {update : TaskRecord → TaskRecord} {payload : TaskRecord → TaskLock → Dict}
    {read run : TaskRunRecord} (hrun : run.taskId = task.id) (hrunning : run.status = .running)
    (hopened : s₀.Opened env task s)
    (hid : (update task).id = task.id) (hslug : (update task).slug = task.slug)
    (htitle : (update task).title = task.title)
    (harch : (update task).archivedAt = task.archivedAt) :
    Completes s₀ task (perform (.putRun read run) >>= fun _ =>
      enterStageCall env task.id event data update payload) s := by
  have hfiled : run ∈ (s.putRun run).runs.files := Directory.mem_files_save.2 (.inl rfl)
  refine Through.write ⟨⟨run, hfiled, hrun, hrunning⟩, .inl hopened.tasks⟩ ?_
  exact h₀.completes hrun hrunning hfiled (hopened.putRun run) hid hslug htitle harch

/-- Every start keeps to the phases. -/
theorem Start.call_obeys (h₀ : s₀.Startable task) (hfound : resolveTask ref false s₀ = .ok task)
    (start : Start) :
    (start.call env ref actor harness).Obeys (starting s₀ task) StartsFree (.reading True) := by
  have hids : ∀ u ∈ s₀.tasks.files, Canonical "task" u.id := fun u hu =>
    canonical_files h₀.sound hu
  have hsame {u : TaskRecord} {seen : Prop} (hseen : seen ∧ resolveTask ref false s₀ = .ok u) :
      u = task := Except.ok.inj (hseen.2.symm.trans hfound)
  have hwritten (run : TaskRunRecord) {s : Ledger} (h : s.runs = s₀.runs.save run) :
      run ∈ s.runs.files := h ▸ Directory.mem_files_save.2 (.inl rfl)
  cases start with
  | planning =>
    refine obeys_startRead fun s u hs hu => ?_
    have hid := id_of_startRead hids hfound hs hu
    refine obeys_startCheck fun _ _ => obeys_startCheck fun _ _ => ?_
    refine obeys_startRun h₀.sound h₀.canonical hid hsame
      fun hseen run s hrun hrunning hruns hopened => ?_
    obtain rfl := hsame hseen
    exact h₀.completes hrun hrunning (hwritten run hruns) hopened rfl rfl rfl rfl
  | implementation =>
    refine obeys_startRead fun s u hs hu => ?_
    have hid := id_of_startRead hids hfound hs hu
    refine obeys_startCheck fun _ _ => obeys_startCheck fun _ _ => ?_
    refine obeys_startRead fun _ _ _ _ => obeys_startRead fun _ _ _ _ => ?_
    refine obeys_startRun h₀.sound h₀.canonical hid (fun h => hsame h.1.1)
      fun hseen run s hrun hrunning hruns hopened => ?_
    obtain rfl := hsame hseen.1.1
    exact h₀.completes hrun hrunning (hwritten run hruns) hopened rfl rfl rfl rfl
  | restart summary =>
    show (restartImplementationCall env ref summary actor harness).Obeys _ _ _
    simp only [restartImplementationCall, restartCall, bind_bind, returned_bind]
    refine obeys_startRead fun s u hs hu => ?_
    have hid := id_of_startRead hids hfound hs hu
    refine obeys_startCheck fun _ _ => obeys_startCheck fun _ _ => ?_
    refine obeys_startRead fun _ _ _ _ => obeys_startCheck fun _ _ => ?_
    refine obeys_startRead fun _ _ _ _ => obeys_startCheck fun _ _ => obeys_startCheck fun _ _ => ?_
    refine obeys_startRead fun _ _ _ _ => obeys_startCheck fun _ _ => obeys_startCheck fun _ _ => ?_
    refine obeys_startRead fun _ _ _ _ => ?_
    refine obeys_startRun h₀.sound h₀.canonical hid (fun h => hsame h.1.1.1.1)
      fun hseen run s hrun hrunning _ hopened => ?_
    obtain rfl := hsame hseen.1.1.1.1
    exact h₀.completes_putRun hrun hrunning hopened rfl rfl rfl rfl
  | validation =>
    refine obeys_startRead fun s u hs hu => ?_
    have hid := id_of_startRead hids hfound hs hu
    refine obeys_startCheck fun _ _ => obeys_startCheck fun _ _ => ?_
    refine obeys_startRead fun _ impl _ _ => ?_
    refine obeys_startCheck fun _ _ => obeys_startCheck fun _ _ => ?_
    refine obeys_startRun h₀.sound h₀.canonical hid (fun h => hsame h.1)
      fun hseen run s hrun hrunning hruns hopened => ?_
    obtain rfl := hsame hseen.1
    exact h₀.completes_putRun hrun hrunning hopened rfl rfl rfl rfl

end Phases

-- ════════════════════════════════════════════════════════════════════════
-- One owner
-- ════════════════════════════════════════════════════════════════════════

variable {ι : Type} [DecidableEq ι] {s₀ : Ledger} {task : TaskRecord}

/-- Nobody has written, or one start has and the task is busy; who only reads has taken
reading steps only. -/
structure Exclusive (s₀ : Ledger) (task : TaskRecord) (s : Ledger) (log : List (ι × StorageStep))
    (g : ι → StartPhase) : Prop where
  readers : ∀ i l seen, (i, l) ∈ log → g i = .reading seen → l = .read
  owner : (s = s₀ ∧ ∀ i, ∃ seen, g i = .reading seen ∧ seen) ∨
    (s₀.Busy task s ∧ ∃ h, g h = .holding s ∧ ∀ i, i ≠ h → ∃ seen, g i = .reading seen)

omit [DecidableEq ι] in
theorem Exclusive.knows {s : Ledger} {log : List (ι × StorageStep)} {g : ι → StartPhase}
    (h : Exclusive s₀ task s log g) (i : ι) : (starting s₀ task).knows (g i) s := by
  rcases h.owner with ⟨rfl, hall⟩ | ⟨hbusy, k, hk, hrest⟩
  · obtain ⟨seen, hi, hseen⟩ := hall i
    rw [hi]
    exact .inl ⟨hseen, rfl⟩
  · by_cases hik : i = k
    · rw [hik, hk]
      rfl
    · obtain ⟨seen, hi⟩ := hrest i hik
      rw [hi]
      exact .inr hbusy

theorem Exclusive.move {s : Ledger} {log : List (ι × StorageStep)} {g : ι → StartPhase} {i : ι}
    {l : StorageStep} {g' : StartPhase} (h : Exclusive s₀ task s log g)
    (hm : StartMove s₀ task (g i) l s g') :
    Exclusive s₀ task (l.effect s) (log ++ [(i, l)]) (Function.update g i g') := by
  -- the steps of the others stay, and so do their phases
  have hothers {j : ι} {l' : StorageStep} (hji : j ≠ i) (hj : (j, l') ∈ log ++ [(i, l)]) :
      (j, l') ∈ log := by
    rcases List.mem_append.1 hj with hj | hj
    · exact hj
    · cases List.mem_singleton.1 hj
      exact absurd rfl hji
  have hreaders {j : ι} {l' : StorageStep} {seen : Prop} (hji : j ≠ i)
      (hj : (j, l') ∈ log ++ [(i, l)]) (hg : Function.update g i g' j = .reading seen) :
      l' = .read := by
    rw [Function.update_of_ne hji] at hg
    exact h.readers j l' seen (hothers hji hj) hg
  generalize hgi : g i = gi at hm
  cases hm with
  | @read seen seen' _ hseen =>
    refine ⟨fun j l' seen'' hj hg => ?_, ?_⟩
    · by_cases hji : j = i
      · subst hji
        rcases List.mem_append.1 hj with hj | hj
        · exact h.readers j l' seen hj hgi
        · cases List.mem_singleton.1 hj
          rfl
      · exact hreaders hji hj hg
    · rcases h.owner with ⟨rfl, hall⟩ | ⟨hbusy, k, hk, hrest⟩
      · refine .inl ⟨rfl, fun j => ?_⟩
        by_cases hji : j = i
        · subst hji
          obtain ⟨seen'', hj, hseen''⟩ := hall j
          cases hgi.symm.trans hj
          exact ⟨seen', Function.update_self _ _ _, hseen hseen'' rfl⟩
        · rw [Function.update_of_ne hji]
          exact hall j
      · have hki : k ≠ i := by
          rintro rfl
          cases hgi.symm.trans hk
        refine .inr ⟨hbusy, k, by rw [Function.update_of_ne hki]; exact hk, fun j hj => ?_⟩
        by_cases hji : j = i
        · subst hji
          exact ⟨seen', Function.update_self _ _ _⟩
        · rw [Function.update_of_ne hji]
          exact hrest j hj
  | @enter seen run hseen hidle hbusy =>
    refine ⟨fun j l' seen' hj hg => ?_, .inr ⟨hbusy, i, Function.update_self _ _ _, fun j hj => ?_⟩⟩
    · by_cases hji : j = i
      · subst hji
        rw [Function.update_self] at hg
        cases hg
      · exact hreaders hji hj hg
    · rw [Function.update_of_ne hj]
      rcases h.owner with ⟨-, hall⟩ | ⟨hbusy', -⟩
      · obtain ⟨seen', hj', -⟩ := hall j
        exact ⟨seen', hj'⟩
      · exact absurd hbusy' hidle
  | @hold _ _ hbusy =>
    refine ⟨fun j l' seen' hj hg => ?_, .inr ⟨hbusy, i, Function.update_self _ _ _, fun j hj => ?_⟩⟩
    · by_cases hji : j = i
      · subst hji
        rw [Function.update_self] at hg
        cases hg
      · exact hreaders hji hj hg
    · rw [Function.update_of_ne hj]
      rcases h.owner with ⟨-, hall⟩ | ⟨-, k, hk, hrest⟩
      · obtain ⟨seen', hj', -⟩ := hall j
        exact ⟨seen', hj'⟩
      · have hik : i = k := by
          by_contra hik
          obtain ⟨seen', hi⟩ := hrest i hik
          cases hgi.symm.trans hi
        exact hrest j (hik ▸ hj)

/-- A call to start work: by whom, on what, and to do what. -/
structure StartRequest where
  env : Env
  taskRef : String
  actor : Option ActorRef := none
  harness : Option NamedHarness := none
  start : Start

/-- Concurrent starts on a ledger. -/
def starts (s : Ledger) (requests : ι → StartRequest) :
    System (Sharing ι StorageStep Ledger Raised Dict) ι :=
  interleaved StorageStep.effect s fun i =>
    (requests i).start.call (requests i).env (requests i).taskRef (requests i).actor
      (requests i).harness

/-- While every run file is written on a free task, at most one start on the task returns,
and a start that raises has only read. -/
theorem one_start_returns {s : Ledger} {requests : ι → StartRequest}
    {c : Sharing ι StorageStep Ledger Raised Dict} (hs : s.Reachable) (hload : s.Rebuilds)
    (hrefs : ∀ i, resolveTask (requests i).taskRef false s = .ok task)
    (h : (starts s requests).Reachable (Sharing.Meets StartsFree) c) :
    (∀ i j d d', c.result i = some (.ok d) → c.result j = some (.ok d') → i = j) ∧
      ∀ i e, c.result i = some (.error e) →
        (∀ l, (i, l) ∈ c.log → l = .read) ∧
          c.store = replay StorageStep.effect s (c.log.filter fun step => step.1 ≠ i) := by
  obtain ⟨g, hobeys, hexclusive⟩ := Obeys.invariant (J := Exclusive s task)
    (fun _ _ _ i hj => hj.knows i) (fun _ _ _ _ _ _ hj _ hm => hj.move hm)
    (g := fun _ => .reading True) (D := starting s task) (fun i => (requests i).start.call_obeys
      ⟨hs.sound, hload, resolveTask_id (hrefs i) (canonical_resolved hs.sound (hrefs i))⟩ (hrefs i))
    ⟨fun _ _ _ h => (by cases h), .inl ⟨rfl, fun _ => ⟨True, rfl, trivial⟩⟩⟩ h
  have hends {i : ι} {r : Except Raised Dict} (hi : c.result i = some r) :
      (starting s task).ends (g i) r := by
    have hdone := hobeys i
    rw [Sharing.calls_of_result hi] at hdone
    exact hdone
  constructor
  · intro i j d d' hi hj
    have hholds {k : ι} {d : Dict} (hk : c.result k = some (.ok d)) :
        ¬ ∃ seen, g k = .reading seen := by
      rintro ⟨seen, hg⟩
      have hend := hends hk
      rw [hg] at hend
      exact hend
    rcases hexclusive.owner with ⟨-, hall⟩ | ⟨-, k, -, hrest⟩
    · obtain ⟨seen, hg, -⟩ := hall i
      exact absurd ⟨seen, hg⟩ (hholds hi)
    · have hik : i = k := by_contra fun hne => hholds hi (hrest i hne)
      have hjk : j = k := by_contra fun hne => hholds hj (hrest j hne)
      rw [hik, hjk]
  · intro i e hi
    have hread : ∀ l, (i, l) ∈ c.log → l = .read := by
      intro l hl
      cases hg : g i with
      | reading seen => exact hexclusive.readers i l seen hl hg
      | holding s' =>
        have hend := hends hi
        rw [hg] at hend
        exact hend.elim
    refine ⟨hread, (store_eq_replay _ h).trans (replay_filter (fun j => j ≠ i) ?_).symm⟩
    intro j l hl hj s'
    obtain rfl : j = i := by simpa using hj
    rw [hread l hl]
    rfl

end Starts

section Evaluation

attribute [local instance] plainRuntime

/-- A ledger with one task. -/
def oneTask : Ledger := afterOps [.createTask { title := "A", description := "d" }]

/-- A start of the planning of its task, twice. -/
def planningRequest (_ : Bool) : StartRequest where
  env := plainEnv
  taskRef := "task-0001"
  start := .planning

def twoPlannings : System (Sharing Bool StorageStep Ledger Raised Dict) Bool :=
  starts oneTask planningRequest

/-- The two starts after some of their steps. -/
def started (schedule : List Bool) : Sharing Bool StorageStep Ledger Raised Dict :=
  twoPlannings.run twoPlannings.init schedule

/-- Whether a start has returned, once it is done. -/
def hasReturned (schedule : List Bool) (first : Bool) : Option Bool :=
  ((started schedule).result first).map Except.isOk

theorem returned_of_hasReturned {schedule : List Bool} {first : Bool}
    (h : hasReturned schedule first = some true) :
    ∃ d, (started schedule).result first = some (.ok d) := by
  obtain ⟨r, hr, hok⟩ := Option.map_eq_some_iff.1 h
  cases r with
  | error e => cases hok
  | ok d => exact ⟨d, hr⟩

theorem raised_of_hasReturned {schedule : List Bool} {first : Bool}
    (h : hasReturned schedule first = some false) :
    ∃ e, (started schedule).result first = some (.error e) := by
  obtain ⟨r, hr, hok⟩ := Option.map_eq_some_iff.1 h
  cases r with
  | error e => exact ⟨e, hr⟩
  | ok d => cases hok

/-- One start after the other. -/
def startsInTurn : List Bool := List.replicate 15 true ++ List.replicate 15 false

theorem one_start_returns_in_turn : ∃ d e,
    (started startsInTurn).result true = some (.ok d) ∧
      (started startsInTurn).result false = some (.error e) ∧
      ∀ l, (false, l) ∈ (started startsInTurn).log → l = .read := by
  have hloads : (rebuildV2Indexes oneTask).toOption.isSome = true := by decide
  have hfound : (resolveTask "task-0001" false oneTask).toOption.isSome = true := by
    decide
  obtain ⟨task, htask⟩ := isSome_toOption.1 hfound
  have hreachable : oneTask.Reachable := reachable_afterOps _
  have hrebuilds : oneTask.Rebuilds := rebuildV2Indexes_loads.1 (isSome_toOption.1 hloads)
  have hmeets : twoPlannings.Meets (Sharing.Meets StartsFree) twoPlannings.init startsInTurn := by
    decide
  have hstarted : twoPlannings.Reachable (Sharing.Meets StartsFree) (started startsInTurn) :=
    .run .init hmeets
  have hrefs : ∀ i, resolveTask (planningRequest i).taskRef false oneTask = .ok task :=
    fun _ => htask
  have hexclusive := one_start_returns hreachable hrebuilds hrefs hstarted
  have hfirst : hasReturned startsInTurn true = some true := by decide
  have hsecond : hasReturned startsInTurn false = some false := by decide
  obtain ⟨d, hd⟩ := returned_of_hasReturned hfirst
  obtain ⟨e, he⟩ := raised_of_hasReturned hsecond
  exact ⟨d, e, hd, he, (hexclusive.2 false e he).1⟩

/-- Both starts have listed the runs before one of them writes its own. -/
def startsAfterListing : List Bool :=
  List.replicate 4 true ++ List.replicate 4 false ++ List.replicate 11 true ++ List.replicate 7 false

/-- Then both return: the second takes the lock of the first for its own. -/
theorem two_starts_return :
    oneTask.Reachable ∧ hasReturned startsAfterListing true = some true ∧
      hasReturned startsAfterListing false = some true := by
  refine ⟨reachable_afterOps _, ?_, ?_⟩
  · decide
  · decide

end Evaluation

end Taskledger
