import Taskledger.Properties.ApprovedPlans
import Taskledger.Lifecycle.Steps

/-!
# Archived tasks are read-only

The guard of an archived task is a call that every operation has to make for itself.
An operation that makes it refuses every archived task. One that does not refuses
only what its own checks refuse.
-/

namespace Taskledger

open Library Action

-- the longest operations have some twenty steps
set_option synthInstance.maxSize 2000

-- ════════════════════════════════════════════════════════════════════════
-- The task of an operation
-- ════════════════════════════════════════════════════════════════════════

/-- How an operation names its task: by a reference, or by the id of a resolved task. -/
inductive TaskAddress where
  | ref (text : String)
  | id (taskId : String)

/-- The task that a recorder writes for. -/
def Recorder.address : Recorder → Option TaskAddress
  | activateTask ref .. | editTask ref .. | closeTask ref .. | repairTaskRecord ref ..
  | markPlanningGuidanceViewed ref | addQuestion ref .. | addQuestions ref ..
  | answerQuestion ref .. | answerQuestions ref .. | dismissQuestion ref ..
  | logImplementation ref .. | addImplementationDeviation ref ..
  | addImplementationArtifact ref .. | addValidationCheck ref .. | waiveCriterion ref ..
  | linkIntroduction ref .. | addRequirement ref .. | removeRequirement ref ..
  | waiveRequirement ref .. | addFileLink ref .. | removeFileLink ref ..
  | refreshFileBaseline ref .. | addTodo ref .. | setTodoDone ref .. | addChange ref ..
  | scanChanges ref .. | addCheck ref .. | runImplementationCommand ref ..
  | runPlanningCommand ref .. | recordCodeReview ref .. | tagRelease _ ref ..
  | createHandoff ref .. => some (.ref ref)
  | claimHandoff taskId .. | closeHandoff taskId .. | cancelHandoff taskId .. =>
    some (.id taskId)
  -- a dry run writes nothing
  | repairPlanningCommandChanges ref _ dryRun | materializePlanTodos ref _ dryRun =>
    if dryRun then none else some (.ref ref)
  | clearActiveTask .. | createIntroduction .. => none

/-- The task that an operation writes for; a new task has none, and unarchiving is the way
back. -/
def Op.address : Op → Option TaskAddress
  | createFollowUpTask ref .. | startPlanning ref .. | revisePlan ref | proposePlan ref ..
  | upsertPlan ref .. | regeneratePlan ref .. | amendPlan ref .. | approvePlan ref ..
  | rejectPlan ref .. | startImplementation ref .. | restartImplementation ref ..
  | resumeImplementation ref .. | finishImplementation ref .. | startValidation ref ..
  | finishValidation ref .. | cancelTask ref .. | uncancelTask ref .. | archiveTask ref ..
  | breakLock ref .. | repairOrphanedPlanningRun ref .. => some (.ref ref)
  | recorder r => r.address
  | createTask .. | recordCompletedTask .. | unarchiveTask .. => none

section ReadOnly

variable [Runtime] {s : Ledger} {env : Env} {task : TaskRecord} {ref : String}

/-- The address finds a task. -/
def TaskAddress.Finds (address : TaskAddress) (s : Ledger) (task : TaskRecord) : Prop :=
  match address with
  | .ref text => resolveTask text false s = .ok task
  | .id taskId => task.id = taskId

-- ════════════════════════════════════════════════════════════════════════
-- Operations without the guard
-- ════════════════════════════════════════════════════════════════════════

/-- A change that `repair_planning_command_changes` moves. -/
def movable (task : TaskRecord) (change : CodeChangeRecord) (s : Ledger) : Prop :=
  ∃ run, planningRunOfChange task change s = .ok (some run)

/-- The recorders that do not call the guard, when their own checks pass. -/
def Recorder.Admitted (env : Env) (s : Ledger) (task : TaskRecord) : Recorder → Prop
  | repairTaskRecord _ reason => Text.isBlank reason = false
  | repairPlanningCommandChanges _ reason _ => Text.isBlank reason = false ∧
    ∃ changes, listChanges task.id s = .ok changes ∧
      ((∃ change ∈ changes, movable task change s) ∨ s.Rebuilds)
  | materializePlanTodos _ version _ =>
    (∃ withSidecars, taskWithSidecars task s = .ok withSidecars) ∧
      ∃ plan, resolvePlan task.id (some version) s = .ok plan
  | createHandoff ref request => ∃ handoff, newHandoffOf env ref request s = .ok handoff
  | claimHandoff taskId handoffId actor harness _ => ∃ handoff,
    resolveHandoff taskId handoffId s = .ok handoff ∧ handoff.status = .open ∧
      checkIntent handoff (actor.getD env.resolvedActor)
        (harness.getD env.resolvedHarness).toHarnessRef = .ok () ∧
      ∃ lock, lockToHandOver taskId handoff s = .ok lock
  | closeHandoff taskId handoffId _ => ∃ handoff,
    resolveHandoff taskId handoffId s = .ok handoff ∧ handoff.status ∈ [.open, .claimed]
  | cancelHandoff taskId handoffId _ => ∃ handoff,
    resolveHandoff taskId handoffId s = .ok handoff ∧ handoff.status = .open
  | tagRelease version atTask note previousVersion actor => ∃ found,
    releaseOf env version atTask note previousVersion actor s = .ok found ∧
      s.releases.lookup found.2.version = none
  | _ => False

/-- The operations that do not call the guard, when their own checks pass. -/
def Op.Admitted (env : Env) (s : Ledger) (task : TaskRecord) : Op → Prop
  | regeneratePlan ref body criteria allowOpenQuestions => ∃ r,
    regenerationOf env ref body criteria allowOpenQuestions s = .ok r ∧
      s.plans.lookup (r.plan.taskId, r.plan.planVersion) = none
  | archiveTask _ reason _ => Text.isBlank reason = false
  | breakLock .. => s.locks.lookup task.id ≠ none
  | repairOrphanedPlanningRun ref runId reason => ∃ found,
    runRepairOf env ref runId reason s = .ok found
  | recorder r => r.Admitted env s task
  | _ => False

/-- An archived task, and an operation that calls the guard: it refuses. -/
def Op.guarded : Op → Bool
  | regeneratePlan .. | archiveTask .. | breakLock .. | repairOrphanedPlanningRun .. => false
  | recorder r => match r with
    | .repairTaskRecord .. | .repairPlanningCommandChanges .. | .materializePlanTodos ..
    | .createHandoff .. | .claimHandoff .. | .closeHandoff .. | .cancelHandoff ..
    | .tagRelease .. => false
    | _ => true
  | _ => true

omit [Runtime] in
theorem refuses_dropResult {α : Type} {m : LedgerAction α} :
    Refuses (dropResult m) s ↔ Refuses m s := by
  unfold Refuses
  have hsat : (dropResult m).Sat s fun r s' =>
      s' = (m.runOn s).2 ∧ ∀ e, r = .error e ↔ (m.runOn s).1 = .error e := by
    refine Sat.bind (P := fun r s' => m.runOn s = (r, s')) rfl (fun e s' h => ?_) fun a s' h => ?_
    · simp [h]
    · exact Sat.pure (by simp [h])
  obtain ⟨hs, hr⟩ := hsat
  constructor
  · rintro ⟨e, he⟩
    refine ⟨e, Prod.ext ((hr e).1 (congrArg Prod.fst he)) ?_⟩
    exact hs.symm.trans (congrArg Prod.snd he)
  · rintro ⟨e, he⟩
    refine ⟨e, Prod.ext ((hr e).2 (congrArg Prod.fst he)) ?_⟩
    exact hs.trans (congrArg Prod.snd he)

omit [Runtime] in
/-- The guard lets no archived task through. -/
theorem not_ensured {operation : String} {u : Unit} (harchived : isArchivedTask task = true) :
    ensureNotArchived task operation ≠ .ok u := by
  intro h
  rw [ensureNotArchived, raiseIf_eq_ok] at h
  exact h harchived

omit [Runtime] in
/-- Reads that do not return. -/
theorem refuses_reads {α β : Type} {q : LedgerQuery β} {k : β → LedgerAction α}
    (hq : ∀ b, q s ≠ .ok b) : Refuses ((liftM q : LedgerAction β) >>= k) s := by
  by_contra h
  obtain ⟨b, hb, -⟩ := not_refuses_query.1 h
  exact hq b hb

omit [Runtime] in
/-- A check that does not pass. -/
theorem refuses_check {α β : Type} {x : Except Raised β} {k : β → LedgerAction α}
    (h : ∀ b, x = .ok b → Refuses (k b) s) : Refuses ((liftM x : LedgerAction β) >>= k) s := by
  by_contra hnot
  obtain ⟨b, hb, hk⟩ := not_refuses_except.1 hnot
  exact hk (h b hb)

/-- The guard behind the lookup of the task. -/
theorem refuses_guard {α : Type} {operation : String} {k : TaskRecord → Unit → LedgerAction α}
    (hfound : resolveTask ref false s = .ok task) (harchived : isArchivedTask task = true) :
    Refuses ((liftM (resolveTask ref false) : LedgerAction TaskRecord) >>= fun t =>
      (liftM (ensureNotArchived t operation) : LedgerAction Unit) >>= k t) s := by
  by_contra h
  obtain ⟨t, ht, h⟩ := not_refuses_query.1 h
  cases hfound.symm.trans ht
  obtain ⟨_, hvisible, -⟩ := not_refuses_except.1 h
  exact not_ensured harchived hvisible

/-- The guard behind the lookup of the task and its sidecars. -/
theorem refuses_sidecars {α : Type} {operation : String} {k : TaskRecord → Unit → LedgerAction α}
    (hfound : resolveTask ref false s = .ok task) (harchived : isArchivedTask task = true) :
    Refuses ((liftM (resolveTask ref false) : LedgerAction TaskRecord) >>= fun t =>
      (liftM (taskWithSidecars t) : LedgerAction TaskRecord) >>= fun u =>
        (liftM (ensureNotArchived u operation) : LedgerAction Unit) >>= k u) s := by
  by_contra h
  obtain ⟨t, ht, h⟩ := not_refuses_query.1 h
  cases hfound.symm.trans ht
  obtain ⟨u, hu, h⟩ := not_refuses_query.1 h
  obtain ⟨_, hvisible, -⟩ := not_refuses_except.1 h
  refine not_ensured ?_ hvisible
  rw [isArchivedTask, (taskWithSidecars_eq_ok hu).archivedAt]
  exact harchived

/-- The guard in reads that look the task up first. -/
theorem not_read_guarded {β : Type} {operation : String} {k : TaskRecord → Unit → LedgerQuery β}
    (hfound : resolveTask ref false s = .ok task) (harchived : isArchivedTask task = true) (b : β) :
    (resolveTask ref false >>= fun t =>
      (liftM (ensureNotArchived t operation) : LedgerQuery Unit) >>= k t) s ≠ .ok b := by
  intro h
  obtain ⟨t, ht, h⟩ := Query.bind_eq_ok.1 h
  cases hfound.symm.trans ht
  obtain ⟨_, hvisible, -⟩ := Query.bind_eq_ok.1 h
  exact not_ensured harchived hvisible

/-- The guard behind the reads of the task's sidecars. -/
theorem not_read_sidecars {β : Type} {operation : String} {k : TaskRecord → Unit → LedgerQuery β}
    (hfound : resolveTask ref false s = .ok task) (harchived : isArchivedTask task = true) (b : β) :
    (resolveTask ref false >>= fun t => taskWithSidecars t >>= fun u =>
      (liftM (ensureNotArchived u operation) : LedgerQuery Unit) >>= k u) s ≠ .ok b := by
  intro h
  obtain ⟨t, ht, h⟩ := Query.bind_eq_ok.1 h
  cases hfound.symm.trans ht
  obtain ⟨u, hu, h⟩ := Query.bind_eq_ok.1 h
  obtain ⟨_, hvisible, -⟩ := Query.bind_eq_ok.1 h
  refine not_ensured ?_ hvisible
  rw [isArchivedTask, (taskWithSidecars_eq_ok hu).archivedAt]
  exact harchived

/-- An operation with the guard refuses an archived task. -/
theorem Recorder.refuses_guarded {r : Recorder} {text : String} (hg : (Op.recorder r).guarded = true)
    (haddr : r.address = some (.ref text)) (hfound : resolveTask text false s = .ok task)
    (harchived : isArchivedTask task = true) : Refuses (r.run env) s := by
  have hwork {operation action : String} (b : TaskRecord × TaskRunRecord) :
      requireImplementationWork env text operation action s ≠ .ok b :=
    not_read_guarded hfound harchived b
  have hvalidation (b : TaskRecord × TaskRunRecord) : requireValidationWork env text s ≠ .ok b :=
    not_read_guarded hfound harchived b
  have hrequirement {required operation : String} (b : TaskRecord × TaskRecord) :
      requirementTasks text required operation s ≠ .ok b :=
    not_read_sidecars hfound harchived b
  cases r with
  | repairTaskRecord | repairPlanningCommandChanges | materializePlanTodos | createHandoff
  | claimHandoff | closeHandoff | cancelHandoff | tagRelease => cases hg
  | clearActiveTask | createIntroduction => cases haddr
  | activateTask | editTask | closeTask | markPlanningGuidanceViewed | addQuestion | addQuestions
  | answerQuestion | answerQuestions | dismissQuestion | linkIntroduction =>
    cases haddr
    exact refuses_dropResult.2 (refuses_guard hfound harchived)
  | logImplementation | addImplementationDeviation | addImplementationArtifact | addChange | addCheck =>
    cases haddr
    exact refuses_dropResult.2 (refuses_reads hwork)
  | addValidationCheck | waiveCriterion =>
    cases haddr
    refine refuses_dropResult.2 (refuses_reads fun b h => ?_)
    obtain ⟨work, hread, -⟩ := Query.bind_eq_ok.1 h
    exact hvalidation work hread
  | addRequirement | removeRequirement =>
    cases haddr
    exact refuses_dropResult.2 (refuses_reads hrequirement)
  | waiveRequirement =>
    cases haddr
    exact refuses_dropResult.2 (refuses_check fun _ _ => refuses_check fun _ _ =>
      refuses_reads hrequirement)
  | addFileLink | removeFileLink =>
    cases haddr
    exact refuses_dropResult.2 (refuses_sidecars hfound harchived)
  | refreshFileBaseline =>
    cases haddr
    exact refuses_dropResult.2 (refuses_check fun _ _ => refuses_sidecars hfound harchived)
  | addTodo | setTodoDone =>
    cases haddr
    exact refuses_dropResult.2 (refuses_reads (not_read_sidecars hfound harchived))
  | scanChanges =>
    cases haddr
    exact refuses_dropResult.2 (refuses_check fun _ _ => refuses_check fun _ _ =>
      refuses_reads hwork)
  | runImplementationCommand =>
    cases haddr
    refine refuses_dropResult.2 (refuses_reads fun b h => ?_)
    obtain ⟨_, -, h⟩ := Query.bind_eq_ok.1 h
    exact hwork b h
  | runPlanningCommand =>
    cases haddr
    refine refuses_dropResult.2 (refuses_reads fun b h => ?_)
    obtain ⟨_, -, h⟩ := Query.bind_eq_ok.1 h
    exact not_read_guarded hfound harchived b h
  | recordCodeReview =>
    cases haddr
    exact refuses_dropResult.2 (refuses_reads (not_read_guarded hfound harchived))

/-- An operation with the guard refuses an archived task. -/
theorem Op.refuses_guarded {op : Op} {text : String} (hg : op.guarded = true)
    (haddr : op.address = some (.ref text)) (hfound : resolveTask text false s = .ok task)
    (harchived : isArchivedTask task = true) : Refuses (op.run env) s := by
  cases op with
  | regeneratePlan | archiveTask | breakLock | repairOrphanedPlanningRun => cases hg
  | createTask | recordCompletedTask | unarchiveTask => cases haddr
  | recorder r => exact r.refuses_guarded hg haddr hfound harchived
  | createFollowUpTask =>
    cases haddr
    exact refuses_dropResult.2 (refuses_sidecars hfound harchived)
  | startPlanning | revisePlan | rejectPlan | cancelTask =>
    cases haddr
    exact refuses_dropResult.2 (refuses_guard hfound harchived)
  | proposePlan | upsertPlan | approvePlan | startImplementation | restartImplementation
  | resumeImplementation | finishImplementation | startValidation | finishValidation
  | uncancelTask =>
    cases haddr
    exact refuses_dropResult.2 (refuses_reads (not_read_guarded hfound harchived))
  | amendPlan =>
    cases haddr
    refine refuses_dropResult.2 (refuses_reads fun b h => ?_)
    obtain ⟨_, -, h⟩ := Query.bind_eq_ok.1 h
    exact not_read_guarded hfound harchived b h

-- ════════════════════════════════════════════════════════════════════════
-- Operations without the guard
-- ════════════════════════════════════════════════════════════════════════

/-- Only launch errors are raised. -/
def Launches {α : Type} (x : Except Raised α) : Prop := ∀ e, x = .error e → ∃ l, e = .launch l

namespace Launches

variable {α β : Type}

omit [Runtime] in
theorem ok {a : α} : Launches (.ok a) := by
  intro e h
  cases h

omit [Runtime] in
theorem bind {x : Except Raised α} {k : α → Except Raised β} (hx : Launches x)
    (hk : ∀ a, Launches (k a)) : Launches (x >>= k) := by
  cases x with
  | error e =>
    intro e' h
    cases h
    exact hx e rfl
  | ok a => exact hk a

omit [Runtime] in
theorem guard {c : Prop} [Decidable c] {message : String} :
    Launches (raiseIf c (launchError message)) := by
  intro e h
  unfold raiseIf at h
  split at h
  · cases h
    exact ⟨_, rfl⟩
  · cases h

omit [Runtime] in
theorem required {key text : String} : Launches (requireString key text) := guard

omit [Runtime] in
theorem harness? {h : Option HarnessRef} : Launches (HarnessRef.reload? h) := by
  cases h with
  | none => exact ok
  | some h => exact bind (bind required fun _ => bind required fun _ => ok) fun _ => ok

omit [Runtime] in
theorem reloadAll {reload : α → Except Raised α} (h : ∀ a, Launches (reload a)) (l : List α) :
    Launches (reloadAll reload l) := by
  induction l with
  | nil => exact ok
  | cons a rest ih => exact bind (h a) fun _ => bind ih fun _ => ok

omit [Runtime] in
theorem waiver? {w : Option Waiver} : Launches (Waiver.reload? w) := by
  cases w with
  | none => exact ok
  | some w => exact bind (bind required fun _ => ok) fun _ => ok

omit [Runtime] in
theorem run (r : TaskRunRecord) : Launches r.reload :=
  bind required fun _ => bind required fun _ => bind harness? fun _ =>
    bind (reloadAll (fun _ => bind guard fun _ => bind required fun _ => bind waiver? fun _ => ok) _)
      fun _ => ok

theorem localIdFromRef {text kind : String} : Launches (localIdFromRef text kind) := by
  intro e h
  unfold Taskledger.localIdFromRef at h
  split at h
  · cases h
  · cases h
    exact ⟨_, rfl⟩

theorem normalizeResourceRef {text kind : String} :
    Launches (normalizeResourceRef text kind) := by
  intro e h
  simp only [Taskledger.normalizeResourceRef] at h
  split at h
  · cases h
  · rename_i e' hlocal
    split at h
    · cases h
      exact localIdFromRef _ hlocal
    · cases h

end Launches

/-- The reading of an optional run raises nothing. -/
theorem optionalRun_loads (task : TaskRecord) (runId : Option String) :
    ∃ run, optionalRun task runId s = .ok run := by
  cases runId with
  | none => exact ⟨none, rfl⟩
  | some id =>
    have hlaunches : Launches (resolveRun task.id id s) := by
      refine Launches.bind Launches.normalizeResourceRef fun normalized => ?_
      refine Launches.bind ?_ fun runs => ?_
      · exact Launches.bind (Launches.reloadAll Launches.run _) fun _ => Launches.ok
      · intro e h
        beta_reduce at h
        cases hfind : runs.find? fun r => refersTo id normalized r.runId with
        | some run =>
          rw [hfind] at h
          cases h
        | none =>
          rw [hfind] at h
          cases h
          exact ⟨_, rfl⟩
    show ∃ run, orNone (resolveRun task.id id) s = .ok run
    unfold orNone
    cases hrun : resolveRun task.id id s with
    | ok run => exact ⟨some run, rfl⟩
    | error e =>
      obtain ⟨l, rfl⟩ := hlaunches e hrun
      exact ⟨none, rfl⟩

omit [Runtime] in
/-- A part that was written differs in the end, when what follows leaves it alone. -/
theorem sat_changed {α : Type} {m : LedgerAction α} {s₁ : Ledger} (p : Part) (parts : List Part)
    (hm : Within (SameBut parts) m) (hp : p ∉ parts) (hdiff : ¬ s₁.Same s p) :
    m.Sat s₁ fun _ s' => s' ≠ s := by
  refine (hm.sat s₁).mono fun _ s' h heq => hdiff ?_
  rw [← heq]
  exact h p hp

section Unguarded

variable {reason : String}

theorem archiveTask_admitted {force : Bool} (hfound : resolveTask ref false s = .ok task)
    (harchived : isArchivedTask task = true) :
    ¬ Refuses (archiveTask env ref reason force) s ↔ Text.isBlank reason = false := by
  unfold archiveTask
  rw [not_refuses_guard, not_refuses_query]
  constructor
  · rintro ⟨hreason, -⟩
    simpa using hreason
  · intro hreason
    refine ⟨by simp [hreason], task, hfound, ?_⟩
    rw [if_pos harchived]
    exact not_refuses_ok (Sat.pure ⟨_, rfl⟩)

theorem breakLock_admitted (hs : s.Sound) (hfound : resolveTask ref false s = .ok task) :
    ¬ Refuses (breakLock env ref reason) s ↔ s.locks.lookup task.id ≠ none := by
  unfold breakLock
  simp only [not_refuses_query, hfound, Except.ok.injEq, exists_eq_left']
  obtain ⟨lock, hlock⟩ := readLock_loads hs task.id
  constructor
  · rintro ⟨found, hfoundLock, h⟩ hnone
    have hread : readLock task.id s = .ok none := by simp [readLock, hnone]
    cases hread.symm.trans hfoundLock
    exact h ⟨_, rfl⟩
  · intro hsome
    refine ⟨lock, hlock, ?_⟩
    cases lock with
    | none => exact absurd (readLock_none hlock) hsome
    | some l =>
      refine not_refuses (Sat.write (sat_eventList fun _ => sat_eventList fun _ => Sat.write ?_))
      refine sat_changed .locks [] inferInstance (by decide) fun hsame => hsome ?_
      have hlocks : s.locks = s.locks.remove task.id := hsame
      rw [hlocks, Directory.lookup_remove, if_pos rfl]

theorem repairTaskRecord_admitted (hs : s.Sound) (hfound : resolveTask ref false s = .ok task) :
    ¬ Refuses (repairTaskRecord env ref reason) s ↔ Text.isBlank reason = false := by
  unfold repairTaskRecord
  rw [not_refuses_guard]
  simp only [not_refuses_query, hfound, Except.ok.injEq, exists_eq_left']
  constructor
  · rintro ⟨hreason, -⟩
    simpa using hreason
  · intro hreason
    obtain ⟨run, hrun⟩ := optionalRun_loads (s := s) task task.latestImplementationRun
    have hlock : ∃ lock, repairLock task run s = .ok lock := by
      unfold repairLock
      split
      · exact readLock_loads hs task.id
      · exact ⟨none, rfl⟩
    obtain ⟨lock, hlock⟩ := hlock
    refine ⟨by simp [hreason], run, hrun, lock, hlock, not_refuses_ok ?_⟩
    exact sat_eventList fun _ => Sat.pure ⟨_, rfl⟩

theorem repairOrphanedPlanningRun_admitted {runId : Option String} :
    ¬ Refuses (repairOrphanedPlanningRun env ref runId reason) s ↔
      ∃ found, runRepairOf env ref runId reason s = .ok found := by
  unfold repairOrphanedPlanningRun
  rw [not_refuses_query]
  refine exists_congr fun found => and_iff_left_of_imp fun hfound => ?_
  obtain ⟨task, run⟩ := found
  obtain ⟨hresolved, hlock, hrunning, hfiled⟩ := runRepairOf_eq_ok hfound
  refine not_refuses (Sat.write ?_)
  refine sat_changed .runs [.events] inferInstance (by decide) fun hsame => ?_
  let repaired : TaskRunRecord := { run with
    status := .finished
    finishedAt := some (utcNow env)
    summary := some ("Repaired orphaned planning run: " ++ Text.strip reason) }
  have hruns : s.runs = s.runs.save repaired := hsame
  have hself : s.runs.lookup (task.id, run.runId) = some repaired := by
    rw [hruns, ← hfiled]
    exact Directory.lookup_save_self s.runs repaired
  have hcore : (s.view task.id).runs run.runId = some repaired.core := by
    simp [Ledger.view, hself]
  have hstatus := congrArg RunCore.status (Option.some.inj (hcore.symm.trans hrunning.stored))
  rw [hrunning.running] at hstatus
  cases hstatus

theorem materializePlanTodos_admitted {version : Nat}
    (hfound : resolveTask ref false s = .ok task) :
    ¬ Refuses (materializePlanTodos env ref version) s ↔
      (∃ withSidecars, taskWithSidecars task s = .ok withSidecars) ∧
        ∃ plan, resolvePlan task.id (some version) s = .ok plan := by
  unfold materializePlanTodos
  simp only [not_refuses_query, hfound, Except.ok.injEq, exists_eq_left']
  constructor
  · rintro ⟨u, hu, plan, hplan, -⟩
    rw [(taskWithSidecars_eq_ok hu).id] at hplan
    exact ⟨⟨u, hu⟩, plan, hplan⟩
  · rintro ⟨⟨u, hu⟩, plan, hplan⟩
    refine ⟨u, hu, plan, by rw [(taskWithSidecars_eq_ok hu).id]; exact hplan, not_refuses_ok ?_⟩
    refine Sat.bind (P := fun r _ => r = .ok ()) ?_ (fun e _ h => by cases h) fun _ _ _ =>
      Sat.pure ⟨_, rfl⟩
    unfold onlyIf
    split
    · exact Sat.write (Sat.write (sat_lastEventList fun _ => rfl))
    · exact Sat.pure rfl

theorem createHandoff_admitted {request : HandoffRequest} :
    ¬ Refuses (createHandoff env ref request) s ↔
      ∃ handoff, newHandoffOf env ref request s = .ok handoff := by
  unfold createHandoff
  rw [not_refuses_query]
  refine exists_congr fun handoff => and_iff_left (not_refuses_ok ?_)
  exact Sat.write (Sat.pure ⟨handoff, rfl⟩)

theorem claimHandoff_admitted {taskId handoffId : String} {actor : Option ActorRef}
    {harness : Option NamedHarness} {runId : Option String} :
    ¬ Refuses (claimHandoff env taskId handoffId actor harness runId) s ↔
      ∃ handoff, resolveHandoff taskId handoffId s = .ok handoff ∧ handoff.status = .open ∧
        checkIntent handoff (actor.getD env.resolvedActor)
          (harness.getD env.resolvedHarness).toHarnessRef = .ok () ∧
        ∃ lock, lockToHandOver taskId handoff s = .ok lock := by
  unfold claimHandoff
  simp only [not_refuses_query, not_refuses_except, raiseIf_eq_ok, exists_and_left, exists_const,
    not_not]
  refine exists_congr fun handoff => and_congr_right fun _ => and_congr_right fun _ => ?_
  constructor
  · rintro ⟨_, hintent, lock, hlock, -⟩
    exact ⟨hintent, lock, hlock⟩
  · rintro ⟨hintent, lock, hlock⟩
    refine ⟨(), hintent, lock, hlock, not_refuses_ok ?_⟩
    cases lock with
    | none =>
      refine Sat.bind (P := fun r _ => r = .ok ()) (Sat.pure rfl) (fun _ _ h => by cases h)
        fun _ _ _ => ?_
      exact Sat.write (Sat.pure ⟨_, rfl⟩)
    | some l => exact Sat.write (Sat.write (Sat.pure ⟨_, rfl⟩))

theorem endHandoff_admitted {taskId handoffId verb : String} {from_ : List HandoffStatus}
    {status : HandoffStatus} {summary : Option String} :
    ¬ Refuses (endHandoff taskId handoffId verb from_ status summary) s ↔
      ∃ handoff, resolveHandoff taskId handoffId s = .ok handoff ∧ handoff.status ∈ from_ := by
  unfold endHandoff
  simp only [not_refuses_query, not_refuses_guard, not_not]
  refine exists_congr fun handoff => and_congr_right fun _ => and_iff_left (not_refuses_ok ?_)
  exact Sat.write (Sat.pure ⟨{ handoff with status := status, summary := _ }, rfl⟩)

section Exclusive

variable {p : PlanRecord} {release : ReleaseRecord}

omit [Runtime] in
/-- A plan file that exists is not written again. -/
theorem refuses_savePlan (h : s.plans.lookup (p.taskId, p.planVersion) ≠ none) :
    Refuses (savePlan p) s := by
  obtain ⟨stored, hstored⟩ := Option.ne_none_iff_exists'.1 h
  unfold Refuses savePlan runOn
  beta_reduce
  rw [hstored]
  exact ⟨_, rfl⟩

omit [Runtime] in
theorem sat_savePlan_free (h : s.plans.lookup (p.taskId, p.planVersion) = none) :
    (savePlan p).Sat s fun r s' => r = .ok () ∧ s' = s.putPlan p := by
  have hrun : (savePlan p).runOn s = (.ok (), s.putPlan p) := by
    unfold savePlan runOn
    beta_reduce
    rw [h]
  unfold Sat
  rw [hrun]
  exact ⟨rfl, rfl⟩

omit [Runtime] in
/-- A release file that exists is not written again. -/
theorem refuses_saveRelease (h : s.releases.lookup release.version ≠ none) :
    Refuses (saveRelease release) s := by
  obtain ⟨stored, hstored⟩ := Option.ne_none_iff_exists'.1 h
  unfold Refuses saveRelease runOn
  beta_reduce
  rw [hstored]
  exact ⟨_, rfl⟩

omit [Runtime] in
theorem sat_saveRelease_free (h : s.releases.lookup release.version = none) :
    (saveRelease release).Sat s fun r s' => r = .ok () ∧ s' = s.putRelease release := by
  have hrun : (saveRelease release).runOn s = (.ok (), s.putRelease release) := by
    unfold saveRelease runOn
    beta_reduce
    rw [h]
  unfold Sat
  rw [hrun]
  exact ⟨rfl, rfl⟩

end Exclusive

theorem tagRelease_admitted {version : String} {note previousVersion : Option String}
    {actor : Option ActorRef} :
    ¬ Refuses (tagRelease env version ref note previousVersion actor) s ↔ ∃ found,
      releaseOf env version ref note previousVersion actor s = .ok found ∧
        s.releases.lookup found.2.version = none := by
  unfold tagRelease
  rw [not_refuses_query]
  refine exists_congr fun found => and_congr_right fun _ => ?_
  obtain ⟨boundary, release⟩ := found
  constructor
  · intro h
    by_contra htaken
    exact h (refuses_bind (refuses_saveRelease htaken))
  · intro hfree
    refine not_refuses (Sat.bind (sat_saveRelease_free hfree) ?_ ?_)
    · rintro e s₁ ⟨h, -⟩
      cases h
    rintro _ s₁ ⟨-, rfl⟩
    refine sat_changed .releases [.events] inferInstance (by decide) fun hsame => ?_
    have hreleases : s.releases = s.releases.save release := hsame
    have htaken : s.releases.lookup release.version = some release := by
      rw [hreleases]
      exact Directory.lookup_save_self s.releases release
    cases htaken.symm.trans hfree

omit [Runtime] in
/-- A plan file is never removed. -/
theorem keeps_planFile {α : Type} {m : LedgerAction α} {key : String × Nat}
    (hm : Within (SameBut partsWithoutPlans) m) :
    Keeps (fun s => s.plans.lookup key ≠ none) m := by
  intro s h
  refine (hm.sat s).mono fun _ s' hsame => ?_
  have hplans : s'.plans = s.plans := hsame .plans (by decide)
  beta_reduce
  rw [hplans]
  exact h

omit [Runtime] in
theorem keeps_supersedePrevious {key : String × Nat} (previous : Option PlanRecord) :
    Keeps (fun s => s.plans.lookup key ≠ none) (supersedePrevious previous) := by
  cases previous with
  | none => exact Keeps.pure
  | some p =>
    refine Keeps.onlyIf fun _ => Keeps.write fun s h => ?_
    show (s.plans.save { p with status := .superseded }).lookup key ≠ none
    rw [Directory.lookup_save]
    split
    · exact Option.some_ne_none _
    · exact h

/-- Without a free version the plan is not written. -/
theorem regeneratePlan_admitted {body : String} {criteria : List String} {allowOpen : Bool} :
    ¬ Refuses (regeneratePlanFromAnswers env ref body criteria allowOpen) s ↔ ∃ r,
      regenerationOf env ref body criteria allowOpen s = .ok r ∧
        s.plans.lookup (r.plan.taskId, r.plan.planVersion) = none := by
  unfold regeneratePlanFromAnswers
  rw [not_refuses_query]
  refine exists_congr fun r => and_congr_right fun _ => ?_
  constructor
  · intro h
    by_contra htaken
    exact h (refuses_bind (refuses_savePlan htaken))
  · intro hfree
    have hwritten : (s.putPlan r.plan).plans.lookup (r.plan.taskId, r.plan.planVersion) ≠ none := by
      have hself : (s.putPlan r.plan).plans.lookup (r.plan.taskId, r.plan.planVersion) =
          some r.plan := Directory.lookup_save_self _ _
      rw [hself]
      exact Option.some_ne_none _
    refine not_refuses (Sat.bind (sat_savePlan_free hfree) ?_ ?_)
    · rintro e s₁ ⟨h, -⟩
      cases h
    rintro _ s₁ ⟨-, rfl⟩
    refine Sat.mono (Keeps.bind (keeps_supersedePrevious r.previous) (fun _ => keeps_planFile ?_) _
      hwritten) fun _ s' h heq => h (heq ▸ hfree)
    infer_instance

omit [Runtime] in
/-- The file that a moved change is looked for under is never there. -/
theorem Ledger.dropChangeFile_yaml (s : Ledger) (taskId changeId : String) :
    s.dropChangeFile taskId (changeId ++ ".yaml") = s := by
  have hname (other : String) : changeFileName other ≠ changeId ++ ".yaml" := by
    intro h
    have hlast := congrArg (fun name => name.toList.getLast?) h
    simp [changeFileName, String.toList_append] at hlast
  have hfiles : s.changes.removeWhere (fun c => c.taskId = taskId &&
      changeFileName c.changeId = changeId ++ ".yaml") = s.changes :=
    Directory.removeWhere_none fun c _ => by simp [hname]
  exact congrArg (fun changes => { s with changes }) hfiles

/-- The task that is written when a change is moved. -/
def taskWithoutChange (env : Env) (task : TaskRecord) (change : CodeChangeRecord) : TaskRecord :=
  { task with
    codeChangeLogRefs := task.codeChangeLogRefs.filter (· ≠ change.changeId)
    updatedAt := utcNow env }

/-- What moving command changes leaves: the change files, the other tasks, and worklogs that grew.
The task is the one written for the last of the changes. -/
structure CommandsMoved (env : Env) (task : TaskRecord)
    (moved : List (CodeChangeRecord × TaskRunRecord)) (s s' : Ledger) : Prop where
  changes : s'.changes = s.changes
  others : ∀ id, id ≠ task.id → s'.tasks.lookup id = s.tasks.lookup id
  task : ∀ last ∈ moved.getLast?,
    s'.tasks.lookup task.id = some (taskWithoutChange env task last.1)
  rebuilds : s'.Rebuilds ↔ s.Rebuilds
  worklogs : ∀ key run, s.runs.lookup key = some run →
    ∃ run', s'.runs.lookup key = some run' ∧ run.worklog.length ≤ run'.worklog.length
  nothing : moved = [] → s' = s
  grown : moved ≠ [] → ∃ key run run', s.runs.lookup key = some run ∧
    s'.runs.lookup key = some run' ∧ run.worklog.length < run'.worklog.length

theorem CommandsMoved.ne {moved : List (CodeChangeRecord × TaskRunRecord)}
    (h : CommandsMoved env task moved s s') (hmoved : moved ≠ []) : s' ≠ s := by
  rintro rfl
  obtain ⟨key, run, run', hrun, hrun', hlt⟩ := h.grown hmoved
  rw [hrun] at hrun'
  cases hrun'
  omega

theorem CommandsMoved.nil : CommandsMoved env task [] s s where
  changes := rfl
  others _ _ := rfl
  task _ h := by cases h
  rebuilds := Iff.rfl
  worklogs _ run h := ⟨run, h, le_rfl⟩
  nothing _ := rfl
  grown h := absurd rfl h

/-- One change is moved. -/
theorem sat_moveCommandChange (reason : String) {change : CodeChangeRecord} {run : TaskRunRecord}
    {stored : TaskRecord} (hstored : s.tasks.lookup task.id = some stored)
    (hold : ∃ t, stored.reload = .ok t) (hload : ∃ t, task.reload = .ok t)
    (hrun : planningRunOfChange task change s = .ok (some run)) :
    (moveCommandChange env task reason change run).Sat s fun r s' =>
      r = .ok () ∧ CommandsMoved env task [(change, run)] s s' := by
  obtain ⟨file, hfile, hreload⟩ : ∃ file,
      s.runs.lookup (run.taskId, run.runId) = some file ∧ file.reload = .ok run := by
    unfold planningRunOfChange at hrun
    split at hrun
    · cases Query.pure_eq_ok.1 hrun
    obtain ⟨found, hfound, hrun⟩ := Query.bind_eq_ok.1 hrun
    obtain ⟨rfl, -⟩ := Option.filter_eq_some_iff.1 (Query.pure_eq_ok.1 hrun)
    obtain ⟨i, -, hfound⟩ := optionalRun_eq_ok hfound
    obtain ⟨file, hfile, hreload⟩ := resolveRun_stored hfound
    refine ⟨file, ?_, hreload⟩
    rw [(TaskRunRecord.of_reload hreload).2.1, (key_of_run hfile).1]
    exact hfile
  have hworklog : run.worklog = file.worklog := by
    simp only [TaskRunRecord.reload, bind_eq_ok, pure_eq_ok] at hreload
    obtain ⟨-, -, -, -, -, -, -, -, rfl⟩ := hreload
    rfl
  refine Sat.write (Sat.write (Sat.write (sat_lastEventList fun events => ⟨rfl, ?_⟩)))
  rw [Ledger.dropChangeFile_yaml]
  have hgrown : (s.runs.save (runWithCommand run change)).lookup (run.taskId, run.runId) =
      some (runWithCommand run change) := Directory.lookup_save_self _ _
  have hlonger : file.worklog.length < (runWithCommand run change).worklog.length := by
    simp [runWithCommand, hworklog]
  refine ⟨rfl, fun id hid => Directory.lookup_save_of_ne _ (Ne.symm hid), fun last hlast => ?_, ?_,
    fun key old hkey => ?_, (fun h => by cases h), fun _ => ?_⟩
  · cases hlast
    exact Directory.lookup_save_self _ _
  · rw [Ledger.rebuilds_withEvents]
    refine (Ledger.rebuilds_putTask (s := s.putRun (runWithCommand run change))
      (u := taskWithoutChange env task change) hstored hold
      (TaskRecord.loads_congr hload rfl rfl rfl)).trans ?_
    exact Ledger.Rebuilds.congr rfl rfl rfl rfl
  · by_cases hsame : key = (run.taskId, run.runId)
    · subst hsame
      cases hfile.symm.trans hkey
      exact ⟨_, hgrown, hlonger.le⟩
    · have hother : (s.runs.save (runWithCommand run change)).lookup key = s.runs.lookup key :=
        Directory.lookup_save_of_ne _ (Ne.symm hsame)
      exact ⟨old, hother.trans hkey, le_rfl⟩
  · exact ⟨_, _, _, hfile, hgrown, hlonger⟩

/-- The moves of a list of changes, one after the other. -/
theorem CommandsMoved.cons {s₁ s₂ : Ledger} {first : CodeChangeRecord × TaskRunRecord}
    {rest : List (CodeChangeRecord × TaskRunRecord)} (hfirst : CommandsMoved env task [first] s s₁)
    (hrest : CommandsMoved env task rest s₁ s₂) : CommandsMoved env task (first :: rest) s s₂ where
  changes := hrest.changes.trans hfirst.changes
  others id hid := (hrest.others id hid).trans (hfirst.others id hid)
  task last hlast := by
    cases rest with
    | nil =>
      rw [hrest.nothing rfl]
      exact hfirst.task last hlast
    | cons second others =>
      rw [List.getLast?_cons_cons] at hlast
      exact hrest.task last hlast
  rebuilds := hrest.rebuilds.trans hfirst.rebuilds
  worklogs key run hrun := by
    obtain ⟨run₁, hrun₁, hle⟩ := hfirst.worklogs key run hrun
    obtain ⟨run₂, hrun₂, hle₂⟩ := hrest.worklogs key run₁ hrun₁
    exact ⟨run₂, hrun₂, hle.trans hle₂⟩
  nothing h := by cases h
  grown _ := by
    obtain ⟨key, run, run₁, hrun, hrun₁, hlt⟩ := hfirst.grown (List.cons_ne_nil _ _)
    obtain ⟨run₂, hrun₂, hle⟩ := hrest.worklogs key run₁ hrun₁
    exact ⟨key, run, run₂, hrun, hrun₂, hlt.trans_le hle⟩

/-- The loop over the changes moves some of them when one is movable, and none else. -/
theorem sat_repairCommandChanges (env : Env) (reason : String) (changes : List CodeChangeRecord)
    {stored : TaskRecord} (hstored : s.tasks.lookup task.id = some stored)
    (hold : ∃ t, stored.reload = .ok t) (hload : ∃ t, task.reload = .ok t) :
    (repairCommandChanges env task reason false changes).Sat s fun r s' => ∃ moved,
      r = .ok moved ∧ (∀ m ∈ moved, m.1 ∈ changes) ∧ CommandsMoved env task moved s s' ∧
        (moved = [] ↔ ∀ change ∈ changes, ¬ movable task change s) := by
  induction changes generalizing s stored with
  | nil => exact Sat.pure ⟨[], rfl, by simp, .nil, by simp⟩
  | cons change rest ih =>
    obtain ⟨planning, hplanning⟩ : ∃ planning, planningRunOfChange task change s = .ok planning := by
      unfold planningRunOfChange
      split
      · exact ⟨none, rfl⟩
      · obtain ⟨run, hrun⟩ := optionalRun_loads (s := s) task (some change.implementationRun)
        exact ⟨_, Query.bind_eq_ok.2 ⟨run, hrun, rfl⟩⟩
    refine sat_known hplanning ?_
    cases planning with
    | none =>
      have hnot : ¬ movable task change s := by
        rintro ⟨run, hrun⟩
        cases hplanning.symm.trans hrun
      refine (ih hstored hold).mono ?_
      rintro r s' ⟨moved, rfl, hmem, hmoved, hnone⟩
      refine ⟨moved, rfl, fun m hm => List.mem_cons_of_mem _ (hmem m hm), hmoved, ?_⟩
      rw [hnone, List.forall_mem_cons]
      exact (and_iff_right hnot).symm
    | some run =>
      refine Sat.bind (sat_moveCommandChange reason hstored hold hload hplanning) ?_ ?_
      · rintro e s₁ ⟨h, -⟩
        cases h
      rintro _ s₁ ⟨-, hfirst⟩
      have hstored₁ := hfirst.task (change, run) rfl
      refine Sat.bind (ih hstored₁ (TaskRecord.loads_congr hload rfl rfl rfl)) ?_ ?_
      · rintro e s₂ ⟨moved, h, -⟩
        cases h
      rintro others s₂ ⟨moved, hothers, hmem, hrest, -⟩
      cases hothers
      refine Sat.pure ⟨_, rfl, fun m hm => ?_, hfirst.cons hrest, ?_⟩
      · rcases List.mem_cons.1 hm with rfl | hm
        · exact List.mem_cons_self
        · exact List.mem_cons_of_mem _ (hmem m hm)
      · refine iff_of_false (List.cons_ne_nil _ _) fun hnone => ?_
        exact hnone change List.mem_cons_self ⟨run, hplanning⟩

theorem repairPlanningCommandChanges_admitted (hfound : resolveTask ref false s = .ok task) :
    ¬ Refuses (repairPlanningCommandChanges env ref reason false) s ↔
      Text.isBlank reason = false ∧ ∃ changes, listChanges task.id s = .ok changes ∧
        ((∃ change ∈ changes, movable task change s) ∨ s.Rebuilds) := by
  unfold repairPlanningCommandChanges
  rw [not_refuses_guard]
  simp only [not_refuses_query, hfound, Except.ok.injEq, exists_eq_left', Bool.not_eq_true]
  refine and_congr_right fun _ => exists_congr fun changes => and_congr_right fun hlist => ?_
  obtain ⟨stored, hstored, hreload⟩ := resolveTask_stored hfound
  have hrepair := sat_repairCommandChanges env (Text.strip reason) changes hstored ⟨task, hreload⟩
    (TaskRecord.reload_again hreload)
  by_cases hmoves : ∃ change ∈ changes, movable task change s
  · refine iff_of_true (not_refuses (Sat.bind hrepair ?_ ?_)) (.inl hmoves)
    · rintro e s' ⟨_, h, -⟩
      cases h
    rintro _ s' ⟨moved, -, -, hmoved, hnone⟩
    have hdiff : s' ≠ s := hmoved.ne fun h => by
      obtain ⟨change, hchange, hmovable⟩ := hmoves
      exact hnone.1 h change hchange hmovable
    exact Sat.query (fun _ _ => hdiff) fun _ _ => Sat.pure hdiff
  · have hstays : ∀ change ∈ changes, ¬ movable task change s := fun change hchange h =>
      hmoves ⟨change, hchange, h⟩
    rw [or_iff_right hmoves, ← rebuildV2Indexes_loads]
    constructor
    · intro h
      by_contra hfails
      refine h (refuses_of_sat (Sat.bind hrepair ?_ ?_))
      · rintro e s' ⟨_, h, -⟩
        cases h
      rintro _ s' ⟨moved, -, -, hmoved, hnone⟩
      cases hmoved.nothing (hnone.2 hstays)
      refine Sat.query (fun e _ => ⟨⟨e, rfl⟩, rfl⟩) fun u hu => absurd ⟨u, hu⟩ hfails
    · rintro ⟨u, hu⟩
      refine not_refuses_ok (Sat.bind hrepair ?_ ?_)
      · rintro e s' ⟨_, h, -⟩
        cases h
      rintro _ s' ⟨moved, -, -, hmoved, hnone⟩
      cases hmoved.nothing (hnone.2 hstays)
      exact sat_known (q := rebuildUnlessDry false) hu (Sat.pure ⟨_, rfl⟩)

end Unguarded

-- ════════════════════════════════════════════════════════════════════════
-- Every operation
-- ════════════════════════════════════════════════════════════════════════

omit [Runtime] in
/-- Only operations on handoffs take the id of a resolved task. -/
theorem unguarded_of_id {op : Op} {taskId : String} (h : op.address = some (.id taskId)) :
    op.guarded = false := by
  cases op with
  | recorder r =>
    cases r with
    | claimHandoff | closeHandoff | cancelHandoff | repairPlanningCommandChanges
    | materializePlanTodos => rfl
    | _ => cases h
  | _ => cases h

/-- An operation with the guard is not admitted. -/
theorem not_admitted_of_guarded {op : Op} (hg : op.guarded = true) : ¬ op.Admitted env s task := by
  cases op with
  | recorder r => cases r <;> first | exact id | cases hg
  | _ => first | exact id | cases hg

theorem Recorder.admitted_iff (hs : s.Sound) {r : Recorder} {address : TaskAddress}
    (haddr : r.address = some address) (hfound : address.Finds s task)
    (hg : (Op.recorder r).guarded = false) :
    ¬ Refuses (r.run env) s ↔ r.Admitted env s task := by
  cases r with
  | repairTaskRecord ref reason =>
    cases haddr
    exact (not_congr refuses_dropResult).trans (repairTaskRecord_admitted hs hfound)
  | repairPlanningCommandChanges ref reason dryRun =>
    cases dryRun with
    | true => cases haddr
    | false =>
      cases haddr
      exact (not_congr refuses_dropResult).trans (repairPlanningCommandChanges_admitted hfound)
  | materializePlanTodos ref version dryRun =>
    cases dryRun with
    | true => cases haddr
    | false =>
      cases haddr
      exact (not_congr refuses_dropResult).trans (materializePlanTodos_admitted hfound)
  | createHandoff => exact (not_congr refuses_dropResult).trans createHandoff_admitted
  | claimHandoff => exact (not_congr refuses_dropResult).trans claimHandoff_admitted
  | closeHandoff => exact (not_congr refuses_dropResult).trans endHandoff_admitted
  | cancelHandoff =>
    refine (not_congr refuses_dropResult).trans (endHandoff_admitted.trans ?_)
    simp [Recorder.Admitted]
  | tagRelease => exact (not_congr refuses_dropResult).trans tagRelease_admitted
  | _ => cases hg

/-- An operation on an archived task raises and writes nothing, exactly when it calls the guard
or its own checks do not pass. -/
theorem archived_task_read_only_iff (hs : s.Reachable) {step : Step} {address : TaskAddress}
    (haddr : step.op.address = some address) (hfound : address.Finds s task)
    (harchived : isArchivedTask task = true) :
    Refuses (step.op.run step.env) s ↔ ¬ step.op.Admitted step.env s task := by
  obtain ⟨env, op⟩ := step
  rw [← not_iff_not, not_not]
  cases hg : op.guarded with
  | true =>
    refine iff_of_false (not_not_intro ?_) (not_admitted_of_guarded hg)
    cases address with
    | ref text => exact op.refuses_guarded hg haddr hfound harchived
    | id taskId => cases hg.symm.trans (unguarded_of_id haddr)
  | false =>
    cases op with
    | regeneratePlan => exact (not_congr refuses_dropResult).trans regeneratePlan_admitted
    | archiveTask =>
      cases haddr
      exact (not_congr refuses_dropResult).trans (archiveTask_admitted hfound harchived)
    | breakLock =>
      cases haddr
      exact (not_congr refuses_dropResult).trans (breakLock_admitted hs.sound hfound)
    | repairOrphanedPlanningRun =>
      exact (not_congr refuses_dropResult).trans repairOrphanedPlanningRun_admitted
    | recorder r => exact r.admitted_iff hs.sound haddr hfound hg
    | _ => cases hg

end ReadOnly

section Evaluation

attribute [local instance] plainRuntime

/-- A cancelled task is archived with the plan it had. -/
def archivedOps : List Op :=
  proposedOps ++ [.cancelTask "task-0001" none, .archiveTask "task-0001" "old" false]

/-- The plan of the archived task is written again. -/
def regenerating : Step := ⟨plainEnv, .regeneratePlan "task-0001" "Do more." ["it works"] false⟩

/-- Another start of planning. -/
def replanning : Step := ⟨plainEnv, .startPlanning "task-0001" none none⟩

theorem archived_found : ∃ task, resolveTask "task-0001" false (afterOps archivedOps) = .ok task ∧
    isArchivedTask task = true := by
  have hfound : (resolveTask "task-0001" false (afterOps archivedOps)).toOption.map isArchivedTask =
      some true := by decide +kernel
  cases h : resolveTask "task-0001" false (afterOps archivedOps) with
  | error e => simp [h, Except.toOption] at hfound
  | ok task => exact ⟨task, rfl, by simpa [h, Except.toOption] using hfound⟩

theorem archived_task_read_only_iff_planning :
    (afterOps archivedOps).Reachable ∧ Refuses (replanning.op.run plainEnv) (afterOps archivedOps) := by
  have hreachable : (afterOps archivedOps).Reachable := reachable_afterOps _
  obtain ⟨task, hfound, harchived⟩ := archived_found
  have haddress : replanning.op.address = some (.ref "task-0001") := rfl
  exact ⟨hreachable, (archived_task_read_only_iff hreachable haddress hfound harchived).2 id⟩

/-- A plan is regenerated for an archived task, which is in review again. -/
theorem archived_task_regenerated :
    (afterOps archivedOps).Reachable ∧
      (∃ task, resolveTask "task-0001" false (afterOps archivedOps) = .ok task ∧
        isArchivedTask task = true) ∧
      ¬ Refuses (regenerating.op.run plainEnv) (afterOps archivedOps) ∧
      (regenerating.next (afterOps archivedOps)).plans.files.length = 2 ∧
      ∀ t ∈ (regenerating.next (afterOps archivedOps)).tasks.files,
        t.statusStage = .planReview ∧ isArchivedTask t = true := by
  refine ⟨reachable_afterOps _, archived_found, ?_, by decide +kernel, by decide +kernel⟩
  rintro ⟨e, he⟩
  have hok : ((regenerating.op.run plainEnv).runOn (afterOps archivedOps)).1.isOk = true := by
    decide +kernel
  rw [he] at hok
  cases hok

end Evaluation

end Taskledger
