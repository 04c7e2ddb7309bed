import Taskledger.Lifecycle.Soundness

/-!
# What reads tell about the view

The queries of the services, as facts about the view of the task they read.
-/

namespace Taskledger

open Library

variable [Runtime] {env : Env} {s s' : Ledger} {ref id : String} {t : TaskRecord}

/-- Every task of the ledger has a sound view. -/
def Ledger.Sound (s : Ledger) : Prop := ∀ id, (s.view id).Sound id

/-- Soundness depends on the views. -/
theorem Ledger.Sound.of_view (h : s.Sound) (hv : s'.view = s.view) : s'.Sound := fun id => by
  rw [hv]
  exact h id

-- ════════════════════════════════════════════════════════════════════════
-- Tasks
-- ════════════════════════════════════════════════════════════════════════

theorem view_resolved {includeArchived : Bool} (h : resolveTask ref includeArchived s = .ok t) :
    (s.view t.id).task = some t.core := by
  obtain ⟨stored, hs, hr⟩ := resolveTask_stored h
  simp [Ledger.view, hs, core_of_reload_task hr]

theorem canonical_resolved (hs : s.Sound) {includeArchived : Bool}
    (h : resolveTask ref includeArchived s = .ok t) : Canonical "task" t.id :=
  (hs t.id).taskId _ (view_resolved h)

/-- The id of a resolved task resolves to it while the task files stay. -/
theorem resolve_again (hs : s.Sound) {includeArchived : Bool}
    (h : resolveTask ref includeArchived s = .ok t) (htasks : s'.tasks = s.tasks) :
    resolveTask t.id includeArchived s' = .ok t := by
  rw [resolveTask_congr htasks]
  exact resolveTask_id h (canonical_resolved hs h)

theorem canonical_files (hs : s.Sound) {u : TaskRecord} (hu : u ∈ s.tasks.files) :
    Canonical "task" u.id := by
  refine (hs u.id).taskId u.core ?_
  simp [Ledger.view, Directory.lookup_of_mem hu]

/-- The id of a stored task resolves to nothing but that task. -/
theorem resolve_own (hs : s.Sound) {includeArchived : Bool} {c : TaskCore}
    (hc : (s.view id).task = some c) (h : resolveTask id includeArchived s = .ok t) :
    t.id = id := by
  have hcan := (hs id).taskId c hc
  have hk : "task" ∈ idKinds := by decide
  have hnorm : normalizeResourceRef (Runtime.lower (Text.strip id)) "task" = .ok id := by
    rw [hcan.lower_strip hk, hcan.normalizeResourceRef_eq hk]
  rcases resolveTask_by_id (fun u hu => canonical_files hs hu) h hnorm with h | ⟨tasks, hl, hno, -⟩
  · exact h
  · obtain ⟨stored, hst, -⟩ := Option.map_eq_some_iff.1 hc
    obtain ⟨read, hread, -⟩ := bind_eq_ok.1 hl
    obtain ⟨u, hu, hr⟩ := reload_ok_of_mem hread (Directory.mem_of_lookup hst)
    refine absurd ?_ (hno u ((mem_listTasks hl).2 ⟨stored, Directory.mem_of_lookup hst, hr⟩))
    rw [(TaskRecord.of_reload hr).1, Directory.key_of_lookup hst]

/-- An id no listed task has is free. -/
theorem view_freeTask {tasks : List TaskRecord} (h : listTasks s = .ok tasks)
    (hid : id ∉ tasks.map TaskRecord.id) : (s.view id).task = none := by
  cases ht : (s.view id).task with
  | none => rfl
  | some t =>
    obtain ⟨stored, hs, -⟩ := Option.map_eq_some_iff.1 ht
    obtain ⟨read, hread, -⟩ := bind_eq_ok.1 h
    obtain ⟨u, hu, hr⟩ := reload_ok_of_mem hread (Directory.mem_of_lookup hs)
    refine absurd (List.mem_map.2 ⟨u, (mem_listTasks h).2 ⟨stored, Directory.mem_of_lookup hs, hr⟩,
      ?_⟩) hid
    rw [(TaskRecord.of_reload hr).1, Directory.key_of_lookup hs]

omit [Runtime] in
theorem visible_of_ensure {operation : String} {u : Unit}
    (h : ensureNotArchived t operation = .ok u) : t.core.archived = false := by
  rw [ensureNotArchived, raiseIf_eq_ok, Bool.not_eq_true] at h
  exact h

-- ════════════════════════════════════════════════════════════════════════
-- Runs
-- ════════════════════════════════════════════════════════════════════════

theorem view_run {r : TaskRunRecord} (h : resolveRun id ref s = .ok r) :
    (s.view id).runs r.runId = some r.core ∧ r.taskId = id := by
  obtain ⟨stored, hs, hr⟩ := resolveRun_stored h
  refine ⟨by simp [Ledger.view, hs, core_of_reload_run hr], ?_⟩
  rw [(TaskRunRecord.of_reload hr).2.1, (key_of_run hs).1]

theorem requireRun_eq_ok {runId : Option String} {r : TaskRunRecord}
    (h : requireRun t runId s = .ok r) : ∃ i, runId = some i ∧ resolveRun t.id i s = .ok r := by
  cases runId with
  | none => cases h
  | some i => exact ⟨i, rfl, h⟩

/-- A link of a task leads to the run of that id. -/
theorem view_requireRun {runId : Option String} {r : TaskRunRecord}
    (hc : ∀ i, runId = some i → Canonical "run" i) (h : requireRun t runId s = .ok r) :
    runId = some r.runId ∧ (s.view t.id).runs r.runId = some r.core ∧ r.taskId = t.id := by
  obtain ⟨i, rfl, h⟩ := requireRun_eq_ok h
  exact ⟨by rw [resolveRun_id h (hc i rfl)], view_run h⟩

theorem requireRunningRun_eq_ok {runId : Option String} {runType : RunType} {r : TaskRunRecord}
    (h : requireRunningRun t runId runType s = .ok r) :
    requireRun t runId s = .ok r ∧ r.runType = runType ∧ r.status = .running := by
  obtain ⟨r', hr, h⟩ := Query.bind_eq_ok.1 h
  obtain ⟨_, hc, h⟩ := Query.bind_eq_ok.1 h
  cases Query.pure_eq_ok.1 h
  rw [Query.liftM_eq_ok, raiseIf_eq_ok, not_or, not_not, not_not] at hc
  exact ⟨hr, hc⟩

/-- The running run a task links. -/
theorem view_runningRun {runId : Option String} {runType : RunType} {r : TaskRunRecord}
    (hc : ∀ i, runId = some i → Canonical "run" i)
    (h : requireRunningRun t runId runType s = .ok r) :
    runId = some r.runId ∧ (s.view t.id).Running r.runId r.core runType ∧ r.taskId = t.id := by
  obtain ⟨hr, ht, hs⟩ := requireRunningRun_eq_ok h
  obtain ⟨hid, hv, htask⟩ := view_requireRun hc hr
  exact ⟨hid, ⟨hv, ht, hs⟩, htask⟩

theorem optionalRun_eq_ok {runId : Option String} {r : TaskRunRecord}
    (h : optionalRun t runId s = .ok (some r)) :
    ∃ i, runId = some i ∧ resolveRun t.id i s = .ok r := by
  cases runId with
  | none => cases Query.pure_eq_ok.1 h
  | some i =>
    refine ⟨i, rfl, ?_⟩
    simp only [optionalRun, orNone] at h
    split at h
    · rename_i a ha
      cases h
      exact ha
    · cases h
    · cases h

theorem view_optionalRun {runId : Option String} {r : TaskRunRecord}
    (hc : ∀ i, runId = some i → Canonical "run" i) (h : optionalRun t runId s = .ok (some r)) :
    runId = some r.runId ∧ (s.view t.id).runs r.runId = some r.core ∧ r.taskId = t.id := by
  obtain ⟨i, rfl, hr⟩ := optionalRun_eq_ok h
  exact ⟨by rw [resolveRun_id hr (hc i rfl)], view_run hr⟩

omit [Runtime] in
theorem runningRuns_eq_ok {running : List TaskRunRecord} (h : runningRuns t s = .ok running) :
    ∃ runs, listRuns t.id s = .ok runs ∧ running = runs.filter fun r => r.status = .running := by
  obtain ⟨runs, hl, h⟩ := Query.bind_eq_ok.1 h
  exact ⟨runs, hl, (Query.pure_eq_ok.1 h).symm⟩

/-- A run listed as running. -/
theorem view_mem_runningRuns {running : List TaskRunRecord} (h : runningRuns t s = .ok running)
    {r : TaskRunRecord} (hr : r ∈ running) :
    (s.view t.id).runs r.runId = some r.core ∧ r.status = .running := by
  obtain ⟨runs, hl, rfl⟩ := runningRuns_eq_ok h
  rw [List.mem_filter, decide_eq_true_eq] at hr
  obtain ⟨stored, hs, ht, hreload⟩ := (mem_listRuns hl).1 hr.1
  refine ⟨?_, hr.2⟩
  have hlookup := Directory.lookup_of_mem hs
  rw [ht, ← (TaskRunRecord.of_reload hreload).1] at hlookup
  simp [Ledger.view, hlookup, core_of_reload_run hreload]

/-- Nothing was listed as running. -/
theorem view_stopped (h : runningRuns t s = .ok []) (i : String) (r : RunCore)
    (hr : (s.view t.id).runs i = some r) : r.status ≠ .running := by
  obtain ⟨runs, hl, hrunning⟩ := runningRuns_eq_ok h
  obtain ⟨stored, hs, rfl⟩ := Option.map_eq_some_iff.1 hr
  obtain ⟨read, hread, hreload⟩ := listRuns_loads hl (Directory.mem_of_lookup hs)
    (key_of_run hs).1
  have hnone : read ∉ runs.filter fun r => r.status = .running := by
    rw [← hrunning]
    exact List.not_mem_nil
  rw [← core_of_reload_run hreload]
  intro hstatus
  exact hnone (List.mem_filter.2 ⟨hread, by simpa [TaskRunRecord.core] using hstatus⟩)

/-- An id that is not listed is free. -/
theorem view_freeRun {runs : List TaskRunRecord} (h : listRuns id s = .ok runs) {runId : String}
    (hid : runId ∉ runs.map TaskRunRecord.runId) : (s.view id).runs runId = none := by
  cases hr : (s.view id).runs runId with
  | none => rfl
  | some r =>
    obtain ⟨stored, hs, -⟩ := Option.map_eq_some_iff.1 hr
    obtain ⟨read, hread, hreload⟩ := listRuns_loads h (Directory.mem_of_lookup hs)
      (key_of_run hs).1
    refine absurd (List.mem_map.2 ⟨read, hread, ?_⟩) hid
    rw [(TaskRunRecord.of_reload hreload).1, (key_of_run hs).2]

-- ════════════════════════════════════════════════════════════════════════
-- Locks
-- ════════════════════════════════════════════════════════════════════════

theorem view_unlocked (h : readLock id s = .ok none) : (s.view id).lock = none := by
  simp [Ledger.view, readLock_none h]

theorem readLock_of_unlocked (h : (s.view id).lock = none) : readLock id s = .ok none := by
  have hl : s.locks.lookup id = none := by simpa [Ledger.view] using h
  simp [readLock, hl]

theorem view_locked {l : TaskLock} (h : readLock id s = .ok (some l)) :
    (s.view id).lock = some l.core := by
  obtain ⟨stored, hs, hr⟩ := readLock_some h
  simp [Ledger.view, hs, core_of_reload_lock hr]

theorem lockForMutation_eq_ok {lock : Option TaskLock} (h : lockForMutation env id s = .ok lock) :
    readLock id s = .ok lock := by
  obtain ⟨l, hl, h⟩ := Query.bind_eq_ok.1 h
  cases l with
  | none =>
    cases show none = lock from Query.pure_eq_ok.1 h
    exact hl
  | some l =>
    obtain ⟨_, _, h⟩ := Query.bind_eq_ok.1 h
    obtain ⟨_, _, h⟩ := Query.bind_eq_ok.1 h
    cases show some l = lock from Query.pure_eq_ok.1 h
    exact hl

theorem lock_file_sound (hs : s.Sound) {l : TaskLock} (hl : l ∈ s.locks.files) :
    l.isSound = true := by
  have hview : (s.view l.taskId).lock = some l.core := by
    simp [Ledger.view, Directory.lookup_of_mem hl]
  exact (hs l.taskId).lockSound _ hview

theorem TaskLock.loads_of_isSound {l : TaskLock} (h : l.isSound = true) :
    ∃ l', l.reload = .ok l' := by
  rw [TaskLock.isSound, Bool.and_eq_true, isSome_toOption] at h
  exact h.1

/-- Whether a sound lock is expired can be told. -/
theorem lockIsExpired_of_isSound {l : TaskLock} (h : l.isSound = true) :
    ∃ b, lockIsExpired env l = .ok b := by
  obtain ⟨-, -, -, -, -, -, he⟩ := TaskLock.isSound_iff.1 h
  unfold lockIsExpired
  cases hl : l.expiresAt with
  | none => exact ⟨false, rfl⟩
  | some text =>
    obtain ⟨t, ht⟩ := Option.isSome_iff_exists.1 (he text hl)
    exact ⟨decide (t < env.now), by simp [ht]⟩

/-- In a sound ledger every lock file can be read. -/
theorem readLock_loads (hs : s.Sound) (id : String) : ∃ lock, readLock id s = .ok lock := by
  unfold readLock
  cases hl : s.locks.lookup id with
  | none => exact ⟨none, rfl⟩
  | some stored =>
    obtain ⟨l, hr⟩ := TaskLock.loads_of_isSound (lock_file_sound hs (Directory.mem_of_lookup hl))
    exact ⟨some l, by simp [hr, Functor.map, Except.map]⟩

/-- Among sound locks the next lock id can be told. -/
theorem nextLockId_loads (h : ∀ l ∈ s.locks.files, l.isSound = true) :
    ∃ lockId, nextLockId env s = .ok lockId ∧ lockId ≠ "" := by
  have hload : ∃ locks, loadActiveLocks s = .ok locks := by
    refine reloadAll_loads.2 fun l hl => ?_
    rw [mem_sortedBy] at hl
    exact TaskLock.loads_of_isSound (h l hl)
  obtain ⟨locks, hload⟩ := hload
  refine ⟨_, Query.bind_eq_ok.2 ⟨locks, hload, rfl⟩, fun h => ?_⟩
  have hlength := congrArg String.length h
  simp at hlength

-- ════════════════════════════════════════════════════════════════════════
-- Plans
-- ════════════════════════════════════════════════════════════════════════

section Plans

variable {plans : List PlanRecord} {p : PlanRecord}

theorem view_listed (h : listPlans id s = .ok plans) (hp : p ∈ plans) :
    (s.view id).plans p.planVersion = some p.core ∧ p.loads = true ∧ p.taskId = id := by
  obtain ⟨stored, hs, hr⟩ := listed_stored h hp
  refine ⟨by simp [Ledger.view, hs, core_of_reload_plan hr], (PlanRecord.loads_of_reload hr).2, ?_⟩
  rw [(PlanRecord.of_reload hr).1, (key_of_plan hs).1]

/-- A plan the view shows as listed is in the listing. -/
theorem listed_of_view (h : listPlans id s = .ok plans) {n : Nat} {q : PlanCore}
    (hq : (s.view id).plans n = some q) (hl : q.listed = true) :
    ∃ p ∈ plans, p.planVersion = n ∧ p.core = q := by
  obtain ⟨stored, hs, rfl⟩ := Option.map_eq_some_iff.1 hq
  obtain ⟨p, hr⟩ := isSome_toOption.1 hl
  obtain ⟨hp, hn⟩ := listed_of_stored h hs hr
  exact ⟨p, hp, hn, core_of_reload_plan hr⟩

theorem view_latest (h : listPlans id s = .ok plans) (hp : plans.getLast? = some p) :
    (s.view id).Latest p.planVersion p.core where
  stored := (view_listed h (le_latest h hp).1).1
  listed := (view_listed h (le_latest h hp).1).2.1
  largest m q hq hl := by
    obtain ⟨p', hp', rfl, -⟩ := listed_of_view h hq hl
    exact (le_latest h hp).2 p' hp'

/-- The next version comes after all listed plans; whether it is free `savePlan`
finds out. -/
theorem view_nextVersion (h : listPlans id s = .ok plans)
    (hfree : (s.view id).plans (nextPlanVersion plans.getLast?) = none) :
    (s.view id).NewVersion (nextPlanVersion plans.getLast?) where
  positive := by cases plans.getLast? <;> simp [nextPlanVersion]
  free := hfree
  after m q hq hl := by
    obtain ⟨p', hp', rfl, -⟩ := listed_of_view h hq hl
    cases hlast : plans.getLast? with
    | none =>
      rw [List.getLast?_eq_none_iff.1 hlast] at hp'
      cases hp'
    | some p => exact Nat.lt_succ_of_le ((le_latest h hlast).2 p' hp')

omit [Runtime] in
theorem orNone_eq_ok {α : Type} {q : LedgerQuery α} {a : α} (h : orNone q s = .ok (some a)) :
    q s = .ok a := by
  unfold orNone at h
  split at h
  · cases h
    assumption
  · cases h
  · cases h

theorem view_resolvePlan {n : Nat} (h : resolvePlan id (some n) s = .ok p) :
    p.planVersion = n ∧ (s.view id).plans n = some p.core ∧ p.core.listed = true := by
  obtain ⟨plans, _, hl, _, hp, hn⟩ := resolvePlan_eq_ok h
  obtain ⟨hv, hload, -⟩ := view_listed hl hp
  exact ⟨hn, hn ▸ hv, hload⟩

theorem acceptedPlanRecordOrNone_eq_ok
    (h : acceptedPlanRecordOrNone t s = .ok (some p)) :
    ∃ n, t.acceptedPlanVersion = some n ∧ resolvePlan t.id (some n) s = .ok p ∧
      p.status = .accepted := by
  unfold acceptedPlanRecordOrNone at h
  cases hv : t.acceptedPlanVersion with
  | none => rw [hv] at h; cases Query.pure_eq_ok.1 h
  | some n =>
    rw [hv] at h
    obtain ⟨plan, hp, h⟩ := Query.bind_eq_ok.1 h
    have hfilter := Query.pure_eq_ok.1 h
    rw [Option.filter_eq_some_iff] at hfilter
    obtain ⟨rfl, hs⟩ := hfilter
    exact ⟨n, rfl, orNone_eq_ok hp, by simpa using hs⟩

theorem view_acceptedPlan (h : acceptedPlanRecordOrNone t s = .ok (some p)) :
    ∃ n, (s.view t.id).Accepted t.core n := by
  obtain ⟨n, hn, hp, hs⟩ := acceptedPlanRecordOrNone_eq_ok h
  obtain ⟨-, hv, hl⟩ := view_resolvePlan hp
  exact ⟨n, hn, p.core, hv, hl, hs⟩

theorem requireAcceptedPlanRecord_eq_ok {action : String}
    (h : requireAcceptedPlanRecord t action s = .ok p) :
    ∃ n, t.acceptedPlanVersion = some n ∧ resolvePlan t.id (some n) s = .ok p ∧
      p.status = .accepted := by
  unfold requireAcceptedPlanRecord at h
  cases hv : t.acceptedPlanVersion with
  | none => rw [hv] at h; cases h
  | some n =>
    rw [hv] at h
    obtain ⟨accepted, ha, h⟩ := Query.bind_eq_ok.1 h
    cases accepted with
    | some plan =>
      cases Query.pure_eq_ok.1 h
      obtain ⟨m, hm, hp, hs⟩ := acceptedPlanRecordOrNone_eq_ok ha
      rw [hv, Option.some.injEq] at hm
      exact ⟨n, rfl, hm ▸ hp, hs⟩
    | none =>
      obtain ⟨stored, hst, h⟩ := Query.bind_eq_ok.1 h
      cases stored with
      | none => cases h
      | some plan =>
        obtain ⟨_, hc, h⟩ := Query.bind_eq_ok.1 h
        cases Query.pure_eq_ok.1 h
        rw [Query.liftM_eq_ok, raiseIf_eq_ok, not_not] at hc
        exact ⟨n, rfl, orNone_eq_ok hst, hc⟩

theorem view_requireAcceptedPlan {action : String}
    (h : requireAcceptedPlanRecord t action s = .ok p) :
    ∃ n, (s.view t.id).Accepted t.core n := by
  obtain ⟨n, hn, hp, hs⟩ := requireAcceptedPlanRecord_eq_ok h
  obtain ⟨-, hv, hl⟩ := view_resolvePlan hp
  exact ⟨n, hn, p.core, hv, hl, hs⟩

end Plans

-- ════════════════════════════════════════════════════════════════════════
-- What an operation has read
-- ════════════════════════════════════════════════════════════════════════

section Queries

variable {u required : TaskRecord} {run : TaskRunRecord}

/-- A task with what is read of the files beside it. -/
structure WithSidecars (s : Ledger) (t u : TaskRecord) : Prop where
  id : u.id = t.id
  slug : u.slug = t.slug
  title : u.title = t.title
  archivedAt : u.archivedAt = t.archivedAt
  core : u.core = t.core
  requirements : ∃ l, loadRequirements t.id s = .ok l ∧
    u.requirements = l.map DependencyRequirement.taskId
  todos : loadTodos t.id s = .ok u.todos

omit [Runtime] in
theorem taskWithSidecars_eq_ok (h : taskWithSidecars t s = .ok u) : WithSidecars s t u := by
  obtain ⟨requirements, hrequirements, h⟩ := Query.bind_eq_ok.1 h
  obtain ⟨links, -, h⟩ := Query.bind_eq_ok.1 h
  obtain ⟨todos, htodos, h⟩ := Query.bind_eq_ok.1 h
  cases Query.pure_eq_ok.1 h
  exact ⟨rfl, rfl, rfl, rfl, rfl, ⟨requirements, hrequirements, rfl⟩, htodos⟩

theorem requireImplementationWork_eq_ok {operation action : String}
    (h : requireImplementationWork env ref operation action s = .ok (t, run)) :
    resolveTask ref false s = .ok t ∧
      requireRunningRun t t.latestImplementationRun .implementation s = .ok run := by
  obtain ⟨task, htask, h⟩ := Query.bind_eq_ok.1 h
  obtain ⟨_, -, h⟩ := Query.bind_eq_ok.1 h
  obtain ⟨r, hrun, h⟩ := Query.bind_eq_ok.1 h
  iterate 2 obtain ⟨_, -, h⟩ := Query.bind_eq_ok.1 h
  cases Query.pure_eq_ok.1 h
  exact ⟨htask, hrun⟩

theorem beginPlanningCommand_eq_ok {argv : List String}
    (h : beginPlanningCommand env ref argv s = .ok (t, run)) :
    resolveTask ref false s = .ok t ∧
      requireRunningRun t t.latestPlanningRun .planning s = .ok run := by
  obtain ⟨_, -, h⟩ := Query.bind_eq_ok.1 h
  obtain ⟨task, htask, h⟩ := Query.bind_eq_ok.1 h
  obtain ⟨_, -, h⟩ := Query.bind_eq_ok.1 h
  obtain ⟨r, hrun, h⟩ := Query.bind_eq_ok.1 h
  iterate 2 obtain ⟨_, -, h⟩ := Query.bind_eq_ok.1 h
  cases Query.pure_eq_ok.1 h
  exact ⟨htask, hrun⟩

theorem requireValidationWork_eq_ok (h : requireValidationWork env ref s = .ok (t, run)) :
    resolveTask ref false s = .ok t ∧
      requireRunningRun t t.latestValidationRun .validation s = .ok run := by
  obtain ⟨task, htask, h⟩ := Query.bind_eq_ok.1 h
  obtain ⟨_, -, h⟩ := Query.bind_eq_ok.1 h
  obtain ⟨r, hrun, h⟩ := Query.bind_eq_ok.1 h
  iterate 2 obtain ⟨_, -, h⟩ := Query.bind_eq_ok.1 h
  cases Query.pure_eq_ok.1 h
  exact ⟨htask, hrun⟩

/-- The tasks that a change of the requirements has found. -/
theorem requirementTasks_eq_ok {requiredRef operation : String}
    (h : requirementTasks ref requiredRef operation s = .ok (t, required)) :
    ∃ found, resolveTask ref false s = .ok found ∧ WithSidecars s found t ∧
      resolveTask requiredRef false s = .ok required := by
  obtain ⟨found, hfound, h⟩ := Query.bind_eq_ok.1 h
  obtain ⟨full, hfull, h⟩ := Query.bind_eq_ok.1 h
  obtain ⟨_, -, h⟩ := Query.bind_eq_ok.1 h
  obtain ⟨_, hrequired, h⟩ := Query.bind_eq_ok.1 h
  cases Query.pure_eq_ok.1 h
  exact ⟨found, hfound, taskWithSidecars_eq_ok hfull, hrequired⟩

/-- The task that a todo is added to, and the todo. -/
theorem newTodoOf_eq_ok {text : String} {source : Option String} {mandatory : Bool}
    {todo : TaskTodo} (h : newTodoOf env ref text source mandatory s = .ok (t, todo)) :
    ∃ found lock, resolveTask ref false s = .ok found ∧ WithSidecars s found t ∧
      lockForMutation env t.id s = .ok lock ∧ todo.status = .open ∧
      todo.mandatory = mandatory ∧
      todo.activeAt = if lock.any (fun l => l.runType = .implementation) then some (utcNow env)
        else none := by
  obtain ⟨found, hfound, h⟩ := Query.bind_eq_ok.1 h
  obtain ⟨full, hfull, h⟩ := Query.bind_eq_ok.1 h
  obtain ⟨_, -, h⟩ := Query.bind_eq_ok.1 h
  obtain ⟨lock, hlock, h⟩ := Query.bind_eq_ok.1 h
  iterate 2 obtain ⟨_, -, h⟩ := Query.bind_eq_ok.1 h
  cases Query.pure_eq_ok.1 h
  exact ⟨found, lock, hfound, taskWithSidecars_eq_ok hfull, hlock, rfl, rfl, rfl⟩

theorem todoToMark_eq_ok {todoId normalizedId : String}
    (h : todoToMark env ref todoId s = .ok (t, normalizedId)) :
    ∃ found, resolveTask ref false s = .ok found ∧ WithSidecars s found t := by
  obtain ⟨found, hfound, h⟩ := Query.bind_eq_ok.1 h
  obtain ⟨full, hfull, h⟩ := Query.bind_eq_ok.1 h
  iterate 4 obtain ⟨_, -, h⟩ := Query.bind_eq_ok.1 h
  cases Query.pure_eq_ok.1 h
  exact ⟨found, hfound, taskWithSidecars_eq_ok hfull⟩

/-- A validation report holds what was read of the task and its run. -/
theorem buildValidationGateReport_eq_ok {given : Option TaskRunRecord} {gate : GateReport}
    (h : buildValidationGateReport t given s = .ok gate) :
    gate.task = t ∧ gateRun t given s = .ok gate.run ∧
      acceptedPlanOf t s = .ok gate.acceptedPlan ∧
      optionalRun t t.latestImplementationRun s = .ok gate.implementationRun ∧
      blockingTasks t s = .ok gate.blocking ∧
      ∃ todos, loadTodos t.id s = .ok todos ∧
        gate.openTodos = (todos.filter fun t => t.mandatory && !t.done).map TaskTodo.id := by
  obtain ⟨gated, hgated, h⟩ := Query.bind_eq_ok.1 h
  obtain ⟨plan, hplan, h⟩ := Query.bind_eq_ok.1 h
  obtain ⟨implementation, himplementation, h⟩ := Query.bind_eq_ok.1 h
  obtain ⟨todos, htodos, h⟩ := Query.bind_eq_ok.1 h
  obtain ⟨blocking, hblocking, h⟩ := Query.bind_eq_ok.1 h
  cases Query.pure_eq_ok.1 h
  exact ⟨rfl, hgated, hplan, himplementation, hblocking, todos, htodos, rfl⟩

end Queries

end Taskledger
