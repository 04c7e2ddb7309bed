import Mathlib.Logic.Function.Basic
import Taskledger.Services.Operations
import Taskledger.Storage.Lookup

/-!
# The lifecycle view of a task

Of the files of a ledger the lifecycle of one task depends on a few fields: the
task's stage and links, and the state of its runs, plans and lock. `Ledger.view`
reads them off, and each file write is an update of the view of one task.
-/

namespace Taskledger

open Library

/-- What the lifecycle depends on in a task. -/
structure TaskCore where
  stage : TaskStatusStage
  taskType : TaskType
  archived : Bool
  accepted : Option Nat
  planningRun : Option String
  implementationRun : Option String
  validationRun : Option String

/-- What the lifecycle depends on in a run. -/
structure RunCore where
  runType : RunType
  status : RunStatus
  /-- The plan version the run is read back with. -/
  planVersion : Option Nat
  implementationRun : Option String
  /-- The checks that carry a waiver have the status `pass`. -/
  waiversPass : Bool

/-- What the lifecycle depends on in a plan. -/
structure PlanCore where
  status : PlanStatus
  approved : Bool
  /-- The plan file loads, so that listings show the plan. -/
  listed : Bool

/-- What the lifecycle depends on in a lock. -/
structure LockCore where
  runType : RunType
  runId : String
  /-- The lock file loads, and its expiry parses. -/
  sound : Bool

/-- The lifecycle state of one task. -/
structure View where
  task : Option TaskCore
  runs : String → Option RunCore
  plans : Nat → Option PlanCore
  lock : Option LockCore

-- ════════════════════════════════════════════════════════════════════════
-- Updates of a view
-- ════════════════════════════════════════════════════════════════════════

namespace View

def setTask (t : TaskCore) (v : View) : View := { v with task := some t }

def setRun (runId : String) (r : RunCore) (v : View) : View :=
  { v with runs := Function.update v.runs runId (some r) }

def setPlan (version : Nat) (p : PlanCore) (v : View) : View :=
  { v with plans := Function.update v.plans version (some p) }

def setLock (l : Option LockCore) (v : View) : View := { v with lock := l }

variable (v : View) (t : TaskCore) (runId : String) (r : RunCore) (version : Nat) (p : PlanCore)
  (l : Option LockCore)

@[simp] theorem setTask_task : (v.setTask t).task = some t := rfl
@[simp] theorem setTask_runs : (v.setTask t).runs = v.runs := rfl
@[simp] theorem setTask_plans : (v.setTask t).plans = v.plans := rfl
@[simp] theorem setTask_lock : (v.setTask t).lock = v.lock := rfl
@[simp] theorem setRun_task : (v.setRun runId r).task = v.task := rfl
@[simp] theorem setRun_runs :
    (v.setRun runId r).runs = Function.update v.runs runId (some r) := rfl
@[simp] theorem setRun_plans : (v.setRun runId r).plans = v.plans := rfl
@[simp] theorem setRun_lock : (v.setRun runId r).lock = v.lock := rfl
@[simp] theorem setPlan_task : (v.setPlan version p).task = v.task := rfl
@[simp] theorem setPlan_runs : (v.setPlan version p).runs = v.runs := rfl
@[simp] theorem setPlan_plans :
    (v.setPlan version p).plans = Function.update v.plans version (some p) := rfl
@[simp] theorem setPlan_lock : (v.setPlan version p).lock = v.lock := rfl
@[simp] theorem setLock_task : (v.setLock l).task = v.task := rfl
@[simp] theorem setLock_runs : (v.setLock l).runs = v.runs := rfl
@[simp] theorem setLock_plans : (v.setLock l).plans = v.plans := rfl
@[simp] theorem setLock_lock : (v.setLock l).lock = l := rfl

@[simp] theorem setRun_setLock :
    (v.setLock l).setRun runId r = (v.setRun runId r).setLock l := rfl

@[simp]
theorem setRun_setRun (r' : RunCore) :
    (v.setRun runId r).setRun runId r' = v.setRun runId r' := by
  simp [setRun, Function.update_idem]

theorem setTask_self (h : v.task = some t) : v.setTask t = v := by
  cases v
  cases h
  rfl

theorem setRun_self (h : v.runs runId = some r) : v.setRun runId r = v := by
  simp [setRun, ← h]

theorem setLock_self (h : v.lock = l) : v.setLock l = v := by
  cases v
  cases h
  rfl

end View

-- ════════════════════════════════════════════════════════════════════════
-- The cores of records
-- ════════════════════════════════════════════════════════════════════════

def TaskRecord.core (t : TaskRecord) : TaskCore where
  stage := t.statusStage
  taskType := t.taskType
  archived := isArchivedTask t
  accepted := t.acceptedPlanVersion
  planningRun := t.latestPlanningRun
  implementationRun := t.latestImplementationRun
  validationRun := t.latestValidationRun

/-- The plan version `TaskRunRecord.reload` gives. -/
def TaskRunRecord.readPlanVersion (r : TaskRunRecord) : Option Nat :=
  match r.basedOnPlanVersion with
  | some (n + 1) => some (n + 1)
  | _ => planVersionFromId (orOption r.basedOnPlan r.planRef)

def TaskRunRecord.core (r : TaskRunRecord) : RunCore where
  runType := r.runType
  status := r.status
  planVersion := r.readPlanVersion
  implementationRun := r.basedOnImplementationRun
  waiversPass := r.checks.all fun c => c.waiver.isNone || c.status = .pass

variable [Runtime]

/-- The plan file loads. -/
def PlanRecord.loads (p : PlanRecord) : Bool := p.reload.toOption.isSome

def PlanRecord.core (p : PlanRecord) : PlanCore where
  status := p.status
  approved := p.approvedBy.isSome
  listed := p.loads

/-- The lock file loads, and its expiry parses. -/
def TaskLock.isSound (l : TaskLock) : Bool :=
  l.reload.toOption.isSome && l.expiresAt.all fun text => (Runtime.fromisoformat text).isSome

def TaskLock.core (l : TaskLock) : LockCore where
  runType := l.runType
  runId := l.runId
  sound := l.isSound

@[simp]
theorem core_of_reload_task {t t' : TaskRecord} (h : t.reload = .ok t') : t'.core = t.core := by
  simp only [TaskRecord.reload, bind_eq_ok, pure_eq_ok] at h
  obtain ⟨-, -, -, -, -, -, rfl⟩ := h
  rfl

omit [Runtime] in
theorem planRef_ne_empty (r : TaskRunRecord) : r.planRef ≠ some "" := by
  cases hv : r.basedOnPlanVersion with
  | none => simp [TaskRunRecord.planRef, hv]
  | some v =>
    simp only [TaskRunRecord.planRef, hv, Option.map_some, ne_eq, Option.some.injEq]
    intro h
    have := congrArg String.length h
    simp [planId] at this

omit [Runtime] in
/-- A text reference that was read stays what it is when it is read again. -/
theorem orOption_read (r : TaskRunRecord) (b : Option String) :
    orOption (orOption r.basedOnPlan r.planRef) b = orOption r.basedOnPlan r.planRef ∨
      orOption r.basedOnPlan r.planRef = none := by
  have hne := planRef_ne_empty r
  cases hp : r.basedOnPlan with
  | none =>
    cases hr : r.planRef with
    | none => exact .inr rfl
    | some text =>
      have : text ≠ "" := fun h => hne (by rw [hr, h])
      exact .inl (by simp [orOption, this])
  | some text =>
    by_cases ht : text = ""
    · cases hr : r.planRef with
      | none => exact .inr (by simp [orOption, ht])
      | some ref =>
        have : ref ≠ "" := fun h => hne (by rw [hr, h])
        exact .inl (by simp [orOption, ht, this])
    · exact .inl (by simp [orOption, ht])

omit [Runtime] in
/-- The plan version a run is read with is the one it is read with again. -/
theorem readPlanVersion_of_reload {r r' : TaskRunRecord}
    (hv : r'.basedOnPlanVersion = r.readPlanVersion)
    (hp : r'.basedOnPlan = orOption r.basedOnPlan r.planRef) :
    r'.readPlanVersion = r.readPlanVersion := by
  have hread : (∃ n, r.readPlanVersion = some (n + 1)) ∨
      r.readPlanVersion = planVersionFromId (orOption r.basedOnPlan r.planRef) := by
    unfold TaskRunRecord.readPlanVersion
    split
    · exact .inl ⟨_, rfl⟩
    · exact .inr rfl
  rcases hread with ⟨n, hn⟩ | hread
  · rw [TaskRunRecord.readPlanVersion, hv, hn]
  · rw [TaskRunRecord.readPlanVersion, hv, hp]
    split
    · rename_i n hn
      exact hn.symm
    · rcases orOption_read r r'.planRef with h | h
      · rw [h, hread]
      · have hnone : r.readPlanVersion = none := by rw [hread, h]; rfl
        rw [h, TaskRunRecord.planRef, hv, hnone]
        rfl

omit [Runtime] in
theorem ValidationCheck.of_reload {c c' : ValidationCheck} (h : c.reload = .ok c') :
    c'.status = c.status ∧ c'.waiver.isNone = c.waiver.isNone := by
  simp only [ValidationCheck.reload, bind_eq_ok, pure_eq_ok] at h
  obtain ⟨-, -, -, -, waiver, hw, rfl⟩ := h
  refine ⟨rfl, ?_⟩
  cases hc : c.waiver with
  | none =>
    rw [hc, Waiver.reload?, Except.ok.injEq] at hw
    simp [← hw]
  | some w =>
    rw [hc] at hw
    obtain ⟨w', -, hw⟩ := bind_eq_ok.1 hw
    simp [← pure_eq_ok.1 hw]

omit [Runtime] in
theorem waiversPass_of_reload {checks checks' : List ValidationCheck}
    (h : reloadAll ValidationCheck.reload checks = .ok checks') :
    (checks'.all fun c => c.waiver.isNone || c.status = .pass) =
      checks.all fun c => c.waiver.isNone || c.status = .pass := by
  replace h := reloadAll_eq_ok_iff.1 h
  induction h with
  | nil => rfl
  | cons hab _ ih =>
    obtain ⟨hs, hw⟩ := ValidationCheck.of_reload hab
    rw [List.all_cons, List.all_cons, hs, hw, ih]

omit [Runtime] in
@[simp]
theorem core_of_reload_run {r r' : TaskRunRecord} (h : r.reload = .ok r') : r'.core = r.core := by
  simp only [TaskRunRecord.reload, bind_eq_ok, pure_eq_ok] at h
  obtain ⟨-, -, -, -, harness, -, checks, hc, rfl⟩ := h
  have hversion : TaskRunRecord.readPlanVersion { r with
      actor := r.actor.reload, harness := harness, basedOnPlanVersion := r.readPlanVersion
      basedOnPlan := orOption r.basedOnPlan r.planRef, checks := checks
      actorHistory := r.actorHistory.map ActorRef.reload } = r.readPlanVersion :=
    readPlanVersion_of_reload rfl rfl
  exact congrArg₂ (fun v w => RunCore.mk r.runType r.status v r.basedOnImplementationRun w)
    hversion (waiversPass_of_reload hc)

-- ════════════════════════════════════════════════════════════════════════
-- Files that load
-- ════════════════════════════════════════════════════════════════════════

omit [Runtime] in
theorem reloadAll_loads {α : Type} {reload : α → Except Raised α} {l : List α} :
    (∃ l', reloadAll reload l = .ok l') ↔ ∀ a ∈ l, ∃ b, reload a = .ok b := by
  constructor
  · rintro ⟨l', h⟩ a ha
    obtain ⟨b, -, hb⟩ := reload_ok_of_mem h ha
    exact ⟨b, hb⟩
  · intro h
    induction l with
    | nil => exact ⟨[], rfl⟩
    | cons a rest ih =>
      obtain ⟨b, hb⟩ := h a (by simp)
      obtain ⟨rest', hr⟩ := ih fun c hc => h c (by simp [hc])
      exact ⟨b :: rest', reloadAll_eq_ok_iff.2 (.cons hb (reloadAll_eq_ok_iff.1 hr))⟩

/-- A plan loads when its task id is not empty and its criteria and todos load. -/
theorem PlanRecord.loads_iff {p : PlanRecord} :
    p.loads = true ↔ p.taskId ≠ "" ∧ (∀ c ∈ p.criteria, ∃ c', c.reload = .ok c') ∧
      ∀ t ∈ p.todos, ∃ t', t.reload = .ok t' := by
  rw [PlanRecord.loads, isSome_toOption, ← reloadAll_loads, ← reloadAll_loads]
  simp only [PlanRecord.reload, bind_eq_ok, pure_eq_ok, requireString, raiseIf_eq_ok]
  constructor
  · rintro ⟨_, _, hid, criteria, hc, todos, ht, -⟩
    exact ⟨hid, ⟨criteria, hc⟩, todos, ht⟩
  · rintro ⟨hid, ⟨criteria, hc⟩, todos, ht⟩
    exact ⟨_, (), hid, criteria, hc, todos, ht, rfl⟩

omit [Runtime] in
theorem HarnessRef.reload?_eq {h h' : Option HarnessRef} (hr : HarnessRef.reload? h = .ok h') :
    h' = h := by
  cases h with
  | none => exact (Except.ok.inj hr).symm
  | some harness =>
    obtain ⟨read, hread, hr⟩ := bind_eq_ok.1 hr
    simp only [HarnessRef.reload, bind_eq_ok, pure_eq_ok] at hread
    obtain ⟨-, -, -, -, rfl⟩ := hread
    exact (pure_eq_ok.1 hr).symm

omit [Runtime] in
theorem TaskTodo.loads_iff {t : TaskTodo} :
    (∃ t', t.reload = .ok t') ↔
      (∃ h, HarnessRef.reload? t.completedInHarness = .ok h) ∧ t.id ≠ "" ∧ t.text ≠ "" := by
  simp only [TaskTodo.reload, bind_eq_ok, pure_eq_ok, requireString, raiseIf_eq_ok]
  constructor
  · rintro ⟨_, h, hh, _, hid, _, ht, -⟩
    exact ⟨⟨h, hh⟩, hid, ht⟩
  · rintro ⟨⟨h, hh⟩, hid, ht⟩
    exact ⟨_, h, hh, (), hid, (), ht, rfl⟩

omit [Runtime] in
/-- What a todo reads back as loads again. -/
theorem TaskTodo.reload_again {t t' : TaskTodo} (h : t.reload = .ok t') :
    ∃ t'', t'.reload = .ok t'' := by
  obtain ⟨⟨harness, hh⟩, hid, ht⟩ := TaskTodo.loads_iff.1 ⟨t', h⟩
  simp only [TaskTodo.reload, bind_eq_ok, pure_eq_ok] at h
  obtain ⟨harness', hh', -, -, -, -, rfl⟩ := h
  refine TaskTodo.loads_iff.2 ⟨⟨harness', ?_⟩, hid, ht⟩
  exact HarnessRef.reload?_eq hh' ▸ hh'

omit [Runtime] in
theorem AcceptanceCriterion.reload_again {c c' : AcceptanceCriterion} (h : c.reload = .ok c') :
    c'.reload = .ok c' := by
  have hc := h
  simp only [AcceptanceCriterion.reload, bind_eq_ok, pure_eq_ok] at h
  obtain ⟨-, -, -, -, rfl⟩ := h
  exact hc

theorem PlanRecord.loads_of_reload {p p' : PlanRecord} (h : p.reload = .ok p') :
    p.loads = true ∧ p'.loads = true := by
  refine ⟨isSome_toOption.2 ⟨p', h⟩, ?_⟩
  rw [PlanRecord.loads_iff]
  simp only [PlanRecord.reload, bind_eq_ok, pure_eq_ok, requireString, raiseIf_eq_ok] at h
  obtain ⟨-, hid, criteria, hc, todos, ht, rfl⟩ := h
  refine ⟨hid, fun c hcm => ?_, fun t htm => ?_⟩
  · obtain ⟨a, -, ha⟩ := (mem_reloaded_iff hc).1 hcm
    exact ⟨c, AcceptanceCriterion.reload_again ha⟩
  · obtain ⟨a, -, ha⟩ := (mem_reloaded_iff ht).1 htm
    exact TaskTodo.reload_again ha

@[simp]
theorem core_of_reload_plan {p p' : PlanRecord} (h : p.reload = .ok p') : p'.core = p.core := by
  obtain ⟨hp, hp'⟩ := PlanRecord.loads_of_reload h
  obtain ⟨-, -, hs, ha⟩ := PlanRecord.of_reload h
  simp [PlanRecord.core, hp, hp', hs, ha]

/-- When a lock is sound. -/
theorem TaskLock.isSound_iff {l : TaskLock} :
    l.isSound = true ↔ l.lockId ≠ "" ∧ l.taskId ≠ "" ∧ l.runId ≠ "" ∧ l.createdAt ≠ "" ∧
      l.reason ≠ "" ∧ (∃ h, HarnessRef.reload? l.harness = .ok h) ∧
      ∀ text, l.expiresAt = some text → (Runtime.fromisoformat text).isSome = true := by
  rw [TaskLock.isSound, Bool.and_eq_true, isSome_toOption, Option.all_eq_true]
  simp only [TaskLock.reload, bind_eq_ok, pure_eq_ok, requireString, raiseIf_eq_ok]
  constructor
  · rintro ⟨⟨_, _, h1, _, h2, _, h3, _, h4, _, h5, h, hh, -⟩, he⟩
    exact ⟨h1, h2, h3, h4, h5, ⟨h, hh⟩, he⟩
  · rintro ⟨h1, h2, h3, h4, h5, ⟨h, hh⟩, he⟩
    exact ⟨⟨_, (), h1, (), h2, (), h3, (), h4, (), h5, h, hh, rfl⟩, he⟩

/-- Soundness depends on the fields a lock file must have. -/
theorem TaskLock.isSound_congr {l l' : TaskLock} (hlock : l'.lockId = l.lockId)
    (htask : l'.taskId = l.taskId) (hrun : l'.runId = l.runId)
    (hcreated : l'.createdAt = l.createdAt) (hreason : l'.reason = l.reason)
    (hharness : l'.harness = l.harness) (hexpires : l'.expiresAt = l.expiresAt) :
    l'.isSound = l.isSound := by
  rw [Bool.eq_iff_iff, TaskLock.isSound_iff, TaskLock.isSound_iff, hlock, htask, hrun, hcreated,
    hreason, hharness, hexpires]

@[simp]
theorem core_of_reload_lock {l l' : TaskLock} (h : l.reload = .ok l') : l'.core = l.core := by
  simp only [TaskLock.reload, bind_eq_ok, pure_eq_ok] at h
  obtain ⟨-, -, -, -, -, -, -, -, -, -, harness, hh, rfl⟩ := h
  exact congrArg (LockCore.mk l.runType l.runId)
    (TaskLock.isSound_congr rfl rfl rfl rfl rfl (HarnessRef.reload?_eq hh) rfl)

-- ════════════════════════════════════════════════════════════════════════
-- The view of a ledger
-- ════════════════════════════════════════════════════════════════════════

namespace Ledger

/-- The lifecycle state of the task with an id. -/
def view (s : Ledger) (id : String) : View where
  task := (s.tasks.lookup id).map TaskRecord.core
  runs runId := (s.runs.lookup (id, runId)).map TaskRunRecord.core
  plans version := (s.plans.lookup (id, version)).map PlanRecord.core
  lock := (s.locks.lookup id).map TaskLock.core

variable (s : Ledger)

theorem view_putTask (t : TaskRecord) :
    (s.putTask t).view = Function.update s.view t.id ((s.view t.id).setTask t.core) := by
  funext id
  by_cases h : id = t.id
  · subst h
    simp [view, putTask, View.setTask]
  · rw [Function.update_of_ne h]
    simp [view, putTask, Directory.lookup_save_of_ne _ (Ne.symm h)]

theorem view_putRun (r : TaskRunRecord) :
    (s.putRun r).view =
      Function.update s.view r.taskId ((s.view r.taskId).setRun r.runId r.core) := by
  funext id
  by_cases h : id = r.taskId
  · subst h
    rw [Function.update_self]
    simp only [view, putRun, View.setRun, View.mk.injEq, true_and, and_true]
    funext runId
    by_cases hr : runId = r.runId
    · subst hr
      rw [Function.update_self]
      exact congrArg _ (Directory.lookup_save_self s.runs r)
    · rw [Function.update_of_ne hr, Directory.lookup_save_of_ne]
      simpa using Ne.symm hr
  · rw [Function.update_of_ne h]
    simp only [view, putRun, View.mk.injEq, true_and, and_true]
    funext runId
    rw [Directory.lookup_save_of_ne]
    simp [Ne.symm h]

theorem view_putPlan (p : PlanRecord) :
    (s.putPlan p).view =
      Function.update s.view p.taskId ((s.view p.taskId).setPlan p.planVersion p.core) := by
  funext id
  by_cases h : id = p.taskId
  · subst h
    rw [Function.update_self]
    simp only [view, putPlan, View.setPlan, View.mk.injEq, true_and, and_true]
    funext version
    by_cases hv : version = p.planVersion
    · subst hv
      rw [Function.update_self]
      exact congrArg _ (Directory.lookup_save_self s.plans p)
    · rw [Function.update_of_ne hv, Directory.lookup_save_of_ne]
      simpa using Ne.symm hv
  · rw [Function.update_of_ne h]
    simp only [view, putPlan, View.mk.injEq, true_and, and_true]
    funext version
    rw [Directory.lookup_save_of_ne]
    simp [Ne.symm h]

theorem view_putLock (l : TaskLock) :
    (s.putLock l).view =
      Function.update s.view l.taskId ((s.view l.taskId).setLock (some l.core)) := by
  funext id
  by_cases h : id = l.taskId
  · subst h
    simp [view, putLock, View.setLock]
  · rw [Function.update_of_ne h]
    simp [view, putLock, Directory.lookup_save_of_ne _ (Ne.symm h)]

theorem view_dropLock (taskId : String) :
    (s.dropLock taskId).view = Function.update s.view taskId ((s.view taskId).setLock none) := by
  funext id
  by_cases h : id = taskId
  · subst h
    simp [view, dropLock, View.setLock, Directory.lookup_remove]
  · rw [Function.update_of_ne h]
    simp [view, dropLock, Directory.lookup_remove, Ne.symm h]

end Ledger

variable {s : Ledger}

theorem view_file_run {r : TaskRunRecord} (h : r ∈ s.runs.files) :
    (s.view r.taskId).runs r.runId = some r.core := by
  have hr : s.runs.lookup (r.taskId, r.runId) = some r := Directory.lookup_of_mem h
  simp [Ledger.view, hr]

theorem view_file_lock {l : TaskLock} (h : l ∈ s.locks.files) :
    (s.view l.taskId).lock = some l.core := by
  simp [Ledger.view, Directory.lookup_of_mem h]

theorem view_file_task {t : TaskRecord} (h : t ∈ s.tasks.files) :
    (s.view t.id).task = some t.core := by
  simp [Ledger.view, Directory.lookup_of_mem h]

end Taskledger
