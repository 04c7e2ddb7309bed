import Taskledger.Lifecycle.Machine

/-!
# Sound views

The invariant of the lifecycle machine: nothing is filed under an id without a
task, ids are canonical, at most one run is running, and a lock names it.
-/

namespace Taskledger

open Library

variable [Runtime] {id : String} {v w : View} {t : TaskCore}

/-- What holds of the view of every task in every reachable ledger. -/
structure View.Sound (id : String) (v : View) : Prop where
  blank : v.task = none → (∀ runId, v.runs runId = none) ∧ (∀ n, v.plans n = none) ∧ v.lock = none
  taskId : ∀ t, v.task = some t → Canonical "task" id
  runIds : ∀ runId r, v.runs runId = some r → Canonical "run" runId
  links : ∀ t, v.task = some t → ∀ runId, t.planningRun = some runId
    ∨ t.implementationRun = some runId ∨ t.validationRun = some runId → Canonical "run" runId
  oneRunning : ∀ i j r r', v.runs i = some r → v.runs j = some r' → r.status = .running →
    r'.status = .running → i = j
  lockSound : ∀ l, v.lock = some l → l.sound = true
  lockNames : ∀ l, v.lock = some l →
    ∃ r, v.runs l.runId = some r ∧ r.runType = l.runType ∧ r.status = .running
  waivers : ∀ runId r, v.runs runId = some r → r.waiversPass = true
  planPositive : v.plans 0 = none
  acceptedPositive : ∀ t, v.task = some t → t.accepted ≠ some 0

namespace View.Sound

theorem task_of_run (h : v.Sound id) {runId : String} {r : RunCore}
    (hr : v.runs runId = some r) : ∃ t, v.task = some t := by
  cases ht : v.task with
  | none => simp [(h.blank ht).1] at hr
  | some t => exact ⟨t, rfl⟩

/-- A lock names the one running run. -/
theorem lock_of_running (h : v.Sound id) {l : LockCore} (hl : v.lock = some l) {runId : String}
    {r : RunCore} (hr : v.runs runId = some r) (hrun : r.status = .running) :
    l.runId = runId ∧ l.runType = r.runType := by
  obtain ⟨r', hr', ht, hs⟩ := h.lockNames l hl
  have hid := h.oneRunning _ _ _ _ hr' hr hs hrun
  rw [hid, hr] at hr'
  cases hr'
  exact ⟨hid, ht.symm⟩

/-- When the running run stops, none is running. -/
theorem stopped_of_update (h : v.Sound id) {runId : String} {r : RunCore} {runType : RunType}
    (hrun : v.Running runId r runType) {status : RunStatus} (hstatus : status ≠ .running)
    {i : String} {x : RunCore}
    (hx : Function.update v.runs runId (some { r with status := status }) i = some x) :
    x.status ≠ .running := by
  by_cases hi : i = runId
  · subst hi
    rw [Function.update_self] at hx
    cases hx
    exact hstatus
  · rw [Function.update_of_ne hi] at hx
    exact fun hrunning => hi (h.oneRunning _ _ _ _ hx hrun.stored hrunning hrun.running)

theorem setTask (h : v.Sound id) (hid : Canonical "task" id)
    (hlinks : ∀ runId, t.planningRun = some runId ∨ t.implementationRun = some runId
      ∨ t.validationRun = some runId → Canonical "run" runId)
    (haccepted : t.accepted ≠ some 0) : (v.setTask t).Sound id where
  blank ht := by simp at ht
  taskId _ _ := hid
  runIds := h.runIds
  links u hu := by
    cases hu
    exact hlinks
  oneRunning := h.oneRunning
  lockSound := h.lockSound
  lockNames := h.lockNames
  waivers := h.waivers
  planPositive := h.planPositive
  acceptedPositive u hu := by
    cases hu
    exact haccepted

/-- A task may change in everything but its links. -/
theorem setStage (h : v.Sound id) (ht : v.task = some t) {u : TaskCore}
    (hp : u.planningRun = t.planningRun) (hi : u.implementationRun = t.implementationRun)
    (hv : u.validationRun = t.validationRun) (ha : u.accepted = t.accepted) :
    (v.setTask u).Sound id := by
  refine h.setTask (h.taskId t ht) ?_ ?_
  · rw [hp, hi, hv]
    exact h.links t ht
  · rw [ha]
    exact h.acceptedPositive t ht

theorem unlock (h : v.Sound id) : (v.setLock none).Sound id where
  blank ht := ⟨(h.blank ht).1, (h.blank ht).2.1, rfl⟩
  taskId := h.taskId
  runIds := h.runIds
  links := h.links
  oneRunning := h.oneRunning
  lockSound _ hl := by cases hl
  lockNames _ hl := by cases hl
  waivers := h.waivers
  planPositive := h.planPositive
  acceptedPositive := h.acceptedPositive

theorem setLock (h : v.Sound id) {runId : String} {r : RunCore}
    (hr : v.Running runId r r.runType) :
    (v.setLock (some ⟨r.runType, runId, true⟩)).Sound id where
  blank ht := by
    obtain ⟨t, ht'⟩ := h.task_of_run hr.stored
    simp [ht'] at ht
  taskId := h.taskId
  runIds := h.runIds
  links := h.links
  oneRunning := h.oneRunning
  lockSound l hl := by
    cases hl
    rfl
  lockNames l hl := by
    cases hl
    exact ⟨r, hr.stored, rfl, hr.running⟩
  waivers := h.waivers
  planPositive := h.planPositive
  acceptedPositive := h.acceptedPositive

theorem setPlans (h : v.Sound id) (ht : v.task = some t) {plans : Nat → Option PlanCore}
    (hplans : plans 0 = none) : View.Sound id { v with plans := plans } where
  blank ht' := by simp [ht] at ht'
  taskId := h.taskId
  runIds := h.runIds
  links := h.links
  oneRunning := h.oneRunning
  lockSound := h.lockSound
  lockNames := h.lockNames
  waivers := h.waivers
  planPositive := hplans
  acceptedPositive := h.acceptedPositive

theorem setPlan (h : v.Sound id) (ht : v.task = some t) {n : Nat} (hn : 0 < n) (p : PlanCore) :
    (v.setPlan n p).Sound id :=
  h.setPlans ht (by rw [Function.update_of_ne hn.ne, h.planPositive])

theorem planPos (h : v.Sound id) {n : Nat} {p : PlanCore} (hp : v.plans n = some p) : 0 < n := by
  refine Nat.pos_of_ne_zero ?_
  rintro rfl
  simp [h.planPositive] at hp

/-- The plans of an approval. -/
theorem approve (h : v.Sound id) (ht : v.task = some t) {n : Nat} {p : PlanCore}
    (hp : v.plans n = some p) {u : TaskCore} (hplan : u.planningRun = t.planningRun)
    (himpl : u.implementationRun = t.implementationRun)
    (hval : u.validationRun = t.validationRun) (ha : u.accepted = some n) :
    (v.approve n u).Sound id := by
  refine (h.setPlans ht (by simp [h.planPositive])).setTask (h.taskId t ht) ?_ ?_
  · rw [hplan, himpl, hval]
    exact h.links t ht
  · rw [ha, ne_eq, Option.some.injEq]
    exact (h.planPos hp).ne'

/-- A run that is not running may be written under a free lock. -/
theorem setRun (h : v.Sound id) (ht : v.task = some t) (hlock : v.lock = none) {runId : String}
    {r : RunCore} (hid : Canonical "run" runId) (hr : r.status ≠ .running)
    (hw : r.waiversPass = true) : (v.setRun runId r).Sound id where
  blank ht' := by simp [ht] at ht'
  taskId := h.taskId
  runIds i r' hi := by
    rw [setRun_runs, Function.update_apply] at hi
    split at hi
    · rename_i heq
      exact heq ▸ hid
    · exact h.runIds i r' hi
  links := h.links
  oneRunning i j ri rj hi hj hri hrj := by
    rw [setRun_runs, Function.update_apply] at hi hj
    split at hi
    · cases hi
      exact absurd hri hr
    · split at hj
      · cases hj
        exact absurd hrj hr
      · exact h.oneRunning i j ri rj hi hj hri hrj
  lockSound := h.lockSound
  lockNames l hl := by simp [hlock] at hl
  waivers i r' hi := by
    rw [setRun_runs, Function.update_apply] at hi
    split at hi
    · cases hi
      exact hw
    · exact h.waivers i r' hi
  planPositive := h.planPositive
  acceptedPositive := h.acceptedPositive

/-- A run under a new id that is not running may be written under any lock. -/
theorem addRun (h : v.Sound id) (ht : v.task = some t) {runId : String} {r : RunCore}
    (hid : Canonical "run" runId) (hfree : v.runs runId = none) (hr : r.status ≠ .running)
    (hw : r.waiversPass = true) : (v.setRun runId r).Sound id := by
  have hfreed := h.unlock.setRun ht rfl hid hr hw
  refine { hfreed with lockSound := h.lockSound, blank := ?_, lockNames := ?_ }
  · intro ht'
    simp [ht] at ht'
  · intro l hl
    obtain ⟨r', hr', hl'⟩ := h.lockNames l hl
    refine ⟨r', ?_, hl'⟩
    rw [setRun_runs, Function.update_of_ne, hr']
    rintro heq
    simp [heq, hfree] at hr'

/-- Stopping a running run takes the lock with it. -/
theorem stop (h : v.Sound id) (ht : v.task = some t) {runId : String} {r : RunCore}
    (hr : v.runs runId = some r) {status : RunStatus} (hs : status ≠ .running) {u : TaskCore}
    (hp : u.planningRun = t.planningRun) (hi : u.implementationRun = t.implementationRun)
    (hv : u.validationRun = t.validationRun) (ha : u.accepted = t.accepted) :
    (v.stop runId r status u).Sound id :=
  (h.unlock.setRun (r := { r with status := status }) ht rfl (h.runIds _ _ hr) hs
    (h.waivers runId r hr)).setStage ht hp hi hv ha

theorem regenerate (h : v.Sound id) (ht : v.task = some t)
    {finish : Option (String × RunCore)} {previous : Option (Nat × PlanCore)} {n : Nat}
    {p : PlanCore} (hfinish : v.ToFinish finish) (hn : 0 < n)
    (hprevious : ∀ m q, previous = some (m, q) → 0 < m) {u : TaskCore}
    (hplan : u.planningRun = t.planningRun) (himpl : u.implementationRun = t.implementationRun)
    (hval : u.validationRun = t.validationRun) (ha : u.accepted = t.accepted) :
    (v.regenerate n p previous finish u).Sound id := by
  have hplans : demote previous (Function.update v.plans n (some p)) 0 = none := by
    have hnew : Function.update v.plans n (some p) 0 = none := by
      rw [Function.update_of_ne hn.ne, h.planPositive]
    unfold demote
    split
    · split
      · rw [Function.update_of_ne (hprevious _ _ rfl).ne, hnew]
      · exact hnew
    · exact hnew
  rcases finish with _ | ⟨runId, r⟩
  · exact (h.unlock.setStage ht hplan himpl hval ha).setPlans rfl hplans
  · exact (h.stop ht hfinish.stored (by decide) hplan himpl hval ha).setPlans rfl hplans

/-- Starting a run on an idle task. -/
theorem start (h : v.Sound id) (ht : v.task = some t) (hidle : v.Idle) {runId : String}
    {r : RunCore} {runType : RunType} (hrun : Lifecycle.NewRun v runId r runType) {u : TaskCore}
    (hlinks : ∀ i, u.planningRun = some i ∨ u.implementationRun = some i
      ∨ u.validationRun = some i → Canonical "run" i)
    (ha : u.accepted = t.accepted) : (v.start runId r u).Sound id where
  blank ht' := by simp [View.start] at ht'
  taskId _ _ := h.taskId t ht
  runIds i r' hi := by
    simp only [View.start, setTask_runs, setLock_runs, setRun_runs, Function.update_apply] at hi
    split at hi
    · rename_i heq
      exact heq ▸ hrun.canonical
    · exact h.runIds i r' hi
  links u' hu' := by
    cases hu'
    exact hlinks
  oneRunning i j ri rj hi hj hri hrj := by
    simp only [View.start, setTask_runs, setLock_runs, setRun_runs, Function.update_apply] at hi hj
    split at hi <;> split at hj
    · rename_i hi' hj'
      rw [hi', hj']
    · exact absurd hrj (hidle.stopped j rj hj)
    · exact absurd hri (hidle.stopped i ri hi)
    · exact h.oneRunning i j ri rj hi hj hri hrj
  lockSound l hl := by
    cases hl
    rfl
  lockNames l hl := by
    cases hl
    exact ⟨r, by simp [View.start], rfl, hrun.running⟩
  waivers i r' hi := by
    simp only [View.start, setTask_runs, setLock_runs, setRun_runs, Function.update_apply] at hi
    split at hi
    · cases hi
      exact hrun.waivers
    · exact h.waivers i r' hi
  planPositive := h.planPositive
  acceptedPositive u' hu' := by
    cases hu'
    rw [ha]
    exact h.acceptedPositive t ht

end View.Sound

namespace Lifecycle

omit [Runtime] in
theorem verdictStatus_ne_running (result : ValidationResult) : verdictStatus result ≠ .running := by
  cases result <;> decide

/-- Every move keeps views sound. -/
theorem Move.sound {label : Label} (h : v.Sound id) (m : Move id label v w) : w.Sound id := by
  cases m with
  | create hid hfree => exact h.setTask hid (by simp [newCore]) (by simp [newCore])
  | record hid hfree => exact h.setTask hid (by simp [newCore]) (by simp [newCore])
  | addFinished ht htype hid hfree hr hw =>
    exact h.addRun ht hid hfree (by simp [hr]) hw
  | @link v t impl val ht htype himpl hval =>
    refine h.setTask (h.taskId t ht) ?_ (h.acceptedPositive t ht)
    rintro i (hi | hi | hi)
    · exact h.links t ht i (.inl hi)
    · cases hi
      exact himpl
    · exact hval i hi
  | @startPlanning v t runId r ht hstage hidle hrun =>
    refine h.start ht hidle hrun ?_ rfl
    rintro i (hi | hi)
    · cases hi
      exact hrun.canonical
    · exact h.links t ht i (.inr hi)
  | @propose v t runId r n listed ht hstage hrun hnew =>
    exact (h.setPlan ht hnew.positive _).stop ht hrun.stored (by decide) rfl rfl rfl rfl
  | @regenerate v t finish previous n listed ht hfinish hnew hprevious =>
    exact h.regenerate ht hfinish hnew.positive
      (fun m q hm => h.planPos (hprevious m q hm).stored) rfl rfl rfl rfl
  | approve ht hstage hidle hplan hlisted hproposed =>
    exact h.approve ht hplan rfl rfl rfl rfl
  | reject ht hstage hlatest => exact h.setPlan ht (h.planPos hlatest.stored) _
  | @startImplementation v t runId r n ht hstage haccepted hidle hrun hversion =>
    refine h.start ht hidle hrun ?_ rfl
    rintro i (hi | hi | hi)
    · exact h.links t ht i (.inl hi)
    · cases hi
      exact hrun.canonical
    · exact h.links t ht i (.inr (.inr hi))
  | @resume v t runId r n ht hstage haccepted hlock hrun =>
    have hsound := h.setLock (r := r) ⟨hrun.stored, rfl, hrun.running⟩
    rw [hrun.ofType] at hsound
    refine hsound.setTask (h.taskId t ht) ?_ (h.acceptedPositive t ht)
    rintro i (hi | hi | hi)
    · exact h.links t ht i (.inl hi)
    · cases hi
      exact h.runIds _ _ hrun.stored
    · exact h.links t ht i (.inr (.inr hi))
  | finishImplementation ht hlatest hrun =>
    exact h.stop ht hrun.stored (by decide) rfl rfl rfl rfl
  | @startValidation v t runId impl r ri ht hstage himpl hfinished hidle hrun hbased =>
    refine h.start ht hidle hrun ?_ rfl
    rintro i (hi | hi | hi)
    · exact h.links t ht i (.inl hi)
    · exact h.links t ht i (.inr (.inl hi))
    · cases hi
      exact hrun.canonical
  | finishValidation ht hlatest hrun =>
    exact h.stop ht hrun.stored (verdictStatus_ne_running _) rfl rfl rfl rfl
  | @cancel v t ht hstage =>
    exact (h.setStage (u := { t with stage := .cancelled }) ht rfl rfl rfl rfl).unlock
  | uncancel ht hstage hlock htarget => exact h.setStage ht rfl rfl rfl rfl
  | archive ht harchived hstage => exact h.setStage ht rfl rfl rfl rfl
  | unarchive ht harchived hstage => exact h.setStage ht rfl rfl rfl rfl
  | dropLock => exact h.unlock
  | @repairRun v runId r hlock hrun =>
    obtain ⟨t, ht⟩ := h.task_of_run hrun.stored
    exact h.setRun ht hlock (h.runIds _ _ hrun.stored) (by simp) (h.waivers runId r hrun.stored)

end Lifecycle

end Taskledger
