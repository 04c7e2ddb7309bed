import Taskledger.Lifecycle.Walks

/-!
# Moves of the task lifecycle

Tasks are created, recorded, cancelled, uncancelled, archived and repaired.
-/

namespace Taskledger

open Library Action Lifecycle

variable [Runtime] {env : Env} {P : Label → View → Prop} {id : String} {s : Ledger}
  {ref : String}

-- ════════════════════════════════════════════════════════════════════════
-- New ids
-- ════════════════════════════════════════════════════════════════════════

theorem le_maxTaskNumber {ids : List String} {taskId : String} (h : taskId ∈ ids) {n : Nat}
    (hn : Runtime.parseNumber "task" taskId = some n) : n ≤ maxTaskNumber ids := by
  have hmem : n ∈ ids.filterMap (Runtime.parseNumber "task") :=
    List.mem_filterMap.2 ⟨taskId, h, hn⟩
  have hfold (l : List Nat) (init : Nat) :
      init ≤ l.foldl max init ∧ ∀ m ∈ l, m ≤ l.foldl max init := by
    induction l generalizing init with
    | nil => simp
    | cons m rest ih =>
      obtain ⟨hle, hrest⟩ := ih (max init m)
      refine ⟨(le_max_left _ _).trans hle, List.forall_mem_cons.2 ⟨(le_max_right _ _).trans hle, hrest⟩⟩
  exact (hfold _ 0).2 n hmem

/-- An allocated id is canonical and not among the existing ones. -/
theorem allocateLedgerTaskId_fresh (ids : List String) (counter : Nat) :
    Canonical "task" (allocateLedgerTaskId ids counter).1 ∧
      (allocateLedgerTaskId ids counter).1 ∉ ids := by
  refine ⟨⟨_, rfl⟩, fun hmem => ?_⟩
  have hle := le_maxTaskNumber hmem (Runtime.parseNumber_formatId "task" (by decide) _)
  omega

/-- The identity of a new task is taken, or nothing is written. -/
theorem sat_newTaskIdentity {α : Type} {slug : Option String} {title : String}
    {k : String × String → LedgerAction α} {Q : Except Raised α → Ledger → Prop}
    (herr : ∀ e, Q (.error e) s)
    (hk : ∀ taskId taskSlug s', Canonical "task" taskId → (s.view taskId).task = none →
      s'.view = s.view → (k (taskId, taskSlug)).Sat s' Q) :
    (newTaskIdentity slug title >>= k).Sat s Q := by
  refine Sat.bind (P := fun r s' => match r with
    | .error _ => s' = s
    | .ok (taskId, _) =>
      Canonical "task" taskId ∧ (s.view taskId).task = none ∧ s'.view = s.view) ?_ ?_ ?_
  · refine Sat.query (fun _ _ => rfl) fun all hall => Sat.query (fun _ _ => rfl) fun visible _ => ?_
    refine Sat.bind (P := fun r s' => s'.view = s.view ∧
      r = .ok (allocateLedgerTaskId (all.map TaskRecord.id) s.nextTaskNumber).1) ?_ ?_ ?_
    · refine ⟨?_, rfl⟩
      show (if _ then s.putCounter _ else s).view = s.view
      split <;> rfl
    · rintro e s' ⟨-, h⟩
      cases h
    · rintro taskId s' ⟨hview, h⟩
      cases h
      obtain ⟨hcan, hfresh⟩ := allocateLedgerTaskId_fresh (all.map TaskRecord.id) s.nextTaskNumber
      exact Sat.pure ⟨hcan, view_freeTask hall hfresh, hview⟩
  · rintro e _ rfl
    exact herr e
  · rintro ⟨taskId, taskSlug⟩ s' ⟨hcan, hfree, hview⟩
    exact hk taskId taskSlug s' hcan hfree hview

-- ════════════════════════════════════════════════════════════════════════
-- Creating
-- ════════════════════════════════════════════════════════════════════════

section Create

variable {P : String → Label → View → Prop}

/-- A new task is saved under its new id. -/
theorem walked_saveNew {α : Type} {s₁ : Ledger} {task : TaskRecord} {l : Label}
    {k : Unit → LedgerAction α} {c : TaskCore} (hview : s₁.view = s.view) (hcore : task.core = c)
    (hp : P task.id l (s.view task.id))
    (hm : Move task.id l (s.view task.id) ((s.view task.id).setTask c))
    (hk : ∀ s₂, s₂.view = Function.update s.view task.id ((s.view task.id).setTask c) →
      Walked (P task.id) s.view task.id true s₂ →
      (k ()).Sat s₂ fun _ s' => Walked (P task.id) s.view task.id true s') :
    (saveTask task >>= k).Sat s₁ fun _ s' => ∃ id, Walked (P id) s.view id true s' := by
  have hview₂ : (s₁.putTask task).view =
      Function.update s.view task.id ((s.view task.id).setTask c) := by
    rw [Ledger.view_putTask, hview, hcore]
  exact Sat.write ((hk _ hview₂ (.one hp hm hview₂)).mono fun _ _ h => ⟨task.id, h⟩)

theorem walked_createTask {request : TaskRequest} (hP : ∀ id v, P id .create v) :
    (createTask env request).Sat s fun _ s' => ∃ id, Walked (P id) s.view id true s' := by
  refine sat_newTaskIdentity (fun _ => ⟨"", .stay⟩) fun taskId taskSlug s₁ hcan hfree hview => ?_
  refine walked_saveNew (c := newCore .draft .managed) hview rfl (hP _ _) (.create hcan hfree)
    fun s₂ _ h => sat_tail ?_ h
  exact Frozen.event fun _ => Keeps.query fun _ _ _ _ => Keeps.pure

theorem keeps_activateFollowUp {V : String → View} (child : TaskRecord)
    (request : FollowUpRequest) : Keeps (Frozen V) (activateFollowUp env child request) := by
  unfold activateFollowUp
  split
  · exact Keeps.bind (keeps_activateTask _ _ _ _) fun _ => Keeps.pure
  · exact Keeps.pure

theorem walked_createFollowUpTask {request : FollowUpRequest} (hP : ∀ id v, P id .create v) :
    (createFollowUpTask env ref request).Sat s fun _ s' => ∃ id, Walked (P id) s.view id true s' := by
  have hstay : ∃ id, Walked (P id) s.view id true s := ⟨"", .stay⟩
  refine Sat.query (fun _ _ => hstay) fun found _ => Sat.query (fun _ _ => hstay) fun parent _ =>
    Sat.except (fun _ _ => hstay) fun _ _ => Sat.except (fun _ _ => hstay) fun _ _ => ?_
  refine sat_newTaskIdentity (fun _ => hstay) fun taskId taskSlug s₁ hcan hfree hview => ?_
  refine walked_saveNew (c := newCore .draft .managed) hview rfl (hP _ _) (.create hcan hfree)
    fun s₂ _ h => sat_tail ?_ h
  exact Keeps.bind (Keeps.onlyIf fun _ => keeps_aside fun _ => rfl) fun _ => Frozen.event fun _ =>
    Frozen.event fun _ => Keeps.query fun _ _ _ _ => Keeps.bind (keeps_activateFollowUp _ _)
      fun _ => Keeps.pure

-- ════════════════════════════════════════════════════════════════════════
-- Recording
-- ════════════════════════════════════════════════════════════════════════

/-- A finished run under a new id is saved with a recorded task. -/
theorem walked_saveFinished {f : String → View} {t : TaskCore} {run : TaskRunRecord}
    (h : Walked (P id) f id true s) (ht : (s.view id).task = some t) (htype : t.taskType = .recorded)
    (hid : Canonical "run" run.runId) (hfree : (s.view id).runs run.runId = none)
    (hrun : run.status = .finished ∧ run.checks = [] ∧ run.taskId = id)
    (hP : ∀ v, P id .addFinished v) :
    Walked (P id) f id true (s.putRun run) ∧
      (s.putRun run).view = Function.update s.view id ((s.view id).setRun run.runId run.core) := by
  obtain ⟨hstatus, hchecks, rfl⟩ := hrun
  have hview := Ledger.view_putRun s run
  refine ⟨h.quietly (l := .addFinished) trivial (hP _) (.addFinished ht htype hid hfree hstatus ?_)
    hview, hview⟩
  simp [TaskRunRecord.core, hchecks]

theorem recordedValidation?_eq_some {task : TaskRecord} {impl val : TaskRunRecord}
    {runIds : List String} {request : RecordRequest}
    (h : recordedValidation? env task impl runIds request = some val) :
    val.runId = Runtime.nextId "run" runIds ∧
      val.status = .finished ∧ val.checks = [] ∧ val.taskId = task.id := by
  unfold recordedValidation? at h
  split at h
  · cases h
  · cases h
    exact ⟨rfl, rfl, rfl, rfl⟩

/-- What the writing of a recorded task's runs and changes leaves. -/
structure WorkRecorded (P : String → Label → View → Prop) (f : String → View) (id : String)
    (s : Ledger) (w : RecordedWork) : Prop where
  walked : Walked (P id) f id true s
  task : (s.view id).task = some (newCore .done .recorded)
  implementation : Canonical "run" w.implementation.runId
  validation : ∀ run, w.validation = some run → Canonical "run" run.runId

theorem sat_recordWork {f : String → View} {task : TaskRecord} {request : RecordRequest}
    (h : Walked (P task.id) f task.id true s)
    (ht : (s.view task.id).task = some (newCore .done .recorded))
    (hP : ∀ v, P task.id .addFinished v) :
    (recordWork env task request).Sat s fun r s' => match r with
      | .error _ => Walked (P task.id) f task.id true s'
      | .ok w => WorkRecorded P f task.id s' w := by
  refine Sat.query (fun _ _ => h) fun runs hruns => Sat.write ?_
  have himpl := canonical_nextId "run" (runs.map TaskRunRecord.runId)
  have hnew := Runtime.nextId_fresh "run" (runs.map TaskRunRecord.runId)
  generalize hi : recordedImplementation env (Runtime.nextId "run" (runs.map TaskRunRecord.runId))
    task request = impl
  have hid : impl.runId = Runtime.nextId "run" (runs.map TaskRunRecord.runId) := hi ▸ rfl
  obtain ⟨h₁, hv₁⟩ := walked_saveFinished h ht rfl (hid ▸ himpl)
    (hid ▸ view_freeRun hruns hnew) (hi ▸ ⟨rfl, rfl, rfl⟩) hP
  have hfiled : impl.taskId = task.id := hi ▸ rfl
  have hcan : Canonical "run" impl.runId := hid ▸ himpl
  refine Sat.query (fun _ _ => h₁) fun known _ => ?_
  refine sat_frozen (Keeps.each fun _ _ => keeps_aside fun _ => rfl)
    (fun _ s₂ hv₂ => h₁.of_view hv₂) fun _ s₂ hv₂ => ?_
  have hv₂' := hv₂.trans hv₁
  have himplRun : (s₂.view impl.taskId).runs impl.runId = some impl.core := by
    rw [hfiled, hv₂']
    simp
  refine sat_frozen (Keeps.onlyIf fun _ => keeps_saveRun himplRun)
    (fun _ s₃ hv₃ => h₁.of_view (hv₃.trans hv₂)) fun _ s₃ hv₃ => ?_
  have h₃ := h₁.of_view (hv₃.trans hv₂)
  have hv₃' := hv₃.trans hv₂'
  have ht₃ : (s₃.view task.id).task = some (newCore .done .recorded) := by
    rw [hv₃', Function.update_self]
    exact ht
  generalize hv : recordedValidation? env task impl
    (runs.map TaskRunRecord.runId ++ [impl.runId]) request = validation
  cases validation with
  | none =>
    have hnone : ∀ run, (none : Option TaskRunRecord) = some run → Canonical "run" run.runId := by
      simp
    exact Sat.pure ⟨h₃, ht₃, hcan, hnone⟩
  | some val =>
    obtain ⟨hvid, hvrun⟩ := recordedValidation?_eq_some hv
    have hval := canonical_nextId "run" (runs.map TaskRunRecord.runId ++ [impl.runId])
    have hnewval := Runtime.nextId_fresh "run" (runs.map TaskRunRecord.runId ++ [impl.runId])
    rw [← hvid, List.mem_append, List.mem_singleton, not_or] at hnewval
    have hvfree : (s₃.view task.id).runs val.runId = none := by
      rw [hv₃', Function.update_self, View.setRun_runs, Function.update_of_ne hnewval.2]
      exact view_freeRun hruns hnewval.1
    obtain ⟨h₄, hv₄⟩ := walked_saveFinished h₃ ht₃ rfl (hvid ▸ hval) hvfree hvrun hP
    have ht₄ : ((s₃.putRun val).view task.id).task = some (newCore .done .recorded) := by
      rw [hv₄, Function.update_self]
      exact ht₃
    have hsome : ∀ run, some val = some run → Canonical "run" run.runId := by
      rintro run ⟨⟩
      exact hvid ▸ hval
    exact Sat.write (Sat.pure ⟨h₄, ht₄, hcan, hsome⟩)

theorem walked_recordCompletedTask {request : RecordRequest}
    (hP : ∀ id v l, (s.view id).task = none → l ∈ [Label.record, .addFinished, .link] → P id l v) :
    (recordCompletedTask env request).Sat s fun _ s' => ∃ id, Walked (P id) s.view id true s' := by
  refine Sat.except (fun _ _ => ⟨"", .stay⟩) fun _ _ =>
    sat_newTaskIdentity (fun _ => ⟨"", .stay⟩) fun taskId taskSlug s₁ hcan hfree hview => ?_
  refine walked_saveNew (c := newCore .done .recorded) hview rfl
    (hP _ _ _ hfree (by simp))
    (.record hcan hfree) fun s₂ hv₂ h => ?_
  refine Sat.bind (sat_recordWork h (by rw [hv₂, Function.update_self]; rfl)
    fun _ => hP _ _ _ hfree (by simp)) (fun _ _ h => h) fun work s₃ hwork => Sat.write ?_
  obtain ⟨h₃, ht₃, himpl, hval⟩ := hwork
  refine sat_tail ?_ (h₃.quietly (l := .link) trivial (hP _ _ _ hfree (by simp))
    (.link ht₃ rfl himpl ?_) (Ledger.view_putTask _ _))
  · refine Keeps.bind ?_ fun _ => Keeps.query fun _ _ _ _ => Keeps.pure
    exact Frozen.event fun _ => Frozen.event fun _ => Keeps.bind
      (Keeps.each fun _ _ => keeps_appendEvent _ _ _) fun _ => Frozen.event fun _ =>
        Keeps.each fun _ _ => keeps_appendEvent _ _ _
  · rintro runId hrunId
    obtain ⟨run, hr, rfl⟩ := Option.map_eq_some_iff.1 hrunId
    exact hval run hr

end Create

-- ════════════════════════════════════════════════════════════════════════
-- Cancelling
-- ════════════════════════════════════════════════════════════════════════

/-- The task a cancellation writes. -/
def cancelledTask (env : Env) (task : TaskRecord) : TaskRecord :=
  { task with statusStage := .cancelled, updatedAt := utcNow env }

/-- The lock that was read is released and the task is written as cancelled. -/
theorem sat_releaseCancelled {task : TaskRecord} {event : String} {data : Dict} {l : TaskLock}
    (hl : readLock task.id s = .ok (some l)) :
    (releaseLock env task l.runType l.runId .cancelled event data).Sat s fun r s' =>
      r = .ok () ∧ s'.tasks = s.tasks.save (cancelledTask env task) ∧
        s'.view = Function.update s.view task.id
          (((s.view task.id).setTask { task.core with stage := .cancelled }).setLock none) := by
  refine sat_deleteLock hl rfl rfl fun s₁ htasks hview => ⟨rfl, ?_, ?_⟩
  · exact congrArg (fun d => Directory.save d (cancelledTask env task)) htasks
  · refine (Ledger.view_putTask _ _).trans ?_
    simp [hview, Function.update_idem]
    rfl

theorem walked_cancelTask {reason : Option String} (hs : s.Sound)
    (hid : ∀ t, resolveTask ref false s = .ok t → t.id = id) (hP : ∀ v, P .cancel v) :
    (cancelTask env ref reason).Sat s fun _ s' => Walked P s.view id true s' := by
  refine sat_query fun task htask => sat_except fun _ _ => sat_except fun _ hstage =>
    sat_query fun lock hlock => ?_
  obtain rfl := hid task htask
  rw [requireTransition, raiseIf_eq_ok, not_not] at hstage
  have hdone {s' : Ledger} (hv : s'.view = Function.update s.view task.id
      (((s.view task.id).setTask { task.core with stage := .cancelled }).setLock none)) :
      Walked P s.view task.id true s' :=
    .one (l := .cancel) (hP _) (.cancel (view_resolved htask) hstage) hv
  cases lock with
  | none =>
    refine Sat.bind (P := fun r s' => r = .ok task ∧ s = s') ⟨rfl, rfl⟩ ?_ ?_
    · rintro e s' ⟨h, -⟩
      cases h
    · rintro _ _ ⟨h, rfl⟩
      cases h
      refine Sat.write (sat_tail ?_ (hdone ?_))
      · exact Frozen.event fun _ => Keeps.query fun _ _ _ _ => Keeps.pure
      · rw [Ledger.view_putTask]
        exact congrArg _ (View.setLock_self (View.setTask _ (s.view task.id)) none
          (view_unlocked hlock :)).symm
  | some l =>
    refine Sat.bind (P := fun r s' => Walked P s.view task.id true s' ∧ ∀ u, r = .ok u →
      u.id = task.id ∧ (s'.view task.id).task = some { task.core with stage := .cancelled } ∧
        (s'.view u.id).task = some u.core) ?_ (fun _ _ h => h.1) ?_
    · refine Sat.bind (sat_releaseCancelled hlock) (fun e s' h => by cases h.1) ?_
      rintro _ s₁ ⟨-, htasks, hview⟩
      have hu {u : TaskRecord} (h : resolveTask ref false s₁ = .ok u) : u.id = task.id :=
        resolveTask_rewritten (fun v hv => canonical_files hs hv) htask (w := cancelledTask env task)
          rfl rfl rfl htasks h
      have htask₁ : (s₁.view task.id).task = some { task.core with stage := .cancelled } := by
        rw [hview, Function.update_self]
        rfl
      exact ⟨hdone hview, fun u h => ⟨hu h, htask₁, view_resolved h⟩⟩
    · rintro u s₁ ⟨h, hu⟩
      obtain ⟨huid, htask₁, hu₁⟩ := hu u rfl
      have hcore : u.core = { task.core with stage := .cancelled } := by
        rw [huid, htask₁] at hu₁
        exact (Option.some.inj hu₁).symm
      have hsame : (s₁.view u.id).task = some (cancelledTask env u).core := by
        rw [huid, htask₁]
        show some _ = some { u.core with stage := .cancelled }
        rw [hcore]
      exact sat_tail (Frozen.task (t := cancelledTask env u) hsame fun _ => Frozen.event fun _ =>
        Keeps.query fun _ _ _ _ => Keeps.pure) h

-- ════════════════════════════════════════════════════════════════════════
-- Uncancelling
-- ════════════════════════════════════════════════════════════════════════

theorem refuseUncancelled_ne_ok {task : TaskRecord} {u : Unit} :
    refuseUncancelled task s ≠ .ok u := by
  intro h
  obtain ⟨lock, _, h⟩ := Query.bind_eq_ok.1 h
  obtain ⟨resumable, _, h⟩ := Query.bind_eq_ok.1 h
  cases hr : resumable.filter fun _ => task.statusStage = .implementing with
  | some run => rw [hr] at h; cases h
  | none => rw [hr] at h; cases h

theorem refuseCancelledLock_eq_ok {task : TaskRecord} {lock : Option TaskLock} {u : Unit}
    (h : refuseCancelledLock env task lock = .ok u) : lock = none := by
  cases lock with
  | none => rfl
  | some l =>
    obtain ⟨_, _, h⟩ := bind_eq_ok.1 h
    obtain ⟨_, _, h⟩ := bind_eq_ok.1 h
    cases h

/-- A finished implementation run that a task links. -/
theorem view_finishedImplementation {task : TaskRecord} {run : Option TaskRunRecord}
    (hs : s.Sound) (ht : (s.view task.id).task = some task.core)
    (hrun : optionalRun task task.latestImplementationRun s = .ok run)
    (hany : run.any finishedImplementationRun = true) :
    ∃ runId r, task.core.implementationRun = some runId ∧
      (s.view task.id).Implemented runId r := by
  obtain ⟨r, rfl, hr⟩ := (Option.any_eq_true _ _).1 hany
  obtain ⟨hlink, hv, -⟩ := view_optionalRun (fun i hi => (hs _).links _ ht i (.inr (.inl hi))) hrun
  exact ⟨r.runId, r.core, hlink, hv, of_decide_eq_true hr⟩

/-- A failed or blocked validation run that a task links. -/
theorem view_failedValidation {task : TaskRecord} {run : Option TaskRunRecord}
    (hs : s.Sound) (ht : (s.view task.id).task = some task.core)
    (hrun : optionalRun task task.latestValidationRun s = .ok run)
    (hany : run.any failedOrBlocked = true) :
    ∃ runId r, task.core.validationRun = some runId ∧ (s.view task.id).Invalidated runId r := by
  obtain ⟨r, rfl, hr⟩ := (Option.any_eq_true _ _).1 hany
  obtain ⟨hlink, hv, -⟩ := view_optionalRun (fun i hi => (hs _).links _ ht i (.inr (.inr hi))) hrun
  obtain ⟨htype, hstatus, -⟩ := of_decide_eq_true hr
  exact ⟨r.runId, r.core, hlink, hv, htype, hstatus⟩

theorem latestPlanOrNone_eq_ok {taskId : String} {plan : Option PlanRecord}
    (h : latestPlanOrNone taskId s = .ok plan) :
    ∃ plans, listPlans taskId s = .ok plans ∧ plans.getLast? = plan := by
  obtain ⟨plans, hplans, h⟩ := Query.bind_eq_ok.1 h
  exact ⟨plans, hplans, Query.pure_eq_ok.1 h⟩

/-- A validated target has what an uncancelled task must have for it. -/
theorem validateUncancelTarget_eq_ok {task : TaskRecord} {target : TaskStatusStage} {u : Unit}
    (hs : s.Sound) (ht : (s.view task.id).task = some task.core)
    (h : validateUncancelTarget task target s = .ok u) :
    (s.view task.id).Uncancels task.core target := by
  cases target with
  | draft => exact trivial
  | planReview =>
    obtain ⟨latest, hlatest, h⟩ := Query.bind_eq_ok.1 h
    rw [Query.liftM_eq_ok, raiseIf_eq_ok, Bool.not_eq_false] at h
    obtain ⟨p, rfl, hp⟩ := (Option.any_eq_true _ _).1 h
    obtain ⟨plans, hplans, hlast⟩ := latestPlanOrNone_eq_ok hlatest
    exact ⟨p.planVersion, p.core, view_latest hplans hlast, of_decide_eq_true hp⟩
  | approved =>
    obtain ⟨accepted, haccepted, h⟩ := Query.bind_eq_ok.1 h
    rw [Query.liftM_eq_ok, raiseIf_eq_ok] at h
    obtain ⟨p, rfl⟩ := Option.ne_none_iff_exists'.1 h
    exact view_acceptedPlan haccepted
  | implemented =>
    obtain ⟨run, hrun, h⟩ := Query.bind_eq_ok.1 h
    rw [Query.liftM_eq_ok, raiseIf_eq_ok, Bool.not_eq_false] at h
    exact view_finishedImplementation hs ht hrun h
  | failedValidation =>
    obtain ⟨run, hrun, h⟩ := Query.bind_eq_ok.1 h
    obtain ⟨accepted, haccepted, h⟩ := Query.bind_eq_ok.1 h
    obtain ⟨_, hsome, hfailed⟩ := Query.bind_eq_ok.1 h
    rw [Query.liftM_eq_ok, raiseIf_eq_ok] at hsome hfailed
    rw [Bool.not_eq_false] at hfailed
    obtain ⟨p, rfl⟩ := Option.ne_none_iff_exists'.1 hsome
    exact ⟨view_acceptedPlan haccepted, view_failedValidation hs ht hrun hfailed⟩
  | planning => cases h
  | implementing => cases h
  | validating => cases h
  | done => cases h
  | cancelled => cases h

/-- What the checks of an uncancellation have passed. -/
structure Uncancellable (s : Ledger) (ref : String) (task : TaskRecord) (target : TaskStatusStage) :
    Prop where
  found : resolveTask ref false s = .ok task
  stage : task.statusStage = .cancelled
  unlocked : (s.view task.id).lock = none
  target : (s.view task.id).Uncancels task.core target

theorem uncancellationOf_eq_ok {targetStage : Option String} {reason : String} {actor : ActorRef}
    {allowAgent : Bool} {task : TaskRecord} {target : TaskStatusStage} (hs : s.Sound)
    (h : uncancellationOf env ref targetStage reason actor allowAgent s = .ok (task, target)) :
    Uncancellable s ref task target := by
  obtain ⟨t, ht, h⟩ := Query.bind_eq_ok.1 h
  obtain ⟨_, _, h⟩ := Query.bind_eq_ok.1 h
  have hstage : t.statusStage = .cancelled := by
    by_contra hne
    simp only [ne_eq, hne, not_false_eq_true, if_true] at h
    obtain ⟨_, hrefused, -⟩ := Query.bind_eq_ok.1 h
    exact refuseUncancelled_ne_ok hrefused
  simp only [hstage, ne_eq, not_true, if_false] at h
  obtain ⟨lock, hlock, h⟩ := Query.bind_eq_ok.1 h
  obtain ⟨_, hfree, h⟩ := Query.bind_eq_ok.1 h
  iterate 2 obtain ⟨_, _, h⟩ := Query.bind_eq_ok.1 h
  obtain ⟨chosen, _, h⟩ := Query.bind_eq_ok.1 h
  obtain ⟨_, _, h⟩ := Query.bind_eq_ok.1 h
  obtain ⟨_, hvalid, h⟩ := Query.bind_eq_ok.1 h
  cases Query.pure_eq_ok.1 h
  cases refuseCancelledLock_eq_ok hfree
  exact ⟨ht, hstage, view_unlocked hlock,
    validateUncancelTarget_eq_ok hs (view_resolved ht) hvalid⟩

theorem walked_uncancelTask {targetStage : Option String} {reason : String}
    {actor : Option ActorRef} {allowAgent : Bool} (hs : s.Sound)
    (hid : ∀ t, resolveTask ref false s = .ok t → t.id = id)
    (hP : ∀ task target, uncancellationOf env ref targetStage reason
      (actor.getD (defaultActor env)) allowAgent s = .ok (task, target) → task.id = id →
      P (.uncancel target) (s.view id)) :
    (uncancelTask env ref targetStage reason actor allowAgent).Sat s
      fun _ s' => Walked P s.view id true s' := by
  refine sat_query fun uncancellation h => ?_
  obtain ⟨task, target⟩ := uncancellation
  obtain ⟨hfound, hstage, hlock, htarget⟩ := uncancellationOf_eq_ok hs h
  obtain rfl := hid _ hfound
  refine Sat.write (sat_tail ?_ (.one (l := .uncancel target) (hP _ _ h rfl)
    (.uncancel (view_resolved hfound) hstage hlock htarget) (Ledger.view_putTask _ _)))
  exact Frozen.event fun _ => Keeps.query fun _ _ _ _ => Keeps.pure

-- ════════════════════════════════════════════════════════════════════════
-- Archiving
-- ════════════════════════════════════════════════════════════════════════

theorem checkArchive_eq_ok {task : TaskRecord} {force : Bool} {u : Unit}
    (h : checkArchive env task force s = .ok u) : task.statusStage ∉ activeTaskStages := by
  obtain ⟨_, _, h⟩ := Query.bind_eq_ok.1 h
  obtain ⟨_, _, h⟩ := Query.bind_eq_ok.1 h
  obtain ⟨_, hstage, _⟩ := Query.bind_eq_ok.1 h
  rwa [Query.liftM_eq_ok, raiseIf_eq_ok] at hstage

theorem keeps_clearArchivedPointer {V : String → View} (task : TaskRecord) :
    Keeps (Frozen V) (clearArchivedPointer task) := by
  refine Keeps.query fun state _ _ _ => ?_
  split
  · exact keeps_clearActiveTaskState
  · exact Keeps.pure

theorem walked_archiveTask {reason : String} {force : Bool}
    (hid : ∀ t, resolveTask ref false s = .ok t → t.id = id) (hP : ∀ v, P .archive v) :
    (archiveTask env ref reason force).Sat s fun _ s' => Walked P s.view id true s' := by
  refine sat_except fun _ _ => sat_query fun task htask => ?_
  obtain rfl := hid task htask
  split
  · exact Sat.pure .stay
  · rename_i harchived
    refine sat_query fun _ hcheck => Sat.write (sat_tail ?_ (.one (l := .archive) (hP _)
      (.archive (view_resolved htask) (Bool.eq_false_iff.2 harchived) (checkArchive_eq_ok hcheck))
      (Ledger.view_putTask _ _)))
    exact Keeps.bind (keeps_clearArchivedPointer _) fun _ => Frozen.event fun _ =>
      Keeps.query fun _ _ _ _ => Keeps.pure

/-- What an unarchived task is written with. -/
theorem core_unarchivedTask (task : TaskRecord) (slug : String) (reopen : Bool) :
    (unarchivedTask env task slug reopen).core =
      { task.core with archived := false, stage := unarchivedStage reopen task.statusStage } := by
  have hstage : unarchiveTarget task reopen = unarchivedStage reopen task.statusStage := by
    simp [unarchiveTarget, unarchivedStage, staleValidationBlocked]
  exact congrArg (fun stage => TaskCore.mk stage task.taskType false task.acceptedPlanVersion
    task.latestPlanningRun task.latestImplementationRun task.latestValidationRun) hstage

theorem walked_unarchiveTask {reason : String} {slug : Option String} {reopen : Bool}
    (hid : ∀ t, resolveTask ref true s = .ok t → t.id = id)
    (hP : ∀ task, resolveTask ref true s = .ok task → task.id = id →
      P (.unarchive reopen) (s.view id)) :
    (unarchiveTask env ref reason slug reopen).Sat s fun _ s' => Walked P s.view id true s' := by
  refine sat_except fun _ _ => sat_query fun task htask => ?_
  obtain rfl := hid task htask
  split
  · rename_i harchived
    refine sat_except fun _ hstage => sat_query fun _ _ => sat_except fun _ _ => Sat.write ?_
    rw [raiseIf_eq_ok, not_and, Bool.not_eq_false] at hstage
    refine sat_tail ?_ (.one (l := .unarchive reopen) (hP task htask rfl)
      (.unarchive (view_resolved htask) harchived hstage) ?_)
    · exact Frozen.event fun _ => Keeps.query fun _ _ _ _ => Keeps.pure
    · rw [Ledger.view_putTask, core_unarchivedTask]
      rfl
  · exact Sat.pure .stay

-- ════════════════════════════════════════════════════════════════════════
-- Breaking locks and repairing runs
-- ════════════════════════════════════════════════════════════════════════

theorem walked_breakLock {b : Bool} {reason : String}
    (hid : ∀ t, resolveTask ref false s = .ok t → t.id = id) (hP : ∀ v, P .dropLock v) :
    (breakLock env ref reason).Sat s fun _ s' => Walked P s.view id b s' := by
  refine sat_query fun task htask => sat_query fun lock _ => ?_
  obtain rfl := hid task htask
  cases lock with
  | none => exact Sat.throw .stay
  | some l =>
    refine Sat.write (sat_event fun s₁ _ hv₁ => sat_event fun s₂ _ hv₂ => Sat.write ?_)
    refine sat_tail (Keeps.query fun _ _ _ _ => Keeps.pure)
      (.oneQuiet (l := .dropLock) trivial (hP _) .dropLock ?_)
    rw [Ledger.view_dropLock, hv₂, hv₁]
    rfl

theorem refuseRepairLock_eq_ok {task : TaskRecord} {run : TaskRunRecord} {lock : Option TaskLock}
    {u : Unit} (h : refuseRepairLock env task run lock = .ok u) : lock = none := by
  obtain ⟨_, _, h⟩ := bind_eq_ok.1 h
  obtain ⟨_, _, h⟩ := bind_eq_ok.1 h
  cases lock with
  | none => rfl
  | some l => cases h

/-- The checks of a run repair. -/
theorem runRepairOf_checks {runId : Option String} {reason : String} {task : TaskRecord}
    {run : TaskRunRecord} : runRepairOf env ref runId reason s = .ok (task, run) ↔
      Text.isBlank reason = false ∧ resolveTask ref false s = .ok task ∧
        requireRun task (orOption runId task.latestPlanningRun) s = .ok run ∧
        run.runType = .planning ∧ run.status = .running ∧ readLock task.id s = .ok none := by
  simp only [runRepairOf, Query.bind_eq_ok, Query.liftM_eq_ok, raiseIf_eq_ok, Query.pure_eq_ok]
  constructor
  · rintro ⟨_, hreason, t, ht, r, hr, _, htype, _, hstatus, lock, hlock, _, hfree, hp⟩
    cases hp
    cases refuseRepairLock_eq_ok hfree
    exact ⟨by simpa using hreason, ht, hr, not_not.1 htype, not_not.1 hstatus, hlock⟩
  · rintro ⟨hreason, ht, hr, htype, hstatus, hlock⟩
    exact ⟨(), by simp [hreason], task, ht, run, hr, (), not_not.2 htype, (), not_not.2 hstatus,
      none, hlock, (), rfl, rfl⟩

theorem runRepairOf_eq_ok {runId : Option String} {reason : String} {task : TaskRecord}
    {run : TaskRunRecord} (h : runRepairOf env ref runId reason s = .ok (task, run)) :
    resolveTask ref false s = .ok task ∧ (s.view task.id).lock = none ∧
      (s.view task.id).Running run.runId run.core .planning ∧ run.taskId = task.id := by
  obtain ⟨-, ht, hr, htype, hstatus, hlock⟩ := runRepairOf_checks.1 h
  obtain ⟨i, -, hresolved⟩ := requireRun_eq_ok hr
  obtain ⟨hv, hfiled⟩ := view_run hresolved
  exact ⟨ht, view_unlocked hlock, ⟨hv, htype, hstatus⟩, hfiled⟩

theorem walked_repairOrphanedPlanningRun {b : Bool} {runId : Option String} {reason : String}
    (hid : ∀ t, resolveTask ref false s = .ok t → t.id = id) (hP : ∀ v, P .repairRun v) :
    (repairOrphanedPlanningRun env ref runId reason).Sat s
      fun _ s' => Walked P s.view id b s' := by
  refine sat_query fun repair h => ?_
  obtain ⟨task, run⟩ := repair
  obtain ⟨hfound, hlock, hrunning, hfiled⟩ := runRepairOf_eq_ok h
  obtain rfl := hid _ hfound
  refine Sat.write (sat_tail ?_ (.oneQuiet (l := .repairRun) trivial (hP _)
    (.repairRun hlock hrunning) ?_))
  · exact Frozen.event fun _ => Keeps.query fun _ _ _ _ => Keeps.pure
  · rw [Ledger.view_putRun]
    simp [hfiled]
    rfl

end Taskledger
