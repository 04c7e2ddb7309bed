import Taskledger.Lifecycle.Walks

/-!
# Moves of the implementation and validation flows
-/

namespace Taskledger

open Library Action Lifecycle

variable [Runtime] {env : Env} {P : Label → View → Prop} {id : String} {s : Ledger}
  {ref : String}

-- ════════════════════════════════════════════════════════════════════════
-- Starting an implementation
-- ════════════════════════════════════════════════════════════════════════

/-- A run started for an accepted plan is read with that plan's version. -/
theorem version_of_started {s' : Ledger} {task : TaskRecord} {runType : RunType}
    {run : TaskRunRecord} {n : Nat} (hs : s.Sound)
    (ht : (s.view task.id).task = some task.core) (haccepted : (s.view task.id).Accepted task.core n)
    (h : Started s s' task runType run) : run.core.planVersion = some n := by
  have hn : task.acceptedPlanVersion = some n := haccepted.recorded
  cases n with
  | zero => exact absurd hn ((hs _).acceptedPositive _ ht)
  | succ m =>
    show run.readPlanVersion = some (m + 1)
    rw [TaskRunRecord.readPlanVersion, h.version, hn]
    rfl

theorem implementationStartOf_eq_ok {task : TaskRecord}
    (h : implementationStartOf ref s = .ok task) :
    resolveTask ref false s = .ok task ∧ task.statusStage ∈ implementableTaskStages ∧
      ∃ n, (s.view task.id).Accepted task.core n := by
  obtain ⟨t, ht, h⟩ := Query.bind_eq_ok.1 h
  obtain ⟨_, _, h⟩ := Query.bind_eq_ok.1 h
  obtain ⟨_, hstage, h⟩ := Query.bind_eq_ok.1 h
  obtain ⟨plan, hplan, h⟩ := Query.bind_eq_ok.1 h
  obtain ⟨_, _, h⟩ := Query.bind_eq_ok.1 h
  cases Query.pure_eq_ok.1 h
  rw [Query.liftM_eq_ok, raiseIf_eq_ok, not_not] at hstage
  exact ⟨ht, hstage, view_requireAcceptedPlan hplan⟩

theorem walked_startImplementation {actor : Option ActorRef} {harness : Option NamedHarness}
    (hs : s.Sound) (hid : ∀ t, resolveTask ref false s = .ok t → t.id = id)
    (hP : ∀ v, P .startImplementation v) :
    (startImplementation env ref actor harness).Sat s fun _ s' => Walked P s.view id true s' := by
  refine sat_query fun task htask => ?_
  obtain ⟨hfound, hstage, n, haccepted⟩ := implementationStartOf_eq_ok htask
  obtain rfl := hid _ hfound
  have ht := view_resolved hfound
  refine sat_startRun hs (canonical_resolved hs hfound) fun run s₁ h =>
    sat_known (resolve_again hs hfound h.tasks) (Sat.write ?_)
  refine sat_tail ?_ (Walked.one (l := .startImplementation) (hP _)
    (.startImplementation ht (List.mem_pair.1 hstage) haccepted h.idle h.fresh
      (version_of_started hs ht haccepted h)) ?_)
  · exact Frozen.event fun _ => Keeps.query fun _ _ _ _ => Keeps.query fun _ _ _ _ => Keeps.pure
  · rw [Ledger.view_putTask, h.view]
    simp [implementingTask, Function.update_idem, View.start]
    rfl

theorem restartOf_eq_ok {summary : String} {r : Restart} (h : restartOf ref summary s = .ok r) :
    resolveTask ref false s = .ok r.task ∧ r.task.statusStage = .failedValidation ∧
      ∃ n, (s.view r.task.id).Accepted r.task.core n := by
  obtain ⟨t, ht, h⟩ := Query.bind_eq_ok.1 h
  obtain ⟨_, _, h⟩ := Query.bind_eq_ok.1 h
  obtain ⟨_, hstage, h⟩ := Query.bind_eq_ok.1 h
  obtain ⟨plan, hplan, h⟩ := Query.bind_eq_ok.1 h
  iterate 8 obtain ⟨_, _, h⟩ := Query.bind_eq_ok.1 h
  cases Query.pure_eq_ok.1 h
  rw [Query.liftM_eq_ok, raiseIf_eq_ok, not_not] at hstage
  exact ⟨ht, hstage, view_requireAcceptedPlan hplan⟩

theorem walked_restartImplementation {summary : String} {actor : Option ActorRef}
    {harness : Option NamedHarness} (hs : s.Sound)
    (hid : ∀ t, resolveTask ref false s = .ok t → t.id = id) (hP : ∀ v, P .startImplementation v) :
    (restartImplementation env ref summary actor harness).Sat s
      fun _ s' => Walked P s.view id true s' := by
  refine sat_query fun r hr => ?_
  obtain ⟨hfound, hstage, n, haccepted⟩ := restartOf_eq_ok hr
  obtain rfl := hid _ hfound
  have ht := view_resolved hfound
  refine sat_startRun hs (canonical_resolved hs hfound) fun run s₁ h => Sat.write ?_
  refine sat_known (resolve_again hs hfound h.tasks) (Sat.write ?_)
  refine sat_tail ?_ (Walked.one (l := .startImplementation) (hP _)
    (.startImplementation ht (.inr hstage) haccepted h.idle h.fresh
      (version_of_started hs ht haccepted h)) ?_)
  · exact Frozen.event fun _ => Keeps.query fun _ _ _ _ => Keeps.query fun _ _ _ _ => Keeps.pure
  · have hcore : (restartedRun r run).core = run.core := rfl
    rw [Ledger.view_putTask, Ledger.view_putRun, h.view, hcore]
    simp [implementingTask, restartedRun, h.filed, Function.update_idem, View.start]
    rfl

-- ════════════════════════════════════════════════════════════════════════
-- Resuming
-- ════════════════════════════════════════════════════════════════════════

/-- What the checks of a resumption have passed. -/
structure Resumable (s : Ledger) (ref : String) (task : TaskRecord) (run : TaskRunRecord) :
    Prop where
  found : resolveTask ref false s = .ok task
  stage : task.statusStage = .approved ∨ task.statusStage = .implementing
  accepted : ∃ n, (s.view task.id).Accepted task.core n
  running : (s.view task.id).Running run.runId run.core .implementation

/-- The checks of a resumption. -/
theorem resumptionOf_checks {runId : Option String} {reason : String} {task : TaskRecord}
    {run : TaskRunRecord} : resumptionOf ref runId reason s = .ok (task, run) ↔
      Text.isBlank reason = false ∧ resolveTask ref false s = .ok task ∧
        isArchivedTask task = false ∧
        task.statusStage ∈ [TaskStatusStage.approved, .implementing] ∧
        (∃ plan, requireAcceptedPlanRecord task "Implementation resume" s = .ok plan) ∧
        requireRun task (orOption runId task.latestImplementationRun) s = .ok run ∧
        run.runType = .implementation ∧ run.status = .running := by
  simp only [resumptionOf, Query.bind_eq_ok, Query.liftM_eq_ok, ensureNotArchived, raiseIf_eq_ok,
    Query.pure_eq_ok]
  constructor
  · rintro ⟨t, ht, _, hvisible, _, hreason, _, hstage, plan, hplan, r, hr, _, hrun, hp⟩
    cases hp
    rw [not_or, not_not, not_not] at hrun
    exact ⟨by simpa using hreason, ht, by simpa using hvisible, not_not.1 hstage, ⟨plan, hplan⟩, hr,
      hrun⟩
  · rintro ⟨hreason, ht, hvisible, hstage, ⟨plan, hplan⟩, hr, htype, hstatus⟩
    exact ⟨task, ht, (), by simp [hvisible], (), by simp [hreason], (), not_not.2 hstage, plan,
      hplan, run, hr, (), by simp [htype, hstatus], rfl⟩

theorem resumptionOf_eq_ok {runId : Option String} {reason : String} {task : TaskRecord}
    {run : TaskRunRecord} (h : resumptionOf ref runId reason s = .ok (task, run)) :
    Resumable s ref task run ∧ Text.strip reason ≠ "" := by
  obtain ⟨hreason, ht, -, hstage, ⟨plan, hplan⟩, hr, htype, hstatus⟩ := resumptionOf_checks.1 h
  obtain ⟨i, -, hresolved⟩ := requireRun_eq_ok hr
  exact ⟨⟨ht, List.mem_pair.1 hstage, view_requireAcceptedPlan hplan,
    (view_run hresolved).1, htype, hstatus⟩, by simpa [Text.isBlank] using hreason⟩

/-- A resumption goes on without a lock, or refuses with nothing written. -/
theorem sat_clearResumeLock {α : Type} {b : Bool} {task : TaskRecord} {run : TaskRunRecord}
    {repair : Bool} {reason : String} {k : Unit → LedgerAction α}
    (hk : ∀ s', s'.view = Function.update s.view task.id ((s.view task.id).setLock none) →
      (k ()).Sat s' fun _ s' => Walked P s.view id b s') :
    (clearResumeLock env task run repair reason >>= k).Sat s
      fun _ s' => Walked P s.view id b s' := by
  refine Sat.bind (P := fun r s' => (s' = s ∧ ∀ u, r ≠ .ok u) ∨
      (s'.view = Function.update s.view task.id ((s.view task.id).setLock none) ∧
        ∀ e, r ≠ .error e)) ?_ ?_ ?_
  · refine Sat.query (fun _ _ => .inl ⟨rfl, error_ne_ok⟩) fun existing hexisting => ?_
    cases existing with
    | none =>
      refine Sat.pure (.inr ⟨?_, ok_ne_error⟩)
      rw [View.setLock_self _ _ (view_unlocked hexisting), Function.update_eq_self]
    | some lock =>
      refine Sat.except (fun _ _ => .inl ⟨rfl, error_ne_ok⟩) fun expired _ => ?_
      split
      · refine Sat.except (fun _ _ => .inl ⟨rfl, error_ne_ok⟩) fun _ _ => Sat.write (Sat.write ?_)
        exact sat_lastEvent fun s' _ hview =>
          .inr ⟨hview.trans (Ledger.view_dropLock _ _), ok_ne_error⟩
      · split
        · exact Sat.throw (.inl ⟨rfl, error_ne_ok⟩)
        · exact Sat.throw (.inl ⟨rfl, error_ne_ok⟩)
  · rintro e s' (⟨rfl, -⟩ | ⟨-, h⟩)
    · exact .stay
    · exact absurd rfl (h e)
  · rintro u s' (⟨-, h⟩ | ⟨hview, -⟩)
    · exact absurd rfl (h u)
    · exact hk s' hview

theorem walked_resumeImplementation {runId : Option String} {reason : String}
    {actor : Option ActorRef} {harness : Option NamedHarness} {repair : Bool} (hs : s.Sound)
    (hid : ∀ t, resolveTask ref false s = .ok t → t.id = id) (hdrop : ∀ v, P .dropLock v)
    (hP : ∀ v, P .resume v) :
    (resumeImplementation env ref runId reason actor harness repair).Sat s
      fun _ s' => Walked P s.view id true s' := by
  refine sat_query fun resumption hres => ?_
  obtain ⟨task, run⟩ := resumption
  obtain ⟨⟨hfound, hstage, ⟨n, haccepted⟩, hrunning⟩, hreason⟩ := resumptionOf_eq_ok hres
  obtain rfl := hid _ hfound
  refine sat_clearResumeLock fun s₁ hview => ?_
  have hdropped : Walked P s.view task.id false s₁ :=
    .oneQuiet (l := .dropLock) trivial (hdrop _) .dropLock hview
  have hs₁ := hdropped.sound hs
  have hv : s₁.view task.id = (s.view task.id).setLock none := by rw [hview, Function.update_self]
  refine Sat.mono (P := fun _ s' => Walked P s₁.view task.id true s') ?_
    fun _ _ h => hdropped.trans h
  refine sat_query fun _ _ => sat_acquireLock (fun l hl => lock_file_sound hs₁ hl)
    (readLock_of_unlocked (by rw [hv]; rfl)) (canonical_resolved hs hfound)
    ((hs _).runIds _ _ hrunning.stored) hreason fun lock s₂ _ hview₂ => Sat.write ?_
  have hrunning' : (s₁.view task.id).Running run.runId run.core .implementation := by
    rw [hv]
    exact ⟨hrunning.stored, hrunning.ofType, hrunning.running⟩
  refine sat_tail ?_ (Walked.one (l := .resume) (hP _) (.resume (t := task.core) (n := n)
    ?_ hstage ?_ ?_ hrunning') ?_)
  · exact Frozen.event fun _ => Keeps.query fun _ _ _ _ => Keeps.pure
  · rw [hv]
    exact view_resolved hfound
  · rw [hv]
    exact ⟨haccepted.recorded, haccepted.stored⟩
  · rw [hv]
    rfl
  · rw [Ledger.view_putTask, hview₂]
    simp [implementingTask, Function.update_idem]
    rfl

-- ════════════════════════════════════════════════════════════════════════
-- Finishing
-- ════════════════════════════════════════════════════════════════════════

/-- Without a lock there is nothing to release, and this raises. -/
theorem sat_releaseLock_unlocked {α : Type} {task : TaskRecord} {runType : RunType}
    {runId event : String} {stage : TaskStatusStage} {data : Dict} {k : Unit → LedgerAction α}
    (hlock : readLock task.id s = .ok none) :
    (releaseLock env task runType runId stage event data >>= k).Sat s
      fun r s' => (∃ e, r = .error e) ∧ s' = s := by
  have hdelete : (deleteLock env task runType runId event data).Sat s
      fun r s' => (∃ e, r = .error e) ∧ s' = s :=
    sat_known hlock (Sat.throw ⟨⟨_, rfl⟩, rfl⟩)
  refine Sat.bind (P := fun r s' => (∃ e, r = .error e) ∧ s' = s)
    (Sat.bind hdelete ?_ ?_) ?_ ?_
  · rintro e s' ⟨-, h⟩
    exact ⟨⟨e, rfl⟩, h⟩
  · rintro _ _ ⟨⟨e, h⟩, -⟩
    cases h
  · rintro e _ ⟨-, h⟩
    exact ⟨⟨e, rfl⟩, h⟩
  · rintro _ _ ⟨⟨e, h⟩, -⟩
    cases h

/-- Without a lock a run cannot be finished: the run and the task are written, then this
raises. -/
theorem sat_finishRun_unlocked {α : Type} {finished : TaskRunRecord} {updated : TaskRecord}
    {runType : RunType} {runId event : String} {stage : TaskStatusStage} {data : Dict}
    {k : Unit → LedgerAction α} (hlock : readLock updated.id s = .ok none) :
    (saveRun finished >>= fun _ => saveTask updated >>= fun _ =>
      releaseLock env updated runType runId stage event data >>= k).Sat s
        fun r s' => (∃ e, r = .error e) ∧ s' = (s.putRun finished).putTask updated := by
  have hlock' : readLock updated.id ((s.putRun finished).putTask updated) = .ok none := by
    unfold readLock at *
    exact hlock
  exact Sat.write (Sat.write (sat_releaseLock_unlocked hlock'))

/-- The lock of a running run is released, or there is none and this raises. -/
theorem sat_releaseLock {α : Type} {s₁ : Ledger} {task : TaskRecord} {runType : RunType}
    {runId event : String} {stage : TaskStatusStage} {data : Dict} {k : Unit → LedgerAction α}
    {Q : Except Raised α → Ledger → Prop} {r : RunCore} (hs : s.Sound)
    (hrun : (s.view task.id).Running runId r runType) (hlocks : s₁.locks = s.locks)
    (herr : (s.view task.id).lock = none → ∀ e, Q (.error e) s₁)
    (hk : ∀ s', s'.view = Function.update s₁.view task.id
        (((s₁.view task.id).setLock none).setTask { task.core with stage := stage }) →
      (k ()).Sat s' Q) :
    (releaseLock env task runType runId stage event data >>= k).Sat s₁ Q := by
  obtain ⟨lock, hlock⟩ := readLock_loads hs task.id
  have hlock₁ : readLock task.id s₁ = .ok lock := by
    unfold readLock at *
    rwa [hlocks]
  cases lock with
  | none =>
    refine (sat_releaseLock_unlocked hlock₁).mono ?_
    rintro _ _ ⟨⟨e, rfl⟩, rfl⟩
    exact herr (view_unlocked hlock) e
  | some l =>
    obtain ⟨hid, htype⟩ :=
      (hs _).lock_of_running (view_locked hlock) hrun.stored hrun.running
    refine Sat.bind (P := fun r s' => r = .ok () ∧ s'.view = Function.update s₁.view task.id
      (((s₁.view task.id).setLock none).setTask { task.core with stage := stage })) ?_ ?_ ?_
    · refine sat_deleteLock hlock₁ (htype.trans hrun.ofType) hid fun s₂ _ hview => ⟨rfl, ?_⟩
      exact (Ledger.view_putTask _ _).trans (by simp [hview, Function.update_idem]; rfl)
    · rintro _ _ ⟨h, -⟩
      cases h
    · rintro _ s' ⟨-, hview⟩
      exact hk s' hview

/-- A running run and its task are written, then the lock is released: whether that
raises or not, the run has stopped and there is no lock. -/
theorem walked_finishRun {α : Type} {run finished : TaskRunRecord} {task updated : TaskRecord}
    {l : Label} {runType : RunType} {status : RunStatus} {stage : TaskStatusStage}
    {event : String} {data : Dict} {k : Unit → LedgerAction α} (hs : s.Sound)
    (hrun : (s.view task.id).Running run.runId run.core runType) (hfiled : run.taskId = task.id)
    (hfinished : finished.core = { run.core with status := status } ∧
      finished.taskId = run.taskId ∧ finished.runId = run.runId)
    (hupdated : updated.core = { task.core with stage := stage } ∧ updated.id = task.id)
    (hp : P l (s.view task.id))
    (hm : Move task.id l (s.view task.id)
      ((s.view task.id).stop run.runId run.core status { task.core with stage := stage }))
    (hk : ∀ V u, Keeps (Frozen V) (k u)) :
    (saveRun finished >>= fun _ => saveTask updated >>= fun _ =>
      releaseLock env updated runType run.runId stage event data >>= k).Sat s
        fun _ s' => Walked P s.view task.id true s' := by
  obtain ⟨hcore, htask, hid⟩ := hfinished
  obtain ⟨hucore, huid⟩ := hupdated
  refine Sat.write (Sat.write ?_)
  have hview : ((s.putRun finished).putTask updated).view = Function.update s.view task.id
      (((s.view task.id).setRun run.runId { run.core with status := status }).setTask
        { task.core with stage := stage }) := by
    rw [Ledger.view_putTask, Ledger.view_putRun, hcore, hucore, htask, hid, huid, hfiled]
    simp [Function.update_idem]
  have hdone (s' : Ledger) (hs' : s'.view = Function.update s.view task.id
      ((s.view task.id).stop run.runId run.core status { task.core with stage := stage })) :
      Walked P s.view task.id true s' := .one hp hm hs'
  refine sat_releaseLock hs (r := run.core) (huid.symm ▸ hrun) rfl (fun hfree _ => hdone _ ?_)
    fun s' hview' => sat_tail (hk _ _) (hdone s' ?_)
  · rw [hview, View.stop, View.setLock_self _ _ (huid ▸ hfree)]
  · rw [hview', hview, huid, hucore]
    simp [Function.update_idem, View.stop]
    rfl

theorem implementationFinishOf_eq_ok {f : ImplementationFinish}
    (h : implementationFinishOf env ref s = .ok f) : resolveTask ref false s = .ok f.task ∧
      requireRunningRun f.task f.task.latestImplementationRun .implementation s = .ok f.run := by
  obtain ⟨t, ht, h⟩ := Query.bind_eq_ok.1 h
  obtain ⟨_, _, h⟩ := Query.bind_eq_ok.1 h
  obtain ⟨r, hr, h⟩ := Query.bind_eq_ok.1 h
  iterate 2 obtain ⟨_, _, h⟩ := Query.bind_eq_ok.1 h
  cases Query.pure_eq_ok.1 h
  exact ⟨ht, hr⟩

theorem walked_finishImplementation {summary : String} (hs : s.Sound)
    (hid : ∀ t, resolveTask ref false s = .ok t → t.id = id)
    (hP : ∀ f, implementationFinishOf env ref s = .ok f → f.task.id = id →
      P .finishImplementation (s.view id)) :
    (finishImplementation env ref summary).Sat s fun _ s' => Walked P s.view id true s' := by
  refine sat_query fun f hf => ?_
  obtain ⟨hfound, hr⟩ := implementationFinishOf_eq_ok hf
  obtain rfl := hid _ hfound
  have ht := view_resolved hfound
  obtain ⟨hlink, hrunning, hfiled⟩ :=
    view_runningRun (fun i hi => (hs _).links _ ht i (.inr (.inl hi))) hr
  exact walked_finishRun hs hrunning hfiled ⟨rfl, rfl, rfl⟩ ⟨rfl, rfl⟩ (hP f hf rfl)
    (.finishImplementation ht hlink hrunning) fun _ _ =>
      Frozen.event fun _ => Keeps.query fun _ _ _ _ => Keeps.pure

-- ════════════════════════════════════════════════════════════════════════
-- Validating
-- ════════════════════════════════════════════════════════════════════════

/-- What the checks of a validation start have passed. -/
structure Validatable (s : Ledger) (ref : String) (task : TaskRecord) (run : TaskRunRecord) :
    Prop where
  found : resolveTask ref false s = .ok task
  stage : task.statusStage = .implemented
  linked : task.latestImplementationRun = some run.runId
  implemented : (s.view task.id).Implemented run.runId run.core

theorem validationStartOf_eq_ok {task : TaskRecord} {run : TaskRunRecord} (hs : s.Sound)
    (h : validationStartOf env ref s = .ok (task, run)) : Validatable s ref task run := by
  obtain ⟨t, ht, h⟩ := Query.bind_eq_ok.1 h
  obtain ⟨_, _, h⟩ := Query.bind_eq_ok.1 h
  obtain ⟨_, hstage, h⟩ := Query.bind_eq_ok.1 h
  obtain ⟨r, hr, h⟩ := Query.bind_eq_ok.1 h
  obtain ⟨_, hrun, h⟩ := Query.bind_eq_ok.1 h
  obtain ⟨_, _, h⟩ := Query.bind_eq_ok.1 h
  cases Query.pure_eq_ok.1 h
  rw [Query.liftM_eq_ok, raiseIf_eq_ok] at hstage hrun
  rw [not_not] at hstage
  rw [not_or, not_not, not_not] at hrun
  obtain ⟨hid, hv, -⟩ := view_requireRun
    (fun i hi => (hs _).links _ (view_resolved ht) i (.inr (.inl hi))) hr
  exact ⟨ht, hstage, hid, hv, hrun⟩

theorem walked_startValidation {actor : Option ActorRef} {harness : Option NamedHarness}
    (hs : s.Sound) (hid : ∀ t, resolveTask ref false s = .ok t → t.id = id)
    (hP : ∀ v, P .startValidation v) :
    (startValidation env ref actor harness).Sat s fun _ s' => Walked P s.view id true s' := by
  refine sat_query fun work hwork => ?_
  obtain ⟨task, impl⟩ := work
  obtain ⟨hfound, hstage, hlinked, himplemented⟩ := validationStartOf_eq_ok hs hwork
  obtain rfl := hid _ hfound
  refine sat_startRun hs (canonical_resolved hs hfound) fun run s₁ h => Sat.write ?_
  refine sat_known (resolve_again hs hfound h.tasks) (Sat.write ?_)
  refine sat_tail ?_ (Walked.oneQuiet (l := .startValidation) trivial (hP _)
    (.startValidation (r := { run.core with implementationRun := some impl.runId })
      (view_resolved hfound) hstage hlinked himplemented h.idle
      ⟨h.fresh.canonical, h.fresh.free, h.fresh.ofType, h.fresh.running, h.fresh.waivers⟩ rfl) ?_)
  · exact Frozen.event fun _ => Keeps.query fun _ _ _ _ => Keeps.query fun _ _ _ _ => Keeps.pure
  · rw [Ledger.view_putTask, Ledger.view_putRun, h.view]
    simp [h.filed, Function.update_idem, View.start]
    rfl

theorem validationFinishOf_eq_ok {result : String} {f : ValidationFinish}
    (h : validationFinishOf ref result s = .ok f) : resolveTask ref false s = .ok f.task ∧
      requireRunningRun f.task f.task.latestValidationRun .validation s = .ok f.run ∧
      normalizeValidationResult result = .ok f.result ∧
      verdictGate f.task f.run f.result s = .ok () := by
  obtain ⟨t, ht, h⟩ := Query.bind_eq_ok.1 h
  obtain ⟨_, _, h⟩ := Query.bind_eq_ok.1 h
  obtain ⟨r, hr, h⟩ := Query.bind_eq_ok.1 h
  obtain ⟨verdict, hverdict, h⟩ := Query.bind_eq_ok.1 h
  obtain ⟨_, hgate, h⟩ := Query.bind_eq_ok.1 h
  cases Query.pure_eq_ok.1 h
  exact ⟨ht, hr, hverdict, hgate⟩

theorem walked_finishValidation {result summary : String} {recommendation : Option String}
    (hs : s.Sound) (hid : ∀ t, resolveTask ref false s = .ok t → t.id = id)
    (hP : ∀ f, validationFinishOf ref result s = .ok f → f.task.id = id →
      P (.finishValidation f.result) (s.view id)) :
    (finishValidation env ref result summary recommendation).Sat s
      fun _ s' => Walked P s.view id true s' := by
  refine sat_query fun f hf => ?_
  obtain ⟨hfound, hr, -, -⟩ := validationFinishOf_eq_ok hf
  obtain rfl := hid _ hfound
  have ht := view_resolved hfound
  obtain ⟨hlink, hrunning, hfiled⟩ :=
    view_runningRun (fun i hi => (hs _).links _ ht i (.inr (.inr hi))) hr
  exact walked_finishRun hs hrunning hfiled ⟨rfl, rfl, rfl⟩ ⟨rfl, rfl⟩ (hP f hf rfl)
    (.finishValidation ht hlink hrunning) fun _ _ =>
      Frozen.event fun _ => Keeps.query fun _ _ _ _ => Keeps.pure

end Taskledger
