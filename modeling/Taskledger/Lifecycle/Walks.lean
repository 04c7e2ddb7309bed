import Taskledger.Lifecycle.Recorders

/-!
# Walks of a task

What an operation leaves behind is where the task it is about has walked to. This
module has the rules for such outcomes, and the outcome of starting a run.
-/

namespace Taskledger

open Library Action Lifecycle

variable [Runtime] {env : Env} {P : Label → View → Prop} {f : String → View} {id : String}
  {b : Bool} {s s' : Ledger} {α : Type}

/-- From the views `f` the task `id` has walked to its view in `s`, and no other
task has moved. -/
def Walked (P : Label → View → Prop) (f : String → View) (id : String) (b : Bool) (s : Ledger) :
    Prop :=
  ∃ w, (machine id).Walk P (f id) b w ∧ s.view = Function.update f id w

namespace Walked

theorem stay : Walked P s.view id b s :=
  ⟨s.view id, .stay, (Function.update_eq_self id s.view).symm⟩

theorem one {l : Label} {w : View} (hp : P l (s.view id)) (hm : Move id l (s.view id) w)
    (h : s'.view = Function.update s.view id w) : Walked P s.view id true s' :=
  ⟨w, .one hp hm, h⟩

theorem oneQuiet {l : Label} {w : View} (hl : l.quiet) (hp : P l (s.view id))
    (hm : Move id l (s.view id) w) (h : s'.view = Function.update s.view id w) :
    Walked P s.view id b s' :=
  ⟨w, .oneQuiet hl hp hm, h⟩

theorem weaken (h : Walked P f id false s) : Walked P f id b s := by
  obtain ⟨w, hw, hs⟩ := h
  exact ⟨w, hw.weaken, hs⟩

theorem of_view (h : Walked P f id b s) (hv : s'.view = s.view) : Walked P f id b s' := by
  obtain ⟨w, hw, hs⟩ := h
  exact ⟨w, hw, hv.trans hs⟩

/-- A walk goes on with a move that is not seen. -/
theorem quietly {l : Label} {w : View} (h : Walked P f id b s) (hl : l.quiet)
    (hp : P l (s.view id)) (hm : Move id l (s.view id) w)
    (hv : s'.view = Function.update s.view id w) : Walked P f id b s' := by
  obtain ⟨u, hu, hs⟩ := h
  rw [hs, Function.update_self] at hp hm
  exact ⟨w, hu.quietly hl hp hm, by rw [hv, hs, Function.update_idem]⟩

theorem trans (h : Walked P f id false s) (h' : Walked P s.view id b s') :
    Walked P f id b s' := by
  obtain ⟨w, hw, hs⟩ := h
  obtain ⟨x, hx, hs'⟩ := h'
  rw [hs, Function.update_self] at hx
  exact ⟨x, hw.trans hx, by rw [hs', hs, Function.update_idem]⟩

/-- A walk leaves a sound ledger sound. -/
theorem sound (hs : s.Sound) (h : Walked P s.view id b s') : s'.Sound := by
  obtain ⟨w, hw, hv⟩ := h
  have hsound : w.Sound id := hw.invariant (fun _ _ _ hi _ hm => Move.sound hi hm) (hs id)
  intro j
  rw [hv]
  by_cases hj : j = id
  · subst hj
    rwa [Function.update_self]
  · rw [Function.update_of_ne hj]
    exact hs j

end Walked

/-- A task that is there stays there. -/
theorem Move.task_isSome {l : Label} {v w : View} (m : Move id l v w) (h : v.task.isSome = true) :
    w.task.isSome = true := by
  cases m with
  | create | record | link | startPlanning | propose | regenerate | approve | startImplementation
  | resume | finishImplementation | startValidation | finishValidation | cancel | uncancel
  | archive | unarchive => rfl
  | addFinished | reject | dropLock | repairRun => exact h

/-- The id of a task that has walked resolves to nothing but that task. -/
theorem Walked.resolve_own (hs : s.Sound) {ref : String} {t : TaskRecord}
    (ht : resolveTask ref false s = .ok t) (h : Walked P s.view t.id b s') {u : TaskRecord}
    (hu : resolveTask t.id false s' = .ok u) : u.id = t.id := by
  have hsound := h.sound hs
  obtain ⟨w, hw, hv⟩ := h
  have htask : (s'.view t.id).task.isSome = true := by
    rw [hv, Function.update_self]
    refine hw.invariant (I := fun v => v.task.isSome = true)
      (fun _ _ _ hi _ hm => Move.task_isSome hm hi) ?_
    rw [view_resolved ht]
    rfl
  obtain ⟨c, hc⟩ := Option.isSome_iff_exists.1 htask
  exact Taskledger.resolve_own hsound hc hu

-- ════════════════════════════════════════════════════════════════════════
-- Outcomes
-- ════════════════════════════════════════════════════════════════════════

/-- What is left to do keeps the views. -/
theorem sat_tail {m : LedgerAction α} (hm : Keeps (Frozen s.view) m)
    (h : Walked P f id b s) : m.Sat s fun _ s' => Walked P f id b s' :=
  (hm s rfl).mono fun _ _ hv => h.of_view hv

/-- A part that keeps the views. -/
theorem sat_frozen {β : Type} {m : LedgerAction β} {k : β → LedgerAction α}
    {Q : Except Raised α → Ledger → Prop} (hm : Keeps (Frozen s.view) m)
    (herr : ∀ e s', s'.view = s.view → Q (.error e) s')
    (hk : ∀ a s', s'.view = s.view → (k a).Sat s' Q) : (m >>= k).Sat s Q :=
  Sat.bind (hm s rfl) (fun e s' hv => herr e s' hv) fun a s' hv => hk a s' hv

/-- An action that has changed nothing yet reads. -/
theorem sat_query {β : Type} {q : LedgerQuery β} {k : β → LedgerAction α}
    (hok : ∀ a, q s = .ok a → (k a).Sat s fun _ s' => Walked P s.view id b s') :
    ((liftM q : LedgerAction β) >>= k).Sat s fun _ s' => Walked P s.view id b s' :=
  Sat.query (fun _ _ => .stay) hok

/-- An action that has changed nothing yet checks. -/
theorem sat_except {β : Type} {x : Except Raised β} {k : β → LedgerAction α}
    (hok : ∀ a, x = .ok a → (k a).Sat s fun _ s' => Walked P s.view id b s') :
    ((liftM x : LedgerAction β) >>= k).Sat s fun _ s' => Walked P s.view id b s' :=
  Sat.except (fun _ _ => .stay) hok

omit [Runtime] in
/-- A read whose outcome is known. -/
theorem sat_known {β : Type} {q : LedgerQuery β} {k : β → LedgerAction α}
    {Q : Except Raised α → Ledger → Prop} {a : β} (hq : q s = .ok a) (hk : (k a).Sat s Q) :
    ((liftM q : LedgerAction β) >>= k).Sat s Q := by
  refine Sat.query (fun e he => ?_) fun a' ha' => ?_
  · cases hq.symm.trans he
  · cases hq.symm.trans ha'
    exact hk

/-- A second action goes on from where a first one that was not seen has left. -/
theorem sat_then {β : Type} {m : LedgerAction β} {k : β → LedgerAction α}
    (hm : m.Sat s fun _ s' => Walked P s.view id false s')
    (hk : ∀ a s', Walked P s.view id false s' →
      (k a).Sat s' fun _ s'' => Walked P s'.view id b s'') :
    (m >>= k).Sat s fun _ s'' => Walked P s.view id b s'' :=
  Sat.bind hm (fun _ _ h => h.weaken) fun a s' h => (hk a s' h).mono fun _ _ h' => h.trans h'

/-- Where an operation has walked to, its result dropped. -/
theorem walked_dropResult {m : LedgerAction α} (h : m.Sat s fun _ s' => Walked P f id b s') :
    Walked P f id b ((dropResult m).runOn s).2 :=
  Sat.bind (Q := fun _ s' => Walked P f id b s') h (fun _ _ h => h) fun _ _ h => h

theorem exists_walked_dropResult {P : String → Label → View → Prop} {m : LedgerAction α}
    (h : m.Sat s fun _ s' => ∃ id, Walked (P id) f id b s') :
    ∃ id, Walked (P id) f id b ((dropResult m).runOn s).2 :=
  Sat.bind (Q := fun _ s' => ∃ id, Walked (P id) f id b s') h (fun _ _ h => h) fun _ _ h => h

-- ════════════════════════════════════════════════════════════════════════
-- Starting a run
-- ════════════════════════════════════════════════════════════════════════

theorem newLock_isSound {lockId reason : String} {task : TaskRecord} {run : TaskRunRecord}
    {runType : RunType} {actor : ActorRef} {harness : Option NamedHarness} (hid : lockId ≠ "")
    (htask : Canonical "task" task.id) (hrun : Canonical "run" run.runId) (hreason : reason ≠ "") :
    (newLock env lockId task run runType reason actor harness).isSound = true := by
  rw [TaskLock.isSound_iff]
  refine ⟨hid, htask.ne_empty (by decide), hrun.ne_empty (by decide), Runtime.isoformat_ne _,
    hreason, ?_, ?_⟩
  · exact ⟨_, NamedHarness.reload?_eq harness⟩
  · rintro text ⟨⟩
    rw [Runtime.fromisoformat_isoformat]
    rfl

/-- An event is appended: the tasks and the views stay. -/
theorem sat_lastEvent {taskId event : String} {data : Dict}
    {Q : Except Raised Unit → Ledger → Prop}
    (hQ : ∀ s', s'.tasks = s.tasks → s'.view = s.view → Q (.ok ()) s') :
    (appendEvent env taskId event data).Sat s Q := by
  by_cases h : env.eventLogging = true
  · exact hQ _ (by simp [runOn, appendEvent, Action.write, h, Ledger.addEvent])
      (by simp [runOn, appendEvent, Action.write, h, Ledger.addEvent]; rfl)
  · exact hQ _ (by simp [runOn, appendEvent, Action.write, h])
      (by simp [runOn, appendEvent, Action.write, h])

theorem sat_event {taskId event : String} {data : Dict} {k : Unit → LedgerAction α}
    {Q : Except Raised α → Ledger → Prop}
    (hk : ∀ s', s'.tasks = s.tasks → s'.view = s.view → (k ()).Sat s' Q) :
    (appendEvent env taskId event data >>= k).Sat s Q := by
  refine Sat.bind (P := fun r s' => r = .ok () ∧ s'.tasks = s.tasks ∧ s'.view = s.view)
    (sat_lastEvent fun s' htasks hview => ⟨rfl, htasks, hview⟩) ?_ ?_
  · rintro _ _ ⟨h, -⟩
    cases h
  · rintro _ s' ⟨-, htasks, hview⟩
    exact hk s' htasks hview

omit [Runtime] in
/-- A lock file is created where there is none. -/
theorem sat_writeLock {lock : TaskLock} {k : Bool → LedgerAction α}
    {Q : Except Raised α → Ledger → Prop} (hfree : s.locks.lookup lock.taskId = none)
    (hk : (k true).Sat (s.putLock lock) Q) : (writeLock lock >>= k).Sat s Q := by
  refine Sat.bind (P := fun r s' => r = .ok true ∧ s' = s.putLock lock) ?_ ?_ ?_
  · simp [Sat, runOn, writeLock, hfree]
  · rintro e s' ⟨h, -⟩
    cases h
  · rintro a s' ⟨h, rfl⟩
    cases h
    exact hk

/-- A free lock is taken: it names the run. -/
theorem sat_acquireLock {task : TaskRecord} {run : TaskRunRecord} {runType : RunType}
    {reason : String} {actor : ActorRef} {harness : Option NamedHarness}
    {k : TaskLock → LedgerAction α} {Q : Except Raised α → Ledger → Prop}
    (hlocks : ∀ l ∈ s.locks.files, l.isSound = true) (hfree : readLock task.id s = .ok none)
    (htask : Canonical "task" task.id) (hrun : Canonical "run" run.runId) (hreason : reason ≠ "")
    (hk : ∀ lock s', s'.tasks = s.tasks →
      s'.view = Function.update s.view task.id
        ((s.view task.id).setLock (some ⟨runType, run.runId, true⟩)) → (k lock).Sat s' Q) :
    (acquireLock env task run runType reason actor harness >>= k).Sat s Q := by
  obtain ⟨lockId, hlockId, hne⟩ := nextLockId_loads hlocks
  have hsound : (newLock env lockId task run runType reason actor harness).isSound = true :=
    newLock_isSound hne htask hrun hreason
  have hview : (s.putLock (newLock env lockId task run runType reason actor harness)).view =
      Function.update s.view task.id
        ((s.view task.id).setLock (some ⟨runType, run.runId, true⟩)) := by
    rw [Ledger.view_putLock, TaskLock.core, hsound]
    rfl
  refine Sat.bind (P := fun r s' => ∃ lock, r = .ok lock ∧ s'.tasks = s.tasks ∧
    s'.view = Function.update s.view task.id
      ((s.view task.id).setLock (some ⟨runType, run.runId, true⟩))) ?_ ?_ ?_
  · refine sat_known hfree (sat_known hlockId (sat_writeLock (readLock_none hfree) ?_))
    refine sat_event fun s₁ htasks₁ hview₁ => sat_event fun s₂ htasks₂ hview₂ => ?_
    exact Sat.pure ⟨_, rfl, htasks₂.trans htasks₁, (hview₂.trans hview₁).trans hview⟩
  · rintro e s' ⟨lock, h, -⟩
    cases h
  · rintro a s' ⟨lock, h, htasks, hv⟩
    exact hk a s' htasks hv

-- ════════════════════════════════════════════════════════════════════════
-- Plans and locks
-- ════════════════════════════════════════════════════════════════════════

/-- A plan is saved under a version that is free, or nothing is written. -/
theorem sat_savePlan {plan : PlanRecord} {k : Unit → LedgerAction α}
    (hk : (s.view plan.taskId).plans plan.planVersion = none →
      (k ()).Sat (s.putPlan plan) fun _ s' => Walked P s.view id b s') :
    (savePlan plan >>= k).Sat s fun _ s' => Walked P s.view id b s' := by
  cases hp : s.plans.lookup (plan.taskId, plan.planVersion) with
  | some stored =>
    refine Sat.bind (P := fun r s' => s' = s ∧ ∀ a, r ≠ .ok a) ?_ ?_ ?_
    · simp [Sat, runOn, savePlan, hp]
    · rintro _ _ ⟨rfl, -⟩
      exact .stay
    · rintro a _ ⟨-, h⟩
      exact absurd rfl (h a)
  | none =>
    refine Sat.bind (P := fun r s' => r = .ok () ∧ s' = s.putPlan plan) ?_ ?_ ?_
    · simp [Sat, runOn, savePlan, hp]
    · rintro _ _ ⟨h, -⟩
      cases h
    · rintro _ _ ⟨-, rfl⟩
      exact hk (by simp [Ledger.view, hp])

/-- The lock of a stage and a run is removed. -/
theorem sat_deleteLock {task : TaskRecord} {runType : RunType} {runId event : String} {data : Dict}
    {k : Unit → LedgerAction α} {Q : Except Raised α → Ledger → Prop} {l : TaskLock}
    (hl : readLock task.id s = .ok (some l)) (htype : l.runType = runType)
    (hrun : l.runId = runId)
    (hk : ∀ s', s'.tasks = s.tasks →
      s'.view = Function.update s.view task.id ((s.view task.id).setLock none) →
        (k ()).Sat s' Q) :
    (deleteLock env task runType runId event data >>= k).Sat s Q := by
  refine Sat.bind (P := fun r s' => r = .ok () ∧ s'.tasks = s.tasks ∧
    s'.view = Function.update s.view task.id ((s.view task.id).setLock none)) ?_ ?_ ?_
  · have hmatch : matchingLock task runType runId (some l) = .ok l := by
      simp [matchingLock, htype, hrun]
    refine sat_known hl (sat_known (q := fun _ => _) hmatch ?_)
    refine sat_event fun s₁ htasks₁ hview₁ => Sat.write ?_
    refine sat_lastEvent fun s₂ htasks₂ hview₂ => ⟨rfl, htasks₂.trans htasks₁, hview₂.trans ?_⟩
    rw [Ledger.view_dropLock, hview₁]
  · rintro _ _ ⟨h, -⟩
    cases h
  · rintro _ s' ⟨-, htasks, hview⟩
    exact hk s' htasks hview

-- ════════════════════════════════════════════════════════════════════════
-- Starting
-- ════════════════════════════════════════════════════════════════════════

/-- What a started run leaves. -/
structure Started (s s' : Ledger) (task : TaskRecord) (runType : RunType) (run : TaskRunRecord) :
    Prop where
  idle : (s.view task.id).Idle
  fresh : NewRun (s.view task.id) run.runId run.core runType
  filed : run.taskId = task.id
  version : run.basedOnPlanVersion = orVersion task.acceptedPlanVersion task.latestPlanVersion
  tasks : s'.tasks = s.tasks
  view : s'.view = Function.update s.view task.id
    (((s.view task.id).setRun run.runId run.core).setLock (some ⟨run.runType, run.runId, true⟩))

theorem refuseLock_eq_ok {task : TaskRecord} {lock : Option TaskLock} {u : Unit}
    (h : refuseLock env task lock = .ok u) : lock = none := by
  cases lock with
  | none => rfl
  | some l =>
    obtain ⟨_, _, h⟩ := bind_eq_ok.1 h
    obtain ⟨_, _, h⟩ := bind_eq_ok.1 h
    obtain ⟨_, _, h⟩ := bind_eq_ok.1 h
    cases h

theorem refuseRunning_eq_ok {task : TaskRecord} {running : List TaskRunRecord} {u : Unit}
    (h : refuseRunning env task running = .ok u) : running = [] := by
  cases running with
  | nil => rfl
  | cons run rest => cases h

omit [Runtime] in
theorem startReason_ne (runType : RunType) : startReason runType ≠ "" := by
  cases runType <;> decide

/-- Starting a run refuses with nothing written, or starts it. -/
theorem sat_startRun {task : TaskRecord} {runType : RunType} {actor : Option ActorRef}
    {harness : Option NamedHarness} {k : TaskRunRecord → LedgerAction α} (hs : s.Sound)
    (htask : Canonical "task" task.id)
    (hk : ∀ run s', Started s s' task runType run →
      (k run).Sat s' fun _ s' => Walked P s.view id b s') :
    (startRun env task runType actor harness >>= k).Sat s fun _ s' => Walked P s.view id b s' := by
  refine Sat.bind (P := fun r s' => match r with
    | .error _ => s' = s
    | .ok run => Started s s' task runType run) ?_ ?_ ?_
  · refine Sat.query (fun _ _ => rfl) fun lock hlock => Sat.except (fun _ _ => rfl) fun _ hfree =>
      Sat.query (fun _ _ => rfl) fun running hrunning => Sat.except (fun _ _ => rfl) fun _ hidle =>
        Sat.query (fun _ _ => rfl) fun runs hruns => Sat.write ?_
    cases refuseLock_eq_ok hfree
    cases refuseRunning_eq_ok hidle
    have hcan := canonical_nextId "run" (runs.map TaskRunRecord.runId)
    have hid := view_freeRun hruns (Runtime.nextId_fresh "run" (runs.map TaskRunRecord.runId))
    refine sat_acquireLock (fun l hl => lock_file_sound hs hl) hlock htask hcan
      (startReason_ne runType) fun _ s' htasks hview => ?_
    refine Sat.pure ⟨⟨view_unlocked hlock, view_stopped hrunning⟩, ⟨hcan, hid, rfl, rfl, rfl⟩,
      rfl, rfl, htasks, ?_⟩
    rw [hview, Ledger.view_putRun]
    simp [newRun, Function.update_idem]
  · rintro e s' rfl
    exact .stay
  · exact hk

end Taskledger
