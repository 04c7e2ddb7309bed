import Taskledger.Properties.Atomicity
import Taskledger.Properties.Capabilities
import Taskledger.Properties.DoctorRepairs
import Taskledger.Properties.ReadOnly
import Taskledger.Properties.StaleAnswers

/-!
# Submitting plans and errors

An amendment, and an upsert that revises, start a planning run before the text of the plan is
read. What they leave when they raise depends on everything the proposal asks for after that.
-/

namespace Taskledger

open Library Action Lifecycle

-- ════════════════════════════════════════════════════════════════════════
-- What remains of a call
-- ════════════════════════════════════════════════════════════════════════

/-- No new run, lock, plan version or event, and no other stage of a task. -/
structure Ledger.NothingNew (s s' : Ledger) : Prop where
  runs : ∀ key, s.runs.lookup key = none → s'.runs.lookup key = none
  locks : ∀ id, s.locks.lookup id = none → s'.locks.lookup id = none
  plans : ∀ key, s.plans.lookup key = none → s'.plans.lookup key = none
  stages : ∀ id, (s'.tasks.lookup id).map TaskRecord.statusStage =
    (s.tasks.lookup id).map TaskRecord.statusStage
  events : s'.events = s.events

theorem Ledger.NothingNew.refl (s : Ledger) : s.NothingNew s :=
  ⟨fun _ h => h, fun _ h => h, fun _ h => h, fun _ => rfl, rfl⟩

/-- Where the call raises, nothing of it remains. -/
def AllOrNothing {α : Type} (m : LedgerAction α) (s : Ledger) : Prop :=
  ∀ e, (m.runOn s).1 = .error e → s.NothingNew (m.runOn s).2

/-- The call returns or has written nothing when `C` holds; otherwise it raises, and something
of it remains. -/
structure Settled {α : Type} (s : Ledger) (C : Prop) (r : Except Raised α) (s' : Ledger) :
    Prop where
  holds : C → (∃ a, r = .ok a) ∨ s' = s
  fails : ¬ C → (∃ e, r = .error e) ∧ ¬ s.NothingNew s'

section Settled

variable {α β : Type} {s : Ledger} {C D : Prop} {r : Except Raised α} {s' : Ledger}

theorem Settled.congr (h : Settled s C r s') (hiff : C ↔ D) : Settled s D r s' :=
  ⟨fun hd => h.holds (hiff.2 hd), fun hd => h.fails fun hc => hd (hiff.1 hc)⟩

theorem Settled.unchanged (hc : C) : Settled s C r s :=
  ⟨fun _ => .inr rfl, fun h => absurd hc h⟩

theorem allOrNothing_iff {m : LedgerAction α} (h : m.Sat s (Settled s C)) :
    AllOrNothing m s ↔ C := by
  obtain ⟨hholds, hfails⟩ := h
  constructor
  · intro hall
    by_contra hc
    obtain ⟨⟨e, he⟩, hnew⟩ := hfails hc
    exact hnew (hall e he)
  · intro hc e he
    rcases hholds hc with ⟨a, ha⟩ | hsame
    · cases ha.symm.trans he
    · rw [hsame]
      exact .refl s

/-- After reads the call is settled where what follows them is. -/
theorem settled_query {q : LedgerQuery β} {k : β → LedgerAction α}
    {C : β → Prop} (h : ∀ b, q s = .ok b → (k b).Sat s (Settled s (C b))) :
    ((liftM q : LedgerAction β) >>= k).Sat s (Settled s (∀ b, q s = .ok b → C b)) := by
  refine Sat.query (fun e he => .unchanged fun b hb => ?_) fun b hb => ?_
  · cases he.symm.trans hb
  · refine (h b hb).mono fun r s' hsettled => hsettled.congr ⟨fun hc b' hb' => ?_, fun hc => hc b hb⟩
    cases hb.symm.trans hb'
    exact hc

/-- A last step that writes nothing and returns. -/
theorem Settled.map {m : LedgerAction α} {f : α → β} (h : m.Sat s (Settled s C)) :
    (m >>= fun a => pure (f a)).Sat s (Settled s C) := by
  refine Sat.bind h (fun e s' hsettled => ?_) fun a s' hsettled => Sat.pure ?_
  · refine ⟨fun hc => ?_, fun hc => ⟨⟨e, rfl⟩, (hsettled.fails hc).2⟩⟩
    rcases hsettled.holds hc with ⟨a, ha⟩ | hsame
    · cases ha
    · exact .inr hsame
  · refine ⟨fun hc => .inl ⟨_, rfl⟩, fun hc => ?_⟩
    obtain ⟨⟨e, he⟩, -⟩ := hsettled.fails hc
    cases he

end Settled

section Planning

variable [Runtime] {s s₁ : Ledger} {env : Env} {α : Type} {ref body reason : String}
  {criteria : List String} {task : TaskRecord}

-- ════════════════════════════════════════════════════════════════════════
-- Starting
-- ════════════════════════════════════════════════════════════════════════

/-- A lock that loads is filed where there is none. -/
theorem Ledger.rebuilds_putLock {l : TaskLock} (hfree : s.locks.lookup l.taskId = none)
    (hload : ∃ l', l.reload = .ok l') : (s.putLock l).Rebuilds ↔ s.Rebuilds := by
  have hfiles (k : TaskLock) :
      k ∈ (s.putLock l).locks.files ↔ k = l ∨ k ∈ s.locks.files ∧ k.taskId ≠ l.taskId :=
    Directory.mem_files_save
  constructor
  · rintro ⟨h1, h2, h3, h4⟩
    refine ⟨h1, h2, fun k hk => h3 k ((hfiles k).2 (.inr ⟨hk, fun hkey => ?_⟩)), h4⟩
    rw [← hkey, Directory.lookup_of_mem hk] at hfree
    cases hfree
  · rintro ⟨h1, h2, h3, h4⟩
    refine ⟨h1, h2, fun k hk => ?_, h4⟩
    rcases (hfiles k).1 hk with rfl | ⟨hk, -⟩
    · exact hload
    · exact h3 k hk

/-- A free lock is taken: the ledger with the lock and some events. -/
theorem sat_acquireLock_free {run : TaskRunRecord} {runType : RunType} {reason : String}
    {actor : ActorRef} {harness : Option NamedHarness} {k : TaskLock → LedgerAction α}
    {Q : Except Raised α → Ledger → Prop} (hlocks : ∀ l ∈ s.locks.files, l.isSound = true)
    (hfree : readLock task.id s = .ok none)
    (hk : ∀ lockId events, lockId ≠ "" →
      (k (newLock env lockId task run runType reason actor harness)).Sat
        ((s.putLock (newLock env lockId task run runType reason actor harness)).withEvents events)
        Q) :
    (acquireLock env task run runType reason actor harness >>= k).Sat s Q := by
  obtain ⟨lockId, hlockId, hne⟩ := nextLockId_loads hlocks
  refine Sat.bind (P := fun r s' => r = .ok (newLock env lockId task run runType reason actor
    harness) ∧ ∃ events, s' = (s.putLock (newLock env lockId task run runType reason actor
      harness)).withEvents events) ?_ ?_ ?_
  · refine sat_known hfree (sat_known hlockId (sat_writeLock (readLock_none hfree) ?_))
    exact sat_eventList fun events => sat_eventList fun events' => Sat.pure ⟨rfl, _, rfl⟩
  · rintro e _ ⟨h, -⟩
    cases h
  · rintro _ _ ⟨h, events, rfl⟩
    cases h
    exact hk lockId events hne

omit [Runtime] in
/-- A planning run under way lets its plan be proposed. -/
theorem enforce_planProposeDecision {t : TaskRecord} {lock : Option TaskLock} {run : TaskRunRecord}
    (h : UnderWay t lock run .planning [.draft, .planReview]) :
    enforceDecision (planProposeDecision t lock (some run)) = .ok () := by
  obtain ⟨hstage, hrunning, htype, l, rfl, hltype, hlrun⟩ := h
  have hactive : deriveActiveStage (some l) [run] = some .planning := by
    simp [deriveActiveStage, hltype, hlrun, htype, hrunning]
  have hallowed : (planProposeDecision t (some l) (some run)).allowed = true := by
    have hcontext : (buildPolicyContext t (some l) (some run)).activeStage = some .planning := hactive
    have hwork : ¬ ((buildPolicyContext t (some l) (some run)).task.statusStage ∉
        [TaskStatusStage.draft, .planReview] ∨
          (buildPolicyContext t (some l) (some run)).activeStage ≠ some .planning) := by
      rw [hcontext, not_or, not_not, not_not]
      exact ⟨hstage, rfl⟩
    unfold planProposeDecision
    rw [if_neg (by simp [hcontext]), workDecision, if_neg hwork]
    simp [runDecision, buildPolicyContext, htype, hrunning, activeStageLockDecision, hltype, hlrun,
      allow]
  exact raiseIf_eq_ok.2 (by simp [hallowed])

/-- The ledger once planning has started: the run, its lock and the task that links the run. -/
structure PlanningStarted (env : Env) (s s₁ : Ledger) (task : TaskRecord) (run : TaskRunRecord)
    (lock : TaskLock) : Prop where
  canonical : Canonical "run" run.runId
  fresh : s.runs.lookup (task.id, run.runId) = none
  newRun : ∃ runId actor, run = newRun env runId task .planning actor none
  newLock : ∃ lockId reason actor, lock = newLock env lockId task run .planning reason actor none
  sound : lock.isSound = true
  runs : s₁.runs = (s.putRun run).runs
  locks : s₁.locks = (s.putLock lock).locks
  tasks : s₁.tasks = (s.putTask { task with
    latestPlanningRun := some run.runId, updatedAt := utcNow env }).tasks
  plans : s₁.plans = s.plans
  questions : s₁.questions = s.questions
  rebuilds : s₁.Rebuilds ↔ s.Rebuilds

/-- A rebuild after the start loads what a rebuild before it does. -/
theorem rebuilds_started {stored updated : TaskRecord} {run : TaskRunRecord} {lock : TaskLock}
    {events events' : List TaskEvent} (hstored : s.tasks.lookup updated.id = some stored)
    (hload : ∃ t, stored.reload = .ok t) (hupdated : ∃ t, updated.reload = .ok t)
    (hfree : s.locks.lookup lock.taskId = none) (hlock : ∃ l, lock.reload = .ok l) :
    Ledger.Rebuilds (((((s.putRun run).putLock lock).withEvents events).putTask updated).withEvents
      events') ↔ s.Rebuilds := by
  have hkept : (((s.putRun run).putLock lock).withEvents events).tasks.lookup updated.id =
      some stored := hstored
  calc Ledger.Rebuilds (((((s.putRun run).putLock lock).withEvents events).putTask
        updated).withEvents events')
      ↔ Ledger.Rebuilds ((((s.putRun run).putLock lock).withEvents events).putTask updated) :=
        Ledger.rebuilds_withEvents
    _ ↔ Ledger.Rebuilds (((s.putRun run).putLock lock).withEvents events) :=
        Ledger.rebuilds_putTask hkept hload hupdated
    _ ↔ Ledger.Rebuilds ((s.putRun run).putLock lock) := Ledger.rebuilds_withEvents
    _ ↔ (s.putRun run).Rebuilds := Ledger.rebuilds_putLock hfree hlock
    _ ↔ s.Rebuilds := Ledger.Rebuilds.congr rfl rfl rfl rfl

namespace PlanningStarted

variable {run : TaskRunRecord} {lock : TaskLock}

/-- The lock of the started run is there, and it is not expired. -/
theorem locked (h : PlanningStarted env s s₁ task run lock) :
    ∃ l, requireLock env task.id s₁ = .ok l ∧ lockForMutation env task.id s₁ = .ok (some l) ∧
      l.runType = .planning ∧ l.runId = run.runId := by
  obtain ⟨lockId, reason, actor, hlock⟩ := h.newLock
  have htask : lock.taskId = task.id := by
    rw [hlock]
    rfl
  have hexpires : lock.expiresAt = some (Runtime.isoformat (env.now + lockLease)) := by
    rw [hlock]
    rfl
  have hlookup : s₁.locks.lookup task.id = some lock := by
    rw [h.locks, ← htask]
    exact Directory.lookup_save_self _ _
  obtain ⟨l, hl⟩ := TaskLock.loads_of_isSound h.sound
  have hread : readLock task.id s₁ = .ok (some l) := by
    rw [readLock, hlookup]
    exact map_eq_ok.2 ⟨l, hl, rfl⟩
  have hexpiry : l.expiresAt = lock.expiresAt := by
    simp only [TaskLock.reload, bind_eq_ok, pure_eq_ok] at hl
    obtain ⟨-, -, -, -, -, -, -, -, -, -, -, -, rfl⟩ := hl
    rfl
  have hfresh : lockIsExpired env l = .ok false := by
    unfold lockIsExpired
    rw [hexpiry, hexpires]
    simp [Runtime.fromisoformat_isoformat]
  have hmutation : lockForMutation env task.id s₁ = .ok (some l) :=
    Query.bind_eq_ok.2 ⟨_, hread, Query.bind_eq_ok.2 ⟨false, hfresh,
      Query.bind_eq_ok.2 ⟨(), raiseIf_eq_ok.2 (by simp), rfl⟩⟩⟩
  have hcore := core_of_reload_lock hl
  refine ⟨l, Query.bind_eq_ok.2 ⟨_, hmutation, rfl⟩, hmutation, ?_, ?_⟩
  · exact (congrArg LockCore.runType hcore).trans (by rw [hlock]; rfl)
  · exact (congrArg LockCore.runId hcore).trans (by rw [hlock]; rfl)

/-- The task links the run that was started. -/
theorem resolved (h : PlanningStarted env s s₁ task run lock) (hs : s.Sound)
    (hfound : resolveTask task.id false s = .ok task) (hvisible : isArchivedTask task = false) :
    ∃ t, resolveTask task.id false s₁ = .ok t ∧ t.id = task.id ∧ isArchivedTask t = false ∧
      t.statusStage = task.statusStage ∧ t.latestPlanningRun = some run.runId := by
  obtain ⟨stored, -, hreload⟩ := resolveTask_stored hfound
  obtain ⟨t, ht⟩ : ∃ t, TaskRecord.reload { task with
      latestPlanningRun := some run.runId, updatedAt := utcNow env } = .ok t :=
    TaskRecord.loads_congr (TaskRecord.reload_again hreload) rfl rfl rfl
  have hlookup : s₁.tasks.lookup task.id = some { task with
      latestPlanningRun := some run.runId, updatedAt := utcNow env } := by
    rw [h.tasks]
    exact Directory.lookup_save_self _ _
  have hcore := core_of_reload_task ht
  have harchived : isArchivedTask t = false := (congrArg TaskCore.archived hcore).trans hvisible
  exact ⟨t, resolveTask_of_file (canonical_resolved hs hfound) hlookup ht (.inr harchived),
    (TaskRecord.of_reload ht).1, harchived, congrArg TaskCore.stage hcore,
    congrArg TaskCore.planningRun hcore⟩

/-- The run that was started is listed. -/
theorem run_found (h : PlanningStarted env s s₁ task run lock) {runs : List TaskRunRecord}
    (hcan : Canonical "task" task.id) (hruns : listRuns task.id s = .ok runs) :
    ∃ r, resolveRun task.id run.runId s₁ = .ok r ∧ r.runId = run.runId ∧ r.runType = .planning ∧
      r.status = .running := by
  obtain ⟨runId, actor, hrun⟩ := h.newRun
  have htask : run.taskId = task.id := by
    rw [hrun]
    rfl
  have hload : ∃ r, run.reload = .ok r := by
    have hid : run.runId ≠ "" := h.canonical.ne_empty (by decide)
    have htid : task.id ≠ "" := hcan.ne_empty (by decide)
    rw [← htask] at htid
    have hharness : run.harness = none := by rw [hrun]; rfl
    have hchecks : run.checks = [] := by rw [hrun]; rfl
    unfold TaskRunRecord.reload
    simp only [bind_eq_ok, requireString, raiseIf_eq_ok, hharness, hchecks]
    exact ⟨_, (), hid, (), htid, none, rfl, [], rfl, rfl⟩
  obtain ⟨r, hr⟩ := hload
  have hmem : run ∈ s₁.runs.files := by
    rw [h.runs]
    exact Directory.mem_files_save.2 (.inl rfl)
  have hlist : ∃ runs₁, listRuns task.id s₁ = .ok runs₁ := by
    have hall : ∀ k ∈ s₁.runs.files.filter fun k => k.taskId = task.id, ∃ k', k.reload = .ok k' := by
      intro k hk
      rw [List.mem_filter, decide_eq_true_eq, h.runs] at hk
      rcases Directory.mem_files_save.1 hk.1 with rfl | ⟨hold, -⟩
      · exact ⟨r, hr⟩
      · obtain ⟨k', -, hk'⟩ := listRuns_loads hruns hold hk.2
        exact ⟨k', hk'⟩
    obtain ⟨read, hread⟩ := reloadAll_loads.2 hall
    exact ⟨_, bind_eq_ok.2 ⟨read, hread, rfl⟩⟩
  obtain ⟨runs₁, hruns₁⟩ := hlist
  obtain ⟨hid, -, htype, hstatus, -⟩ := TaskRunRecord.of_reload hr
  have hlisted : r ∈ runs₁ := (mem_listRuns hruns₁).2 ⟨run, hmem, htask, hr⟩
  refine ⟨r, ?_, hid, htype.trans (by rw [hrun]; rfl), hstatus.trans (by rw [hrun]; rfl)⟩
  rw [← hid]
  exact resolveRun_of_listed hruns₁ hlisted (hid ▸ h.canonical)

/-- Once planning has started a proposal asks for its questions and its text. -/
theorem proposes_iff (h : PlanningStarted env s s₁ task run lock) (hs : s.Sound)
    (hfound : resolveTask task.id false s = .ok task) (hvisible : isArchivedTask task = false)
    (hstage : task.statusStage = .planReview) {runs : List TaskRunRecord}
    (hruns : listRuns task.id s = .ok runs) :
    (∃ p, proposalOf env task.id body criteria s₁ = .ok p) ↔
      (∃ questions, listQuestions task.id s = .ok questions) ∧
        ∃ input, readPlanInput env body criteria = .ok input := by
  obtain ⟨t, ht, hid, harchived, htstage, hlatest⟩ := h.resolved hs hfound hvisible
  obtain ⟨r, hr, hrid, htype, hstatus⟩ := h.run_found (canonical_resolved hs hfound) hruns
  obtain ⟨l, -, hlock, hltype, hlrun⟩ := h.locked
  have hquestions : listQuestions task.id s₁ = listQuestions task.id s :=
    listQuestions_congr h.questions _
  have hrun : requireRun t t.latestPlanningRun s₁ = .ok r := by
    rw [hlatest, requireRun, hid]
    exact hr
  have hwork : UnderWay t (some l) r .planning [.draft, .planReview] :=
    ⟨by simp [htstage, hstage], hstatus, htype, l, rfl, hltype, hlrun.trans hrid.symm⟩
  constructor
  · rintro ⟨p, hp⟩
    have hpassed := proposalOf_eq_ok hp
    obtain ⟨_, _, questions, _, input, hparts, hlisted, hinput, -⟩ := hpassed.written
    cases ht.symm.trans hpassed.found
    rw [hid, hquestions] at hlisted
    exact ⟨⟨questions, hlisted⟩, input, bind_eq_ok.2 ⟨_, hparts, hinput⟩⟩
  · rintro ⟨⟨questions, hlisted⟩, input, hread⟩
    obtain ⟨⟨frontMatter, planBody⟩, hparts, hinput⟩ := bind_eq_ok.1 hread
    rw [← hquestions, ← hid] at hlisted
    rw [← hid] at hlock
    refine ⟨_, Query.bind_eq_ok.2 ⟨t, ht, Query.bind_eq_ok.2 ⟨(), ?_, Query.bind_eq_ok.2 ⟨r, hrun,
      Query.bind_eq_ok.2 ⟨some l, hlock, Query.bind_eq_ok.2 ⟨(), ?_, Query.bind_eq_ok.2 ⟨_, rfl,
        Query.bind_eq_ok.2 ⟨_, Query.liftM_eq_ok.2 hparts, Query.bind_eq_ok.2 ⟨questions, hlisted,
          Query.bind_eq_ok.2 ⟨input, Query.liftM_eq_ok.2 hinput, rfl⟩⟩⟩⟩⟩⟩⟩⟩⟩⟩
    · exact Query.liftM_eq_ok.2 (raiseIf_eq_ok.2 (by simp [harchived]))
    · exact Query.liftM_eq_ok.2 (enforce_planProposeDecision hwork)

/-- The run that was started remains. -/
theorem leaves_run (h : PlanningStarted env s s₁ task run lock) : ¬ s.NothingNew s₁ := by
  intro hnothing
  obtain ⟨runId, actor, hrun⟩ := h.newRun
  have htask : run.taskId = task.id := by
    rw [hrun]
    rfl
  have hfiled : s₁.runs.lookup (task.id, run.runId) = some run := by
    rw [h.runs, ← htask]
    exact Directory.lookup_save_self _ _
  rw [hnothing.runs _ h.fresh] at hfiled
  cases hfiled

end PlanningStarted

/-- Planning starts on a free task: the call returns when the records of the ledger load. -/
theorem sat_startPlanning_free (hs : s.Sound) (hfound : resolveTask task.id false s = .ok task)
    (hvisible : isArchivedTask task = false) (hstage : task.statusStage = .planReview)
    (hunlocked : readLock task.id s = .ok none) (hidle : runningRuns task s = .ok []) :
    (startPlanning env task.id).Sat s fun r s₁ =>
      (∃ run lock, PlanningStarted env s s₁ task run lock) ∧ ((∃ d, r = .ok d) ↔ s.Rebuilds) := by
  have hcan := canonical_resolved hs hfound
  obtain ⟨runs, hruns, -⟩ := runningRuns_eq_ok hidle
  refine sat_known hfound (Sat.guard (fun h => absurd h (by simp [hvisible])) fun _ => ?_)
  refine Sat.guard (fun h => absurd h (by simp [hstage])) fun _ => ?_
  simp only [startRun, bind_assoc, pure_bind]
  refine sat_known hunlocked (sat_known (q := fun _ => _) (show refuseLock env task none = .ok () from
    rfl) (sat_known hidle (sat_known (q := fun _ => _) (show refuseRunning env task [] = .ok () from
      rfl) (sat_known hruns (Sat.write ?_)))))
  generalize hrun : newRun env (Runtime.nextId "run" (runs.map TaskRunRecord.runId)) task .planning
    ((none : Option ActorRef).getD (defaultActor env)) none = run
  have hruncan : Canonical "run" run.runId := by
    rw [← hrun]
    exact canonical_nextId "run" _
  have hfresh : s.runs.lookup (task.id, run.runId) = none := by
    rw [← hrun]
    have hfree := view_freeRun hruns (Runtime.nextId_fresh "run" (runs.map TaskRunRecord.runId))
    simpa [Ledger.view, newRun] using hfree
  have hlocks : ∀ l ∈ (s.putRun run).locks.files, l.isSound = true := fun l hl =>
    lock_file_sound hs hl
  refine sat_acquireLock_free hlocks hunlocked fun lockId events hlockId => ?_
  generalize hlock : newLock env lockId task run .planning (startReason .planning)
    ((none : Option ActorRef).getD (defaultActor env)) none = lock
  have hsound : lock.isSound = true := by
    rw [← hlock]
    exact newLock_isSound hlockId hcan hruncan (startReason_ne _)
  have hagain : resolveTask task.id false (((s.putRun run).putLock lock).withEvents events) =
      .ok task := resolve_again hs hfound rfl
  refine sat_known hagain (Sat.write (sat_eventList fun events' => ?_))
  obtain ⟨stored, hstored, hreload⟩ := resolveTask_stored hfound
  have hunlockedFile : s.locks.lookup lock.taskId = none := by
    rw [← hlock]
    exact readLock_none hunlocked
  -- the rebuild decides whether the call returns
  have hupdated : ∃ t, TaskRecord.reload { task with
      latestPlanningRun := some run.runId, updatedAt := utcNow env } = .ok t :=
    TaskRecord.loads_congr (TaskRecord.reload_again hreload) rfl rfl rfl
  have hrebuilds : Ledger.Rebuilds (((((s.putRun run).putLock lock).withEvents events).putTask
      { task with latestPlanningRun := some run.runId, updatedAt := utcNow env }).withEvents
        events') ↔ s.Rebuilds :=
    rebuilds_started hstored ⟨_, hreload⟩ hupdated hunlockedFile (TaskLock.loads_of_isSound hsound)
  have hstarted : PlanningStarted env s (((((s.putRun run).putLock lock).withEvents events).putTask
      { task with latestPlanningRun := some run.runId, updatedAt := utcNow env }).withEvents
        events') task run lock :=
    { canonical := hruncan
      fresh := hfresh
      newRun := ⟨_, _, hrun.symm⟩
      newLock := ⟨lockId, _, _, hlock.symm⟩
      sound := hsound
      runs := rfl
      locks := rfl
      tasks := rfl
      plans := rfl
      questions := rfl
      rebuilds := hrebuilds }
  refine Sat.query (fun e he => ⟨⟨run, lock, hstarted⟩, ?_⟩) fun u hu => ?_
  · refine iff_of_false not_error_ok fun hloads => ?_
    obtain ⟨u, hu⟩ := rebuildV2Indexes_loads.2 (hrebuilds.2 hloads)
    cases he.symm.trans hu
  · obtain ⟨l, hrequire, -⟩ := hstarted.locked
    refine sat_known hrequire (Sat.pure ⟨⟨run, lock, hstarted⟩, ?_⟩)
    exact iff_of_true ⟨_, rfl⟩ (hrebuilds.1 (rebuildV2Indexes_loads.1 ⟨u, hu⟩))

-- ════════════════════════════════════════════════════════════════════════
-- Proposing
-- ════════════════════════════════════════════════════════════════════════

/-- The file of the plan is not there yet. -/
def NewVersion (s : Ledger) (p : PlanRecord) : Prop :=
  s.plans.lookup (p.taskId, p.planVersion) = none

/-- A proposal that its checks refuse, or whose version is taken, writes nothing. -/
theorem refuses_proposePlan
    (h : ∀ p, proposalOf env ref body criteria s = .ok p → ¬ NewVersion s p.plan) :
    Refuses (proposePlan env ref body criteria) s := by
  by_contra hgoes
  obtain ⟨p, hp, hgoes⟩ := not_refuses_query.1 hgoes
  exact hgoes (refuses_bind (refuses_savePlan (h p hp)))

/-- A rebuild after a plan was submitted loads what a rebuild before it does. -/
theorem rebuilds_submitted {plan : PlanRecord} {run : TaskRunRecord} {stored updated : TaskRecord}
    {events events' : List TaskEvent} (hstored : s.tasks.lookup updated.id = some stored)
    (hload : ∃ t, stored.reload = .ok t) (hupdated : ∃ t, updated.reload = .ok t)
    (hlocks : ∀ l ∈ s.locks.files, ∃ l', l.reload = .ok l') :
    Ledger.Rebuilds ((((((s.putPlan plan).putRun run).putTask updated).dropLock
      updated.id).withEvents events).withEvents events') ↔ s.Rebuilds := by
  have hkept : ((s.putPlan plan).putRun run).tasks.lookup updated.id = some stored := hstored
  calc Ledger.Rebuilds ((((((s.putPlan plan).putRun run).putTask updated).dropLock
        updated.id).withEvents events).withEvents events')
      ↔ Ledger.Rebuilds ((((s.putPlan plan).putRun run).putTask updated).dropLock updated.id) :=
        Ledger.Rebuilds.congr rfl rfl rfl rfl
    _ ↔ Ledger.Rebuilds (((s.putPlan plan).putRun run).putTask updated) :=
        Ledger.rebuilds_dropLock hlocks
    _ ↔ ((s.putPlan plan).putRun run).Rebuilds := Ledger.rebuilds_putTask hkept hload hupdated
    _ ↔ s.Rebuilds := Ledger.Rebuilds.congr rfl rfl rfl rfl

/-- A proposal that goes on writes its plan, and returns when the records of the ledger load. -/
theorem sat_proposePlan_new (hs : s.Sound) {p : Proposal}
    (hp : proposalOf env ref body criteria s = .ok p) (hfree : NewVersion s p.plan) :
    (proposePlan env ref body criteria).Sat s fun r s' =>
      s'.plans.lookup (p.plan.taskId, p.plan.planVersion) = some p.plan ∧
        ((∃ d, r = .ok d) ↔ s.Rebuilds) ∧ (s'.Rebuilds ↔ s.Rebuilds) := by
  have hpassed := proposalOf_eq_ok hp
  obtain ⟨lock, hlock, hwork⟩ := hpassed.underWay
  obtain ⟨l, rfl, hltype, hlrun⟩ := hwork.locked
  obtain ⟨stored, hstored, hreload⟩ := resolveTask_stored hpassed.found
  refine sat_known hp (Sat.bind (sat_savePlan_free hfree) ?_ ?_)
  · rintro e _ ⟨h, -⟩
    cases h
  rintro _ _ ⟨-, rfl⟩
  refine Sat.write (Sat.write (sat_deleteLock_locked hlock hltype hlrun fun events =>
    sat_eventList fun events' => ?_))
  have hlocks : ∀ l ∈ s.locks.files, ∃ l', l.reload = .ok l' := fun l hl =>
    TaskLock.loads_of_isSound (lock_file_sound hs hl)
  have hupdated : ∃ t, (taskInReview env p.task p.plan.planVersion).reload = .ok t :=
    TaskRecord.loads_congr (TaskRecord.reload_again hreload) rfl rfl rfl
  have hrebuilds : Ledger.Rebuilds ((((((s.putPlan p.plan).putRun
      (finishedPlanning env p.run p.planBody)).putTask
        (taskInReview env p.task p.plan.planVersion)).dropLock
          (taskInReview env p.task p.plan.planVersion).id).withEvents events).withEvents
            events') ↔ s.Rebuilds :=
    rebuilds_submitted hstored ⟨_, hreload⟩ hupdated hlocks
  have hplan : (s.putPlan p.plan).plans.lookup (p.plan.taskId, p.plan.planVersion) = some p.plan :=
    Directory.lookup_save_self _ _
  refine Sat.query (fun e he => ⟨hplan, ?_, hrebuilds⟩) fun u hu =>
    Sat.pure ⟨hplan, ?_, hrebuilds⟩
  · refine iff_of_false (fun ⟨_, hd⟩ => by cases hd) fun hloads => ?_
    obtain ⟨u, hu⟩ := rebuildV2Indexes_loads.2 (hrebuilds.2 hloads)
    cases he.symm.trans hu
  · exact iff_of_true ⟨_, rfl⟩ (hrebuilds.1 (rebuildV2Indexes_loads.1 ⟨u, hu⟩))

/-- A submission that refuses when its version is taken, and otherwise writes its plan and returns
when the records load, is settled by the records. -/
theorem settled_submission {ι : Type} {m : LedgerAction α} {found : LedgerQuery ι}
    {plan : ι → PlanRecord}
    (hrefuses : (∀ i, found s = .ok i → ¬ NewVersion s (plan i)) → Refuses m s)
    (hgoes : ∀ i, found s = .ok i → NewVersion s (plan i) → m.Sat s fun r s' =>
      s'.plans.lookup ((plan i).taskId, (plan i).planVersion) = some (plan i) ∧
        ((∃ d, r = .ok d) ↔ s.Rebuilds)) :
    m.Sat s (Settled s (∀ i, found s = .ok i → NewVersion s (plan i) → s.Rebuilds)) := by
  by_cases hnew : ∃ i, found s = .ok i ∧ NewVersion s (plan i)
  · obtain ⟨i, hi, hfree⟩ := hnew
    refine (hgoes i hi hfree).mono fun r s' ⟨hplan, hreturns⟩ => ?_
    have hiff : s.Rebuilds ↔ ∀ i, found s = .ok i → NewVersion s (plan i) → s.Rebuilds :=
      ⟨fun h _ _ _ => h, fun h => h i hi hfree⟩
    refine Settled.congr ⟨fun hloads => .inl (hreturns.2 hloads), fun hloads => ⟨?_, ?_⟩⟩ hiff
    · cases r with
      | error e => exact ⟨e, rfl⟩
      | ok d => exact absurd (hreturns.1 ⟨d, rfl⟩) hloads
    · intro hnothing
      rw [hnothing.plans _ hfree] at hplan
      cases hplan
  · have hnone : ∀ i, found s = .ok i → ¬ NewVersion s (plan i) := fun i hi hfree =>
      hnew ⟨i, hi, hfree⟩
    obtain ⟨e, he⟩ := hrefuses hnone
    unfold Sat
    rw [he]
    exact .unchanged fun i hi hfree => absurd hfree (hnone i hi)

/-- A proposal alone is settled by the records of the ledger. -/
theorem settled_proposePlan (hs : s.Sound) :
    (proposePlan env ref body criteria).Sat s (Settled s (∀ p,
      proposalOf env ref body criteria s = .ok p → NewVersion s p.plan → s.Rebuilds)) :=
  settled_submission refuses_proposePlan fun _ hp hfree =>
    (sat_proposePlan_new hs hp hfree).mono fun _ _ h => ⟨h.1, h.2.1⟩

-- ════════════════════════════════════════════════════════════════════════
-- Starting and proposing
-- ════════════════════════════════════════════════════════════════════════

/-- What the proposal after a start asks for: the records and the questions load, the text is
read, and the next version is not taken. -/
structure Proposable (env : Env) (s : Ledger) (task : TaskRecord) (body : String)
    (criteria : List String) : Prop where
  rebuilds : s.Rebuilds
  questions : ∃ questions, listQuestions task.id s = .ok questions
  text : ∃ input, readPlanInput env body criteria = .ok input
  version : ∀ plans, listPlans task.id s = .ok plans →
    s.plans.lookup (task.id, nextPlanVersion plans.getLast?) = none

/-- Once planning has started, the proposal goes on exactly when it is proposable. -/
theorem PlanningStarted.goes_iff {run : TaskRunRecord} {lock : TaskLock}
    (h : PlanningStarted env s s₁ task run lock) (hs : s.Sound)
    (hfound : resolveTask task.id false s = .ok task) (hvisible : isArchivedTask task = false)
    (hstage : task.statusStage = .planReview) (hidle : runningRuns task s = .ok [])
    (hloads : s.Rebuilds) :
    (∃ p, proposalOf env task.id body criteria s₁ = .ok p ∧ NewVersion s₁ p.plan) ↔
      Proposable env s task body criteria := by
  obtain ⟨runs, hruns, -⟩ := runningRuns_eq_ok hidle
  have hiff : (∃ p, proposalOf env task.id body criteria s₁ = .ok p) ↔
      (∃ questions, listQuestions task.id s = .ok questions) ∧
        ∃ input, readPlanInput env body criteria = .ok input :=
    h.proposes_iff hs hfound hvisible hstage hruns
  obtain ⟨t, ht, hid, -⟩ := h.resolved hs hfound hvisible
  have hplans : listPlans task.id s₁ = listPlans task.id s := by
    unfold listPlans
    rw [h.plans]
  have hversion {p : Proposal} (hp : proposalOf env task.id body criteria s₁ = .ok p) :
      NewVersion s₁ p.plan ↔ ∀ plans, listPlans task.id s = .ok plans →
        s.plans.lookup (task.id, nextPlanVersion plans.getLast?) = none := by
    have hpassed := proposalOf_eq_ok hp
    obtain ⟨plans, hlisted, hnext⟩ := hpassed.version
    obtain ⟨_, -, hsubmitted⟩ := hpassed.input
    cases ht.symm.trans hpassed.found
    rw [hid, hplans] at hlisted
    unfold NewVersion
    rw [hsubmitted.filed, hid, hnext, h.plans]
    constructor
    · intro hfree plans' hlisted'
      cases hlisted.symm.trans hlisted'
      exact hfree
    · intro hfree
      exact hfree plans hlisted
  constructor
  · rintro ⟨p, hp, hfree⟩
    obtain ⟨hquestions, htext⟩ := hiff.1 ⟨p, hp⟩
    exact ⟨hloads, hquestions, htext, (hversion hp).1 hfree⟩
  · intro hproposable
    obtain ⟨p, hp⟩ := hiff.2 ⟨hproposable.questions, hproposable.text⟩
    exact ⟨p, hp, (hversion hp).2 hproposable.version⟩

/-- A start, the proposal after it, and an end that returns when the records load. -/
theorem settled_revision {k : Dict → Dict → LedgerAction Dict} (hs : s.Sound)
    (hfound : resolveTask task.id false s = .ok task) (hvisible : isArchivedTask task = false)
    (hstage : task.statusStage = .planReview) (hunlocked : readLock task.id s = .ok none)
    (hidle : runningRuns task s = .ok [])
    (hk : ∀ revised proposed s₂, s₂.Rebuilds →
      (k revised proposed).Sat s₂ fun r _ => ∃ d, r = .ok d) :
    (startPlanning env task.id >>= fun revised =>
      proposePlan env task.id body criteria >>= fun proposed => k revised proposed).Sat s
      (Settled s (Proposable env s task body criteria)) := by
  have hwalked : (startPlanning env task.id).Sat s fun _ s₁ =>
      Walked (fun _ _ => True) s.view task.id false s₁ :=
    walked_startPlanning hs (fun t ht => by cases ht.symm.trans hfound; rfl) fun _ => trivial
  refine Sat.bind (P := fun r s₁ => ((∃ run lock, PlanningStarted env s s₁ task run lock) ∧
    ((∃ d, r = .ok d) ↔ s.Rebuilds)) ∧ Walked (fun _ _ => True) s.view task.id false s₁)
    ⟨sat_startPlanning_free hs hfound hvisible hstage hunlocked hidle, hwalked⟩ ?_ ?_
  · rintro e s₁ ⟨⟨⟨run, lock, h⟩, hreturns⟩, -⟩
    refine ⟨fun hproposable => ?_, fun _ => ⟨⟨e, rfl⟩, h.leaves_run⟩⟩
    obtain ⟨d, hd⟩ := hreturns.2 hproposable.rebuilds
    cases hd
  · rintro revised s₁ ⟨⟨⟨run, lock, h⟩, hreturns⟩, hwalk⟩
    have hloads := hreturns.1 ⟨revised, rfl⟩
    have hgoes : (∃ p, proposalOf env task.id body criteria s₁ = .ok p ∧ NewVersion s₁ p.plan) ↔
        Proposable env s task body criteria :=
      h.goes_iff hs hfound hvisible hstage hidle hloads
    by_cases hp : ∃ p, proposalOf env task.id body criteria s₁ = .ok p ∧ NewVersion s₁ p.plan
    · obtain ⟨p, hp, hfree⟩ := hp
      refine Sat.bind (sat_proposePlan_new (hwalk.sound hs) hp hfree) ?_ ?_
      · rintro e s₂ ⟨-, hreturned, -⟩
        obtain ⟨d, hd⟩ := hreturned.2 (h.rebuilds.2 hloads)
        cases hd
      · rintro proposed s₂ ⟨-, -, hrebuilds⟩
        refine (hk revised proposed s₂ (hrebuilds.2 (h.rebuilds.2 hloads))).mono fun r s' hok => ?_
        exact ⟨fun _ => .inl hok, fun hnot => absurd (hgoes.1 ⟨p, hp, hfree⟩) hnot⟩
    · have hrefuses : Refuses (proposePlan env task.id body criteria) s₁ :=
        refuses_proposePlan fun p hp' hfree => hp ⟨p, hp', hfree⟩
      obtain ⟨e, he⟩ : Refuses (proposePlan env task.id body criteria >>= fun proposed =>
          k revised proposed) s₁ := refuses_bind hrefuses
      unfold Sat
      rw [he]
      exact ⟨fun hproposable => absurd (hgoes.2 hproposable) hp, fun _ => ⟨⟨e, rfl⟩, h.leaves_run⟩⟩

-- ════════════════════════════════════════════════════════════════════════
-- Regenerating
-- ════════════════════════════════════════════════════════════════════════

/-- What a rebuild lists, and one plan file, are the same in two ledgers. -/
structure Ledger.SameListed (s s' : Ledger) (key : String × Nat) : Prop where
  tasks : s'.tasks = s.tasks
  introductions : s'.introductions = s.introductions
  locks : s'.locks = s.locks
  requirements : s'.requirements = s.requirements
  plan : s'.plans.lookup key = s.plans.lookup key

theorem Ledger.SameListed.rebuilds {s' : Ledger} {key : String × Nat} (h : s.SameListed s' key) :
    s'.Rebuilds ↔ s.Rebuilds :=
  Ledger.Rebuilds.congr h.tasks h.introductions h.locks h.requirements

section Writes

variable {key : String × Nat} {Q : Except Raised α → Ledger → Prop} {k : Unit → LedgerAction α}

omit [Runtime] in
/-- A previous plan is superseded: another plan file stays. -/
theorem sat_supersedePrevious_listed {previous : Option PlanRecord}
    (hother : ∀ p, previous = some p → (p.taskId, p.planVersion) ≠ key)
    (hk : ∀ s', s.SameListed s' key → (k ()).Sat s' Q) :
    (supersedePrevious previous >>= k).Sat s Q := by
  cases previous with
  | none => exact hk s ⟨rfl, rfl, rfl, rfl, rfl⟩
  | some p =>
    unfold supersedePrevious onlyIf
    dsimp only
    split
    · refine Sat.write (hk _ ⟨rfl, rfl, rfl, rfl, ?_⟩)
      exact Directory.lookup_save_of_ne _ (hother p rfl)
    · exact hk s ⟨rfl, rfl, rfl, rfl, rfl⟩

theorem sat_finishPlanningRun_listed {finish : RunToFinish} {planBody : String}
    (hk : ∀ s', s.SameListed s' key → (k ()).Sat s' Q) :
    (finishPlanningRun env finish planBody >>= k).Sat s Q := by
  unfold finishPlanningRun
  split
  · exact Sat.write (hk _ ⟨rfl, rfl, rfl, rfl, rfl⟩)
  · exact hk s ⟨rfl, rfl, rfl, rfl, rfl⟩

/-- The lock of a finished planning run is released: a rebuild loads what it did. -/
theorem sat_releasePlanningRun_listed {finish : RunToFinish} {version : Nat}
    (hlock : finish.LockFits s task.id) (hlocks : ∀ l ∈ s.locks.files, ∃ l', l.reload = .ok l')
    (hk : ∀ s', s'.plans = s.plans → (s'.Rebuilds ↔ s.Rebuilds) → (k ()).Sat s' Q) :
    (releasePlanningRun env task finish version >>= k).Sat s Q := by
  cases finish with
  | none => exact hk s rfl Iff.rfl
  | locked run =>
    obtain ⟨l, hl, htype, hrun⟩ := hlock
    exact sat_deleteLock_locked hl htype hrun fun events => hk _ rfl
      (Ledger.rebuilds_withEvents.trans (Ledger.rebuilds_dropLock hlocks))
  | orphaned run => exact sat_eventList fun events => hk _ rfl Ledger.rebuilds_withEvents

end Writes

/-- A regeneration that goes on writes its plan, and returns when the records load. -/
theorem sat_regeneratePlan_new {allowOpenQuestions : Bool} (hs : s.Sound) {r : Regeneration}
    (hr : regenerationOf env ref body criteria allowOpenQuestions s = .ok r)
    (hfree : NewVersion s r.plan) :
    (regeneratePlanFromAnswers env ref body criteria allowOpenQuestions).Sat s fun result s' =>
      s'.plans.lookup (r.plan.taskId, r.plan.planVersion) = some r.plan ∧
        ((∃ d, result = .ok d) ↔ s.Rebuilds) := by
  have hpassed := regenerationOf_eq_ok hr
  have hfits := hpassed.fits hs
  obtain ⟨plans, hplans, hprevious, hversion⟩ := hpassed.version
  obtain ⟨stored, hstored, hreload⟩ := resolveTask_stored hpassed.found
  have hother : ∀ p, r.previous = some p →
      (p.taskId, p.planVersion) ≠ (r.plan.taskId, r.plan.planVersion) := by
    intro p hp hkey
    have hnext : r.plan.planVersion = p.planVersion + 1 := by
      rw [hversion, ← hprevious, hp]
      rfl
    rw [Prod.mk.injEq] at hkey
    omega
  refine sat_known hr (Sat.bind (sat_savePlan_free hfree) ?_ ?_)
  · rintro e _ ⟨h, -⟩
    cases h
  rintro _ _ ⟨-, rfl⟩
  refine sat_supersedePrevious_listed hother fun s₁ h₁ => sat_finishPlanningRun_listed
    fun s₂ (h₂ : s₁.SameListed s₂ (r.plan.taskId, r.plan.planVersion)) => Sat.write ?_
  -- the task is written, and the lock is released
  have hlocked : s₂.locks = s.locks := h₂.locks.trans h₁.locks
  have hlocks : ∀ l ∈ (s₂.putTask (taskInReview env r.task r.plan.planVersion)).locks.files,
      ∃ l', l.reload = .ok l' := by
    intro l hl
    exact TaskLock.loads_of_isSound (lock_file_sound hs (hlocked ▸ hl))
  refine sat_releasePlanningRun_listed (hfits.lock.congr hlocked) hlocks fun s₃ hplans₃ hloads₃ =>
    sat_eventList fun events => ?_
  have htask : s₂.tasks.lookup r.task.id = some stored := by
    rw [h₂.tasks, h₁.tasks]
    exact hstored
  have hrebuilds : (s₃.withEvents events).Rebuilds ↔ s.Rebuilds :=
    calc (s₃.withEvents events).Rebuilds
        ↔ s₃.Rebuilds := Ledger.rebuilds_withEvents
      _ ↔ (s₂.putTask (taskInReview env r.task r.plan.planVersion)).Rebuilds := hloads₃
      _ ↔ s₂.Rebuilds := Ledger.rebuilds_putTask htask ⟨_, hreload⟩
          (TaskRecord.loads_congr (TaskRecord.reload_again hreload) rfl rfl rfl)
      _ ↔ s₁.Rebuilds := h₂.rebuilds
      _ ↔ s.Rebuilds := h₁.rebuilds.trans (Ledger.Rebuilds.congr rfl rfl rfl rfl)
  have hplan : (s₃.withEvents events).plans.lookup (r.plan.taskId, r.plan.planVersion) =
      some r.plan := by
    show s₃.plans.lookup _ = _
    rw [hplans₃]
    exact h₂.plan.trans (h₁.plan.trans (Directory.lookup_save_self _ _))
  refine Sat.query (fun e he => ⟨hplan, ?_⟩) fun u hu => Sat.pure ⟨hplan, ?_⟩
  · refine iff_of_false (fun ⟨_, hd⟩ => by cases hd) fun hloads => ?_
    obtain ⟨u, hu⟩ := rebuildV2Indexes_loads.2 (hrebuilds.2 hloads)
    cases he.symm.trans hu
  · exact iff_of_true ⟨_, rfl⟩ (hrebuilds.1 (rebuildV2Indexes_loads.1 ⟨u, hu⟩))

/-- A regeneration that its checks refuse, or whose version is taken, writes nothing. -/
theorem refuses_regeneratePlan {allowOpenQuestions : Bool}
    (h : ∀ r, regenerationOf env ref body criteria allowOpenQuestions s = .ok r →
      ¬ NewVersion s r.plan) :
    Refuses (regeneratePlanFromAnswers env ref body criteria allowOpenQuestions) s := by
  by_contra hgoes
  obtain ⟨r, hr, hgoes⟩ := not_refuses_query.1 hgoes
  exact hgoes (refuses_bind (refuses_savePlan (h r hr)))

theorem settled_regeneratePlan {allowOpenQuestions : Bool} (hs : s.Sound) :
    (regeneratePlanFromAnswers env ref body criteria allowOpenQuestions).Sat s (Settled s (∀ r,
      regenerationOf env ref body criteria allowOpenQuestions s = .ok r → NewVersion s r.plan →
        s.Rebuilds)) :=
  settled_submission refuses_regeneratePlan fun _ hr hfree => sat_regeneratePlan_new hs hr hfree

-- ════════════════════════════════════════════════════════════════════════
-- Upserting and amending
-- ════════════════════════════════════════════════════════════════════════

/-- A start that a running run refuses. -/
theorem refuses_startPlanning {k : Dict → LedgerAction α}
    (hfound : resolveTask task.id false s = .ok task) (hvisible : isArchivedTask task = false)
    (hbusy : runningRuns task s ≠ .ok []) :
    Refuses (startPlanning env task.id >>= k) s := by
  refine refuses_bind ?_
  by_contra hgoes
  exact hbusy ((operation_accepted_plan hfound hvisible).1 hgoes).2

omit [Runtime] in
theorem settled_refusal {m : LedgerAction α} {C : Prop} (hc : C) (h : Refuses m s) :
    m.Sat s (Settled s C) := by
  obtain ⟨e, he⟩ := h
  unfold Sat
  rw [he]
  exact .unchanged hc

/-- A revision of a task that may have a running run. -/
theorem settled_revision_idle {k : Dict → Dict → LedgerAction Dict} (hs : s.Sound)
    (hfound : resolveTask task.id false s = .ok task) (hvisible : isArchivedTask task = false)
    (hstage : task.statusStage = .planReview) (hunlocked : readLock task.id s = .ok none)
    (hk : ∀ revised proposed s₂, s₂.Rebuilds →
      (k revised proposed).Sat s₂ fun r _ => ∃ d, r = .ok d) :
    (startPlanning env task.id >>= fun revised =>
      proposePlan env task.id body criteria >>= fun proposed => k revised proposed).Sat s
      (Settled s (runningRuns task s = .ok [] → Proposable env s task body criteria)) := by
  by_cases hidle : runningRuns task s = .ok []
  · refine (settled_revision hs hfound hvisible hstage hunlocked hidle hk).mono fun r s' h => ?_
    exact h.congr ⟨fun hp _ => hp, fun hp => hp hidle⟩
  · exact settled_refusal (fun h => absurd h hidle) (refuses_startPlanning hfound hvisible hidle)

/-- The upsert starts a planning run. -/
def Revises (s : Ledger) (task : TaskRecord) (autoReviseFlag : Bool) : Prop :=
  autoReviseFlag = true ∧ task.statusStage = .planReview ∧ readLock task.id s = .ok none

/-- What an upsert asks for once its branch is chosen. -/
structure UpsertSettles (env : Env) (s : Ledger) (task : TaskRecord) (body : String)
    (criteria : List String) (allowOpenQuestions autoReviseFlag regenerates : Bool) : Prop where
  regenerated : regenerates = true → ∀ r,
    regenerationOf env task.id body criteria allowOpenQuestions s = .ok r → NewVersion s r.plan →
      s.Rebuilds
  revised : regenerates = false → Revises s task autoReviseFlag → runningRuns task s = .ok [] →
    Proposable env s task body criteria
  proposed : regenerates = false → ¬ Revises s task autoReviseFlag → ∀ p,
    proposalOf env task.id body criteria s = .ok p → NewVersion s p.plan → s.Rebuilds

theorem visible_of_upsertBranch {fromAnswers allowOpenQuestions regenerates : Bool}
    (h : upsertBranch ref fromAnswers allowOpenQuestions s = .ok (task, regenerates)) :
    isArchivedTask task = false := by
  obtain ⟨t, -, h⟩ := Query.bind_eq_ok.1 h
  obtain ⟨_, hvisible, h⟩ := Query.bind_eq_ok.1 h
  iterate 3 obtain ⟨_, _, h⟩ := Query.bind_eq_ok.1 h
  cases Query.pure_eq_ok.1 h
  rw [Query.liftM_eq_ok] at hvisible
  exact visible_of_ensure hvisible

theorem settled_upsertProposal {autoReviseFlag allowOpenQuestions : Bool} (hs : s.Sound)
    (hfound : resolveTask task.id false s = .ok task) (hvisible : isArchivedTask task = false) :
    (upsertProposal env task body criteria autoReviseFlag).Sat s (Settled s
      (UpsertSettles env s task body criteria allowOpenQuestions autoReviseFlag false)) := by
  have hpropose {f : Dict → Dict} (hnot : ¬ Revises s task autoReviseFlag) :
      (proposePlan env task.id body criteria >>= fun payload => pure (f payload)).Sat s (Settled s
        (UpsertSettles env s task body criteria allowOpenQuestions autoReviseFlag false)) := by
    refine (Settled.map (settled_proposePlan hs)).mono fun r s' h => h.congr ?_
    constructor
    · exact fun hp => ⟨(fun h => by cases h), fun _ hrev => absurd hrev hnot, fun _ _ => hp⟩
    · exact fun h => h.proposed rfl hnot
  unfold upsertProposal
  cases autoReviseFlag with
  | false => exact hpropose fun h => by cases h.1
  | true =>
    obtain ⟨lock, hlock⟩ := readLock_loads hs task.id
    simp only [if_true, autoRevise, bind_assoc]
    refine sat_known hlock ?_
    by_cases hstarts : task.statusStage = .planReview ∧ lock.isNone = true
    · have hunlocked : readLock task.id s = .ok none := by
        rw [hlock, Option.isNone_iff_eq_none.1 hstarts.2]
      rw [if_pos hstarts]
      simp only [bind_assoc, pure_bind]
      refine (settled_revision_idle hs hfound hvisible hstarts.1 hunlocked
        fun _ _ _ _ => Sat.pure ⟨_, rfl⟩).mono fun r s' h => h.congr ?_
      have hrev : Revises s task true := ⟨rfl, hstarts.1, hunlocked⟩
      constructor
      · exact fun hp => ⟨(fun h => by cases h), fun _ _ => hp, fun _ hnot => absurd hrev hnot⟩
      · exact fun h => h.revised rfl hrev
    · rw [if_neg hstarts]
      refine hpropose fun ⟨_, hstage, hunlocked⟩ => hstarts ⟨hstage, ?_⟩
      cases hlock.symm.trans hunlocked
      rfl

theorem settled_upsertPlan {fromAnswers allowOpenQuestions autoReviseFlag : Bool} (hs : s.Sound) :
    (upsertPlan env ref body criteria fromAnswers allowOpenQuestions autoReviseFlag).Sat s
      (Settled s (∀ branch, upsertBranch ref fromAnswers allowOpenQuestions s = .ok branch →
        UpsertSettles env s branch.1 body criteria allowOpenQuestions autoReviseFlag
          branch.2)) := by
  refine settled_query fun (task, regenerates) hbranch => ?_
  have hfound := resolve_again hs (upsertBranch_eq_ok hbranch) rfl
  have hvisible := visible_of_upsertBranch hbranch
  cases regenerates with
  | true =>
    refine (Settled.map (settled_regeneratePlan hs)).mono fun r s' h => h.congr ?_
    constructor
    · exact fun hr => ⟨fun _ => hr, (fun h => by cases h), fun h => by cases h⟩
    · exact fun h => h.regenerated rfl
  | false => exact settled_upsertProposal hs hfound hvisible

theorem settled_amendPlan {dropCriteria dropTodos removeFiles : List String} (hs : s.Sound) :
    (amendPlan env ref dropCriteria dropTodos removeFiles reason).Sat s (Settled s (∀ found,
      amendmentOf ref dropCriteria dropTodos reason s = .ok found →
        runningRuns found.1 s = .ok [] → Proposable env s found.1
          (renderEditablePlan (amendedPlan found.2 dropCriteria dropTodos removeFiles)) [])) := by
  refine settled_query fun (task, latest) hamend => ?_
  obtain ⟨hresolved, hvisible, hstage, hunlocked⟩ := amendmentOf_eq_ok hamend
  have hfound := resolve_again hs hresolved rfl
  refine settled_revision_idle hs hfound hvisible hstage hunlocked fun revised proposed s₂ hloads => ?_
  refine sat_eventList fun events => ?_
  obtain ⟨u, hu⟩ := rebuildV2Indexes_loads.2
    (Ledger.rebuilds_withEvents.2 hloads : (s₂.withEvents events).Rebuilds)
  exact sat_known hu (Sat.pure ⟨_, rfl⟩)

/-- An upsert and an amendment are all or nothing exactly when what follows their first write
does not raise. -/
theorem submission_all_or_nothing_iff (h : s.Reachable) (env : Env) (ref : String) :
    (∀ (body : String) (criteria : List String)
        (fromAnswers allowOpenQuestions autoReviseFlag : Bool),
      AllOrNothing
          (upsertPlan env ref body criteria fromAnswers allowOpenQuestions autoReviseFlag) s ↔
        ∀ task regenerates,
          upsertBranch ref fromAnswers allowOpenQuestions s = .ok (task, regenerates) →
            UpsertSettles env s task body criteria allowOpenQuestions autoReviseFlag
              regenerates) ∧
    ∀ (dropCriteria dropTodos removeFiles : List String) (reason : String),
      AllOrNothing (amendPlan env ref dropCriteria dropTodos removeFiles reason) s ↔
        ∀ task latest, amendmentOf ref dropCriteria dropTodos reason s = .ok (task, latest) →
          runningRuns task s = .ok [] → Proposable env s task
            (renderEditablePlan (amendedPlan latest dropCriteria dropTodos removeFiles)) [] := by
  have hs := h.sound
  constructor
  · intro body criteria fromAnswers allowOpenQuestions autoReviseFlag
    rw [allOrNothing_iff (settled_upsertPlan hs), Prod.forall]
  · intro dropCriteria dropTodos removeFiles reason
    rw [allOrNothing_iff (settled_amendPlan hs), Prod.forall]

end Planning

section Evaluation

attribute [local instance] plainRuntime

/-- A revision with a text that is read is proposed. -/
theorem submission_all_or_nothing_proposed :
    (afterOps proposedOps).Reachable ∧
      AllOrNothing (upsertPlan plainEnv "task-0001" "Do it better." ["it works"] false false true)
        (afterOps proposedOps) := by
  have hreachable := reachable_afterOps proposedOps
  refine ⟨hreachable, ((submission_all_or_nothing_iff hreachable plainEnv "task-0001").1 _ _ _ _
    _).2 fun task regenerates hbranch => ?_⟩
  have hfound : (upsertBranch "task-0001" false false (afterOps proposedOps)).toOption.map
      (fun branch => (branch.1.id, branch.2)) = some ("task-0001", false) := by decide
  rw [hbranch] at hfound
  obtain ⟨hid, hfalse⟩ := Prod.mk.inj (Option.some.inj hfound)
  dsimp only at hid hfalse
  have hloads : (afterOps proposedOps).Rebuilds :=
    rebuildV2Indexes_loads.1 (isSome_toOption.1 (by decide))
  have hversion : (listPlans "task-0001" (afterOps proposedOps)).toOption.map (fun plans =>
      (afterOps proposedOps).plans.lookup ("task-0001", nextPlanVersion plans.getLast?)) =
        some none := by decide
  refine ⟨fun h => ?_, fun _ _ _ => ?_, fun _ _ _ _ _ => hloads⟩
  · rw [hfalse] at h
    cases h
  · refine ⟨hloads, ?_, isSome_toOption.1 (by decide), fun plans hplans => ?_⟩
    · rw [hid]
      exact isSome_toOption.1 (by decide)
    · rw [hid] at hplans ⊢
      rw [hplans] at hversion
      exact Option.some.inj hversion

/-- A revision whose front matter does not end raises, and its planning run remains. -/
theorem unread_revision_leaves_run :
    (afterOps proposedOps).Reachable ∧
      ¬ AllOrNothing (upsertPlan plainEnv "task-0001" "---" [] false false true)
        (afterOps proposedOps) := by
  refine ⟨reachable_afterOps _, fun h => ?_⟩
  have hraises : ((upsertPlan plainEnv "task-0001" "---" [] false false true).runOn
      (afterOps proposedOps)).1.isOk = false := by decide
  have hfree : (afterOps proposedOps).runs.lookup ("task-0001", "run-0002") = none := by
    decide
  have hfiled : ((upsertPlan plainEnv "task-0001" "---" [] false false true).runOn
      (afterOps proposedOps)).2.runs.lookup ("task-0001", "run-0002") ≠ none := by decide
  cases hr : ((upsertPlan plainEnv "task-0001" "---" [] false false true).runOn
      (afterOps proposedOps)).1 with
  | error e => exact hfiled ((h e hr).runs _ hfree)
  | ok d =>
    rw [hr] at hraises
    cases hraises

end Evaluation

end Taskledger
