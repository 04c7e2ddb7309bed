import Taskledger.Lifecycle.Steps

/-!
# Terminal tasks

A task that is done or cancelled has no lock, and a done one has no running run.
Cancelling leaves the running run to be resumed after the task is uncancelled, but
no proposal and no finish succeeds meanwhile.
-/

namespace Taskledger

open Library Action Lifecycle

section Invariant

variable [Runtime] {s : Ledger} {env : Env} {id ref : String} {v w : View}

-- ════════════════════════════════════════════════════════════════════════
-- The invariant of the machine
-- ════════════════════════════════════════════════════════════════════════

/-- What a terminal task does not have. -/
structure View.Quiescent (v : View) : Prop where
  unlocked : ∀ t, v.task = some t → t.stage = .done ∨ t.stage = .cancelled → v.lock = none
  stopped : ∀ t, v.task = some t → t.stage = .done →
    ∀ runId r, v.runs runId = some r → r.status ≠ .running

omit [Runtime] in
/-- A view whose task is not terminal. -/
theorem View.Quiescent.of_active {t : TaskCore} (ht : v.task = some t) (hdone : t.stage ≠ .done)
    (hcancelled : t.stage ≠ .cancelled) : v.Quiescent where
  unlocked u hu h := by
    cases ht.symm.trans hu
    rcases h with h | h
    · exact absurd h hdone
    · exact absurd h hcancelled
  stopped u hu h := by
    cases ht.symm.trans hu
    exact absurd h hdone

omit [Runtime] in
/-- A view whose lock and runs are those of a quiescent one, stage by stage. -/
theorem View.Quiescent.of_stage {t u : TaskCore} (h : v.Quiescent) (ht : v.task = some t)
    (hu : w.task = some u) (hstage : u.stage = t.stage) (hlock : w.lock = none ∨ w.lock = v.lock)
    (hruns : ∀ runId r, w.runs runId = some r → r.status = .running →
      ∃ r', v.runs runId = some r' ∧ r'.status = .running) : w.Quiescent where
  unlocked u' hu' hs := by
    cases hu.symm.trans hu'
    rw [hstage] at hs
    rcases hlock with hlock | hlock
    · exact hlock
    · exact hlock.trans (h.unlocked t ht hs)
  stopped u' hu' hs runId r hr hrun := by
    cases hu.symm.trans hu'
    obtain ⟨r', hr', hrun'⟩ := hruns runId r hr hrun
    exact h.stopped t ht (hstage ▸ hs) runId r' hr' hrun'

omit [Runtime] in
theorem verdictStatus_ne_running (result : ValidationResult) : verdictStatus result ≠ .running := by
  cases result <;> decide

/-- The moves keep terminal tasks quiescent. -/
theorem Move.quiescent {l : Label} (hs : v.Sound id) (h : v.Quiescent) (m : Move id l v w) :
    w.Quiescent := by
  cases m with
  | create hid hfree => exact .of_active (View.setTask_task _ _) (by decide) (by decide)
  | record hid hfree =>
    obtain ⟨hruns, -, hlock⟩ := hs.blank hfree
    refine ⟨fun _ _ _ => hlock, fun _ _ _ runId r hr => ?_⟩
    rw [View.setTask_runs, hruns] at hr
    cases hr
  | @addFinished _ t runId r ht htype hid hfree hr hw =>
    refine h.of_stage ht ht rfl (.inr rfl) fun i x hx hrunning => ?_
    rw [View.setRun_runs] at hx
    by_cases hi : i = runId
    · subst hi
      rw [Function.update_self] at hx
      cases hx
      simp [hr] at hrunning
    · rw [Function.update_of_ne hi] at hx
      exact ⟨x, hx, hrunning⟩
  | link ht htype himpl hval =>
    exact h.of_stage ht (View.setTask_task _ _) rfl (.inr rfl) fun _ x hx hrun => ⟨x, hx, hrun⟩
  | startPlanning ht hstage hidle hrun =>
    refine .of_active (View.setTask_task _ _) ?_ ?_ <;> rcases hstage with h | h <;> simp [h]
  | propose ht hstage hrun hnew => exact .of_active rfl (by simp) (by simp)
  | regenerate ht hfinish hnew hprevious => exact .of_active rfl (by simp) (by simp)
  | approve ht hstage hidle hplan hlisted hproposed => exact .of_active rfl (by simp) (by simp)
  | reject ht hstage hlatest => exact .of_active ht (by simp [hstage]) (by simp [hstage])
  | startImplementation ht hstage haccepted hidle hrun hversion =>
    exact .of_active (View.setTask_task _ _) (by simp) (by simp)
  | resume ht hstage haccepted hlock hrun =>
    exact .of_active (View.setTask_task _ _) (by simp) (by simp)
  | finishImplementation ht hlatest hrun => exact .of_active rfl (by simp) (by simp)
  | startValidation ht hstage himpl hfinished hidle hrun hbased =>
    exact .of_active (View.setTask_task _ _) (by simp [hstage]) (by simp [hstage])
  | finishValidation ht hlatest hrun =>
    exact ⟨fun _ _ _ => rfl, fun _ _ _ _ _ hx =>
      hs.stopped_of_update hrun (verdictStatus_ne_running _) hx⟩
  | cancel ht hstage =>
    refine ⟨fun _ _ _ => rfl, fun u hu hdone => ?_⟩
    cases hu
    cases hdone
  | @uncancel _ t target ht hstage hlock htarget =>
    refine .of_active (View.setTask_task _ _) ?_ ?_
    · rintro rfl
      exact htarget
    · rintro rfl
      exact htarget
  | archive ht harchived hstage =>
    exact h.of_stage ht (View.setTask_task _ _) rfl (.inr rfl) fun _ x hx hrun => ⟨x, hx, hrun⟩
  | @unarchive _ t reopen ht harchived hstage =>
    by_cases hopen : reopen = true ∧ t.stage = .implemented
    · exact .of_active (View.setTask_task _ _) (by simp [unarchivedStage, hopen])
        (by simp [unarchivedStage, hopen])
    · exact h.of_stage ht (View.setTask_task _ _) (by simp [unarchivedStage, hopen]) (.inr rfl)
        fun _ x hx hrun => ⟨x, hx, hrun⟩
  | dropLock =>
    exact ⟨fun _ _ _ => rfl, fun t ht hdone => h.stopped t ht hdone⟩
  | @repairRun _ runId r hlock hrun =>
    refine ⟨fun _ _ _ => hlock, fun t ht hdone i x hx hrunning => ?_⟩
    exact h.stopped t ht hdone runId r hrun.stored hrun.running

theorem Ledger.Reachable.quiescent (h : s.Reachable) (id : String) : (s.view id).Quiescent := by
  refine System.Reachable.invariant (I := fun s => ∀ id, (s.view id).Quiescent) h ?_ ?_ id
  · intro id
    constructor <;> intro t ht <;> simp [services, Ledger.view, Ledger.empty] at ht
  · intro s step hs ih _
    have hsound : s.Sound := Reachable.sound hs
    have hboth := (step.evolves hsound).invariant
      (I := fun id v => v.Sound id ∧ v.Quiescent)
      (fun _ _ _ _ hi _ hm => ⟨Move.sound hi.1 hm, Move.quiescent hi.1 hi.2 hm⟩)
      (fun id => ⟨hsound id, ih id⟩)
    exact fun id => (hboth id).2

-- ════════════════════════════════════════════════════════════════════════
-- Operations on a cancelled task
-- ════════════════════════════════════════════════════════════════════════

omit [Runtime] in
/-- The reference of the task an operation proposes a plan for or finishes a stage of. -/
def Op.concludes : Op → Option String
  | .proposePlan ref _ _ => some ref
  | .finishImplementation ref _ => some ref
  | .finishValidation ref _ _ _ => some ref
  | _ => none

omit [Runtime] in
theorem raises_dropResult {α : Type} {m : LedgerAction α}
    (h : m.Sat s fun r _ => ∃ e, r = .error e) :
    (dropResult m).Sat s fun r _ => ∃ e, r = .error e :=
  Sat.bind h (fun e _ _ => ⟨e, rfl⟩) fun _ _ ⟨_, h⟩ => by cases h

omit [Runtime] in
theorem raises_query {α β : Type} {q : LedgerQuery α} {k : α → LedgerAction β}
    (h : ∀ a, q s = .ok a → (k a).Sat s fun r _ => ∃ e, r = .error e) :
    ((liftM q : LedgerAction α) >>= k).Sat s fun r _ => ∃ e, r = .error e :=
  Sat.query (fun e _ => ⟨e, rfl⟩) h

variable (hid : ∀ t, resolveTask ref false s = .ok t → t.id = id)
  (hfree : readLock id s = .ok none)

include hid hfree

/-- Without a lock no proposal passes its checks. -/
theorem raises_proposePlan {body : String} {criteria : List String} :
    (proposePlan env ref body criteria).Sat s fun r _ => ∃ e, r = .error e := by
  refine raises_query fun p hp => ?_
  obtain ⟨hfound, -, ⟨lock, hlock, hwork⟩, -⟩ := proposalOf_eq_ok hp
  obtain ⟨l, rfl, -⟩ := hwork.locked
  rw [hid _ hfound, hfree] at hlock
  cases hlock

theorem raises_finishImplementation {summary : String} :
    (finishImplementation env ref summary).Sat s fun r _ => ∃ e, r = .error e := by
  refine raises_query fun f hf => ?_
  obtain ⟨hfound, -⟩ := implementationFinishOf_eq_ok hf
  obtain rfl := hid _ hfound
  refine Sat.mono (sat_finishRun_unlocked ?_) fun _ _ h => h.1
  exact hfree

theorem raises_finishValidation {result summary : String} {recommendation : Option String} :
    (finishValidation env ref result summary recommendation).Sat s
      fun r _ => ∃ e, r = .error e := by
  refine raises_query fun f hf => ?_
  obtain ⟨hfound, -⟩ := validationFinishOf_eq_ok hf
  obtain rfl := hid _ hfound
  refine Sat.mono (sat_finishRun_unlocked ?_) fun _ _ h => h.1
  exact hfree

/-- Proposing for and finishing a stage of a task without a lock raises. -/
theorem Step.raises_unlocked {step : Step} (hop : step.op.concludes = some ref) :
    ∃ e, step.outcome s = .error e := by
  obtain ⟨env, op⟩ := step
  cases op with
  | proposePlan ref' body criteria =>
    obtain rfl := Option.some.inj hop
    exact raises_dropResult (raises_proposePlan hid hfree)
  | finishImplementation ref' summary =>
    obtain rfl := Option.some.inj hop
    exact raises_dropResult (raises_finishImplementation hid hfree)
  | finishValidation ref' result summary recommendation =>
    obtain rfl := Option.some.inj hop
    exact raises_dropResult (raises_finishValidation hid hfree)
  | _ => cases hop

omit hid hfree

/-- A terminal task has no lock and a done one no running run; on a cancelled task no
proposal and no finish succeeds. -/
theorem terminal_task_quiescent (h : s.Reachable) {t : TaskRecord} (ht : t ∈ s.tasks.files) :
    (t.statusStage = .done ∨ t.statusStage = .cancelled →
      ∀ l ∈ s.locks.files, l.taskId ≠ t.id) ∧
    (t.statusStage = .done → ∀ r ∈ s.runs.files, r.taskId = t.id → r.status ≠ .running) ∧
    (t.statusStage = .cancelled → ∀ (step : Step) (ref : String), step.op.concludes = some ref →
      (∀ u, resolveTask ref false s = .ok u → u.id = t.id) → ∃ e, step.outcome s = .error e) := by
  have hq := h.quiescent t.id
  have hv := view_file_task ht
  refine ⟨fun hstage l hl hid => ?_, fun hstage r hr hid => ?_, fun hstage step ref hop hid => ?_⟩
  · have hlock := hq.unlocked _ hv hstage
    rw [← hid, view_file_lock hl] at hlock
    cases hlock
  · exact hq.stopped _ hv hstage r.runId r.core (hid ▸ view_file_run hr)
  · exact Step.raises_unlocked hid (readLock_of_unlocked (hq.unlocked _ hv (.inr hstage))) hop

end Invariant

section Evaluation

attribute [local instance] plainRuntime

/-- A task that is cancelled while it is being planned. -/
def cancelledPlanningOps : List Op :=
  [.createTask { title := "A", description := "d" }, .startPlanning "task-0001" none none,
    .cancelTask "task-0001" none]

/-- Cancelling leaves the running run. -/
theorem cancelled_task_keeps_running_run :
    (afterOps cancelledPlanningOps).Reachable ∧
      ¬ ∀ t ∈ (afterOps cancelledPlanningOps).tasks.files,
        t.statusStage = .done ∨ t.statusStage = .cancelled →
          ∀ r ∈ (afterOps cancelledPlanningOps).runs.files, r.taskId = t.id →
            r.status ≠ .running := by
  refine ⟨reachable_afterOps _, ?_⟩
  decide

theorem terminal_task_quiescent_cancelled :
    ∃ t ∈ (afterOps cancelledPlanningOps).tasks.files, t.statusStage = .cancelled ∧
      (∀ l ∈ (afterOps cancelledPlanningOps).locks.files, l.taskId ≠ t.id) ∧
      ∃ e, Step.outcome ⟨plainEnv, .finishImplementation t.id "done"⟩
        (afterOps cancelledPlanningOps) = .error e := by
  have htask : ∃ t ∈ (afterOps cancelledPlanningOps).tasks.files,
      t.statusStage = .cancelled ∧ ∀ u ∈ (afterOps cancelledPlanningOps).tasks.files, u.id = t.id := by
    decide
  obtain ⟨t, ht, hcancelled, hids⟩ := htask
  obtain ⟨hlock, -, hraises⟩ := terminal_task_quiescent (reachable_afterOps _) ht
  refine ⟨t, ht, hcancelled, hlock (.inr hcancelled), hraises hcancelled _ t.id rfl fun u hu => ?_⟩
  obtain ⟨stored, hstored, -⟩ := resolveTask_stored hu
  rw [← Directory.key_of_lookup hstored]
  exact hids stored (Directory.mem_of_lookup hstored)

end Evaluation

end Taskledger
