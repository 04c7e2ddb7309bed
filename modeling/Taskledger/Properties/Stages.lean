import Taskledger.Lifecycle.Steps

/-!
# Changes of stage

Every change of a task's stage is an allowed transition, or an edge that starts
implementing or uncancels, as long as no operation that looks at runs and locks only
is made in a stage it was not meant for.
-/

namespace Taskledger

open Library Action Lifecycle

/-- The step uncancels. -/
def Step.isUncancel (step : Step) : Prop := ∃ ref target reason actor allowAgent,
  step.op = .uncancelTask ref target reason actor allowAgent

/-- The step starts, restarts or resumes an implementation. -/
def Step.StartsImplementing (step : Step) : Prop :=
  match step.op with
  | .startImplementation .. | .restartImplementation .. | .resumeImplementation .. => True
  | _ => False

/-- The edges of the stages: the allowed transitions, the start of an implementation, and
the target that an uncancel of the task has found or was given. -/
def StageEdge [Runtime] (s : Ledger) (step : Step) (id : String) (a b : TaskStatusStage) : Prop :=
  canTransition a b ∨
    step.StartsImplementing ∧ (a = .approved ∨ a = .failedValidation) ∧ b = .implementing ∨
    a = .cancelled ∧ (∃ task, step.Uncancels s task b ∧ task.id = id) ∧
      b ∈ [TaskStatusStage.draft, .planReview, .approved, .implemented, .failedValidation]

section Edges

variable [Runtime] {s : Ledger} {id : String} {u x : View}

/-- The operations that do not look at the stage find the task in a stage they lead on
from. -/
structure Step.StageChecked (step : Step) (s : Ledger) : Prop where
  regenerates : ∀ r, step.Regenerates s r →
    r.task.statusStage ∈ [TaskStatusStage.draft, .planning, .planReview, .failedValidation]
  finishesImplementation : ∀ f, step.FinishesImplementation s f →
    f.task.statusStage ∈ [TaskStatusStage.approved, .implementing, .implemented]
  finishesValidation : ∀ f, step.FinishesValidation s f →
    f.task.statusStage ∈ [TaskStatusStage.implemented, .validating] ∨
      f.result ≠ .passed ∧ f.task.statusStage = .failedValidation

omit [Runtime] in
/-- The operations that look at runs and locks and not at the stage. -/
def Op.skipsStage : Op → Bool
  | .upsertPlan _ _ _ _ _ _ => true
  | .regeneratePlan _ _ _ _ => true
  | .finishImplementation _ _ => true
  | .finishValidation _ _ _ _ => true
  | _ => false

theorem Step.stageChecked_of_op {step : Step} (h : step.op.skipsStage = false) :
    step.StageChecked s := by
  obtain ⟨env, op⟩ := step
  cases op with
  | upsertPlan | regeneratePlan | finishImplementation | finishValidation => cases h
  | _ => exact ⟨fun _ h => h.elim, fun _ h => h.elim, fun _ h => h.elim⟩

/-- The stage of a view. -/
def View.stage (v : View) : Option TaskStatusStage := v.task.map TaskCore.stage

theorem stage_file {t : TaskRecord} (h : t ∈ s.tasks.files) :
    (s.view t.id).stage = some t.statusStage := by
  rw [View.stage, view_file_task h]
  rfl

/-- The stage of the task an operation has read. -/
theorem stage_resolved {ref : String} {includeArchived : Bool} {t : TaskRecord}
    (h : resolveTask ref includeArchived s = .ok t) : (s.view t.id).stage = some t.statusStage := by
  rw [View.stage, view_resolved h]
  rfl

theorem stage_regenerates {step : Step} {r : Regeneration} (h : step.Regenerates s r) :
    (s.view r.task.id).stage = some r.task.statusStage := by
  unfold Step.Regenerates at h
  split at h
  · obtain ⟨task, -, h⟩ := h
    exact stage_resolved (regenerationOf_eq_ok h).found
  · exact stage_resolved (regenerationOf_eq_ok h).found
  · exact h.elim

theorem stage_finishesImplementation {step : Step} {f : ImplementationFinish}
    (h : step.FinishesImplementation s f) :
    (s.view f.task.id).stage = some f.task.statusStage := by
  unfold Step.FinishesImplementation at h
  split at h
  · exact stage_resolved (implementationFinishOf_eq_ok h).1
  · exact h.elim

theorem stage_finishesValidation {step : Step} {f : ValidationFinish}
    (h : step.FinishesValidation s f) :
    (s.view f.task.id).stage = some f.task.statusStage := by
  unfold Step.FinishesValidation at h
  split at h
  · exact stage_resolved (validationFinishOf_eq_ok h).1
  · exact h.elim

/-- A quiet move leaves the stage alone. -/
theorem Move.stage_of_quiet {l : Label} (hl : l.quiet) (m : Move id l u x) : x.stage = u.stage := by
  cases m with
  | link ht htype himpl hval => simp [View.stage, ht]
  | startPlanning ht hstage hidle hrun => simp [View.stage, View.start, ht]
  | startValidation ht hstage himpl hfinished hidle hrun hbased => simp [View.stage, View.start, ht]
  | addFinished | dropLock | repairRun => rfl
  | _ => exact hl.elim

theorem Step.isUncancel_of_uncancels {step : Step} {task : TaskRecord} {target : TaskStatusStage}
    (h : step.Uncancels s task target) : step.isUncancel := by
  unfold Step.Uncancels at h
  split at h
  · next heq => exact ⟨_, _, _, _, _, heq⟩
  · exact h.elim

theorem startsImplementing_of_permits {step : Step} {l : Label} {v : View}
    (hl : l ∈ [.startImplementation, .resume]) (hp : step.permits s id l v) :
    step.StartsImplementing := by
  obtain ⟨env, op⟩ := step
  rcases List.mem_pair.1 hl with rfl | rfl <;>
    cases op <;> simp_all [Step.permits, Step.permitsRegenerate, Step.StartsImplementing]

omit [Runtime] in
theorem mem_uncancelTargets {v : View} {t : TaskCore} {target : TaskStatusStage}
    (h : v.Uncancels t target) :
    target ∈ [TaskStatusStage.draft, .planReview, .approved, .implemented, .failedValidation] := by
  cases target <;> first | decide | exact h.elim

/-- An allowed transition, or none. -/
def Follows (a b : TaskStatusStage) : Prop := b = a ∨ canTransition a b

instance (a b : TaskStatusStage) : Decidable (Follows a b) := inferInstanceAs (Decidable (_ ∨ _))

omit [Runtime] in
theorem Follows.edge [Runtime] {step : Step} {a b : TaskStatusStage} (h : Follows a b) :
    b = a ∨ StageEdge s step id a b := h.imp_right .inl

/-- A regeneration that finds the task in one of its stages. -/
theorem follows_regenerate {step : Step} (hc : step.StageChecked s) {r : Regeneration}
    (hr : step.Regenerates s r) : Follows r.task.statusStage .planReview := by
  have h : ∀ a ∈ [TaskStatusStage.draft, .planning, .planReview, .failedValidation],
      Follows a .planReview := by decide
  exact h _ (hc.regenerates r hr)

theorem follows_finishImplementation {step : Step} (hc : step.StageChecked s)
    {f : ImplementationFinish} (hf : step.FinishesImplementation s f) :
    Follows f.task.statusStage .implemented := by
  have h : ∀ a ∈ [TaskStatusStage.approved, .implementing, .implemented],
      Follows a .implemented := by decide
  exact h _ (hc.finishesImplementation f hf)

theorem follows_finishValidation {step : Step} (hc : step.StageChecked s)
    {f : ValidationFinish} (hf : step.FinishesValidation s f) :
    Follows f.task.statusStage (verdictStage f.result) := by
  have h : ∀ a ∈ [TaskStatusStage.implemented, .validating],
      Follows a .done ∧ Follows a .failedValidation := by decide
  rcases hc.finishesValidation f hf with hmem | ⟨hresult, hstage⟩
  · cases f.result with
    | passed => exact (h _ hmem).1
    | failed => exact (h _ hmem).2
    | blocked => exact (h _ hmem).2
  · rw [hstage]
    cases hf : f.result with
    | passed => exact absurd hf hresult
    | failed => exact .inl rfl
    | blocked => exact .inl rfl

/-- The edge of a permitted move. -/
theorem Move.stageEdge {step : Step} (hc : step.StageChecked s) {l : Label}
    (hp : step.permits s id l u) (m : Move id l u x) {a b : TaskStatusStage}
    (ha : u.stage = some a) (hb : x.stage = some b) : b = a ∨ StageEdge s step id a b := by
  have hbefore {t : TaskCore} (ht : u.task = some t) : a = t.stage := by
    simpa [View.stage, ht] using ha.symm
  cases m with
  | create hid hfree => simp [View.stage, hfree] at ha
  | record hid hfree => simp [View.stage, hfree] at ha
  | link ht htype himpl hval =>
    exact .inl ((Option.some.inj hb).symm.trans (hbefore ht).symm)
  | startPlanning ht hstage hidle hrun =>
    exact .inl ((Option.some.inj hb).symm.trans (hbefore ht).symm)
  | startValidation ht hstage himpl hfinished hidle hrun hbased =>
    exact .inl ((Option.some.inj hb).symm.trans (hbefore ht).symm)
  | addFinished | reject | dropLock | repairRun =>
    exact .inl (Option.some.inj (hb.symm.trans ha))
  | propose ht hstage hrun hnew =>
    obtain rfl := hbefore ht
    obtain rfl := Option.some.inj hb
    have hallowed : Follows .draft .planReview ∧ Follows .planReview .planReview := by decide
    rcases hstage with h | h <;> rw [h]
    · exact hallowed.1.edge
    · exact hallowed.2.edge
  | regenerate ht hfinish hnew hprevious =>
    obtain rfl := Option.some.inj hb
    obtain ⟨rfl, -, r, hr, rfl⟩ := Step.permits_regenerate hp
    rw [Option.some.inj (ha.symm.trans (stage_regenerates hr))]
    exact (follows_regenerate hc hr).edge
  | approve ht hstage hidle hplan hlisted hproposed =>
    obtain rfl := hbefore ht
    obtain rfl := Option.some.inj hb
    have hallowed : canTransition .planReview .approved := by decide
    rw [hstage]
    exact .inr (.inl hallowed)
  | startImplementation ht hstage haccepted hidle hrun hversion =>
    obtain rfl := hbefore ht
    obtain rfl := Option.some.inj hb
    exact .inr (.inr (.inl ⟨startsImplementing_of_permits (by simp) hp, hstage, rfl⟩))
  | resume ht hstage haccepted hlock hrun =>
    obtain rfl := hbefore ht
    obtain rfl := Option.some.inj hb
    rcases hstage with h | h
    · exact .inr (.inr (.inl ⟨startsImplementing_of_permits (by simp) hp, .inl h, rfl⟩))
    · exact .inl h.symm
  | finishImplementation ht hlatest hrun =>
    obtain rfl := Option.some.inj hb
    obtain ⟨rfl, f, hf, rfl⟩ := Step.permits_finishImplementation hp
    rw [Option.some.inj (ha.symm.trans (stage_finishesImplementation hf))]
    exact (follows_finishImplementation hc hf).edge
  | finishValidation ht hlatest hrun =>
    obtain rfl := Option.some.inj hb
    obtain ⟨rfl, f, hf, rfl, rfl⟩ := Step.permits_finishValidation hp
    rw [Option.some.inj (ha.symm.trans (stage_finishesValidation hf))]
    exact (follows_finishValidation hc hf).edge
  | cancel ht hstage =>
    obtain rfl := hbefore ht
    obtain rfl := Option.some.inj hb
    exact .inr (.inl hstage)
  | uncancel ht hstage hlock htarget =>
    obtain rfl := hbefore ht
    obtain rfl := Option.some.inj hb
    obtain ⟨-, huncancels⟩ := Step.permits_uncancel hp
    exact .inr (.inr (.inr ⟨hstage, huncancels, mem_uncancelTargets htarget⟩))
  | archive ht harchived hstage =>
    exact .inl ((Option.some.inj hb).symm.trans (hbefore ht).symm)
  | @unarchive _ t reopen ht harchived hstage =>
    obtain rfl := hbefore ht
    obtain rfl := Option.some.inj hb
    by_cases hopen : reopen = true ∧ t.stage = .implemented
    · have hallowed : canTransition .implemented .failedValidation := by decide
      refine .inr (.inl ?_)
      rw [unarchivedStage, if_pos hopen, hopen.2]
      exact hallowed
    · exact .inl (if_neg hopen)

/-- The edge of a step, for every task. -/
theorem Step.stageEdge {step : Step} (hs : s.Sound) (hc : step.StageChecked s) (id : String)
    {a b : TaskStatusStage} (ha : (s.view id).stage = some a)
    (hb : ((step.next s).view id).stage = some b) : b = a ∨ StageEdge s step id a b := by
  have hobs := (step.evolves hs).observe (I := fun id v => v.Sound id)
    (fun _ _ _ _ hi _ hm => Move.sound hi hm)
    (fun _ _ _ _ _ hq hm => Move.stage_of_quiet hq hm) (fun id => hs id) id
  rcases hobs with h | ⟨l, u, x, -, hp, hm, hu, hx⟩
  · exact .inl (Option.some.inj (hb.symm.trans (h.trans ha)))
  · exact Move.stageEdge hc hp hm (hu.trans ha) (hx.trans hb)

/-- In a run whose steps find their tasks in one of their stages, every change of a
task's stage is an edge, nothing leaves `done`, and only an uncancel leaves `cancelled`. -/
theorem stage_changes_are_edges
    (h : services.Reachable (fun s step => step.StageChecked s) s) {step : Step}
    (hc : step.StageChecked s) {t t' : TaskRecord} (ht : t ∈ s.tasks.files)
    (ht' : t' ∈ (step.next s).tasks.files) (hid : t'.id = t.id)
    (hne : t'.statusStage ≠ t.statusStage) :
    StageEdge s step t.id t.statusStage t'.statusStage ∧ t.statusStage ≠ .done ∧
      (t.statusStage = .cancelled → step.isUncancel) := by
  have hedge : StageEdge s step t.id t.statusStage t'.statusStage :=
    (step.stageEdge (Reachable.sound h) hc t.id (stage_file ht) (hid ▸ stage_file ht')).resolve_left hne
  refine ⟨hedge, fun hdone => ?_, fun hcancelled => ?_⟩
  · rcases hedge with h | ⟨-, h | h, -⟩ | ⟨h, -⟩ <;> rw [hdone] at h
    · simp [canTransition, allowedStageTransitions] at h
    · cases h
    · cases h
    · cases h
  · rcases hedge with h | ⟨-, h | h, -⟩ | ⟨-, ⟨_, h, -⟩, -⟩
    · rw [hcancelled] at h
      simp [canTransition, allowedStageTransitions] at h
    · simp [hcancelled] at h
    · simp [hcancelled] at h
    · exact Step.isUncancel_of_uncancels h

end Edges

section Evaluation

attribute [local instance] plainRuntime

/-- A plan that is proposed. -/
def proposingOps : List Op :=
  [.createTask { title := "A", description := "d" }, .startPlanning "task-0001" none none]

theorem stage_changes_are_edges_proposing :
    ∃ t ∈ (afterOps proposingOps).tasks.files,
      ∃ t' ∈ (Step.next ⟨plainEnv, .proposePlan "task-0001" "Do it." ["it works"]⟩
        (afterOps proposingOps)).tasks.files,
      t.statusStage = .draft ∧ t'.statusStage = .planReview ∧
        StageEdge (afterOps proposingOps) ⟨plainEnv, .proposePlan "task-0001" "Do it." ["it works"]⟩
          t.id t.statusStage t'.statusStage := by
  have hops : ∀ op ∈ proposingOps, op.skipsStage = false := by decide
  have hreach : services.Reachable (fun s step => step.StageChecked s) (afterOps proposingOps) :=
    reachable_of_ops fun op hop s => Step.stageChecked_of_op (hops op hop)
  have hstages : ∃ t ∈ (afterOps proposingOps).tasks.files,
      ∃ t' ∈ (Step.next ⟨plainEnv, .proposePlan "task-0001" "Do it." ["it works"]⟩
        (afterOps proposingOps)).tasks.files,
      t'.id = t.id ∧ t.statusStage = .draft ∧ t'.statusStage = .planReview := by
    decide
  obtain ⟨t, ht, t', ht', hid, hstage, hstage'⟩ := hstages
  have hne : t'.statusStage ≠ t.statusStage := by
    rw [hstage, hstage']
    decide
  exact ⟨t, ht, t', ht', hstage, hstage',
    (stage_changes_are_edges hreach (Step.stageChecked_of_op rfl) ht ht' hid hne).1⟩

/-- A task that is cancelled with a proposed plan. -/
def cancelledReviewOps : List Op :=
  proposingOps ++ [.proposePlan "task-0001" "Do it." ["it works"], .cancelTask "task-0001" none]

/-- A regeneration takes a cancelled task to `plan_review`. -/
theorem regenerate_leaves_cancelled :
    (afterOps cancelledReviewOps).Reachable ∧
      ∃ t ∈ (afterOps cancelledReviewOps).tasks.files,
        ∃ t' ∈ (Step.next ⟨plainEnv, .regeneratePlan "task-0001" "Do it." ["it works"] false⟩
          (afterOps cancelledReviewOps)).tasks.files, t'.id = t.id ∧
        t.statusStage = .cancelled ∧ t'.statusStage = .planReview ∧
        ¬ StageEdge (afterOps cancelledReviewOps)
          ⟨plainEnv, .regeneratePlan "task-0001" "Do it." ["it works"] false⟩
          t.id t.statusStage t'.statusStage := by
  have hstages : ∃ t ∈ (afterOps cancelledReviewOps).tasks.files,
      ∃ t' ∈ (Step.next ⟨plainEnv, .regeneratePlan "task-0001" "Do it." ["it works"] false⟩
        (afterOps cancelledReviewOps)).tasks.files, t'.id = t.id ∧
      t.statusStage = .cancelled ∧ t'.statusStage = .planReview := by
    decide
  obtain ⟨t, ht, t', ht', hid, hstage, hstage'⟩ := hstages
  refine ⟨reachable_afterOps _, t, ht, t', ht', hid, hstage, hstage', ?_⟩
  rw [hstage, hstage']
  rintro (h | ⟨h, -⟩ | ⟨-, ⟨_, h, -⟩, -⟩)
  · exact absurd h (by decide)
  · exact h
  · exact h

end Evaluation

end Taskledger
