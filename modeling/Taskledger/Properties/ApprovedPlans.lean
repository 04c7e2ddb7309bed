import Taskledger.Lifecycle.Footprints
import Taskledger.Properties.Approval

/-!
# Approved plans

Plans are written again by approvals, rejections and regenerations. Each of them
writes a plan that was read, with another status, so an approved plan keeps the
content its hash was taken of.
-/

namespace Taskledger

open Library Action Lifecycle

-- the longest operations have some twenty steps
set_option synthInstance.maxSize 2000

-- ════════════════════════════════════════════════════════════════════════
-- Reading again
-- ════════════════════════════════════════════════════════════════════════

theorem ActorRef.reload_reload (a : ActorRef) : a.reload.reload = a.reload := by
  have hname : Text.orElse (Text.orElse a.actorName "taskledger") "taskledger" =
      Text.orElse a.actorName "taskledger" := by
    unfold Text.orElse
    split <;> simp_all
  simp [ActorRef.reload, hname]

theorem ActorRef.map_reload_reload (a : Option ActorRef) :
    (a.map ActorRef.reload).map ActorRef.reload = a.map ActorRef.reload := by
  cases a with
  | none => rfl
  | some a => simp [ActorRef.reload_reload]

/-- What a list of readings gave is read again as it is. -/
theorem reloadAll_again {α : Type} {reload : α → Except Raised α} {l l' : List α}
    (hreload : ∀ a b, reload a = .ok b → reload b = .ok b) (h : reloadAll reload l = .ok l') :
    reloadAll reload l' = .ok l' := by
  rw [reloadAll_eq_ok_iff] at h ⊢
  induction h with
  | nil => exact .nil
  | cons hab _ ih => exact .cons (hreload _ _ hab) ih

theorem HarnessRef.reload?_again {h h' : Option HarnessRef} (hr : HarnessRef.reload? h = .ok h') :
    HarnessRef.reload? h' = .ok h' := by
  cases HarnessRef.reload?_eq hr
  exact hr

theorem TaskTodo.reload_eq_again {t t' : TaskTodo} (h : t.reload = .ok t') :
    t'.reload = .ok t' := by
  simp only [TaskTodo.reload, bind_eq_ok, pure_eq_ok] at h ⊢
  obtain ⟨harness, hh, _, hid, _, htext, rfl⟩ := h
  refine ⟨harness, HarnessRef.reload?_again hh, (), hid, (), htext, ?_⟩
  simp only [ActorRef.map_reload_reload]

section Plans

variable [Runtime] {s : Ledger} {env : Env} {ref : String} {p q : PlanRecord}

/-- A plan that was read reads back as it is. -/
theorem PlanRecord.reload_again (h : p.reload = .ok q) : q.reload = .ok q := by
  simp only [PlanRecord.reload, bind_eq_ok, pure_eq_ok] at h ⊢
  obtain ⟨_, htask, criteria, hcriteria, todos, htodos, rfl⟩ := h
  refine ⟨(), htask, criteria,
    reloadAll_again (fun _ _ => AcceptanceCriterion.reload_again) hcriteria, todos,
    reloadAll_again (fun _ _ => TaskTodo.reload_eq_again) htodos, ?_⟩
  simp only [fileBody_fileBody, ActorRef.reload_reload, ActorRef.map_reload_reload,
    PlanRecord.mk.injEq, true_and, and_true]
  split <;> simp_all

/-- A plan that was read, written with another status and approval, reads back as written. -/
theorem PlanRecord.reload_decided {status : PlanStatus} {approvedAt : Option String}
    {approvedBy : Option ActorRef} {note source hash : Option String} (h : p.reload = .ok q) :
    PlanRecord.reload { q with
        status := status
        approvedAt := approvedAt
        approvedBy := approvedBy
        approvalNote := note
        approvalSource := source
        approvedPlanHash := hash } =
      .ok { q with
        status := status
        approvedAt := approvedAt
        approvedBy := approvedBy.map ActorRef.reload
        approvalNote := note
        approvalSource := source
        approvedPlanHash := hash } := by
  have hagain := PlanRecord.reload_again h
  simp only [PlanRecord.reload, bind_eq_ok, pure_eq_ok] at hagain ⊢
  obtain ⟨_, htask, criteria, hcriteria, todos, htodos, hq⟩ := hagain
  refine ⟨(), htask, criteria, hcriteria, todos, htodos, ?_⟩
  rw [PlanRecord.mk.injEq] at hq ⊢
  simp_all

-- ════════════════════════════════════════════════════════════════════════
-- Approved plans stay
-- ════════════════════════════════════════════════════════════════════════

/-- The plan version loads with this hash of its approval, and its content has it. -/
def Ledger.ApprovedPlan (s : Ledger) (id : String) (version : Nat) (hash : String) : Prop :=
  ∃ stored plan, s.plans.lookup (id, version) = some stored ∧ stored.reload = .ok plan ∧
    plan.approvedPlanHash = some hash ∧ approvedPlanContentHash plan = hash

/-- Approved plans stay approved with their content. -/
def approvedPlansStay : Footprint Ledger where
  Moves s s' := ∀ id version hash, s.ApprovedPlan id version hash →
    s'.ApprovedPlan id version hash
  refl _ _ _ _ h := h
  trans _ _ _ h h' id version hash hp := h' id version hash (h id version hash hp)

/-- The parts that hold no plan. -/
abbrev partsWithoutPlans : List Part :=
  [.tasks, .questions, .runs, .locks, .changes, .checks, .reviews, .handoffs, .todos, .links,
    .requirements, .introductions, .releases, .audits, .events, .activeTask, .counter]

theorem moves_of_same {s s' : Ledger} (h : s'.plans = s.plans) : approvedPlansStay.Moves s s' := by
  rintro id version hash ⟨stored, plan, hstored, hplan⟩
  exact ⟨stored, plan, by rw [h]; exact hstored, hplan⟩

instance {α : Type} {m : LedgerAction α} [h : Within (SameBut partsWithoutPlans) m] :
    Within approvedPlansStay m where
  moves s := moves_of_same (h.moves s .plans (by decide))

omit [Runtime] in
theorem lookup_putPlan_of_ne {d : PlanRecord} {key : String × Nat}
    (hkey : (d.taskId, d.planVersion) ≠ key) : (s.putPlan d).plans.lookup key = s.plans.lookup key :=
  Directory.lookup_save_of_ne s.plans hkey

omit [Runtime] in
/-- A plan version is written once. -/
theorem sat_savePlan_once : (savePlan p).Sat s fun r s' =>
    (∃ e, r = .error e) ∧ s' = s ∨
      s.plans.lookup (p.taskId, p.planVersion) = none ∧ r = .ok () ∧ s' = s.putPlan p := by
  unfold savePlan Sat runOn
  beta_reduce
  split
  · exact .inl ⟨⟨_, rfl⟩, rfl⟩
  · exact .inr ⟨‹_›, rfl, rfl⟩

theorem moves_newPlan (hfree : s.plans.lookup (p.taskId, p.planVersion) = none) :
    approvedPlansStay.Moves s (s.putPlan p) := by
  rintro id version hash ⟨stored, q, hstored, hq⟩
  refine ⟨stored, q, (lookup_putPlan_of_ne fun hkey => ?_).trans hstored, hq⟩
  rw [hkey, hstored] at hfree
  cases hfree

/-- A new plan version is written beside the others. -/
instance {plan : PlanRecord} : Within approvedPlansStay (savePlan plan) where
  moves s := by
    have hsaved : (savePlan plan).Sat s fun _ s' => approvedPlansStay.Moves s s' := by
      refine sat_savePlan_once.mono ?_
      rintro r s' (⟨-, rfl⟩ | ⟨hfree, -, rfl⟩)
      · exact approvedPlansStay.refl _
      · exact moves_newPlan hfree
    exact hsaved

/-- A plan that was read is written with another decision, and an approval hash it has
stays when its content has it. -/
def PlanRecord.Redecided (p d : PlanRecord) : Prop :=
  ∃ d', d.reload = .ok d' ∧ approvedPlanContentHash d' = approvedPlanContentHash p ∧
    ∀ hash, p.approvedPlanHash = some hash → approvedPlanContentHash p = hash →
      d'.approvedPlanHash = some hash

theorem PlanRecord.redecided_self (h : p.reload = .ok q) : q.Redecided q :=
  ⟨q, PlanRecord.reload_again h, rfl, fun _ hhash _ => hhash⟩

/-- Another status alone. -/
theorem PlanRecord.redecided_status {status : PlanStatus} (h : p.reload = .ok q) :
    q.Redecided { q with status := status } :=
  ⟨_, PlanRecord.reload_decided h, rfl, fun _ hhash _ => hhash⟩

/-- A plan that was read is written over the file it was read from. -/
theorem moves_putPlan {stored d : PlanRecord}
    (hstored : s.plans.lookup (d.taskId, d.planVersion) = some stored)
    (hread : stored.reload = .ok q) (hd : q.Redecided d) :
    approvedPlansStay.Moves s (s.putPlan d) := by
  rintro id version hash ⟨found, plan, hfound, hplan, hhash, hcontent⟩
  by_cases hkey : (d.taskId, d.planVersion) = (id, version)
  · rw [hkey, hfound] at hstored
    cases hstored
    cases hplan.symm.trans hread
    obtain ⟨d', hd', hsame, hkept⟩ := hd
    refine ⟨d, d', ?_, hd', hkept hash hhash hcontent, hsame.trans hcontent⟩
    rw [← hkey]
    exact Directory.lookup_save_self _ _
  · exact ⟨found, plan, (lookup_putPlan_of_ne hkey).trans hfound, hplan, hhash, hcontent⟩

-- ════════════════════════════════════════════════════════════════════════
-- The operations on plans
-- ════════════════════════════════════════════════════════════════════════

section Operations

variable {body : String} {criteria : List String} {allowOpenQuestions : Bool} {id : String}
  {plans : List PlanRecord} {version : Nat} {request : ApprovalRequest} {a : Approval}

instance : Within approvedPlansStay (proposePlan env ref body criteria) := by
  unfold proposePlan
  infer_instance

/-- A plan that was listed is written with another status. -/
theorem moves_withStatus {status : PlanStatus} (hplans : listPlans id s = .ok plans)
    (hp : p ∈ plans) : approvedPlansStay.Moves s (s.putPlan { p with status := status }) := by
  obtain ⟨stored, hstored, hread⟩ := listed_stored hplans hp
  have htask : p.taskId = id := (PlanRecord.of_reload hread).1.trans (key_of_plan hstored).1
  refine moves_putPlan (d := { p with status := status }) ?_ hread (PlanRecord.redecided_status hread)
  show s.plans.lookup (p.taskId, p.planVersion) = some stored
  rw [htask]
  exact hstored

/-- What follows a step that keeps approved plans. -/
theorem sat_after {α : Type} {m : LedgerAction α} {s₀ : Ledger} (h : approvedPlansStay.Moves s₀ s)
    (hm : Within approvedPlansStay m) : m.Sat s fun _ s' => approvedPlansStay.Moves s₀ s' :=
  (hm.sat s).mono fun _ s' h' => approvedPlansStay.trans s₀ s s' h h'

/-- The previous version was listed before the new one was written. -/
theorem sat_supersedeListed {new : PlanRecord} {previous : Option PlanRecord}
    (hplans : listPlans id s = .ok plans) (hprevious : ∀ p, previous = some p → p ∈ plans)
    (hfree : s.plans.lookup (new.taskId, new.planVersion) = none) :
    (supersedePrevious previous).Sat (s.putPlan new) fun _ s' => approvedPlansStay.Moves s s' := by
  have hnew := moves_newPlan hfree
  cases previous with
  | none => exact Sat.pure hnew
  | some p =>
    obtain ⟨stored, hstored, hread⟩ := listed_stored hplans (hprevious p rfl)
    have htask : p.taskId = id := (PlanRecord.of_reload hread).1.trans (key_of_plan hstored).1
    have hkey : (new.taskId, new.planVersion) ≠ (p.taskId, p.planVersion) := fun h => by
      rw [h, htask, hstored] at hfree
      cases hfree
    have hstored' : (s.putPlan new).plans.lookup (p.taskId, p.planVersion) = some stored := by
      rw [lookup_putPlan_of_ne hkey, htask, hstored]
    let superseded := { p with status := PlanStatus.superseded }
    have hmoved : approvedPlansStay.Moves (s.putPlan new) ((s.putPlan new).putPlan superseded) :=
      moves_putPlan hstored' hread (PlanRecord.redecided_status hread)
    show (onlyIf (p.status = .proposed) (overwritePlan superseded)).Sat _ _
    unfold onlyIf
    split
    · exact approvedPlansStay.trans _ _ _ hnew hmoved
    · exact Sat.pure hnew

instance : Within approvedPlansStay
    (regeneratePlanFromAnswers env ref body criteria allowOpenQuestions) where
  moves s := by
    have hsat : (regeneratePlanFromAnswers env ref body criteria allowOpenQuestions).Sat s
        fun _ s' => approvedPlansStay.Moves s s' := by
      refine Sat.query (fun _ _ => approvedPlansStay.refl s) fun r hr => ?_
      obtain ⟨-, -, ⟨plans, hplans, hprevious, -⟩, -⟩ := regenerationOf_eq_ok hr
      refine Sat.bind sat_savePlan_once ?_ ?_
      · rintro e s' (⟨-, rfl⟩ | ⟨-, h, -⟩)
        · exact approvedPlansStay.refl _
        · cases h
      rintro _ s' (⟨⟨e, h⟩, -⟩ | ⟨hfree, -, rfl⟩)
      · cases h
      refine Sat.bind (sat_supersedeListed hplans (fun p hp => ?_) hfree) (fun _ _ h => h)
        fun _ s' h => sat_after h inferInstance
      rw [hprevious] at hp
      exact List.mem_of_getLast? hp
    exact hsat

instance {task : TaskRecord} {autoReviseFlag : Bool} :
    Within approvedPlansStay (upsertProposal env task body criteria autoReviseFlag) := by
  unfold upsertProposal
  infer_instance

instance {task : TaskRecord} :
    Within approvedPlansStay (upsertRegeneration env task body criteria allowOpenQuestions) := by
  unfold upsertRegeneration
  infer_instance

instance {fromAnswers autoReviseFlag : Bool} :
    Within approvedPlansStay
      (upsertPlan env ref body criteria fromAnswers allowOpenQuestions autoReviseFlag) := by
  unfold upsertPlan
  refine .after fun branch => ?_
  split
  split <;> infer_instance

instance {dropCriteria dropTodos removeFiles : List String} {reason : String} :
    Within approvedPlansStay (amendPlan env ref dropCriteria dropTodos removeFiles reason) := by
  unfold amendPlan
  refine .after fun found => ?_
  split
  infer_instance

/-- A rejection writes the latest plan, whatever its status. -/
instance {reason : Option String} : Within approvedPlansStay (rejectPlan env ref reason) where
  moves s := by
    have hsat : (rejectPlan env ref reason).Sat s fun _ s' => approvedPlansStay.Moves s s' := by
      refine Sat.query (fun _ _ => approvedPlansStay.refl s) fun task _ => ?_
      refine Sat.except (fun _ _ => approvedPlansStay.refl s) fun _ _ => ?_
      refine Sat.query (fun _ _ => approvedPlansStay.refl s) fun lock _ => ?_
      refine Sat.except (fun _ _ => approvedPlansStay.refl s) fun _ _ => ?_
      refine Sat.query (fun _ _ => approvedPlansStay.refl s) fun latest hlatest => ?_
      obtain ⟨plans, _, hplans, -, hmem, -⟩ := resolvePlan_eq_ok hlatest
      exact Sat.write (sat_after (moves_withStatus hplans hmem) inferInstance)
    exact hsat

section Approval

variable {note : String}

/-- The plans of a task after an approval. -/
theorem PlanRecord.redecided_approval (hread : p.reload = .ok q)
    (htarget : q.planVersion = a.target.planVersion → q = a.target) :
    q.Redecided (planAfterApproval env a note q) := by
  unfold planAfterApproval
  split
  · rename_i hversion
    refine ⟨_, PlanRecord.reload_decided hread, rfl, fun hash _ hcontent => ?_⟩
    rw [← htarget hversion, ← hcontent]
  · split
    · exact PlanRecord.redecided_self hread
    · exact PlanRecord.redecided_status hread

/-- The target is accepted with the hash of its content. -/
theorem PlanRecord.approved_target (hread : p.reload = .ok a.target) :
    ∃ d, (planAfterApproval env a note a.target).reload = .ok d ∧
      d.approvedPlanHash = some (approvedPlanContentHash a.target) ∧
      approvedPlanContentHash d = approvedPlanContentHash a.target := by
  unfold planAfterApproval
  rw [if_pos rfl]
  exact ⟨_, PlanRecord.reload_decided hread, rfl, rfl⟩

/-- The plans an approval has written. -/
def approvedPlans (env : Env) (a : Approval) (note : String) (plans : List PlanRecord)
    (s : Ledger) : Ledger :=
  { s with plans := (plans.map (planAfterApproval env a note)).foldl Directory.save s.plans }

theorem moves_approvedPlans (hplans : listPlans id s = .ok plans) (htarget : a.target ∈ plans) :
    approvedPlansStay.Moves s (approvedPlans env a note plans s) := by
  rintro task version hash ⟨stored, plan, hstored, hread, hhash, hcontent⟩
  rcases lookup_approved env a note hplans (task, version) with
    ⟨p, hp, hkey, hlookup⟩ | ⟨-, hlookup⟩
  · obtain ⟨found, hfound, hfoundRead⟩ := listed_stored hplans hp
    rw [hkey, hstored] at hfound
    cases hfound
    cases hread.symm.trans hfoundRead
    have hredecided : plan.Redecided (planAfterApproval env a note plan) :=
      PlanRecord.redecided_approval hread fun hversion =>
        eq_of_listed hplans hp htarget hversion
    obtain ⟨d, hd, hsame, hkept⟩ := hredecided
    exact ⟨_, d, hlookup, hd, hkept hash hhash hcontent, hsame.trans hcontent⟩
  · exact ⟨stored, plan, hlookup.trans hstored, hread, hhash, hcontent⟩

/-- The approved version has the hash of the content that was approved. -/
theorem approvedPlan_target (hplans : listPlans id s = .ok plans) (htarget : a.target ∈ plans) :
    (approvedPlans env a note plans s).ApprovedPlan id a.target.planVersion
      (approvedPlanContentHash a.target) := by
  obtain ⟨stored, hstored, hread⟩ := listed_stored hplans htarget
  obtain ⟨d, hd, hhash, hcontent⟩ :
      ∃ d, (planAfterApproval env a note a.target).reload = .ok d ∧
        d.approvedPlanHash = some (approvedPlanContentHash a.target) ∧
        approvedPlanContentHash d = approvedPlanContentHash a.target :=
    PlanRecord.approved_target hread
  rcases lookup_approved env a note hplans (id, a.target.planVersion) with
    ⟨p, hp, hkey, hlookup⟩ | ⟨hno, -⟩
  · have hp' : p = a.target := eq_of_listed hplans hp htarget (congrArg Prod.snd hkey)
    subst hp'
    exact ⟨_, d, hlookup, hd, hhash, hcontent⟩
  · exact absurd rfl (hno _ htarget)

/-- An approval keeps the approved plans, and adds its target to them. -/
theorem sat_approvePlan_plans (ha : approvalOf env ref version request s = .ok a)
    (htarget : resolvePlan a.task.id (some version) s = .ok a.target) :
    (approvePlan env ref version request).Sat s fun _ s' => approvedPlansStay.Moves s s' ∧
      s'.ApprovedPlan a.task.id version (approvedPlanContentHash a.target) := by
  obtain ⟨plans, _, hplans, -, hmem, hversion⟩ := resolvePlan_eq_ok htarget
  refine sat_known ha (sat_known hplans (Sat.bind sat_overwriteAll ?_ ?_))
  · rintro e s' ⟨h, -⟩
    cases h
  rintro _ _ ⟨-, rfl⟩
  have hwritten : approvedPlansStay.Moves s
        (approvedPlans env a (approvalNote request) plans s) ∧
      (approvedPlans env a (approvalNote request) plans s).ApprovedPlan a.task.id version
        (approvedPlanContentHash a.target) := by
    rw [← hversion]
    exact ⟨moves_approvedPlans hplans hmem, approvedPlan_target hplans hmem⟩
  refine Sat.mono (Within.sat (F := approvedPlansStay) ?_ _) fun _ s' h =>
    ⟨approvedPlansStay.trans _ _ _ hwritten.1 h, h _ _ _ hwritten.2⟩
  infer_instance

/-- An approval that its checks refuse writes nothing. -/
theorem moves_approvePlan (hs : s.Sound) :
    approvedPlansStay.Moves s ((approvePlan env ref version request).runOn s).2 := by
  cases hchecks : approvalOf env ref version request s with
  | error e =>
    have hrun : (approvePlan env ref version request).runOn s = (.error e, s) :=
      runOn_query_error hchecks
    rw [hrun]
    exact approvedPlansStay.refl s
  | ok a =>
    exact (sat_approvePlan_plans hchecks (approvable_of_approvalOf hs hchecks).stored).1

end Approval

end Operations

-- ════════════════════════════════════════════════════════════════════════
-- Runs
-- ════════════════════════════════════════════════════════════════════════

omit [Runtime] in
theorem Recorder.leaves_plans (r : Recorder) : Part.plans ∉ r.parts := by
  cases r <;> simp [Recorder.parts]

/-- A step keeps the approved plans. -/
theorem Step.moves_approvedPlans (step : Step) (hs : s.Sound) :
    approvedPlansStay.Moves s (step.next s) := by
  have hother (h : Part.plans ∉ step.op.parts) : approvedPlansStay.Moves s (step.next s) :=
    moves_of_same (step.same s h)
  obtain ⟨env, op⟩ := step
  cases op with
  | proposePlan | upsertPlan | regeneratePlan | amendPlan | rejectPlan =>
    unfold Step.next Op.run
    exact Within.moves s
  | approvePlan ref version request =>
    show approvedPlansStay.Moves s ((dropResult (approvePlan env ref version request)).runOn s).2
    rw [ledger_dropResult]
    exact moves_approvePlan hs
  | recorder r => exact hother r.leaves_plans
  | _ => exact hother (by simp [Op.parts])

/-- Every run keeps the approved plans. -/
theorem moves_run (hs : s.Reachable) (steps : List Step) :
    approvedPlansStay.Moves s (services.run s steps) := by
  induction steps generalizing s with
  | nil => exact approvedPlansStay.refl s
  | cons step rest ih =>
    exact approvedPlansStay.trans s (step.next s) _ (step.moves_approvedPlans hs.sound)
      (ih (.step step hs trivial))

/-- After an approval that returned, whatever comes later, the approved version loads with
the hash of the content that was approved, and has that content. -/
theorem approved_plan_immutable (hs : s.Reachable) {d : Dict} (steps : List Step)
    (h : ((approvePlan env ref version request).runOn s).1 = .ok d) :
    ∃ task plan, resolveTask ref false s = .ok task ∧
      resolvePlan task.id (some version) s = .ok plan ∧
      (services.run ((approvePlan env ref version request).runOn s).2 steps).ApprovedPlan
        task.id version (approvedPlanContentHash plan) := by
  cases hchecks : approvalOf env ref version request s with
  | error e =>
    have hrun : (approvePlan env ref version request).runOn s = (.error e, s) :=
      runOn_query_error hchecks
    rw [hrun] at h
    cases h
  | ok a =>
    have hgates := approvable_of_approvalOf hs.sound hchecks
    have hnow := (sat_approvePlan_plans hchecks hgates.stored).2
    have hafter : Ledger.Reachable ((approvePlan env ref version request).runOn s).2 := by
      rw [← ledger_dropResult]
      exact .step ⟨env, .approvePlan ref version request⟩ hs trivial
    exact ⟨a.task, a.target, hgates.found, hgates.stored, moves_run hafter steps _ _ _ hnow⟩

end Plans

section Evaluation

attribute [local instance] plainRuntime

/-- A rejection that is refused, a regenerated plan and its approval. -/
def laterSteps : List Step :=
  [.rejectPlan "task-0001" none, .regeneratePlan "task-0001" "Do more." ["it works"] false,
    .approvePlan "task-0001" 2 plainApproval].map (Step.mk plainEnv)

theorem approved_plan_immutable_superseded :
    (afterOps proposedOps).Reachable ∧
      ((approvePlan plainEnv "task-0001" 1 plainApproval).runOn (afterOps proposedOps)).1.isOk =
        true ∧
      ∃ id hash, (services.run ((approvePlan plainEnv "task-0001" 1 plainApproval).runOn
        (afterOps proposedOps)).2 laterSteps).ApprovedPlan id 1 hash := by
  have hreachable : (afterOps proposedOps).Reachable := reachable_afterOps _
  have hok : ((approvePlan plainEnv "task-0001" 1 plainApproval).runOn
      (afterOps proposedOps)).1.isOk = true := by decide +kernel
  refine ⟨hreachable, hok, ?_⟩
  cases hr : ((approvePlan plainEnv "task-0001" 1 plainApproval).runOn
      (afterOps proposedOps)).1 with
  | error e =>
    rw [hr] at hok
    cases hok
  | ok d =>
    obtain ⟨task, plan, -, -, hplan⟩ := approved_plan_immutable hreachable laterSteps hr
    exact ⟨task.id, _, hplan⟩

end Evaluation

end Taskledger
