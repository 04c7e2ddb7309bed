import Taskledger.Properties.Freshness

/-!
# The verdict `passed`

What the gate before the verdict `passed` has seen, and that no managed task becomes
done without it.
-/

namespace Taskledger

open Library Action Lifecycle

section Gate

variable [Runtime] {s : Ledger} {t : TaskRecord} {run : TaskRunRecord}

/-- The last check of a run that names a criterion. -/
def lastCheck (run : TaskRunRecord) (criterionId : String) : Option ValidationCheck :=
  (run.checks.filter fun c => c.criterionId = some criterionId).getLast?

/-- What holds in the ledger when the gate lets a task's validation run pass. -/
structure Gated (s : Ledger) (t : TaskRecord) (run : TaskRunRecord) : Prop where
  /-- The accepted plan is stored as accepted, and the last check of each of its mandatory
  criteria passed. -/
  plan : ∃ p ∈ s.plans.files, p.taskId = t.id ∧ t.acceptedPlanVersion = some p.planVersion ∧
    p.status = .accepted ∧ ∀ c ∈ p.criteria, c.mandatory = true →
      ∃ check, lastCheck run c.id = some check ∧ check.status = .pass
  implementation : ∃ r ∈ s.runs.files, r.taskId = t.id ∧
    t.latestImplementationRun = some r.runId ∧ r.status = .finished
  todos : ∀ f ∈ s.todos.files, f.owner = t.id → f.record.mandatory = true → f.record.done = true
  requirements : ∀ f ∈ s.requirements.files, f.owner = t.id →
    hasUserWaiver f.record.waiver = true ∨
      ∃ u, resolveTask f.record.requiredTask false s = .ok u ∧ u.statusStage = .done

-- ════════════════════════════════════════════════════════════════════════
-- The parts of the gate
-- ════════════════════════════════════════════════════════════════════════

/-- The requirements that do not block. -/
theorem openRequirements_eq_nil {l : List DependencyRequirement}
    (h : openRequirements s l = .ok []) : ∀ r ∈ l, hasUserWaiver r.waiver = true ∨
      ∃ u, resolveTask r.taskId false s = .ok u ∧ u.statusStage = .done := by
  induction l with
  | nil => simp
  | cons r rest ih =>
    rw [openRequirements] at h
    by_cases hw : hasUserWaiver r.waiver = true
    · rw [if_pos hw] at h
      exact List.forall_mem_cons.2 ⟨.inl hw, ih h⟩
    · rw [if_neg hw] at h
      obtain ⟨u, hu, h⟩ := bind_eq_ok.1 h
      obtain ⟨others, hothers, h⟩ := bind_eq_ok.1 h
      by_cases hdone : u.statusStage = .done
      · rw [if_pos hdone] at h
        cases pure_eq_ok.1 h
        exact List.forall_mem_cons.2 ⟨.inr ⟨u, hu, hdone⟩, ih hothers⟩
      · rw [if_neg hdone] at h
        cases pure_eq_ok.1 h

omit [Runtime] in
theorem mem_filedUnder {α : Type} {taskId : String} {files : List (Filed α)} {f : Filed α}
    (hf : f ∈ files) (howner : f.owner = taskId) : f.record ∈ filedUnder taskId files :=
  List.mem_map.2 ⟨f, List.mem_filter.2 ⟨hf, by simpa using howner⟩, rfl⟩

omit [Runtime] in
theorem DependencyRequirement.of_reload {r r' : DependencyRequirement} (h : r.reload = .ok r') :
    r'.taskId = r.requiredTask ∧ hasUserWaiver r'.waiver = hasUserWaiver r.waiver := by
  simp only [DependencyRequirement.reload, bind_eq_ok, pure_eq_ok] at h
  obtain ⟨waiver, hw, rfl⟩ := h
  refine ⟨rfl, ?_⟩
  cases hr : r.waiver with
  | none =>
    rw [hr, Waiver.reload?, Except.ok.injEq] at hw
    rw [← hw]
  | some w =>
    rw [hr] at hw
    obtain ⟨w', hw', hw⟩ := bind_eq_ok.1 hw
    cases pure_eq_ok.1 hw
    simp only [Waiver.reload, bind_eq_ok, pure_eq_ok] at hw'
    obtain ⟨-, -, rfl⟩ := hw'
    rfl

/-- Without blocking tasks every requirement of the task is waived or done. -/
theorem requirements_of_blockingTasks (h : blockingTasks t s = .ok []) :
    ∀ f ∈ s.requirements.files, f.owner = t.id → hasUserWaiver f.record.waiver = true ∨
      ∃ u, resolveTask f.record.requiredTask false s = .ok u ∧ u.statusStage = .done := by
  intro f hf howner
  obtain ⟨requirements, hload, hopen⟩ := bind_eq_ok.1 h
  obtain ⟨read, hread, hsorted⟩ := bind_eq_ok.1 hload
  cases pure_eq_ok.1 hsorted
  obtain ⟨r, hr, hreload⟩ := reload_ok_of_mem hread (mem_filedUnder hf howner)
  obtain ⟨htask, hwaiver⟩ := DependencyRequirement.of_reload hreload
  have hdone := openRequirements_eq_nil hopen r (mem_sortedBy.2 hr)
  rwa [htask, hwaiver] at hdone

omit [Runtime] in
theorem TaskTodo.of_reload {t t' : TaskTodo} (h : t.reload = .ok t') :
    t'.mandatory = t.mandatory ∧ t'.done = t.done := by
  simp only [TaskTodo.reload, bind_eq_ok, pure_eq_ok] at h
  obtain ⟨-, -, -, -, -, -, rfl⟩ := h
  exact ⟨rfl, rfl⟩

omit [Runtime] in
theorem todos_of_loadTodos {todos : List TaskTodo} (h : loadTodos t.id s = .ok todos)
    (hopen : (todos.filter fun t => t.mandatory && !t.done).map TaskTodo.id = []) :
    ∀ f ∈ s.todos.files, f.owner = t.id → f.record.mandatory = true → f.record.done = true := by
  intro f hf howner hmandatory
  obtain ⟨read, hread, hsorted⟩ := bind_eq_ok.1 h
  cases pure_eq_ok.1 hsorted
  obtain ⟨todo, htodo, hreload⟩ := reload_ok_of_mem hread (mem_filedUnder hf howner)
  obtain ⟨hm, hd⟩ := TaskTodo.of_reload hreload
  rw [List.map_eq_nil_iff, List.filter_eq_nil_iff] at hopen
  have hnot := hopen todo (mem_sortedBy.2 htodo)
  rw [hm, hmandatory, hd] at hnot
  simpa using hnot

omit [Runtime] in
/-- A mandatory criterion that is neither missing nor failing has a last check that
passed, when waivers are passing checks. -/
theorem CriterionReport.passed {r : CriterionReport} (hm : r.criterion.mandatory = true)
    (hfailing : r.isFailing = false) (hmissing : r.isMissing = false)
    (hwaivers : ∀ c ∈ r.checks, c.waiver.isNone = true ∨ c.status = .pass) :
    ∃ check, r.checks.getLast? = some check ∧ check.status = .pass := by
  simp only [CriterionReport.isFailing, hm, Bool.true_and, decide_eq_false_iff_not] at hfailing
  simp only [CriterionReport.isMissing, hm, Bool.true_and, Bool.and_eq_false_iff,
    decide_eq_false_iff_not, Bool.or_eq_false_iff, Bool.not_eq_false', not_not, hfailing,
    false_or] at hmissing
  obtain ⟨hrun, hsatisfied⟩ := hmissing
  cases hlast : r.checks.getLast? with
  | none => simp [CriterionReport.latestStatus, CriterionReport.latestCheck, hlast] at hrun
  | some check =>
    refine ⟨check, rfl, ?_⟩
    simp only [CriterionReport.satisfied, CriterionReport.latestStatus, CriterionReport.latestCheck,
      CriterionReport.hasWaiver, hlast, Option.map_some, Option.getD_some, Option.any_some,
      Bool.or_eq_true, decide_eq_true_eq] at hsatisfied
    rcases hsatisfied with hpass | hwaiver
    · exact hpass
    · rcases hwaivers check (List.mem_of_getLast? hlast) with hnone | hpass
      · rw [Option.isNone_iff_eq_none] at hnone
        simp [criterionHasUserWaiver, hasUserWaiver, hnone] at hwaiver
      · exact hpass

/-- The accepted plan and its criteria, as they are stored. -/
theorem plan_of_acceptedPlanOf {p : PlanRecord} (h : acceptedPlanOf t s = .ok (some p)) :
    ∃ stored ∈ s.plans.files, stored.taskId = t.id ∧
      t.acceptedPlanVersion = some stored.planVersion ∧ stored.status = p.status ∧
      ∀ c ∈ stored.criteria, c ∈ p.criteria := by
  cases hversion : t.acceptedPlanVersion with
  | none =>
    rw [acceptedPlanOf, hversion] at h
    cases Query.pure_eq_ok.1 h
  | some version =>
    rw [acceptedPlanOf, hversion] at h
    obtain ⟨p', hp', h⟩ := Query.bind_eq_ok.1 h
    cases Query.pure_eq_ok.1 h
    obtain ⟨plans, latest, hlist, -, hmem, hv⟩ := resolvePlan_eq_ok hp'
    obtain ⟨stored, hstored, htask, hreload⟩ := (mem_listPlans hlist).1 hmem
    obtain ⟨-, hsame, hstatus, -⟩ := PlanRecord.of_reload hreload
    refine ⟨stored, hstored, htask, ?_, hstatus.symm, fun c hc => ?_⟩
    · rw [← hsame]
      exact congrArg some hv.symm
    · simp only [PlanRecord.reload, bind_eq_ok, pure_eq_ok] at hreload
      obtain ⟨-, -, criteria, hcriteria, -, -, rfl⟩ := hreload
      obtain ⟨c', hc', hr⟩ := reload_ok_of_mem hcriteria hc
      simp only [AcceptanceCriterion.reload, bind_eq_ok, pure_eq_ok] at hr
      obtain ⟨-, -, -, -, rfl⟩ := hr
      exact hc'

/-- What a report that finds no blocker has found. -/
theorem GateReport.passes {r : GateReport} (h : r.canFinishPassed = true) :
    (∃ p, r.acceptedPlan = some p ∧ p.status = .accepted) ∧
      (∃ run, r.implementationRun = some run ∧ run.status = .finished) ∧
      (∀ c ∈ r.criteria, c.isMissing = false) ∧ (∀ c ∈ r.criteria, c.isFailing = false) ∧
      r.openTodos = [] ∧ r.blocking = [] := by
  simp only [GateReport.canFinishPassed, List.isEmpty_iff, GateReport.blockers,
    List.append_eq_nil_iff, List.map_eq_nil_iff, GateReport.missingCriteria,
    GateReport.failingCriteria, List.filter_eq_nil_iff, Bool.not_eq_true] at h
  obtain ⟨⟨⟨⟨⟨hplan, himpl⟩, hmissing⟩, hfailing⟩, htodos⟩, hblocking⟩ := h
  refine ⟨?_, ?_, hmissing, hfailing, htodos, hblocking⟩
  · unfold GateReport.planBlockers at hplan
    split at hplan
    · cases hplan
    · next p hp =>
      by_cases hs : p.status = .accepted
      · exact ⟨p, hp, hs⟩
      · simp [hs] at hplan
  · unfold GateReport.implementationBlockers at himpl
    split at himpl
    · next hany => simpa [Option.any_eq_true] using hany
    · cases himpl

/-- The gate lets a validation run pass. -/
theorem gated_of_ensureValidationCanPass (hs : s.Sound)
    (ht : (s.view t.id).task = some t.core) (hrun : (s.view t.id).runs run.runId = some run.core)
    (h : ensureValidationCanPass t run s = .ok ()) : Gated s t run := by
  obtain ⟨report, hreport, h⟩ := Query.bind_eq_ok.1 h
  rw [Query.liftM_eq_ok, raiseIf_eq_ok, Bool.not_eq_false] at h
  obtain ⟨⟨plan, hplan, hstatus⟩, ⟨impl, himpl, hfinished⟩, hmissing, hfailing, htodos, hblocking⟩ :=
    GateReport.passes h
  obtain ⟨-, hgated, haccepted, himplementation, hblock, todos, hload, hopen⟩ :=
    buildValidationGateReport_eq_ok hreport
  have hgiven : report.run = some run := (Query.pure_eq_ok.1 hgated).symm
  rw [hplan] at haccepted
  rw [himpl] at himplementation
  rw [hblocking] at hblock
  rw [hopen] at htodos
  have hwaivers : ∀ c ∈ run.checks, c.waiver.isNone = true ∨ c.status = .pass := by
    have hall : run.core.waiversPass = true := (hs t.id).waivers _ _ hrun
    simpa [TaskRunRecord.core] using hall
  refine ⟨?_, ?_, todos_of_loadTodos hload htodos, requirements_of_blockingTasks hblock⟩
  · obtain ⟨stored, hstored, htask, hversion, hstatus', hcriteria⟩ :=
      plan_of_acceptedPlanOf haccepted
    refine ⟨stored, hstored, htask, hversion, hstatus'.trans hstatus, fun c hc hm => ?_⟩
    have hmem : (⟨c, checksByCriterion run.checks c.id⟩ : CriterionReport) ∈ report.criteria := by
      rw [GateReport.criteria, hplan, hgiven]
      exact List.mem_map.2 ⟨c, hcriteria c hc, rfl⟩
    exact CriterionReport.passed hm (hfailing _ hmem) (hmissing _ hmem)
      fun x hx => hwaivers x (List.mem_of_mem_filter hx)
  · obtain ⟨hlink, hv, -⟩ := view_optionalRun
      (fun i hi => (hs _).links _ ht i (.inr (.inl hi))) himplementation
    obtain ⟨r, hr, hcore⟩ := Option.map_eq_some_iff.1 hv
    have hkey := Directory.key_of_lookup hr
    have hid : r.runId = impl.runId := congrArg Prod.snd hkey
    refine ⟨r, Directory.mem_of_lookup hr, congrArg Prod.fst hkey, hid ▸ hlink, ?_⟩
    exact (congrArg RunCore.status hcore).trans hfinished

/-- A step that passes the checks of the verdict `passed` has passed the gate. -/
theorem Step.gated (step : Step) (hs : s.Sound) {f : ValidationFinish}
    (hf : step.FinishesValidation s f) (hresult : f.result = .passed) : Gated s f.task f.run := by
  unfold Step.FinishesValidation at hf
  split at hf
  · obtain ⟨hfound, hr, -, hgate⟩ := validationFinishOf_eq_ok hf
    have ht := view_resolved hfound
    obtain ⟨-, hrunning, -⟩ :=
      view_runningRun (fun i hi => (hs _).links _ ht i (.inr (.inr hi))) hr
    rw [hresult] at hgate
    exact gated_of_ensureValidationCanPass hs ht hrunning.stored hgate
  · exact hf.elim

/-- A `finish_validation` that returns has passed its checks. -/
theorem finishValidation_checked {env : Env} {ref result summary : String}
    {recommendation : Option String} {d : Dict}
    (h : ((finishValidation env ref result summary recommendation).runOn s).1 = .ok d) :
    ∃ f, validationFinishOf ref result s = .ok f := by
  have hsat : (finishValidation env ref result summary recommendation).Sat s
      fun r _ => ∀ d, r = .ok d → ∃ f, validationFinishOf ref result s = .ok f := by
    refine Sat.query (fun e _ d hd => ?_) fun f hf _ _ => ⟨f, hf⟩
    cases hd
  exact hsat d h

/-- The kind and the stage of the task of a view. -/
def View.kindAndStage (v : View) : Option (TaskType × TaskStatusStage) :=
  v.task.map fun t => (t.taskType, t.stage)

/-- A quiet move leaves the kind and the stage alone. -/
theorem Move.kindAndStage_of_quiet {id : String} {u x : View} {l : Label} (hl : l.quiet)
    (m : Move id l u x) : x.kindAndStage = u.kindAndStage := by
  cases m with
  | link ht htype himpl hval => simp [View.kindAndStage, ht]
  | startPlanning ht hstage hidle hrun => simp [View.kindAndStage, View.start, ht]
  | startValidation ht hstage himpl hfinished hidle hrun hbased =>
    simp [View.kindAndStage, View.start, ht]
  | addFinished | dropLock | repairRun => rfl
  | _ => exact hl.elim

/-- A managed task comes to be as a draft. -/
theorem Move.draft_of_free {id : String} {u x : View} {l : Label} {stage : TaskStatusStage}
    (m : Move id l u x) (hfree : u.kindAndStage = none)
    (h : x.kindAndStage = some (.managed, stage)) : stage = .draft := by
  have hnone : u.task = none := Option.map_eq_none_iff.1 hfree
  cases m with
  | create hid hnew => exact (congrArg Prod.snd (Option.some.inj h)).symm
  | record hid hnew => cases congrArg Prod.fst (Option.some.inj h)
  | addFinished | reject | dropLock | repairRun => cases hfree.symm.trans h
  | _ => simp_all

/-- No step files a managed task that is done. -/
theorem Step.files_no_done (step : Step) (hs : s.Sound) {t : TaskRecord}
    (ht : t ∈ (step.next s).tasks.files) (hfree : s.tasks.lookup t.id = none)
    (hmanaged : t.taskType = .managed) : t.statusStage ≠ .done := by
  intro hdone
  have hbefore : (s.view t.id).kindAndStage = none := by simp [View.kindAndStage, Ledger.view, hfree]
  have hafter : ((step.next s).view t.id).kindAndStage = some (.managed, .done) := by
    rw [View.kindAndStage, view_file_task ht, ← hmanaged, ← hdone]
    rfl
  have hobs := (step.evolves hs).observe (I := fun _ _ => True)
    (fun _ _ _ _ _ _ _ => trivial) (fun _ _ _ _ _ hq hm => Move.kindAndStage_of_quiet hq hm)
    (fun _ => trivial) t.id
  rcases hobs with hsame | ⟨l, u, x, -, -, hm, hu, hx⟩
  · cases hbefore.symm.trans (hsame.symm.trans hafter)
  · cases Move.draft_of_free hm (hu.trans hbefore) (hx.trans hafter)

/-- The verdict `passed` is given only behind the gate; no stored task becomes done without that
verdict, and no managed task is first stored as done. -/
theorem passed_only_behind_gate (h : s.Reachable) :
    (∀ env ref result summary recommendation d,
      ((finishValidation env ref result summary recommendation).runOn s).1 = .ok d →
      normalizeValidationResult result = .ok .passed →
      ∃ t run, resolveTask ref false s = .ok t ∧
        requireRunningRun t t.latestValidationRun .validation s = .ok run ∧ Gated s t run) ∧
    (∀ step : Step, ∀ t ∈ s.tasks.files, ∀ t' ∈ (step.next s).tasks.files, t'.id = t.id →
      t.statusStage ≠ .done → t'.statusStage = .done →
        ∃ f, step.FinishesValidation s f ∧ f.task.id = t.id ∧ f.result = .passed ∧
          Gated s f.task f.run) ∧
    ∀ step : Step, ∀ t' ∈ (step.next s).tasks.files, s.tasks.lookup t'.id = none →
      t'.taskType = .managed → t'.statusStage ≠ .done := by
  refine ⟨fun env ref result summary recommendation d hok hpassed => ?_,
    fun step t ht t' ht' hid hstage hdone => ?_,
    fun step t' ht' hfree hmanaged => step.files_no_done h.sound ht' hfree hmanaged⟩
  · obtain ⟨f, hf⟩ := finishValidation_checked hok
    obtain ⟨ht, hrun, hresult, -⟩ := validationFinishOf_eq_ok hf
    have hr : f.result = .passed := Except.ok.inj (hresult.symm.trans hpassed)
    exact ⟨f.task, f.run, ht, hrun,
      Step.gated ⟨env, .finishValidation ref result summary recommendation⟩ h.sound hf hr⟩
  have hbefore : (s.view t.id).stage = some t.statusStage := stage_file ht
  have hafter : ((step.next s).view t.id).stage = some .done := by
    rw [← hid, stage_file ht', hdone]
  have hobs := (step.evolves h.sound).observe (I := fun _ _ => True)
    (fun _ _ _ _ _ _ _ => trivial) (fun _ _ _ _ _ hq hm => Move.stage_of_quiet hq hm)
    (fun _ => trivial) t.id
  rcases hobs with hsame | ⟨l, u, x, -, hp, hm, hu, hx⟩
  · exact absurd (Option.some.inj (hbefore.symm.trans (hsame.symm.trans hafter))) hstage
  obtain ⟨⟨result, rfl, hverdict⟩, -⟩ :=
    Move.verdict_of_done hm (hu.trans hbefore) hstage (hx.trans hafter)
  obtain ⟨rfl, f, hf, hfid, rfl⟩ := Step.permits_finishValidation hp
  have hresult : f.result = .passed := by
    cases hr : f.result with
    | passed => rfl
    | failed | blocked => simp [hr, verdictStage] at hverdict
  exact ⟨f, hf, hfid, hresult, step.gated h.sound hf hresult⟩

end Gate

section Evaluation

attribute [local instance] plainRuntime

theorem passed_only_behind_gate_validated :
    (afterOps validatedOps).Reachable ∧
      ((finishValidation plainEnv "task-0001" "passed" "fine" none).runOn
        (afterOps validatedOps)).1.isOk = true ∧
      ∃ t run, resolveTask "task-0001" false (afterOps validatedOps) = .ok t ∧
        Gated (afterOps validatedOps) t run := by
  have hreachable := reachable_afterOps validatedOps
  have hok : ((finishValidation plainEnv "task-0001" "passed" "fine" none).runOn
      (afterOps validatedOps)).1.isOk = true := by decide +kernel
  refine ⟨hreachable, hok, ?_⟩
  cases hr : ((finishValidation plainEnv "task-0001" "passed" "fine" none).runOn
      (afterOps validatedOps)).1 with
  | error e => simp [hr, Except.isOk, Except.toBool] at hok
  | ok d =>
    obtain ⟨t, run, ht, -, hgated⟩ :=
      (passed_only_behind_gate hreachable).1 _ _ _ _ _ _ hr rfl
    exact ⟨t, run, ht, hgated⟩

end Evaluation

end Taskledger
