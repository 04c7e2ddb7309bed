import Taskledger.Lifecycle.SubmittedPlans
import Taskledger.Lifecycle.Walks

/-!
# Moves of the planning flow
-/

namespace Taskledger

open Library Action Lifecycle

variable [Runtime] {env : Env} {P : Label → View → Prop} {id : String} {s : Ledger}
  {ref : String}

-- ════════════════════════════════════════════════════════════════════════
-- Starting
-- ════════════════════════════════════════════════════════════════════════

theorem walked_startPlanning {actor : Option ActorRef} {harness : Option NamedHarness}
    (hs : s.Sound) (hid : ∀ t, resolveTask ref false s = .ok t → t.id = id)
    (hP : ∀ v, P .startPlanning v) :
    (startPlanning env ref actor harness).Sat s fun _ s' => Walked P s.view id false s' := by
  refine sat_query fun task htask => sat_except fun _ _ => sat_except fun _ hstage =>
    sat_startRun hs (canonical_resolved hs htask) fun run s₁ h =>
      sat_known (resolve_again hs htask h.tasks) (Sat.write ?_)
  obtain rfl := hid task htask
  rw [raiseIf_eq_ok, not_not, List.mem_pair] at hstage
  refine sat_tail ?_ (Walked.oneQuiet (l := .startPlanning) trivial (hP _)
    (.startPlanning (view_resolved htask) hstage h.idle h.fresh) ?_)
  · exact Frozen.event fun _ => Keeps.query fun _ _ _ _ => Keeps.query fun _ _ _ _ => Keeps.pure
  · rw [Ledger.view_putTask, h.view]
    simp [Function.update_idem, View.start]
    rfl

theorem walked_revisePlan (hs : s.Sound)
    (hid : ∀ t, resolveTask ref false s = .ok t → t.id = id) (hP : ∀ v, P .startPlanning v) :
    (revisePlan env ref).Sat s fun _ s' => Walked P s.view id false s' :=
  sat_query fun _ _ => sat_except fun _ _ => sat_query fun _ _ => sat_except fun _ _ =>
    walked_startPlanning hs hid hP

-- ════════════════════════════════════════════════════════════════════════
-- Proposing
-- ════════════════════════════════════════════════════════════════════════

/-- A plan as it is submitted: proposed, with the criteria and todos of an input. -/
structure Submitted (plan : PlanRecord) (task : TaskRecord) (input : PlanInput) : Prop where
  filed : plan.taskId = task.id
  proposed : plan.status = .proposed
  unapproved : plan.approvedBy = none
  criteria : plan.criteria = input.criteria
  todos : plan.todos = input.todos

theorem Submitted.core_eq {plan : PlanRecord} {task : TaskRecord} {input : PlanInput}
    (h : Submitted plan task input) : plan.core = ⟨.proposed, false, plan.loads⟩ := by
  simp [PlanRecord.core, h.proposed, h.unapproved]

/-- Whether a submitted plan is listed. -/
theorem Submitted.listed {plan : PlanRecord} {task : TaskRecord} {input : PlanInput}
    (h : Submitted plan task input) (htask : Canonical "task" task.id) {body : String}
    {texts : List String} (hread : readPlanInput env body texts = .ok input)
    (hids : ∀ c ∈ input.criteria, c.id ≠ "") : plan.loads = true :=
  loads_of_readPlanInput hread hids h.criteria h.todos (h.filed ▸ htask.ne_empty (by decide))

/-- What the checks of a proposal have passed. -/
structure Proposal.Passed (env : Env) (s : Ledger) (ref body : String) (criteria : List String)
    (p : Proposal) : Prop where
  found : resolveTask ref false s = .ok p.task
  run : requireRun p.task p.task.latestPlanningRun s = .ok p.run
  underWay : ∃ lock, readLock p.task.id s = .ok lock ∧
    UnderWay p.task lock p.run .planning [.draft, .planReview]
  version : ∃ plans, listPlans p.task.id s = .ok plans ∧
    p.plan.planVersion = nextPlanVersion plans.getLast?
  input : ∃ input, readPlanInput env body criteria = .ok input ∧ Submitted p.plan p.task input
  written : ∃ (frontMatter : Dict) (planBody : String) (questions : List QuestionRecord)
      (plans : List PlanRecord) (input : PlanInput),
    parsePlanFrontMatter body = .ok (frontMatter, planBody) ∧
      listQuestions p.task.id s = .ok questions ∧
      planInputOf env frontMatter planBody criteria = .ok input ∧
      p.plan = { planOfInput env input p.task.id (nextPlanVersion plans.getLast?)
          (plans.getLast?.map PlanRecord.planVersion) with
        questionRefs := (questions.filter fun q => q.status = .open).map QuestionRecord.id
        generationReason := some <|
          (optionalFrontMatterString frontMatter "generation_reason").getD "initial"
        basedOnQuestionIds := (questions.filter fun q => q.status = .answered).map QuestionRecord.id
        basedOnAnswerHash := answerSnapshotHash questions }

theorem proposalOf_eq_ok {body : String} {criteria : List String} {p : Proposal}
    (h : proposalOf env ref body criteria s = .ok p) : p.Passed env s ref body criteria := by
  obtain ⟨task, htask, h⟩ := Query.bind_eq_ok.1 h
  obtain ⟨_, _, h⟩ := Query.bind_eq_ok.1 h
  obtain ⟨run, hrun, h⟩ := Query.bind_eq_ok.1 h
  obtain ⟨lock, hlock, h⟩ := Query.bind_eq_ok.1 h
  obtain ⟨_, hdecision, h⟩ := Query.bind_eq_ok.1 h
  obtain ⟨plans, hplans, h⟩ := Query.bind_eq_ok.1 h
  obtain ⟨⟨frontMatter, planBody⟩, hfront, h⟩ := Query.bind_eq_ok.1 h
  obtain ⟨questions, hquestions, h⟩ := Query.bind_eq_ok.1 h
  obtain ⟨input, hinput, h⟩ := Query.bind_eq_ok.1 h
  cases Query.pure_eq_ok.1 h
  refine ⟨htask, hrun, ⟨lock, lockForMutation_eq_ok hlock, ?_⟩, ⟨plans, hplans, rfl⟩,
    ⟨input, bind_eq_ok.2 ⟨_, hfront, hinput⟩, rfl, rfl, rfl, rfl, rfl⟩,
    frontMatter, planBody, questions, plans, input, hfront, hquestions, hinput, rfl⟩
  exact planProposeDecision_allowed (allowed_of_enforceDecision hdecision)

theorem walked_proposePlan {body : String} {criteria : List String} (hs : s.Sound)
    (hid : ∀ t, resolveTask ref false s = .ok t → t.id = id)
    (hP : ∀ input v listed, readPlanInput env body criteria = .ok input →
      ((∀ c ∈ input.criteria, c.id ≠ "") → listed = true) → P (.propose listed) v) :
    (proposePlan env ref body criteria).Sat s fun _ s' => Walked P s.view id true s' := by
  refine sat_query fun p hp => sat_savePlan fun hfree => Sat.write (Sat.write ?_)
  obtain ⟨hfound, hrun, ⟨lock, hlock, hwork⟩, ⟨plans, hplans, hversion⟩,
    ⟨input, hread, hplan⟩, -⟩ := proposalOf_eq_ok hp
  obtain rfl := hid _ hfound
  obtain ⟨l, rfl, hltype, hlrun⟩ := hwork.locked
  have htask := view_resolved hfound
  obtain ⟨-, hvrun, hfiled⟩ :=
    view_requireRun (fun i hi => (hs _).links _ htask i (.inl hi)) hrun
  refine sat_deleteLock (l := l) hlock hltype hlrun fun s₁ _ hview => ?_
  rw [hplan.filed, hversion] at hfree
  refine sat_tail ?_ (Walked.one (l := .propose p.plan.loads) ?_ (.propose (n := p.plan.planVersion)
    htask ?_ ⟨⟨hvrun, hwork.ofType, hwork.running⟩, l.core, view_locked hlock, hltype, hlrun⟩
    (hversion ▸ view_nextVersion hplans hfree)) ?_)
  · exact Frozen.event fun _ => Keeps.query fun _ _ _ _ => Keeps.pure
  · exact hP input _ _ hread (hplan.listed (canonical_resolved hs hfound) hread)
  · exact List.mem_pair.1 hwork.stage
  · rw [hview, Ledger.view_putTask, Ledger.view_putRun, Ledger.view_putPlan, hplan.core_eq]
    simp [hplan.filed, hfiled, finishedPlanning, taskInReview, Function.update_idem, View.stop]
    rfl

-- ════════════════════════════════════════════════════════════════════════
-- Regenerating
-- ════════════════════════════════════════════════════════════════════════

/-- What the checks of a regeneration have passed. -/
structure Regeneration.Passed (env : Env) (s : Ledger) (ref body : String)
    (criteria : List String) (r : Regeneration) : Prop where
  found : resolveTask ref false s = .ok r.task
  finish : ∃ running latest lock, runningRuns r.task s = .ok running ∧
    optionalRun r.task r.task.latestPlanningRun s = .ok latest ∧
    readLock r.task.id s = .ok lock ∧ runToFinish env r.task running latest lock = .ok r.finish
  version : ∃ plans, listPlans r.task.id s = .ok plans ∧ r.previous = plans.getLast? ∧
    r.plan.planVersion = nextPlanVersion plans.getLast?
  input : ∃ input, readPlanInput env body criteria = .ok input ∧ Submitted r.plan r.task input
  written : ∃ (questions : List QuestionRecord) (plans : List PlanRecord) (input : PlanInput),
    listQuestions r.task.id s = .ok questions ∧
    readPlanInput env body criteria = .ok input ∧
      r.plan = { planOfInput env input r.task.id (nextPlanVersion plans.getLast?)
          (plans.getLast?.map PlanRecord.planVersion) with
        questionRefs := requiredOpenQuestionIds questions
        generationReason := some "after_questions"
        basedOnQuestionIds := (requiredAnswers questions).map QuestionRecord.id
        basedOnAnswerHash := answerSnapshotHash questions }

theorem regenerationOf_eq_ok {body : String} {criteria : List String} {allowOpenQuestions : Bool}
    {r : Regeneration} (h : regenerationOf env ref body criteria allowOpenQuestions s = .ok r) :
    r.Passed env s ref body criteria := by
  obtain ⟨task, htask, h⟩ := Query.bind_eq_ok.1 h
  obtain ⟨questions, hquestions, h⟩ := Query.bind_eq_ok.1 h
  obtain ⟨_, _, h⟩ := Query.bind_eq_ok.1 h
  obtain ⟨plans, hplans, h⟩ := Query.bind_eq_ok.1 h
  obtain ⟨_, _, h⟩ := Query.bind_eq_ok.1 h
  obtain ⟨running, hrunning, h⟩ := Query.bind_eq_ok.1 h
  obtain ⟨latest, hlatest, h⟩ := Query.bind_eq_ok.1 h
  obtain ⟨lock, hlock, h⟩ := Query.bind_eq_ok.1 h
  obtain ⟨finish, hfinish, h⟩ := Query.bind_eq_ok.1 h
  obtain ⟨input, hinput, h⟩ := Query.bind_eq_ok.1 h
  cases Query.pure_eq_ok.1 h
  exact ⟨htask, ⟨running, latest, lock, hrunning, hlatest, hlock, hfinish⟩,
    ⟨plans, hplans, rfl, rfl⟩, ⟨input, hinput, rfl, rfl, rfl, rfl, rfl⟩,
    questions, plans, input, hquestions, hinput, rfl⟩

/-- A run to finish, as the view shows it. -/
def RunToFinish.core (finish : RunToFinish) : Option (String × RunCore) :=
  finish.run?.map fun run => (run.runId, run.core)

/-- The lock is the one of the run to finish, or there is none. -/
def RunToFinish.LockFits (finish : RunToFinish) (s : Ledger) (taskId : String) : Prop :=
  match finish with
  | .locked run =>
    ∃ l, readLock taskId s = .ok (some l) ∧ l.runType = .planning ∧ l.runId = run.runId
  | _ => s.locks.lookup taskId = Option.none

omit [Runtime] in
theorem RunToFinish.LockFits.congr {finish : RunToFinish} {s' : Ledger} {taskId : String}
    (h : finish.LockFits s taskId) (hl : s'.locks = s.locks) : finish.LockFits s' taskId := by
  unfold LockFits readLock at *
  rwa [hl]

/-- The run a regeneration finishes is the running planning run of the task. -/
structure RunToFinish.Fits (finish : RunToFinish) (s : Ledger) (task : TaskRecord) : Prop where
  run : (s.view task.id).ToFinish finish.core
  filed : ∀ run, finish.run? = some run → run.taskId = task.id
  lock : finish.LockFits s task.id

theorem lockMatchesRun_eq_ok {lock : Option TaskLock} {run : TaskRunRecord}
    (h : lockMatchesRun env lock run = .ok true) :
    ∃ l, lock = some l ∧ l.runId = run.runId ∧ l.runType = run.runType := by
  cases lock with
  | none => cases h
  | some l =>
    obtain ⟨expired, _, h⟩ := bind_eq_ok.1 h
    have hmatch := pure_eq_ok.1 h
    rw [Bool.and_eq_true, decide_eq_true_eq] at hmatch
    exact ⟨l, rfl, hmatch.2⟩

theorem planningRunToFinish_eq_ok {task : TaskRecord} {run : TaskRunRecord}
    {lock : Option TaskLock} {finish : RunToFinish}
    (h : planningRunToFinish env task run lock = .ok finish) :
    (finish = .locked run ∧ ∃ l, lock = some l ∧ l.runId = run.runId ∧ l.runType = run.runType) ∨
      (finish = .orphaned run ∧ lock = none) := by
  obtain ⟨isMatch, hmatch, h⟩ := bind_eq_ok.1 h
  cases isMatch with
  | true =>
    cases pure_eq_ok.1 h
    exact .inl ⟨rfl, lockMatchesRun_eq_ok hmatch⟩
  | false =>
    cases lock with
    | none =>
      cases pure_eq_ok.1 h
      exact .inr ⟨rfl, rfl⟩
    | some l => cases h

/-- What is known of a running run the latest planning run is. -/
theorem view_latestPlanning {task : TaskRecord} {running : List TaskRunRecord}
    {run planning : TaskRunRecord} (hs : s.Sound) (ht : (s.view task.id).task = some task.core)
    (hrunning : runningRuns task s = .ok running) (hrun : run ∈ running)
    (hlatest : optionalRun task task.latestPlanningRun s = .ok (some planning))
    (hid : run.runId = planning.runId) (htype : planning.runType = .planning) :
    (s.view task.id).Running planning.runId planning.core .planning ∧
      planning.taskId = task.id := by
  obtain ⟨-, hv, hfiled⟩ :=
    view_optionalRun (fun i hi => (hs _).links _ ht i (.inl hi)) hlatest
  obtain ⟨hvr, hstatus⟩ := view_mem_runningRuns hrunning hrun
  rw [hid, hv, Option.some.injEq] at hvr
  exact ⟨⟨hv, htype, hvr ▸ hstatus⟩, hfiled⟩

theorem Regeneration.Passed.fits {body : String} {criteria : List String} {r : Regeneration}
    (hs : s.Sound) (h : r.Passed env s ref body criteria) : r.finish.Fits s r.task := by
  obtain ⟨running, latest, lock, hrunning, hlatest, hlock, hfinish⟩ := h.finish
  have ht := view_resolved h.found
  cases running with
  | nil =>
    rw [← Except.ok.inj hfinish]
    have hstopped := view_stopped hrunning
    refine ⟨hstopped, by rintro run ⟨⟩, ?_⟩
    show s.locks.lookup r.task.id = none
    cases hl : s.locks.lookup r.task.id with
    | none => rfl
    | some l =>
      obtain ⟨run, hrun, -, hstatus⟩ := (hs r.task.id).lockNames l.core (by simp [Ledger.view, hl])
      exact absurd hstatus (hstopped _ _ hrun)
  | cons run others =>
    cases latest with
    | none => cases hfinish
    | some planning =>
      simp only [runToFinish] at hfinish
      split at hfinish
      · rename_i hcond
        obtain ⟨-, hid, htype⟩ := hcond
        obtain ⟨hv, hfiled⟩ := view_latestPlanning hs ht hrunning (by simp) hlatest hid htype
        rcases planningRunToFinish_eq_ok hfinish with ⟨hf, l, rfl, hlrun, hltype⟩ | ⟨hf, rfl⟩
        · rw [hf]
          exact ⟨hv, by rintro _ ⟨⟩; exact hfiled, l, hlock, hltype.trans htype, hlrun⟩
        · rw [hf]
          exact ⟨hv, by rintro _ ⟨⟩; exact hfiled, readLock_none hlock⟩
      · cases hfinish

/-- A plan loads whatever its status. -/
theorem core_withStatus (p : PlanRecord) (status : PlanStatus) :
    ({ p with status := status } : PlanRecord).core = { p.core with status := status } := by
  have hloads : ({ p with status := status } : PlanRecord).loads = p.loads := by
    rw [Bool.eq_iff_iff, PlanRecord.loads_iff, PlanRecord.loads_iff]
  exact congrArg (PlanCore.mk status p.approvedBy.isSome) hloads

section Writes

variable {α : Type} {Q : Except Raised α → Ledger → Prop} {k : Unit → LedgerAction α}

/-- A proposed plan is superseded by its successor. -/
theorem sat_supersedePrevious {previous : Option PlanRecord}
    (hfiled : ∀ p, previous = some p → p.taskId = id)
    (hk : ∀ s', s'.locks = s.locks →
      s'.view = Function.update s.view id { s.view id with
        plans := View.demote (previous.map fun p => (p.planVersion, p.core)) (s.view id).plans } →
      (k ()).Sat s' Q) :
    (supersedePrevious previous >>= k).Sat s Q := by
  cases previous with
  | none => exact hk s rfl (Function.update_eq_self id s.view).symm
  | some p =>
    obtain rfl := hfiled p rfl
    by_cases hp : p.status = .proposed
    · simp only [supersedePrevious, onlyIf, if_pos hp]
      refine Sat.write (hk _ rfl ?_)
      rw [Ledger.view_putPlan]
      rw [core_withStatus]
      simp [View.demote, PlanRecord.core, hp, View.setPlan]
    · simp only [supersedePrevious, onlyIf, if_neg hp]
      refine hk s rfl ?_
      simp [View.demote, PlanRecord.core, hp]

/-- The planning run of a regeneration is finished. -/
theorem sat_finishPlanningRun {finish : RunToFinish} {planBody : String}
    (hfiled : ∀ run, finish.run? = some run → run.taskId = id)
    (hk : ∀ s', s'.locks = s.locks →
      s'.view = Function.update s.view id
        { s.view id with runs := View.finishRun finish.core (s.view id).runs } →
      (k ()).Sat s' Q) :
    (finishPlanningRun env finish planBody >>= k).Sat s Q := by
  unfold finishPlanningRun
  cases hf : finish.run? with
  | none =>
    refine hk s rfl ?_
    simp [RunToFinish.core, hf, View.finishRun]
  | some run =>
    obtain rfl := hfiled run hf
    refine Sat.write (hk _ rfl ?_)
    rw [Ledger.view_putRun]
    simp [RunToFinish.core, hf, View.finishRun, View.setRun, finishedPlanning]
    rfl

/-- After a regeneration there is no lock. -/
theorem sat_releasePlanningRun {task : TaskRecord} {finish : RunToFinish} {version : Nat}
    (hlock : finish.LockFits s task.id)
    (hk : ∀ s', s'.view = Function.update s.view task.id ((s.view task.id).setLock none) →
      (k ()).Sat s' Q) :
    (releasePlanningRun env task finish version >>= k).Sat s Q := by
  have hfree (h : s.locks.lookup task.id = none) :
      Function.update s.view task.id ((s.view task.id).setLock none) = s.view := by
    rw [View.setLock_self, Function.update_eq_self]
    simp [Ledger.view, h]
  cases finish with
  | none => exact hk s (hfree hlock).symm
  | locked run =>
    obtain ⟨l, hl, htype, hrun⟩ := hlock
    exact sat_deleteLock hl htype hrun fun s' _ hview => hk s' hview
  | orphaned run =>
    exact sat_event fun s' _ hview => hk s' (hview.trans (hfree hlock).symm)

end Writes

theorem walked_regeneratePlan {body : String} {criteria : List String} {allowOpenQuestions : Bool}
    (hs : s.Sound) (hid : ∀ t, resolveTask ref false s = .ok t → t.id = id)
    (hP : ∀ r input listed,
      regenerationOf env ref body criteria allowOpenQuestions s = .ok r → r.task.id = id →
      readPlanInput env body criteria = .ok input →
      ((∀ c ∈ input.criteria, c.id ≠ "") → listed = true) → P (.regenerate listed) (s.view id)) :
    (regeneratePlanFromAnswers env ref body criteria allowOpenQuestions).Sat s
      fun _ s' => Walked P s.view id true s' := by
  refine sat_query fun r hr => sat_savePlan fun hfree => ?_
  have hpassed := regenerationOf_eq_ok hr
  have hfits := hpassed.fits hs
  obtain ⟨hfound, -, ⟨plans, hplans, hprevious, hversion⟩, ⟨input, hread, hplan⟩, -⟩ := hpassed
  obtain rfl := hid _ hfound
  have htask := view_resolved hfound
  have hlatest {p : PlanRecord} (hp : r.previous = some p) : p ∈ plans :=
    List.mem_of_getLast? (hprevious ▸ hp)
  rw [hplan.filed, hversion] at hfree
  refine sat_supersedePrevious
    (fun p hp => (view_listed hplans (hlatest hp)).2.2) fun s₁ hl₁ hv₁ =>
    sat_finishPlanningRun hfits.filed fun s₂ hl₂ hv₂ => Sat.write ?_
  refine sat_releasePlanningRun (hfits.lock.congr (hl₂.trans hl₁)) fun s₃ hv₃ => ?_
  have hprevious' : ∀ m q, (r.previous.map fun p => (p.planVersion, p.core)) = some (m, q) →
      (s.view r.task.id).Latest m q := by
    intro m q hm
    obtain ⟨p, hp, h⟩ := Option.map_eq_some_iff.1 hm
    cases h
    exact view_latest hplans (hprevious ▸ hp)
  refine sat_tail ?_ (Walked.one (l := .regenerate r.plan.loads) ?_
    (.regenerate (n := r.plan.planVersion) htask hfits.run
      (hversion ▸ view_nextVersion hplans hfree) hprevious') ?_)
  · exact Frozen.event fun _ => Keeps.query fun _ _ _ _ => Keeps.pure
  · exact hP r input _ hr rfl hread (hplan.listed (canonical_resolved hs hfound) hread)
  · rw [hv₃, Ledger.view_putTask, hv₂, hv₁, Ledger.view_putPlan, hplan.core_eq]
    simp [hplan.filed, taskInReview, Function.update_idem, View.regenerate, View.setLock,
      View.setTask, View.setPlan]
    rfl

-- ════════════════════════════════════════════════════════════════════════
-- Upserting and amending
-- ════════════════════════════════════════════════════════════════════════

theorem walked_autoRevise {task : TaskRecord} (hs : s.Sound)
    (hid : ∀ t, resolveTask task.id false s = .ok t → t.id = id) (hP : ∀ v, P .startPlanning v) :
    (autoRevise env task).Sat s fun _ s' => Walked P s.view id false s' := by
  refine sat_query fun lock _ => ?_
  split
  · exact sat_then (walked_startPlanning hs hid hP) fun _ _ _ => Sat.pure .stay
  · exact Sat.pure .stay

theorem walked_upsertProposal {task : TaskRecord} {body : String} {criteria : List String}
    {flag : Bool} (hs : s.Sound) (htask : resolveTask ref false s = .ok task)
    (hstart : ∀ v, P .startPlanning v)
    (hP : ∀ input v listed, readPlanInput env body criteria = .ok input →
      ((∀ c ∈ input.criteria, c.id ≠ "") → listed = true) → P (.propose listed) v) :
    (upsertProposal env task body criteria flag).Sat s
      fun _ s' => Walked P s.view task.id true s' := by
  have hid {s' : Ledger} (h : Walked P s.view task.id false s') (t : TaskRecord)
      (ht : resolveTask task.id false s' = .ok t) : t.id = task.id := h.resolve_own hs htask ht
  have hpropose {β : Type} {k : Dict → β} {s₁ : Ledger} (h : Walked P s.view task.id false s₁) :
      (proposePlan env task.id body criteria >>= fun payload => pure (k payload)).Sat s₁
        fun _ s' => Walked P s₁.view task.id true s' :=
    Sat.bind (walked_proposePlan (h.sound hs) (hid h) hP) (fun _ _ h => h) fun _ _ h => Sat.pure h
  cases flag with
  | true => exact sat_then (walked_autoRevise hs (hid .stay) hstart) fun _ _ h => hpropose h
  | false => exact hpropose .stay

theorem upsertBranch_eq_ok {fromAnswers allowOpenQuestions regenerates : Bool} {task : TaskRecord}
    (h : upsertBranch ref fromAnswers allowOpenQuestions s = .ok (task, regenerates)) :
    resolveTask ref false s = .ok task := by
  obtain ⟨t, ht, h⟩ := Query.bind_eq_ok.1 h
  iterate 4 obtain ⟨_, _, h⟩ := Query.bind_eq_ok.1 h
  cases Query.pure_eq_ok.1 h
  exact ht

theorem walked_upsertPlan {body : String} {criteria : List String}
    {fromAnswers allowOpenQuestions flag : Bool} (hs : s.Sound)
    (hid : ∀ t, resolveTask ref false s = .ok t → t.id = id) (hstart : ∀ v, P .startPlanning v)
    (hpropose : ∀ input v listed, readPlanInput env body criteria = .ok input →
      ((∀ c ∈ input.criteria, c.id ≠ "") → listed = true) → P (.propose listed) v)
    (hregenerate : ∀ task r input listed,
      upsertBranch ref fromAnswers allowOpenQuestions s = .ok (task, true) →
      regenerationOf env task.id body criteria allowOpenQuestions s = .ok r → r.task.id = id →
      readPlanInput env body criteria = .ok input →
      ((∀ c ∈ input.criteria, c.id ≠ "") → listed = true) → P (.regenerate listed) (s.view id)) :
    (upsertPlan env ref body criteria fromAnswers allowOpenQuestions flag).Sat s
      fun _ s' => Walked P s.view id true s' := by
  refine sat_query fun branch hbranch => ?_
  obtain ⟨task, regenerates⟩ := branch
  have htask := upsertBranch_eq_ok hbranch
  obtain rfl := hid task htask
  have hown (t : TaskRecord) (ht : resolveTask task.id false s = .ok t) : t.id = task.id :=
    (Walked.stay (P := P) (b := true)).resolve_own hs htask ht
  cases regenerates with
  | true =>
    exact Sat.bind (walked_regeneratePlan hs hown fun r input listed => hregenerate task r input
      listed hbranch) (fun _ _ h => h) fun _ _ h => Sat.pure h
  | false => exact walked_upsertProposal hs htask hstart hpropose

/-- What the checks of an amendment have passed. -/
structure AmendmentPassed (s : Ledger) (ref : String) (task : TaskRecord) : Prop where
  found : resolveTask ref false s = .ok task
  visible : isArchivedTask task = false
  stage : task.statusStage = .planReview
  unlocked : readLock task.id s = .ok none

theorem amendmentOf_eq_ok {dropCriteria dropTodos : List String} {reason : String}
    {task : TaskRecord} {latest : PlanRecord}
    (h : amendmentOf ref dropCriteria dropTodos reason s = .ok (task, latest)) :
    AmendmentPassed s ref task := by
  obtain ⟨_, _, h⟩ := Query.bind_eq_ok.1 h
  obtain ⟨t, ht, h⟩ := Query.bind_eq_ok.1 h
  obtain ⟨_, hvisible, h⟩ := Query.bind_eq_ok.1 h
  obtain ⟨lock, hlock, h⟩ := Query.bind_eq_ok.1 h
  obtain ⟨_, hdecision, h⟩ := Query.bind_eq_ok.1 h
  iterate 3 obtain ⟨_, _, h⟩ := Query.bind_eq_ok.1 h
  cases Query.pure_eq_ok.1 h
  rw [Query.liftM_eq_ok] at hvisible
  obtain ⟨hstage, rfl⟩ := planReviewDecision_allowed (allowed_of_enforceDecision hdecision)
  exact ⟨ht, visible_of_ensure hvisible, hstage, hlock⟩

theorem walked_amendPlan {dropCriteria dropTodos removeFiles : List String} {reason : String}
    (hs : s.Sound) (hid : ∀ t, resolveTask ref false s = .ok t → t.id = id)
    (hstart : ∀ v, P .startPlanning v)
    (hpropose : ∀ task latest input v listed,
      amendmentOf ref dropCriteria dropTodos reason s = .ok (task, latest) →
      readPlanInput env (renderEditablePlan
        (amendedPlan latest dropCriteria dropTodos removeFiles)) [] = .ok input →
      ((∀ c ∈ input.criteria, c.id ≠ "") → listed = true) → P (.propose listed) v) :
    (amendPlan env ref dropCriteria dropTodos removeFiles reason).Sat s
      fun _ s' => Walked P s.view id true s' := by
  refine sat_query fun amendment hamend => ?_
  obtain ⟨task, latest⟩ := amendment
  have htask := (amendmentOf_eq_ok hamend).found
  obtain rfl := hid task htask
  have hown {s' : Ledger} (h : Walked P s.view task.id false s') (t : TaskRecord)
      (ht : resolveTask task.id false s' = .ok t) : t.id = task.id := h.resolve_own hs htask ht
  refine sat_then (walked_startPlanning hs (hown .stay) hstart) fun revised s₁ h => ?_
  refine Sat.bind (walked_proposePlan (h.sound hs) (hown h) fun input v listed =>
    hpropose task latest input v listed hamend) (fun _ _ h => h) fun proposed s₂ h₂ => ?_
  exact sat_tail (Frozen.event fun _ => Keeps.query fun _ _ _ _ => Keeps.pure) h₂

-- ════════════════════════════════════════════════════════════════════════
-- Approving and rejecting
-- ════════════════════════════════════════════════════════════════════════

/-- A loop that rewrites plans of a task leaves each with its new content. -/
theorem sat_overwritePlans {f : PlanRecord → PlanRecord} {l : List PlanRecord}
    (hf : ∀ p ∈ l, (f p).taskId = id ∧ (f p).planVersion = p.planVersion) :
    (each l fun p => overwritePlan (f p)).Sat s fun r s' => r = .ok () ∧ s'.tasks = s.tasks ∧
      ∃ plans, s'.view = Function.update s.view id { s.view id with plans := plans } ∧
        ∀ m, (∃ p ∈ l, p.planVersion = m ∧ plans m = some (f p).core) ∨
          ((∀ p ∈ l, p.planVersion ≠ m) ∧ plans m = (s.view id).plans m) := by
  induction l generalizing s with
  | nil =>
    exact ⟨rfl, rfl, (s.view id).plans, (Function.update_eq_self id s.view).symm, fun m =>
      .inr ⟨by simp, rfl⟩⟩
  | cons p rest ih =>
    obtain ⟨⟨htask, hversion⟩, hrest⟩ := List.forall_mem_cons.1 hf
    refine Sat.write ((ih hrest).mono ?_)
    rintro r s' ⟨hr, htasks, plans, hview, hplans⟩
    rw [Ledger.view_putPlan, htask, hversion] at hview hplans
    refine ⟨hr, htasks, plans, ?_, fun m => ?_⟩
    · rw [hview]
      simp [Function.update_idem]
    · rcases hplans m with ⟨q, hq, hm, hplan⟩ | ⟨hno, hplan⟩
      · exact .inl ⟨q, List.mem_cons_of_mem _ hq, hm, hplan⟩
      · by_cases hm : p.planVersion = m
        · refine .inl ⟨p, by simp, hm, ?_⟩
          rw [hplan, Function.update_self, View.setPlan_plans, hm, Function.update_self]
        · refine .inr ⟨by simpa [hm] using hno, ?_⟩
          rw [hplan, Function.update_self, View.setPlan_plans,
            Function.update_of_ne (Ne.symm hm)]

/-- What the checks of an approval have passed. -/
structure Approval.Passed (s : Ledger) (ref : String) (a : Approval) : Prop where
  found : resolveTask ref false s = .ok a.task
  stage : a.task.statusStage = .planReview
  idle : (s.view a.task.id).Idle
  target : ∃ version, resolvePlan a.task.id (some version) s = .ok a.target
  proposed : a.target.status = .proposed

theorem refuseRunningApproval_eq_ok {task : TaskRecord} {lock : Option TaskLock}
    {running : List TaskRunRecord} {u : Unit}
    (h : refuseRunningApproval env task lock running = .ok u) : running = [] := by
  cases running with
  | nil => rfl
  | cons run rest => cases h

/-- The checks of an approval, one after the other. -/
structure Approval.Checked (env : Env) (s : Ledger) (ref : String) (version : Nat)
    (request : ApprovalRequest) (a : Approval) : Prop where
  found : resolveTask ref false s = .ok a.task
  visible : isArchivedTask a.task = false
  stage : a.task.statusStage = .planReview
  unlocked : readLock a.task.id s = .ok none
  idle : runningRuns a.task s = .ok []
  questions : ∃ questions, listQuestions a.task.id s = .ok questions ∧
    ¬ (requiredOpenQuestionIds questions ≠ [] ∧ request.allowOpenQuestions = false) ∧
    checkPlanContent questions a.target request = .ok ()
  openReason : requireReason request.allowOpenQuestions "--allow-open-questions" request.reason =
    .ok ()
  target : resolvePlan a.task.id (some version) s = .ok a.target
  actor : approvalActor env request.actorType request.actorName request.note
    request.allowAgentApproval request.reason = .ok a.approvedBy
  lint : ∃ issues, lintPlan a.task.id version s = .ok issues ∧
    ¬ (issues ≠ [] ∧ request.allowLintErrors = false)
  lintReason : requireReason request.allowLintErrors "--allow-lint-errors" request.reason = .ok ()

theorem approvalOf_checked {version : Nat} {request : ApprovalRequest} {a : Approval}
    (h : approvalOf env ref version request s = .ok a) : a.Checked env s ref version request := by
  obtain ⟨task, hfound, h⟩ := Query.bind_eq_ok.1 h
  obtain ⟨_, hvisible, h⟩ := Query.bind_eq_ok.1 h
  obtain ⟨lock, hlock, h⟩ := Query.bind_eq_ok.1 h
  obtain ⟨_, hdecision, h⟩ := Query.bind_eq_ok.1 h
  obtain ⟨running, hrunning, h⟩ := Query.bind_eq_ok.1 h
  obtain ⟨_, hidle, h⟩ := Query.bind_eq_ok.1 h
  obtain ⟨questions, hquestions, h⟩ := Query.bind_eq_ok.1 h
  obtain ⟨_, hopen, h⟩ := Query.bind_eq_ok.1 h
  obtain ⟨_, hallowOpen, h⟩ := Query.bind_eq_ok.1 h
  obtain ⟨target, htarget, h⟩ := Query.bind_eq_ok.1 h
  obtain ⟨_, hcontent, h⟩ := Query.bind_eq_ok.1 h
  obtain ⟨actor, hactor, h⟩ := Query.bind_eq_ok.1 h
  obtain ⟨issues, hissues, h⟩ := Query.bind_eq_ok.1 h
  obtain ⟨_, hlint, h⟩ := Query.bind_eq_ok.1 h
  obtain ⟨_, hallowLint, h⟩ := Query.bind_eq_ok.1 h
  obtain ⟨source, -, h⟩ := Query.bind_eq_ok.1 h
  cases Query.pure_eq_ok.1 h
  obtain ⟨hstage, rfl⟩ := planReviewDecision_allowed (allowed_of_enforceDecision hdecision)
  cases refuseRunningApproval_eq_ok hidle
  rw [Query.liftM_eq_ok] at hvisible hopen hallowOpen hcontent hactor hlint hallowLint
  rw [raiseIf_eq_ok] at hopen hlint
  exact ⟨hfound, visible_of_ensure hvisible, hstage, hlock, hrunning,
    ⟨questions, hquestions, hopen, hcontent⟩, hallowOpen, htarget, hactor,
    ⟨issues, hissues, hlint⟩, hallowLint⟩

theorem approvalOf_eq_ok {version : Nat} {request : ApprovalRequest} {a : Approval}
    (h : approvalOf env ref version request s = .ok a) : a.Passed s ref := by
  have hchecked := approvalOf_checked h
  obtain ⟨questions, -, -, hcontent⟩ := hchecked.questions
  obtain ⟨_, hstatus, -⟩ := bind_eq_ok.1 hcontent
  rw [raiseIf_eq_ok, not_not] at hstatus
  exact ⟨hchecked.found, hchecked.stage,
    ⟨view_unlocked hchecked.unlocked, view_stopped hchecked.idle⟩, ⟨version, hchecked.target⟩,
    hstatus⟩

theorem loads_planAfterApproval {a : Approval} {note : String} (p : PlanRecord) :
    (planAfterApproval env a note p).loads = p.loads := by
  rw [Bool.eq_iff_iff, PlanRecord.loads_iff, PlanRecord.loads_iff]
  unfold planAfterApproval
  split
  · rfl
  · split <;> rfl

/-- What the approval writes into a listed plan. -/
theorem core_planAfterApproval {a : Approval} {note : String} {p : PlanRecord}
    (hp : p.loads = true) :
    (planAfterApproval env a note p).core =
      View.approvedPlan a.target.planVersion p.planVersion p.core := by
  have hloads : (planAfterApproval env a note p).loads = p.loads := loads_planAfterApproval p
  unfold PlanRecord.core
  rw [hloads, hp]
  unfold planAfterApproval View.approvedPlan
  split
  · rfl
  · split <;> rfl

theorem planAfterApproval_key {a : Approval} {note : String} (p : PlanRecord) :
    (planAfterApproval env a note p).taskId = p.taskId ∧
      (planAfterApproval env a note p).planVersion = p.planVersion := by
  unfold planAfterApproval
  split
  · exact ⟨rfl, rfl⟩
  · split <;> exact ⟨rfl, rfl⟩

theorem keeps_materializeApproved {V : String → View} (updated : TaskRecord) (version : Nat) :
    Keeps (Frozen V) (materializeApproved env updated version) :=
  (keeps_materializePlanTodos _ _ _).bind fun _ => Keeps.query fun _ _ _ _ => Keeps.pure

theorem walked_approvePlan {version : Nat} {request : ApprovalRequest}
    (hid : ∀ t, resolveTask ref false s = .ok t → t.id = id) (hP : ∀ v, P .approve v) :
    (approvePlan env ref version request).Sat s fun _ s' => Walked P s.view id true s' := by
  refine sat_query fun a ha => sat_query fun plans hplans => ?_
  obtain ⟨hfound, hstage, hidle, ⟨n, htarget⟩, hproposed⟩ := approvalOf_eq_ok ha
  obtain rfl := hid _ hfound
  obtain ⟨rfl, hv, hlisted⟩ := view_resolvePlan htarget
  have hkey : ∀ p ∈ plans, (planAfterApproval env a (approvalNote request) p).taskId = a.task.id ∧
      (planAfterApproval env a (approvalNote request) p).planVersion = p.planVersion := by
    intro p hp
    obtain ⟨htask, hversion⟩ := planAfterApproval_key p
    exact ⟨htask.trans (view_listed hplans hp).2.2, hversion⟩
  refine Sat.bind (sat_overwritePlans hkey) ?_ ?_
  · rintro e s₁ ⟨h, -⟩
    cases h
  rintro _ s₁ ⟨-, -, after, hview, hafter⟩
  -- every plan of the task is as the approval leaves it
  have hplan (m : Nat) : after m =
      ((s.view a.task.id).plans m).map (View.approvedPlan a.target.planVersion m) := by
    rcases hafter m with ⟨p, hp, rfl, hm⟩ | ⟨hno, hm⟩
    · obtain ⟨hpv, hload, -⟩ := view_listed hplans hp
      rw [hm, hpv, core_planAfterApproval hload]
      rfl
    · rw [hm]
      cases hq : (s.view a.task.id).plans m with
      | none => rfl
      | some q =>
        have hql : q.listed = false := by
          by_contra hl
          obtain ⟨p, hp, hpm, -⟩ := listed_of_view hplans hq (by simpa using hl)
          exact hno p hp hpm
        simp [View.approvedPlan, hql]
  refine Sat.write (sat_tail ?_ (Walked.one (l := .approve) (hP _) (.approve
    (n := a.target.planVersion) (view_resolved hfound) hstage hidle hv hlisted hproposed) ?_))
  · generalize Ledger.view _ = V
    cases request.materializeTodos with
    | true =>
      refine Keeps.bind (keeps_materializeApproved (approvedTask env a) a.target.planVersion) ?_
      rintro ⟨materialized, updated⟩
      exact Frozen.event fun _ => Keeps.query fun _ _ _ _ => Keeps.query fun _ _ _ _ => Keeps.pure
    | false =>
      refine Keeps.bind Keeps.pure ?_
      rintro ⟨materialized, updated⟩
      exact Frozen.event fun _ => Keeps.query fun _ _ _ _ => Keeps.query fun _ _ _ _ => Keeps.pure
  · rw [Ledger.view_putTask, hview]
    simp only [approvedTask, Function.update_idem, Function.update_self, View.approve]
    rw [funext hplan]
    rfl

theorem walked_rejectPlan {reason : Option String}
    (hid : ∀ t, resolveTask ref false s = .ok t → t.id = id) (hP : ∀ v, P .reject v) :
    (rejectPlan env ref reason).Sat s fun _ s' => Walked P s.view id true s' := by
  refine sat_query fun task htask => sat_except fun _ _ => sat_query fun lock _ =>
    sat_except fun _ hdecision => sat_query fun latest hlatest => Sat.write (Sat.write ?_)
  obtain rfl := hid _ htask
  obtain ⟨hstage, -⟩ := planReviewDecision_allowed (allowed_of_enforceDecision hdecision)
  obtain ⟨plans, _, hplans, hp, -, rfl⟩ := resolvePlan_eq_ok hlatest
  have hv := view_resolved htask
  refine sat_tail ?_ (Walked.one (l := .reject) (hP _) (.reject hv hstage
    (view_latest hplans hp)) ?_)
  · exact Frozen.event fun _ => Keeps.query fun _ _ _ _ => Keeps.pure
  · have hfiled := (view_listed hplans (List.mem_of_getLast? hp)).2.2
    have htask : ({ task with statusStage := .planReview, updatedAt := utcNow env } :
        TaskRecord).core = task.core := by
      simp [TaskRecord.core, hstage, isArchivedTask]
    rw [Ledger.view_putTask, Ledger.view_putPlan, htask, core_withStatus]
    simp only [hfiled, Function.update_idem, Function.update_self]
    exact congrArg _ (View.setTask_self (View.setPlan _ _ _) _ hv)

end Taskledger
