import Taskledger.Properties.Approval
import Taskledger.Services.PlanReview

/-!
# Plan review and approval

A review that finds no blocker has seen the gates of an approval on the plan and its questions.
It has not looked at the archive flag, at the lock and at the runs of the task, it takes a todo
waiver for todos, and an approval reads more than the review does.
-/

namespace Taskledger

open Library Action Lifecycle

section Reviewing

variable [Runtime] {s : Ledger} {env : Env} {ref : String} {version : Nat}
  {request : ApprovalRequest} {options : PlanReviewOptions} {task : TaskRecord}
  {plan : PlanRecord}

/-- An approval by a user with a note, and without an override. -/
structure ApprovalRequest.ByUser (request : ApprovalRequest) : Prop where
  actor : Text.strip request.actorType = "user"
  note : lacksText request.note = false
  source : ∃ source, normalizeApprovalSource request.approvalSource = .ok source
  materializes : request.materializeTodos = true
  criteria : request.allowEmptyCriteria = false
  questions : request.allowOpenQuestions = false
  todos : request.allowEmptyTodos = false
  lint : request.allowLintErrors = false

/-- What a review with lint asks of a stored plan version. -/
structure PassesReview (s : Ledger) (ref : String) (version : Nat) (task : TaskRecord)
    (plan : PlanRecord) : Prop where
  found : resolveTask ref false s = .ok task
  stored : resolvePlan task.id (some version) s = .ok plan
  stage : task.statusStage = .planReview
  proposed : plan.status = .proposed
  questions : ∃ questions, listQuestions task.id s = .ok questions ∧
    requiredOpenQuestionIds questions = [] ∧ staleAnswerQuestionIds questions plan = []
  lint : lintErrors plan = []

/-- What only an approval asks. -/
structure Unobstructed (s : Ledger) (task : TaskRecord) (plan : PlanRecord) : Prop where
  visible : isArchivedTask task = false
  unlocked : s.locks.lookup task.id = none
  idle : runningRuns task s = .ok []
  todos : plan.todos ≠ []
  lists : s.ListsApproval task.id true

/-- The review reports a stored plan version as ready. -/
def ReviewReady (s : Ledger) (ref : String) (version : Nat) (options : PlanReviewOptions) : Prop :=
  ∃ r, buildPlanReviewPayload ref (some version) options s = .ok r ∧ r.approvalReady = true

/-- The approval of a stored plan version returns. -/
def ApprovalReturns (s : Ledger) (env : Env) (ref : String) (version : Nat)
    (request : ApprovalRequest) : Prop :=
  ∃ d, ((approvePlan env ref version request).runOn s).1 = .ok d

-- ════════════════════════════════════════════════════════════════════════
-- The review
-- ════════════════════════════════════════════════════════════════════════

omit [Runtime] in
theorem blockerWhen_eq_nil {c : Bool} {kind message text : String} :
    blockerWhen c kind message text = [] ↔ c = false := by
  cases c with
  | true =>
    rw [blockerWhen, if_pos rfl]
    exact iff_of_false (List.cons_ne_nil _ _) Bool.true_eq_false.mp
  | false => exact iff_of_true rfl rfl

omit [Runtime] in
theorem issueWhen_eq_nil {c : Bool} {issue : PlanLintIssue} : issueWhen c issue = [] ↔ c = false := by
  cases c with
  | true =>
    rw [issueWhen, if_pos rfl]
    exact iff_of_false (List.cons_ne_nil _ _) Bool.true_eq_false.mp
  | false => exact iff_of_true rfl rfl

/-- A plan without lint errors has criteria, and todos or a waiver for them. -/
theorem content_of_lint (h : lintErrors plan = []) :
    plan.criteria.isEmpty = false ∧
      (plan.todos.isEmpty && Text.isBlank (plan.todosWaivedReason.getD "")) = false := by
  simp only [lintErrors, List.append_eq_nil_iff, issueWhen_eq_nil] at h
  exact ⟨h.1.1.1.2, h.1.1.2⟩

/-- The blockers of a review with lint are what the plan lacks. -/
theorem blockers_eq_nil {r : ReviewInput} (hlint : r.lint = some (lintErrors r.plan)) :
    r.blockers = [] ↔ r.task.statusStage = .planReview ∧ r.plan.status = .proposed ∧
      requiredOpenQuestionIds r.questions = [] ∧
      staleAnswerQuestionIds r.questions r.plan = [] ∧ lintErrors r.plan = [] := by
  simp only [ReviewInput.blockers, reviewBlockers, hlint, Option.map_some, Option.getD_some,
    lintBlockers, List.append_eq_nil_iff, blockerWhen_eq_nil, decide_eq_false_iff_not, not_not,
    Bool.not_eq_false', List.isEmpty_iff]
  constructor
  · rintro ⟨⟨⟨⟨⟨⟨hstage, hstatus⟩, hopen⟩, hstale⟩, -⟩, -⟩, hlint⟩
    exact ⟨hstage, hstatus, hopen, hstale, hlint⟩
  · rintro ⟨hstage, hstatus, hopen, hstale, hlint⟩
    have hcontent := content_of_lint hlint
    exact ⟨⟨⟨⟨⟨⟨hstage, hstatus⟩, hopen⟩, hstale⟩, hcontent.1⟩, hcontent.2⟩, hlint⟩

/-- A listed plan resolves by its version. -/
theorem resolvePlan_of_listed {id : String} {plans : List PlanRecord} {p : PlanRecord}
    (hplans : listPlans id s = .ok plans) (hp : p ∈ plans) :
    resolvePlan id (some p.planVersion) s = .ok p := by
  obtain ⟨stored, hstored, hreload⟩ := listed_stored hplans hp
  obtain ⟨q, hq⟩ := resolvePlan_of_lookup hstored hreload
  obtain ⟨plans', _, hplans', -, hmem, hversion⟩ := resolvePlan_eq_ok hq
  cases hplans.symm.trans hplans'
  rw [eq_of_listed hplans hp hmem hversion.symm]
  rwa [eq_of_listed hplans hp hmem hversion.symm] at hq

/-- The target of a review is a plan of the task. -/
theorem listed_resolveTargetPlan {id : String} {stage : TaskStatusStage} {v : Option Nat}
    (h : resolveTargetPlan id stage v s = .ok plan) :
    ∃ plans, listPlans id s = .ok plans ∧ plan ∈ plans := by
  cases v with
  | some version =>
    have hresolved : resolvePlan id (some version) s = .ok plan := h
    obtain ⟨plans, _, hplans, -, hmem, -⟩ := resolvePlan_eq_ok hresolved
    exact ⟨plans, hplans, hmem⟩
  | none =>
    obtain ⟨latest, hlatest, h⟩ := Query.bind_eq_ok.1 h
    obtain ⟨plans, hplans, hlast⟩ := Query.bind_eq_ok.1 hlatest
    cases latest with
    | none => cases h
    | some latest =>
      have hmem : latest ∈ plans := List.mem_of_getLast? (Query.pure_eq_ok.1 hlast)
      simp only at h
      split at h
      · cases Query.pure_eq_ok.1 h
        exact ⟨plans, hplans, hmem⟩
      · obtain ⟨plans', hplans', h⟩ := Query.bind_eq_ok.1 h
        cases hplans.symm.trans hplans'
        refine ⟨plans, hplans, ?_⟩
        rw [← Query.pure_eq_ok.1 h]
        cases hfind : plans.reverse.find? fun plan => plan.status = .proposed with
        | none => exact hmem
        | some p => exact List.mem_reverse.1 (List.mem_of_find?_eq_some hfind)

/-- The lint of a plan of a task that was resolved. -/
theorem lintPlan_of_found (hs : s.Sound) (hfound : resolveTask ref false s = .ok task)
    (hplan : resolvePlan task.id (some plan.planVersion) s = .ok plan) :
    lintPlan task.id plan.planVersion s = .ok (lintErrors plan) :=
  Query.bind_eq_ok.2 ⟨task, resolve_again hs hfound rfl,
    Query.bind_eq_ok.2 ⟨plan, hplan, rfl⟩⟩

/-- What a review with lint has read. -/
theorem reviewInputOf_eq_ok (hs : s.Sound) (hoptions : options.includeLint = true)
    {v : Option Nat} {r : ReviewInput} :
    reviewInputOf ref v options s = .ok r ↔
      resolveTask ref false s = .ok r.task ∧
        resolveTargetPlan r.task.id r.task.statusStage v s = .ok r.plan ∧
        listQuestions r.task.id s = .ok r.questions ∧ r.lint = some (lintErrors r.plan) := by
  constructor
  · intro h
    obtain ⟨task, hfound, h⟩ := Query.bind_eq_ok.1 h
    obtain ⟨plan, hplan, h⟩ := Query.bind_eq_ok.1 h
    obtain ⟨questions, hquestions, h⟩ := Query.bind_eq_ok.1 h
    obtain ⟨plans, hplans, hmem⟩ := listed_resolveTargetPlan hplan
    have hlint := lintPlan_of_found hs hfound (resolvePlan_of_listed hplans hmem)
    rw [if_pos hoptions] at h
    obtain ⟨lint, hread, h⟩ := Query.bind_eq_ok.1 h
    obtain ⟨issues, hissues, hsome⟩ := map_eq_ok.1 hread
    cases hlint.symm.trans hissues
    cases Query.pure_eq_ok.1 h
    exact ⟨hfound, hplan, hquestions, hsome.symm⟩
  · rintro ⟨hfound, hplan, hquestions, hlint⟩
    obtain ⟨plans, hplans, hmem⟩ := listed_resolveTargetPlan hplan
    have hread := lintPlan_of_found hs hfound (resolvePlan_of_listed hplans hmem)
    refine Query.bind_eq_ok.2 ⟨_, hfound, Query.bind_eq_ok.2 ⟨_, hplan,
      Query.bind_eq_ok.2 ⟨_, hquestions, ?_⟩⟩⟩
    rw [if_pos hoptions]
    refine Query.bind_eq_ok.2 ⟨_, map_eq_ok.2 ⟨_, hread, rfl⟩, ?_⟩
    rw [← hlint]
    rfl

/-- A review is ready when it finds all it asks for. -/
theorem reviewReady_iff (hs : s.Sound) (hoptions : options.includeLint = true) :
    ReviewReady s ref version options ↔
      ∃ task plan, PassesReview s ref version task plan := by
  constructor
  · rintro ⟨_, h, hready⟩
    obtain ⟨r, hr, h⟩ := Query.bind_eq_ok.1 h
    cases Query.pure_eq_ok.1 h
    obtain ⟨hfound, hplan, hquestions, hlint⟩ := (reviewInputOf_eq_ok hs hoptions).1 hr
    obtain ⟨hstage, hstatus, hopen, hstale, hclean⟩ :=
      (blockers_eq_nil hlint).1 (List.isEmpty_iff.1 hready)
    exact ⟨r.task, r.plan, hfound, hplan, hstage, hstatus, ⟨_, hquestions, hopen, hstale⟩, hclean⟩
  · rintro ⟨task, plan, hfound, hplan, hstage, hstatus, ⟨questions, hquestions, hopen, hstale⟩,
      hclean⟩
    let r : ReviewInput :=
      { task := task, plan := plan, questions := questions, lint := some (lintErrors plan) }
    have hr : reviewInputOf ref (some version) options s = .ok r :=
      (reviewInputOf_eq_ok hs hoptions).2 ⟨hfound, hplan, hquestions, rfl⟩
    refine ⟨r.payload options, Query.bind_eq_ok.2 ⟨r, hr, rfl⟩, List.isEmpty_iff.2 ?_⟩
    exact (blockers_eq_nil rfl).2 ⟨hstage, hstatus, hopen, hstale, hclean⟩

-- ════════════════════════════════════════════════════════════════════════
-- The approval
-- ════════════════════════════════════════════════════════════════════════

omit [Runtime] in
theorem requireReason_of_unset {flag : Bool} {name : String} {reason : Option String}
    (h : flag = false) : requireReason flag name reason = .ok () :=
  raiseIf_eq_ok.2 fun hset => by
    rw [h] at hset
    cases hset.1

omit [Runtime] in
theorem raiseIf_unless {c : Prop} [Decidable c] {e : Raised} (h : ¬ c) : raiseIf c e = .ok () :=
  raiseIf_eq_ok.2 h

/-- The checks of an approval without overrides on a plan with criteria and todos. -/
theorem checkPlanContent_of_passes (hr : request.ByUser) {questions : List QuestionRecord}
    (hstatus : plan.status = .proposed) (hstale : staleAnswerQuestionIds questions plan = [])
    (hcriteria : plan.criteria ≠ []) (htodos : plan.todos ≠ []) :
    checkPlanContent questions plan request = .ok () :=
  bind_eq_ok.2 ⟨(), raiseIf_unless (not_not.2 hstatus),
    bind_eq_ok.2 ⟨(), raiseIf_unless (not_not.2 hstale),
    bind_eq_ok.2 ⟨(), raiseIf_unless fun h => hcriteria h.1,
    bind_eq_ok.2 ⟨(), requireReason_of_unset hr.criteria,
    bind_eq_ok.2 ⟨(), raiseIf_unless fun h => htodos h.1,
    bind_eq_ok.2 ⟨(), requireReason_of_unset hr.todos,
    requireReason_of_unset (by rw [hr.materializes]; rfl)⟩⟩⟩⟩⟩⟩

theorem approvalActor_of_byUser (hr : request.ByUser) :
    ∃ actor, approvalActor env request.actorType request.actorName request.note
      request.allowAgentApproval request.reason = .ok actor := by
  refine ⟨{
    actorType := .user
    actorName := approverName env request.actorName "user"
    tool := some "manual" }, ?_⟩
  unfold approvalActor
  rw [hr.actor]
  exact bind_eq_ok.2 ⟨(), raiseIf_unless (by simp [hr.note]), rfl⟩

/-- The checks of an approval by a user pass when the review finds nothing and nothing else
stands in the way. -/
theorem approvalOf_of_passes (hs : s.Sound) (hr : request.ByUser)
    (hreview : PassesReview s ref version task plan) (hvisible : isArchivedTask task = false)
    (hunlocked : s.locks.lookup task.id = none) (hidle : runningRuns task s = .ok [])
    (htodos : plan.todos ≠ []) :
    ∃ a, approvalOf env ref version request s = .ok a ∧ a.task = task := by
  obtain ⟨questions, hquestions, hopen, hstale⟩ := hreview.questions
  obtain ⟨actor, hactor⟩ : ∃ actor, approvalActor env request.actorType request.actorName
      request.note request.allowAgentApproval request.reason = .ok actor :=
    approvalActor_of_byUser hr
  obtain ⟨source, hsource⟩ := hr.source
  have hlock : readLock task.id s = .ok none := by
    rw [readLock, hunlocked]
  have hdecision : enforceDecision (planApproveDecision task none) = .ok () := by
    rw [planApproveDecision, planReviewDecision, if_neg (not_not.2 hreview.stage)]
    rfl
  obtain ⟨_, _, -, -, -, hversion⟩ := resolvePlan_eq_ok hreview.stored
  have hlint : lintPlan task.id version s = .ok (lintErrors plan) := by
    have hversion' : plan.planVersion = version := hversion
    rw [← hversion']
    refine lintPlan_of_found hs hreview.found ?_
    rw [hversion']
    exact hreview.stored
  have hcriteria : plan.criteria ≠ [] := fun h => by
    have hempty := (content_of_lint hreview.lint).1
    rw [h] at hempty
    cases hempty
  have hcontent := checkPlanContent_of_passes hr hreview.proposed hstale hcriteria htodos
  refine ⟨_, Query.bind_eq_ok.2 ⟨task, hreview.found,
    Query.bind_eq_ok.2 ⟨(), raiseIf_unless (by simp [hvisible]),
    Query.bind_eq_ok.2 ⟨none, hlock,
    Query.bind_eq_ok.2 ⟨(), hdecision,
    Query.bind_eq_ok.2 ⟨[], hidle,
    Query.bind_eq_ok.2 ⟨(), rfl,
    Query.bind_eq_ok.2 ⟨questions, hquestions,
    Query.bind_eq_ok.2 ⟨(), raiseIf_unless fun h => h.1 hopen,
    Query.bind_eq_ok.2 ⟨(), requireReason_of_unset hr.questions,
    Query.bind_eq_ok.2 ⟨plan, hreview.stored,
    Query.bind_eq_ok.2 ⟨(), hcontent,
    Query.bind_eq_ok.2 ⟨actor, hactor,
    Query.bind_eq_ok.2 ⟨lintErrors plan, hlint,
    Query.bind_eq_ok.2 ⟨(), raiseIf_unless fun h => h.1 hreview.lint,
    Query.bind_eq_ok.2 ⟨(), requireReason_of_unset hr.lint,
    Query.bind_eq_ok.2 ⟨source, hsource, rfl⟩⟩⟩⟩⟩⟩⟩⟩⟩⟩⟩⟩⟩⟩⟩⟩, rfl⟩

/-- An approval by a user whose checks pass has found what the review asks for. -/
theorem passes_of_approvalOf (hs : s.Sound) (hr : request.ByUser) {a : Approval}
    (h : approvalOf env ref version request s = .ok a) :
    PassesReview s ref version a.task a.target ∧ isArchivedTask a.task = false ∧
      s.locks.lookup a.task.id = none ∧ runningRuns a.task s = .ok [] ∧ a.target.todos ≠ [] := by
  have hgates := approvable_of_approvalOf hs h
  have hchecked := approvalOf_checked h
  obtain ⟨questions, hquestions, hopen, -⟩ := hchecked.questions
  rw [hr.questions] at hopen
  have hunset {flag : Bool} (hflag : flag = false) : ¬ request.Waives flag := fun hwaived => by
    rw [hflag] at hwaived
    cases hwaived.1
  obtain ⟨questions', hquestions', hstale⟩ := hgates.fresh
  cases hquestions.symm.trans hquestions'
  refine ⟨⟨hgates.found, hgates.stored, hgates.stage, hgates.proposed,
    ⟨questions, hquestions, not_not.1 fun hne => hopen ⟨hne, rfl⟩, hstale⟩, ?_⟩,
    hgates.visible, hgates.unlocked, hchecked.idle, ?_⟩
  · exact hgates.lint.resolve_right (hunset hr.lint)
  · exact hgates.todos.resolve_right (hunset hr.todos)

/-- An approval by a user returns when the review finds nothing and nothing else stands in the
way. -/
theorem approvalReturns_iff (hs : s.Sound) (hr : request.ByUser) :
    ApprovalReturns s env ref version request ↔
      ∃ task plan, PassesReview s ref version task plan ∧ Unobstructed s task plan := by
  constructor
  · rintro ⟨d, hd⟩
    cases ha : approvalOf env ref version request s with
    | error e =>
      have hrun : (approvePlan env ref version request).runOn s = (.error e, s) :=
        runOn_query_error ha
      rw [hrun] at hd
      cases hd
    | ok a =>
      obtain ⟨hpasses, hvisible, hunlocked, hidle, htodos⟩ := passes_of_approvalOf hs hr ha
      have hlists := (sat_approvePlan hs ha).1.1 ⟨d, hd⟩
      rw [hr.materializes] at hlists
      exact ⟨a.task, a.target, hpasses, hvisible, hunlocked, hidle, htodos, hlists⟩
  · rintro ⟨task, plan, hpasses, hfree⟩
    obtain ⟨a, ha, rfl⟩ : ∃ a, approvalOf env ref version request s = .ok a ∧ a.task = task :=
      approvalOf_of_passes hs hr hpasses hfree.visible hfree.unlocked hfree.idle hfree.todos
    refine (sat_approvePlan hs ha).1.2 ?_
    rw [hr.materializes]
    exact hfree.lists

theorem PassesReview.unique {task' : TaskRecord} {plan' : PlanRecord}
    (h : PassesReview s ref version task plan) (h' : PassesReview s ref version task' plan') :
    task' = task ∧ plan' = plan := by
  cases h'.found.symm.trans h.found
  cases h'.stored.symm.trans h.stored
  exact ⟨rfl, rfl⟩

-- ════════════════════════════════════════════════════════════════════════
-- Both
-- ════════════════════════════════════════════════════════════════════════

/-- The review without a version names the version it reviewed: its accept command and a review
of that version agree with it. -/
def NamesReviewed (s : Ledger) (ref : String) (options : PlanReviewOptions) : Prop :=
  ∀ r, buildPlanReviewPayload ref none options s = .ok r →
    buildPlanReviewPayload ref (some r.planVersion) options s = .ok r ∧
      (options.includeNextCommands = true →
        r.commands.filter (fun c => c.kind = "accept") = [acceptCommand r.planVersion])

theorem namesReviewed : NamesReviewed s ref options := by
  intro r h
  obtain ⟨input, hinput, h⟩ := Query.bind_eq_ok.1 h
  cases Query.pure_eq_ok.1 h
  constructor
  · obtain ⟨task, hfound, hinput⟩ := Query.bind_eq_ok.1 hinput
    obtain ⟨plan, hplan, hinput⟩ := Query.bind_eq_ok.1 hinput
    obtain ⟨plans, hplans, hmem⟩ := listed_resolveTargetPlan hplan
    have hread := hinput
    obtain ⟨questions, -, hinput⟩ := Query.bind_eq_ok.1 hinput
    have hversion : input.plan = plan := by
      split at hinput
      · obtain ⟨lint, -, hinput⟩ := Query.bind_eq_ok.1 hinput
        cases Query.pure_eq_ok.1 hinput
        rfl
      · obtain ⟨lint, -, hinput⟩ := Query.bind_eq_ok.1 hinput
        cases Query.pure_eq_ok.1 hinput
        rfl
    refine Query.bind_eq_ok.2 ⟨_, Query.bind_eq_ok.2 ⟨task, hfound, Query.bind_eq_ok.2 ⟨plan, ?_,
      hread⟩⟩, rfl⟩
    show resolvePlan task.id (some input.plan.planVersion) s = .ok plan
    rw [hversion]
    exact resolvePlan_of_listed hplans hmem
  · intro hcommands
    have hlist : (input.payload options).commands = reviewCommands input.plan.planVersion :=
      if_pos hcommands
    rw [hlist]
    rfl

/-- The review agrees with the approval on a plan version exactly when nothing but the plan's
content and its questions can keep it from being approved; the version it names is the one it
reviewed. -/
theorem plan_review_agrees_iff (h : s.Reachable) (hr : request.ByUser)
    (hoptions : options.includeLint = true) :
    ((ReviewReady s ref version options ↔ ApprovalReturns s env ref version request) ↔
      ∀ task plan, PassesReview s ref version task plan → Unobstructed s task plan) ∧
      NamesReviewed s ref options := by
  refine ⟨?_, namesReviewed⟩
  rw [reviewReady_iff h.sound hoptions, approvalReturns_iff h.sound hr]
  constructor
  · intro hagree task plan hpasses
    obtain ⟨task', plan', hpasses', hfree⟩ := hagree.1 ⟨task, plan, hpasses⟩
    obtain ⟨rfl, rfl⟩ := hpasses.unique hpasses'
    exact hfree
  · intro hfree
    constructor
    · rintro ⟨task, plan, hpasses⟩
      exact ⟨task, plan, hpasses, hfree task plan hpasses⟩
    · rintro ⟨task, plan, hpasses, -⟩
      exact ⟨task, plan, hpasses⟩

end Reviewing

section Evaluation

/-- The front matter of a plan with a todo, and of one with a waiver for its todos. -/
def todoYaml : String := "goal: Fetch\ntodos:\n- text: edit a.py"

def waiverYaml : String := "goal: Fetch\ntodos_waived_reason: trivial"

/-- The runtime to evaluate with, and what is read from these texts. -/
@[reducible]
def reviewRuntime : Runtime :=
  { plainRuntime with
    safeLoad := fun text =>
      if text = todoYaml then
        .ok (.dict [("goal", .str "Fetch"), ("todos", .list [.dict [("text", .str "edit a.py")]])])
      else if text = waiverYaml then
        .ok (.dict [("goal", .str "Fetch"), ("todos_waived_reason", .str "trivial")])
      else PlainRuntime.safeLoad text }

attribute [local instance] reviewRuntime

/-- A task whose plan has this front matter is in review. -/
def reviewOps (front : String) : List Op :=
  [.createTask { title := "A", description := "d" }, .startPlanning "task-0001" none none,
    .proposePlan "task-0001" ("---\n" ++ front ++ "\n---\nDo it.") ["it works"]]

def reviewed (front : String) : Ledger :=
  services.run .empty ((reviewOps front).map (Step.mk plainEnv))

/-- The approval of a user. -/
def userApproval : ApprovalRequest where
  note := some "fine"

theorem userApproval_byUser : userApproval.ByUser :=
  ⟨by decide +kernel, by decide +kernel, ⟨none, rfl⟩, rfl, rfl, rfl, rfl, rfl⟩

theorem reachable_reviewed (front : String) : (reviewed front).Reachable :=
  System.Reachable.run .init ⟨trivial, trivial, trivial, trivial⟩

theorem ready_reviewed {front : String}
    (h : ((buildPlanReviewPayload "task-0001" (some 1) {} (reviewed front)).toOption.map
      PlanReview.approvalReady) = some true) : ReviewReady (reviewed front) "task-0001" 1 {} := by
  obtain ⟨r, hr, hready⟩ := map_toOption_eq_some.1 h
  exact ⟨r, hr, hready⟩

/-- The reviewed plan with a todo is ready, its approval returns, and nothing else stood in
its way. -/
theorem plan_review_agrees_todo :
    ReviewReady (reviewed todoYaml) "task-0001" 1 {} ∧
      ∀ task plan, PassesReview (reviewed todoYaml) "task-0001" 1 task plan →
        Unobstructed (reviewed todoYaml) task plan := by
  have hready : ReviewReady (reviewed todoYaml) "task-0001" 1 {} :=
    ready_reviewed (by decide +kernel)
  have happroved : ((approvePlan plainEnv "task-0001" 1 userApproval).runOn
      (reviewed todoYaml)).1.isOk = true := by decide +kernel
  have hreturns : ApprovalReturns (reviewed todoYaml) plainEnv "task-0001" 1 userApproval := by
    unfold ApprovalReturns
    cases hr : ((approvePlan plainEnv "task-0001" 1 userApproval).runOn (reviewed todoYaml)).1 with
    | ok d => exact ⟨d, rfl⟩
    | error e =>
      rw [hr] at happroved
      cases happroved
  exact ⟨hready, (plan_review_agrees_iff (reachable_reviewed _) userApproval_byUser rfl).1.1
    (iff_of_true hready hreturns)⟩

/-- The reviewed plan with a waiver for its todos is ready, and its approval raises. -/
theorem waived_todos_are_ready :
    (reviewed waiverYaml).Reachable ∧ userApproval.ByUser ∧
      ¬ (ReviewReady (reviewed waiverYaml) "task-0001" 1 {} ↔
        ApprovalReturns (reviewed waiverYaml) plainEnv "task-0001" 1 userApproval) := by
  refine ⟨reachable_reviewed _, userApproval_byUser, fun hagree => ?_⟩
  have hraises : ((approvePlan plainEnv "task-0001" 1 userApproval).runOn
      (reviewed waiverYaml)).1.isOk = false := by decide +kernel
  obtain ⟨d, hd⟩ := hagree.1 (ready_reviewed (by decide +kernel))
  rw [hd] at hraises
  cases hraises

end Evaluation

end Taskledger
