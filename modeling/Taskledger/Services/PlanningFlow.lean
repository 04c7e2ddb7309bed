import Taskledger.Services.PlanLint
import Taskledger.Services.PlanMaterialization

/-!
# The planning flow

Planning starts, a plan is proposed, amended, revised, approved or rejected.
-/

namespace Taskledger

open Library

variable [Runtime] (env : Env)

-- ════════════════════════════════════════════════════════════════════════
-- Starting
-- ════════════════════════════════════════════════════════════════════════

/-- `start_planning`. -/
def startPlanning (taskRef : String) (actor : Option ActorRef := none)
    (harness : Option NamedHarness := none) : LedgerAction Dict := do
  let task ← resolveTask taskRef
  ensureNotArchived task "start planning for"
  raiseIf (task.statusStage ∉ [.draft, .planReview]) <|
    cliError "Planning can only start from draft or plan_review." exitCodeInvalidTransition
  let run ← startRun env task .planning actor harness
  let current ← resolveTask task.id
  let updated := { current with latestPlanningRun := some run.runId, updatedAt := utcNow env }
  saveTask updated
  appendEvent env updated.id "plan.started" [("run_id", .str run.runId)]
  rebuildV2Indexes
  let lock ← requireLock env updated.id
  return lifecyclePayload "plan start" updated [] true none (some run) (some lock)

/-- `revise_plan`. -/
def revisePlan (taskRef : String) : LedgerAction Dict := do
  let task ← resolveTask taskRef
  ensureNotArchived task "revise plan for"
  let lock ← readLock task.id
  enforceDecision (planReviseDecision task lock)
  startPlanning env taskRef

-- ════════════════════════════════════════════════════════════════════════
-- Proposing
-- ════════════════════════════════════════════════════════════════════════

/-- What `propose_plan` has read and checked before it writes. -/
structure Proposal where
  task : TaskRecord
  run : TaskRunRecord
  plan : PlanRecord
  planBody : String

/-- The reads and checks of `propose_plan`. -/
def proposalOf (taskRef body : String) (criteria : List String) : LedgerQuery Proposal := do
  let task ← resolveTask taskRef
  ensureNotArchived task "propose plan for"
  let run ← requireRun task task.latestPlanningRun
  let lock ← lockForMutation env task.id
  enforceDecision (planProposeDecision task lock (some run))
  let plans ← listPlans task.id
  let previous := plans.getLast?
  let (frontMatter, planBody) ← (parsePlanFrontMatter body : Except Raised (Dict × String))
  let questions ← listQuestions task.id
  let input ← (planInputOf env frontMatter planBody criteria : Except Raised PlanInput)
  return {
    task := task
    run := run
    plan := { planOfInput env input task.id (nextPlanVersion previous)
        (previous.map PlanRecord.planVersion) with
      questionRefs := (questions.filter fun q => q.status = .open).map QuestionRecord.id
      generationReason := some <|
        (optionalFrontMatterString frontMatter "generation_reason").getD "initial"
      basedOnQuestionIds := (questions.filter fun q => q.status = .answered).map QuestionRecord.id
      basedOnAnswerHash := answerSnapshotHash questions }
    planBody := planBody }

/-- `propose_plan`. -/
def proposePlan (taskRef body : String) (criteria : List String := []) : LedgerAction Dict := do
  let p ← proposalOf env taskRef body criteria
  let version := p.plan.planVersion
  savePlan p.plan
  saveRun (finishedPlanning env p.run p.planBody)
  let updated := taskInReview env p.task version
  saveTask updated
  deleteLock env updated .planning p.run.runId "stage.completed" [("plan_version", .int version)]
  appendEvent env updated.id "plan.proposed" [("plan_version", .int version)]
  rebuildV2Indexes
  return submittedPlanPayload "plan propose" updated version p.planBody

/-- The answers a submitted plan would have to reflect. -/
def staleAnswers (questions : List QuestionRecord) : Option PlanRecord → List String
  | some plan => staleAnswerQuestionIds questions plan
  | none => (requiredAnswers questions).map QuestionRecord.id

/-- The revision started by `upsert_plan(auto_revise=True)`. -/
def autoRevise (task : TaskRecord) : LedgerAction (Option Dict) := do
  let lock ← readLock task.id
  if task.statusStage = .planReview ∧ lock.isNone then do
    let revised ← startPlanning env task.id
    return some revised
  else return none

/-- `payload["revision_run_id"]` of a started revision. -/
def revisionRunEntry (revised : Dict) : Dict :=
  optionalEntry "revision_run_id" ((revised.get "run_id").asString?.map .str)

/-- The entries an automatic revision adds to a payload. -/
def revisedEntries : Option Dict → Dict
  | none => []
  | some revised => ("auto_revise_started", .bool true) :: revisionRunEntry revised

/-- The branch of `upsert_plan` that proposes. -/
def upsertProposal (task : TaskRecord) (body : String) (criteria : List String)
    (autoReviseFlag : Bool) : LedgerAction Dict := do
  let revised ← if autoReviseFlag then autoRevise env task else pure none
  let payload ← proposePlan env task.id body criteria
  return Dict.set (payload ++ [("operation", .str "proposed")]) "command" (.str "plan upsert")
    ++ revisedEntries revised

/-- The branch of `upsert_plan` that regenerates. -/
def upsertRegeneration (task : TaskRecord) (body : String) (criteria : List String)
    (allowOpenQuestions : Bool) : LedgerAction Dict := do
  let payload ← regeneratePlanFromAnswers env task.id body criteria allowOpenQuestions
  return Dict.set (payload ++ [("operation", .str "regenerated")]) "command" (.str "plan upsert")

/-- What `upsert_plan` reads to choose its branch: the task, and whether the plan
is regenerated. -/
def upsertBranch (taskRef : String) (fromAnswers allowOpenQuestions : Bool) :
    LedgerQuery (TaskRecord × Bool) := do
  let task ← resolveTask taskRef
  ensureNotArchived task "upsert plan for"
  let questions ← listQuestions task.id
  let openRequired := requiredOpenQuestionIds questions
  raiseIf (openRequired ≠ [] ∧ allowOpenQuestions = false) <|
    cliError ("Plan upsert is blocked by required open questions: "
      ++ Text.join ", " openRequired) exitCodeApprovalRequired
  let latest ← latestPlanOrNone task.id
  return (task, fromAnswers || staleAnswers questions latest ≠ [])

/-- `upsert_plan`. -/
def upsertPlan (taskRef body : String) (criteria : List String := [])
    (fromAnswers allowOpenQuestions autoReviseFlag : Bool := false) : LedgerAction Dict := do
  let (task, regenerates) ← upsertBranch taskRef fromAnswers allowOpenQuestions
  if regenerates then upsertRegeneration env task body criteria allowOpenQuestions
  else upsertProposal env task body criteria autoReviseFlag

-- ════════════════════════════════════════════════════════════════════════
-- Amending
-- ════════════════════════════════════════════════════════════════════════

/-- The distinct items of a list, sorted. -/
def sortedSet (items : List String) : List String := sortedBy id items.dedup

/-- The plan without the dropped criteria, todos and files. -/
def amendedPlan (plan : PlanRecord) (dropCriteria dropTodos removeFiles : List String) :
    PlanRecord :=
  { plan with
    criteria := plan.criteria.filter fun c => c.id ∉ dropCriteria
    todos := plan.todos.filter fun t => t.id ∉ dropTodos
    files := plan.files.filter fun f => f ∉ removeFiles }

/-- The refusal of `amend_plan` for ids the plan does not have. -/
def refuseUnknown (kind : String) (ids known : List String) : Except Raised Unit :=
  let unknown := sortedSet (ids.filter fun i => i ∉ known)
  raiseIf (unknown ≠ []) <|
    cliError ("Unknown " ++ kind ++ " id(s): " ++ Text.join ", " unknown) exitCodeBadInput

/-- The reads and checks of `amend_plan`: the task and its latest plan. -/
def amendmentOf (taskRef : String) (dropCriteria dropTodos : List String) (reason : String) :
    LedgerQuery (TaskRecord × PlanRecord) := do
  raiseIf (Text.isBlank reason) (cliError "--reason is required." exitCodeBadInput)
  let task ← resolveTask taskRef
  ensureNotArchived task "amend plan for"
  let lock ← readLock task.id
  enforceDecision (planReviseDecision task lock)
  let latest ← resolvePlan task.id
  refuseUnknown "criterion" dropCriteria (latest.criteria.map AcceptanceCriterion.id)
  refuseUnknown "todo" dropTodos (latest.todos.map TaskTodo.id)
  return (task, latest)

/-- The warnings of an amended plan, after those of the proposal. -/
def amendWarnings (proposed : Value) (dropCriteria dropTodos : List String) : List Value :=
  (match proposed with
    | .list items => items
    | _ => [])
  ++ if dropCriteria ≠ [] ∧ dropTodos = [] then
      [.str "Dropped acceptance criteria did not remove todos; add --drop-todo if intended."]
    else []

/-- `amend_plan`. -/
def amendPlan (taskRef : String) (dropCriteria dropTodos removeFiles : List String)
    (reason : String) : LedgerAction Dict := do
  let (task, latest) ← amendmentOf taskRef dropCriteria dropTodos reason
  let draft := amendedPlan latest dropCriteria dropTodos removeFiles
  let revised ← startPlanning env task.id
  let proposed ← proposePlan env task.id (renderEditablePlan draft)
  let dropped : Dict :=
    [("dropped_criteria", .ofStrings (sortedSet dropCriteria)),
      ("dropped_todos", .ofStrings (sortedSet dropTodos)),
      ("removed_files", .ofStrings (sortedSet removeFiles))]
  appendEvent env task.id "plan.amended"
    ([("from_plan_version", .int latest.planVersion),
      ("to_plan_version", proposed.get "plan_version"),
      ("reason", .str reason)] ++ dropped)
  rebuildV2Indexes
  return (Dict.set (proposed.set "command" (.str "plan amend")) "warnings"
      (.list (amendWarnings (proposed.get "warnings") dropCriteria dropTodos)))
    ++ [("operation", .str "amended"), ("from_plan_version", .int latest.planVersion),
      ("reason", .str reason)] ++ dropped ++ revisionRunEntry revised

-- ════════════════════════════════════════════════════════════════════════
-- Approving
-- ════════════════════════════════════════════════════════════════════════

/-- `(text or "").strip()` is empty. -/
def lacksText (text : Option String) : Bool := Text.isBlank (text.getD "")

/-- The name of an approving actor: the given one, the user's, or `fallback`. -/
def approverName (actorName : Option String) (fallback : String) : String :=
  Text.strip (Text.orElse (actorName.getD "") (Text.orElse env.user fallback))

/-- `_approval_actor`. -/
def approvalActor (actorType : String) (actorName note : Option String)
    (allowAgentApproval : Bool) (reason : Option String) : Except Raised ActorRef :=
  match Text.strip actorType with
  | "user" => do
    raiseIf (lacksText note) (cliError "Plan approval requires --note." exitCodeBadInput)
    return {
      actorType := .user
      actorName := approverName env actorName "user"
      tool := some "manual" }
  | "agent" => do
    raiseIf (allowAgentApproval = false ∨ lacksText reason) <|
      cliError "Agent approval requires --allow-agent-approval and --reason."
        exitCodeApprovalRequired
    return {
      actorType := .agent
      actorName := approverName env actorName "taskledger"
      tool := some "taskledger"
      host := some env.hostname
      pid := some env.pid }
  | _ => .error (cliError ("Unsupported approval actor: " ++ actorType) exitCodeBadInput)

/-- `_APPROVAL_SOURCES` without `unknown`, sorted. -/
def approvalSources : List String :=
  ["explicit_chat", "harness_preapproved", "initial_instruction", "manual_override"]

/-- `_normalize_approval_source`. -/
def normalizeApprovalSource : Option String → Except Raised (Option String)
  | none => .ok none
  | some source =>
    let normalized := Runtime.lower (Text.strip source)
    if normalized = "" then .ok none
    else if normalized ∈ "unknown" :: approvalSources then .ok (some normalized)
    else
      .error (cliError ("Invalid --approval-source value. Use one of: "
        ++ Text.join ", " approvalSources) exitCodeBadInput)

/-- The arguments of `approve_plan` besides the task and the version. -/
structure ApprovalRequest where
  actorType : String := "user"
  actorName : Option String := none
  note : Option String := none
  allowAgentApproval : Bool := false
  reason : Option String := none
  allowEmptyCriteria : Bool := false
  materializeTodos : Bool := true
  allowOpenQuestions : Bool := false
  allowEmptyTodos : Bool := false
  allowLintErrors : Bool := false
  approvalSource : Option String := none

/-- The flag of an exemption needs a reason. -/
def requireReason (flag : Bool) (name : String) (reason : Option String) : Except Raised Unit :=
  raiseIf (flag = true ∧ lacksText reason) (cliError (name ++ " requires --reason.") exitCodeBadInput)

/-- The refusals of `approve_plan` that carry the error code `APPROVAL_REQUIRED`. -/
def approvalRequired (message : String) (details : Dict) : Raised :=
  .launch
    { message := message
      exitCode := exitCodeApprovalRequired
      errorCode := "APPROVAL_REQUIRED"
      data := [("code", .str "LAUNCH_ERROR"), ("message", .str message)] ++ details }

/-- A running run blocks an approval. -/
def refuseRunningApproval (task : TaskRecord) (lock : Option TaskLock) :
    List TaskRunRecord → Except Raised Unit
  | [] => .ok ()
  | run :: _ =>
    .error <| runningRunConflictError env task run lock
      (some ("Plan approval is blocked because this task still has a running "
        ++ value run.runType ++ " run " ++ run.runId ++ ". Run `taskledger doctor`."))
      "APPROVAL_REQUIRED" exitCodeApprovalRequired

/-- What `approve_plan` has read and checked before it writes. -/
structure Approval where
  task : TaskRecord
  target : PlanRecord
  approvedBy : ActorRef
  source : Option String

/-- The checks of `approve_plan` on the questions and the plan's content. -/
def checkPlanContent (questions : List QuestionRecord) (target : PlanRecord)
    (request : ApprovalRequest) : Except Raised Unit := do
  raiseIf (target.status ≠ .proposed) <|
    cliError ("Only proposed plan versions can be approved. v" ++ Nat.repr target.planVersion
      ++ " is " ++ value target.status ++ ".") exitCodeInvalidTransition
  let stale := staleAnswerQuestionIds questions target
  raiseIf (stale ≠ []) <|
    approvalRequired (("Plan approval is blocked by answered planning questions that are not "
              ++ "reflected in this plan. Regenerate the plan from answers first: ")
      ++ Text.join ", " stale) []
  raiseIf (target.criteria = [] ∧ request.allowEmptyCriteria = false) <|
    cliError "Plan approval requires at least one acceptance criterion." exitCodeApprovalRequired
  requireReason request.allowEmptyCriteria "--allow-empty-criteria" request.reason
  raiseIf (target.todos = [] ∧ request.allowEmptyTodos = false) <|
    cliError ("Plan approval requires at least one todo. "
             ++ "Use --allow-empty-todos --reason \"...\" for trivial tasks.") exitCodeApprovalRequired
  requireReason request.allowEmptyTodos "--allow-empty-todos" request.reason
  requireReason (!request.materializeTodos) "--no-materialize-todos" request.reason

/-- The reads and checks of `approve_plan`. -/
def approvalOf (taskRef : String) (version : Nat) (request : ApprovalRequest) :
    LedgerQuery Approval := do
  let task ← resolveTask taskRef
  ensureNotArchived task "approve plan for"
  let lock ← readLock task.id
  enforceDecision (planApproveDecision task lock)
  let running ← runningRuns task
  refuseRunningApproval env task lock running
  let questions ← listQuestions task.id
  let openQuestions := requiredOpenQuestionIds questions
  raiseIf (openQuestions ≠ [] ∧ request.allowOpenQuestions = false) <|
    cliError ("Plan approval is blocked by open planning questions: "
      ++ Text.join ", " openQuestions) exitCodeApprovalRequired
  requireReason request.allowOpenQuestions "--allow-open-questions" request.reason
  let target ← resolvePlan task.id (some version)
  checkPlanContent questions target request
  let approvedBy ← (approvalActor env request.actorType request.actorName request.note
    request.allowAgentApproval request.reason : Except Raised ActorRef)
  let issues ← lintPlan task.id version
  raiseIf (issues ≠ [] ∧ request.allowLintErrors = false) <|
    approvalRequired ("Plan approval is blocked by plan lint errors. "
              ++ "Run `taskledger plan lint --version ...`.")
      [("details", .dict [("plan_lint", .list (issues.map fun i => .dict i.toDict))])]
  requireReason request.allowLintErrors "--allow-lint-errors" request.reason
  let source ← (normalizeApprovalSource request.approvalSource : Except Raised (Option String))
  return { task := task, target := target, approvedBy := approvedBy, source := source }

/-- `(note or reason or "").strip()`. -/
def approvalNote (request : ApprovalRequest) : String :=
  Text.strip (((orOption request.note request.reason)).getD "")

/-- A plan of the task after the approval of `a.target`. -/
def planAfterApproval (a : Approval) (note : String) (plan : PlanRecord) : PlanRecord :=
  if plan.planVersion = a.target.planVersion then
    { plan with
      status := .accepted
      approvedAt := some (utcNow env)
      approvedBy := some a.approvedBy
      approvalNote := some note
      approvalSource := some (a.source.getD "unknown")
      approvedPlanHash := some (approvedPlanContentHash a.target) }
  else if plan.status = .rejected then plan
  else { plan with status := .superseded }

/-- The task after the approval. -/
def approvedTask (a : Approval) : TaskRecord :=
  { a.task with
    acceptedPlanVersion := some a.target.planVersion
    statusStage := .approved
    updatedAt := utcNow env }

/-- The todos an approval materialises: their number and the task read again. -/
def materializeApproved (updated : TaskRecord) (version : Nat) :
    LedgerAction (Nat × TaskRecord) := do
  let materialized ← materializePlanTodos env updated.id version
  let current ← resolveTask updated.id
  return (materialized.materializedTodos, current)

/-- The payload of `approve_plan`. -/
def approvalPayload (a : Approval) (task : TaskRecord) (materialized mandatory : Nat) : Dict :=
  let warnings := if a.source.isNone then
      ["Approval source missing; set --approval-source for stronger provenance."]
    else []
  lifecyclePayload "plan approve" task warnings true (some a.target.planVersion) none none
    (some ("materialized_todos=" ++ Nat.repr materialized))
  ++ [("materialized_todos", .int materialized),
    ("mandatory_todos", .int mandatory),
    ("next_action", .str "taskledger implement start"),
    ("approval_source", .str (a.source.getD "unknown")),
    ("approved_plan_hash", .str (approvedPlanContentHash a.target))]

/-- `approve_plan`. -/
def approvePlan (taskRef : String) (version : Nat) (request : ApprovalRequest) :
    LedgerAction Dict := do
  let a ← approvalOf env taskRef version request
  let note := approvalNote request
  let plans ← listPlans a.task.id
  Action.each plans fun plan => overwritePlan (planAfterApproval env a note plan)
  saveTask (approvedTask env a)
  let (materialized, updated) ←
    if request.materializeTodos then
      materializeApproved env (approvedTask env a) a.target.planVersion
    else pure (0, approvedTask env a)
  appendEvent env updated.id "plan.approved"
    [("plan_version", .int a.target.planVersion),
      ("approved_by", .dict a.approvedBy.toDict),
      ("approval_note", .str note),
      ("approval_source", .str (a.source.getD "unknown")),
      ("approved_plan_hash", .str (approvedPlanContentHash a.target))]
  rebuildV2Indexes
  let todos ← loadTodos updated.id
  return approvalPayload a updated materialized (todos.filter TaskTodo.mandatory).length

/-- `reject_plan`: the latest plan is rejected whatever its status. -/
def rejectPlan (taskRef : String) (reason : Option String := none) : LedgerAction Dict := do
  let task ← resolveTask taskRef
  ensureNotArchived task "reject plan for"
  let lock ← readLock task.id
  enforceDecision (planApproveDecision task lock)
  let latest ← resolvePlan task.id
  overwritePlan { latest with status := .rejected }
  let updated := { task with statusStage := .planReview, updatedAt := utcNow env }
  saveTask updated
  appendEvent env updated.id "plan.rejected"
    [("plan_version", .int latest.planVersion), ("reason", .ofOption reason)]
  rebuildV2Indexes
  return lifecyclePayload "plan reject" updated [] true (some latest.planVersion)

-- ════════════════════════════════════════════════════════════════════════
-- Guidance
-- ════════════════════════════════════════════════════════════════════════

/-- `_PLANNING_GUIDANCE_WORKLOG_PREFIX`. -/
def planningGuidanceWorklogMark : String := "Planning guidance viewed:"

/-- A running planning run in which the guidance was not noted yet. -/
def wantsGuidanceNote (run : TaskRunRecord) : Bool :=
  run.runType = .planning ∧ run.status = .running
    ∧ ¬ run.worklog.any (Text.startsWith · planningGuidanceWorklogMark)

/-- The writes of `mark_planning_guidance_viewed`. -/
def noteGuidance (task : TaskRecord) (run : TaskRunRecord) : LedgerAction Unit := do
  saveRun { run with
    worklog := run.worklog ++ [planningGuidanceWorklogMark ++ " " ++ utcNow env] }
  appendEvent env task.id "plan.guidance.viewed" [("run_id", .str run.runId)]

/-- The run `mark_planning_guidance_viewed` reports. -/
def guidanceRunId (run : TaskRunRecord) : Value :=
  if run.runType = .planning ∧ run.status = .running then .str run.runId else .null

/-- `mark_planning_guidance_viewed`. -/
def markPlanningGuidanceViewed (taskRef : String) : LedgerAction Dict := do
  let task ← resolveTask taskRef
  ensureNotArchived task "mark planning guidance viewed on"
  let run ← optionalRun task task.latestPlanningRun
  match run with
  | none => return [("recorded", .bool false), ("run_id", .null)]
  | some r => do
    Action.onlyIf (wantsGuidanceNote r = true) (noteGuidance env task r)
    return [("recorded", .bool (wantsGuidanceNote r)), ("run_id", guidanceRunId r)]

end Taskledger
