import Taskledger.Domain.Records

/-!
# Policies

Which actions a task's stage, lock and run admit. A decision carries the
message and exit code of its refusal.
-/

namespace Taskledger

open Library

structure Decision where
  allowed : Bool
  message : String
  details : Dict := []
  exitCode : Nat := 0

/-- Who acts on a todo or a question. -/
inductive PolicyActor where
  | user | planner | implementer | other (name : String)
  deriving DecidableEq

def PolicyActor.text : PolicyActor → String
  | .user => "user"
  | .planner => "planner"
  | .implementer => "implementer"
  | .other name => name

structure PolicyContext where
  task : TaskRecord
  lock : Option TaskLock
  run : Option TaskRunRecord
  activeStage : Option RunType

/-- `derive_active_stage`: the stage of the running run the lock names. -/
def deriveActiveStage (lock : Option TaskLock) (runs : List TaskRunRecord) : Option RunType :=
  match lock with
  | none => none
  | some lock =>
    (runs.find? fun run =>
      run.runId = lock.runId ∧ run.runType = lock.runType ∧ run.status = .running).map
      TaskRunRecord.runType

/-- `build_policy_context`. Without a run the lock alone gives the active stage. -/
def buildPolicyContext (task : TaskRecord) (lock : Option TaskLock)
    (run : Option TaskRunRecord := none) : PolicyContext where
  task := task
  lock := lock
  run := run
  activeStage := match lock with
    | none => none
    | some l => match run with
      | none => some l.runType
      | some r => deriveActiveStage (some l) [r]

def deny (message : String) (exitCode : Nat) : Decision :=
  { allowed := false, message := message, exitCode := exitCode }

def allow (message : String) : Decision :=
  { allowed := true, message := message }

/-- `_active_stage_lock_decision`. -/
def activeStageLockDecision (ctx : PolicyContext) (expected : RunType) (action : String)
    (expectedRunId : Option String := none) : Decision :=
  match ctx.lock with
  | none =>
    deny ("Task " ++ ctx.task.id ++ " needs an active " ++ value expected.stage ++ " lock to "
      ++ action ++ ".") exitCodeLockConflict
  | some lock =>
    if lock.runType ≠ expected then
      deny ("Task " ++ ctx.task.id ++ " is locked for " ++ value lock.stage ++ ", not "
        ++ value expected.stage ++ ".") exitCodeLockConflict
    else match expectedRunId with
      | none => allow ("Task can " ++ action ++ ".")
      | some runId =>
        if lock.runId ≠ runId then
          deny ("Task " ++ ctx.task.id ++ " has a " ++ value expected.stage ++ " lock for "
            ++ lock.runId ++ ", not " ++ runId ++ ".") exitCodeLockConflict
        else allow ("Task can " ++ action ++ ".")

/-- `metadata_edit_decision`. -/
def metadataEditDecision (task : TaskRecord) (lock : Option TaskLock) : Decision :=
  let ctx := buildPolicyContext task lock
  if ctx.task.statusStage ∉ [.draft, .planReview, .approved] then
    deny "Task metadata can only be edited in draft, plan_review, or approved."
      exitCodeInvalidTransition
  else match ctx.activeStage with
    | some stage =>
      deny ("Task " ++ ctx.task.id ++ " is locked for " ++ value stage
        ++ ". Break the lock explicitly before editing metadata.") exitCodeLockConflict
    | none => allow "Task metadata can be edited."

/-- `todo_add_decision`. -/
def todoAddDecision (task : TaskRecord) (lock : Option TaskLock) (actorRole : PolicyActor) :
    Decision :=
  let ctx := buildPolicyContext task lock
  if ctx.activeStage = some .planning then
    activeStageLockDecision ctx .planning "add todos during planning"
  else if ctx.activeStage = some .implementation
      ∧ ctx.task.statusStage ∈ [.approved, .implementing, .failedValidation] then
    activeStageLockDecision ctx .implementation "add todos during implementation"
  else if ctx.activeStage ≠ none ∨ ctx.task.statusStage ∉ [.draft, .planReview, .approved] then
    deny "Todos can only be added before implementation starts." exitCodeInvalidTransition
  else allow (actorRole.text ++ " can add a todo.")

/-- `todo_toggle_decision`. -/
def todoToggleDecision (task : TaskRecord) (lock : Option TaskLock) (actorRole : PolicyActor) :
    Decision :=
  let ctx := buildPolicyContext task lock
  if ctx.activeStage = some .implementation then
    activeStageLockDecision ctx .implementation "toggle todos during implementation"
  else if ctx.activeStage = some .validation ∨ ctx.task.statusStage ∈ [.cancelled, .done] then
    deny ("Todos cannot be toggled while the task is " ++ value ctx.task.statusStage ++ ".")
      exitCodeInvalidTransition
  else if actorRole ≠ .user then
    deny "Only the user may toggle todos outside implementation." exitCodeInvalidTransition
  else allow (actorRole.text ++ " can toggle todos.")

/-- The common body of `question_add_decision` and `question_mutation_decision`. -/
def questionDecision (refusal action granted : String) (task : TaskRecord)
    (lock : Option TaskLock) (actorRole : PolicyActor) : Decision :=
  let ctx := buildPolicyContext task lock
  if ctx.activeStage ∉ [none, some .planning] ∨ ctx.task.statusStage ∉ [.draft, .planReview] then
    deny refusal exitCodeInvalidTransition
  else if ctx.activeStage = some .planning ∧ actorRole ≠ .user then
    activeStageLockDecision ctx .planning action
  else allow (actorRole.text ++ granted)

def questionAddDecision : TaskRecord → Option TaskLock → PolicyActor → Decision :=
  questionDecision "Questions can only be added during planning or plan review."
    "add questions during planning" " can add a question."

def questionMutationDecision : TaskRecord → Option TaskLock → PolicyActor → Decision :=
  questionDecision "Questions can only be updated during planning or plan review."
    "update questions during planning" " can update the question."

/-- The next commands offered when a plan is proposed outside planning. -/
def proposeNextCommands : List String :=
  ["taskledger plan revise", "taskledger plan export --version latest --file ./plan.md",
    "taskledger plan upsert --file ./plan.md"]

/-- The refusal of a plan proposed in plan review without a planning run. -/
def proposeOutsidePlanning : Decision where
  allowed := false
  message :=
    ("Plan proposals require active planning.\n\n"
    ++ "This task is in plan_review and has no active planning run.\n"
    ++ "To revise the proposed plan:\n  taskledger plan revise\n  "
    ++ "taskledger plan export --version latest --file ./plan.md\n  # edit ./plan.md\n  "
    ++ "taskledger plan upsert --file ./plan.md\n\n"
    ++ "Do not edit files under .taskledger/ directly.")
  details :=
    [("remediation", .str
        ("Run `taskledger plan revise`, export/edit a workspace plan "
        ++ "file, then run `taskledger plan upsert --file ./plan.md`.")),
      ("next_commands", .ofStrings proposeNextCommands)]
  exitCode := exitCodeInvalidTransition

/-- The last checks of the decisions on a stage's work: a running run of the
stage's type under the task's lock. -/
def runDecision (ctx : PolicyContext) (runType : RunType) (noRun action : String) : Decision :=
  match ctx.run with
  | none => deny noRun exitCodeInvalidTransition
  | some run =>
    if run.runType ≠ runType ∨ run.status ≠ .running then
      deny noRun exitCodeInvalidTransition
    else activeStageLockDecision ctx runType action (some run.runId)

/-- The common body of the decisions on a stage's work. -/
def workDecision (ctx : PolicyContext) (stages : List TaskStatusStage) (runType : RunType)
    (notActive noRun action : String) : Decision :=
  if ctx.task.statusStage ∉ stages ∨ ctx.activeStage ≠ some runType then
    deny notActive exitCodeInvalidTransition
  else
    runDecision ctx runType noRun action

/-- `plan_propose_decision`: in plan review without active work the refusal says
how to revise. -/
def planProposeDecision (task : TaskRecord) (lock : Option TaskLock)
    (run : Option TaskRunRecord) : Decision :=
  if task.statusStage = .planReview ∧ (buildPolicyContext task lock run).activeStage = none then
    proposeOutsidePlanning
  else
    workDecision (buildPolicyContext task lock run) [.draft, .planReview] .planning
      "Plan proposals require active planning." "Plan proposals require an active planning run."
      "propose a plan"

/-- `plan_command_decision`. -/
def planCommandDecision (task : TaskRecord) (lock : Option TaskLock)
    (run : Option TaskRunRecord) : Decision :=
  workDecision (buildPolicyContext task lock run) [.draft, .planReview] .planning
    "Plan commands require active planning." "Plan commands require an active planning run."
    "run a planning command"

/-- The common body of `plan_approve_decision` and `plan_revise_decision`. -/
def planReviewDecision (refusal lockRefusal granted : String) (task : TaskRecord)
    (lock : Option TaskLock) : Decision :=
  if task.statusStage ≠ .planReview then
    deny refusal exitCodeWorkflowRejection
  else match (buildPolicyContext task lock).activeStage with
    | some stage =>
      deny ("Task " ++ task.id ++ " still has a " ++ value stage ++ " lock. " ++ lockRefusal)
        exitCodeLockConflict
    | none => allow granted

def planApproveDecision : TaskRecord → Option TaskLock → Decision :=
  planReviewDecision "Plan approval requires plan_review state."
    "Break it before plan review actions." "Plan can be approved."

def planReviseDecision : TaskRecord → Option TaskLock → Decision :=
  planReviewDecision "Plan revision requires plan_review state."
    "Break it before revising the plan." "Plan can be revised."

/-- `implementation_mutation_decision`. -/
def implementationMutationDecision (task : TaskRecord) (lock : Option TaskLock)
    (run : Option TaskRunRecord) (action : String) : Decision :=
  workDecision (buildPolicyContext task lock run) [.approved, .failedValidation, .implementing]
    .implementation (action ++ " requires active implementation.")
    (action ++ " requires an active implementation run.") action

/-- `validation_check_decision`. -/
def validationCheckDecision (task : TaskRecord) (lock : Option TaskLock)
    (run : Option TaskRunRecord) : Decision :=
  workDecision (buildPolicyContext task lock run) [.implemented] .validation
    "Validation checks require active validation."
    "Validation checks require an active validation run." "record validation checks"

/-- `_enforce_decision`. -/
def enforceDecision (decision : Decision) : Except Raised Unit :=
  let commands := match decision.details.get "next_commands" with
    | .list items => items.filterMap Value.asString?
    | _ => []
  raiseIf (decision.allowed = false) <| .launch
    { message := decision.message
      exitCode := decision.exitCode
      remediation := commands.filter fun c => !Text.isBlank c
      data := if decision.details.isEmpty then
          [("code", .str "LAUNCH_ERROR"), ("message", .str decision.message)]
        else decision.details }

-- ════════════════════════════════════════════════════════════════════════
-- What an allowed decision tells
-- ════════════════════════════════════════════════════════════════════════

/-- An enforced decision was an allowed one. -/
theorem allowed_of_enforceDecision {d : Decision} {u : Unit} (h : enforceDecision d = .ok u) :
    d.allowed = true := by
  unfold enforceDecision raiseIf at h
  by_cases hd : d.allowed = false
  · simp [hd] at h
  · simpa using hd

theorem activeStageLockDecision_allowed {ctx : PolicyContext} {expected : RunType}
    {action : String} {runId : Option String}
    (h : (activeStageLockDecision ctx expected action runId).allowed = true) :
    ∃ lock, ctx.lock = some lock ∧ lock.runType = expected ∧
      ∀ id, runId = some id → lock.runId = id := by
  unfold activeStageLockDecision at h
  cases hl : ctx.lock with
  | none => simp [hl, deny] at h
  | some lock =>
    simp only [hl] at h
    by_cases ht : lock.runType = expected
    · refine ⟨lock, rfl, ht, ?_⟩
      rintro id rfl
      by_contra hne
      simp [ht, hne, deny] at h
    · simp [ht, deny] at h

/-- A run under way: the task's stage is among `stages`, and its lock, of the
given type, names this running run. -/
structure UnderWay (task : TaskRecord) (lock : Option TaskLock) (run : TaskRunRecord)
    (runType : RunType) (stages : List TaskStatusStage) : Prop where
  stage : task.statusStage ∈ stages
  running : run.status = .running
  ofType : run.runType = runType
  locked : ∃ l, lock = some l ∧ l.runType = runType ∧ l.runId = run.runId

theorem workDecision_allowed {task : TaskRecord} {lock : Option TaskLock} {run : TaskRunRecord}
    {stages : List TaskStatusStage} {runType : RunType} {notActive noRun action : String}
    (h : (workDecision (buildPolicyContext task lock (some run)) stages runType notActive noRun
      action).allowed = true) :
    UnderWay task lock run runType stages := by
  unfold workDecision at h
  split at h
  · simp [deny] at h
  · rename_i hc
    rw [not_or, not_not, not_not] at hc
    simp only [runDecision, buildPolicyContext] at h hc
    split at h
    · simp [deny] at h
    · rename_i hr
      rw [not_or, not_not, not_not] at hr
      obtain ⟨l, hl, ht, hid⟩ := activeStageLockDecision_allowed h
      exact ⟨hc.1, hr.2, hr.1, l, hl, ht, hid _ rfl⟩

theorem planProposeDecision_allowed {task : TaskRecord} {lock : Option TaskLock}
    {run : TaskRunRecord} (h : (planProposeDecision task lock (some run)).allowed = true) :
    UnderWay task lock run .planning [.draft, .planReview] := by
  unfold planProposeDecision at h
  split at h
  · simp [proposeOutsidePlanning] at h
  · exact workDecision_allowed h

theorem planReviewDecision_allowed {refusal lockRefusal granted : String} {task : TaskRecord}
    {lock : Option TaskLock}
    (h : (planReviewDecision refusal lockRefusal granted task lock).allowed = true) :
    task.statusStage = .planReview ∧ lock = none := by
  unfold planReviewDecision at h
  split at h
  · simp [deny] at h
  · rename_i hs
    refine ⟨by simpa using hs, ?_⟩
    cases hl : lock with
    | none => rfl
    | some l => simp [buildPolicyContext, hl, deny] at h

end Taskledger
