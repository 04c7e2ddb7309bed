import Taskledger.Services.Tasks

/-!
# Code reviews
-/

namespace Taskledger

open Library

variable [Runtime] (env : Env)

/-- `ALLOWED_REVIEW_STAGES`. -/
def allowedReviewStages : List TaskStatusStage :=
  [.implementing, .implemented, .validating, .failedValidation, .done]

/-- The arguments of `record_code_review` besides the task. -/
structure ReviewRequest where
  result : String
  body : String
  summary : Option String := none
  fromGit : Bool := false
  commit : Option String := none
  runId : Option String := none
  workerStepId : Option String := none
  handoffId : Option String := none
  actor : Option ActorRef := none
  harness : Option NamedHarness := none

/-- `_normalize_review_result`. -/
def normalizeReviewResult (text : String) : Except Raised ReviewResult :=
  match Enumeration.ofValue? (Runtime.lower (Text.strip text)) with
  | some result => .ok result
  | none => .error (cliError ("Unsupported code review result: " ++ text) exitCodeBadInput)

/-- `_resolve_review_source`. -/
def resolveReviewSource (fromGit : Bool) : Option String → Except Raised ReviewSource
  | some commit =>
    if Text.isBlank commit then
      .error (cliError "Git commit must not be empty." exitCodeBadInput)
    else .ok .commit
  | none => .ok (if fromGit then .workingTree else .manual)

/-- `_normalize_summary`. -/
def normalizeReviewSummary (summary : Option String) (body : String) : Option String :=
  match summary.filter fun s => !Text.isBlank s with
  | some text => summaryLine (some (Text.strip text))
  | none => summaryLine (((Text.splitlines body).find? fun l => !Text.isBlank l).map Text.strip)

/-- `_validate_worker_step`, when a step is given. -/
def checkReviewStep : Option String → Except Raised Unit
  | none => .ok ()
  | some step => if step = "" then .ok () else env.validateWorkerStep step

/-- `_validate_handoff`, when a handoff is given. -/
def checkReviewHandoff (taskId : String) (workerStepId : Option String) :
    Option String → LedgerQuery Unit
  | none => pure ()
  | some handoffId =>
    if handoffId = "" then pure ()
    else do
      let handoff ← resolveHandoff taskId handoffId
      raiseIf (handoff.taskId ≠ taskId) <|
        cliError ("Handoff " ++ handoffId ++ " belongs to " ++ handoff.taskId ++ ", not "
          ++ taskId ++ ".") exitCodeBadInput
      raiseIf (workerStepId.isSome ∧ handoff.workerStepId.isSome
          ∧ handoff.workerStepId ≠ workerStepId) <|
        cliError ("Handoff " ++ handoffId ++ " is bound to worker step "
          ++ handoff.workerStepId.getD "" ++ ", not " ++ workerStepId.getD "" ++ ".")
          exitCodeBadInput

/-- The implementation run a review is attached to. -/
def reviewedRun (task : TaskRecord) (runId : Option String) : LedgerQuery TaskRunRecord :=
  match orOption runId task.latestImplementationRun with
  | none =>
    throw (cliError "Task does not have an implementation run to attach review evidence."
      exitCodeMissing)
  | some id => do
    let run ← resolveRun task.id id
    raiseIf (run.runType ≠ .implementation) <|
      cliError ("Run " ++ run.runId ++ " is " ++ value run.runType ++ ", not implementation.")
        exitCodeInvalidTransition
    return run

/-- What `record_code_review` has read and checked: the task and the new review. -/
def reviewOf (taskRef : String) (request : ReviewRequest) :
    LedgerQuery (TaskRecord × CodeReviewRecord) := do
  let task ← resolveTask taskRef
  ensureNotArchived task "record code review on"
  raiseIf (task.statusStage ∉ allowedReviewStages) <|
    cliError ("Code review can be recorded only during implementing, implemented, "
             ++ "validating, failed_validation, or done stages.") exitCodeInvalidTransition
  raiseIf (Text.isBlank request.body) <|
    cliError "Code review summary must not be empty." exitCodeBadInput
  let run ← reviewedRun task request.runId
  let result ← (normalizeReviewResult request.result : Except Raised ReviewResult)
  let source ← (resolveReviewSource request.fromGit request.commit : Except Raised ReviewSource)
  checkReviewStep env request.workerStepId
  checkReviewHandoff task.id request.workerStepId request.handoffId
  let git ← (if source = .manual then .ok {} else env.gitMetadata source request.commit :
    Except Raised GitMetadata)
  let known ← listCodeReviews task.id
  return (task,
    { reviewId := Runtime.nextId "review" (known.map CodeReviewRecord.reviewId)
      taskId := task.id
      implementationRun := some run.runId
      reviewedAt := utcNow env
      result := result
      source := source
      body := Text.strip request.body
      summary := normalizeReviewSummary request.summary request.body
      reviewer := request.actor.getD (defaultActor env)
      harness :=
        some ((request.harness.map NamedHarness.toHarnessRef).getD (defaultHarness env))
      workerStepId := request.workerStepId
      handoffId := request.handoffId
      gitBranch := git.branch
      gitCommit := git.commit
      gitStatusShort := git.statusShort
      gitDiffStat := git.diffStat
      gitStagedDiffStat := git.stagedDiffStat
      gitChangedPaths := git.changedPaths
      gitDiffHash := git.diffHash })

/-- `record_code_review`. -/
def recordCodeReview (taskRef : String) (request : ReviewRequest) :
    LedgerAction CodeReviewRecord := do
  let (task, review) ← reviewOf env taskRef request
  saveCodeReview review
  saveTask { task with updatedAt := utcNow env }
  appendEvent env task.id "code_review.recorded"
    [("review_id", .str review.reviewId),
      ("result", .str (value review.result)),
      ("source", .str (value review.source)),
      ("worker_step_id", .ofOption review.workerStepId),
      ("git_commit", .ofOption review.gitCommit)]
  return review

end Taskledger
