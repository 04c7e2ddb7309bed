import Taskledger.Domain.Errors
import Taskledger.Library.Effect
import Taskledger.Runtime

/-!
# States and enumerations

The stages of a task, the types and statuses of its records, and the stage
transitions that are allowed.
-/

namespace Taskledger

open Library

inductive ActorType where
  | agent | user | system
  deriving DecidableEq, Repr

inductive ActorRole where
  | planner | implementer | validator | reviewer | operator
  deriving DecidableEq, Repr

inductive HarnessKind where
  | agentHarness | manual | ci | unknown
  deriving DecidableEq, Repr

inductive PidScope where
  | owner | command | unverifiableHarness
  deriving DecidableEq, Repr

inductive HandoffMode where
  | planning | implementation | validation | review | full
  deriving DecidableEq, Repr

inductive ContextFor where
  | planner | implementer | validator | reviewer | specReviewer | codeReviewer | full
  deriving DecidableEq, Repr

inductive ContextScope where
  | task | todo | run
  deriving DecidableEq, Repr

inductive ContextFormat where
  | markdown | json | text
  deriving DecidableEq, Repr

inductive HandoffStatus where
  | «open» | claimed | closed | cancelled
  deriving DecidableEq, Repr

inductive LockPolicy where
  | none | retain | release | transfer
  deriving DecidableEq, Repr

inductive TaskType where
  | managed | recorded
  deriving DecidableEq, Repr

inductive TaskStatusStage where
  | draft | planning | planReview | approved | implementing | implemented | validating | done
  | failedValidation | cancelled
  deriving DecidableEq, Repr

inductive RunType where
  | planning | implementation | validation
  deriving DecidableEq, Repr

inductive PlanStatus where
  | draft | proposed | accepted | superseded | rejected
  deriving DecidableEq, Repr

inductive QuestionStatus where
  | «open» | answered | dismissed
  deriving DecidableEq, Repr

inductive RunStatus where
  | running | paused | finished | passed | failed | blocked | aborted
  deriving DecidableEq, Repr

inductive ValidationResult where
  | passed | failed | blocked
  deriving DecidableEq, Repr

inductive ValidationCheckStatus where
  | pass | fail | warn | notRun
  deriving DecidableEq, Repr

inductive FileLinkKind where
  | code | test | doc | config | dir | other | artifact
  deriving DecidableEq, Repr

inductive TodoStatus where
  | «open» | active | done | blocked | skipped
  deriving DecidableEq, Repr

-- ════════════════════════════════════════════════════════════════════════
-- Texts of the members
-- ════════════════════════════════════════════════════════════════════════

instance : Enumeration ActorType where
  members := [.agent, .user, .system]
  value
    | .agent => "agent"
    | .user => "user"
    | .system => "system"
  complete a := by cases a <;> simp
  distinct := by decide

instance : Enumeration ActorRole where
  members := [.planner, .implementer, .validator, .reviewer, .operator]
  value
    | .planner => "planner"
    | .implementer => "implementer"
    | .validator => "validator"
    | .reviewer => "reviewer"
    | .operator => "operator"
  complete a := by cases a <;> simp
  distinct := by decide

instance : Enumeration HarnessKind where
  members := [.agentHarness, .manual, .ci, .unknown]
  value
    | .agentHarness => "agent_harness"
    | .manual => "manual"
    | .ci => "ci"
    | .unknown => "unknown"
  complete a := by cases a <;> simp
  distinct := by decide

instance : Enumeration PidScope where
  members := [.owner, .command, .unverifiableHarness]
  value
    | .owner => "owner"
    | .command => "command"
    | .unverifiableHarness => "unverifiable_harness"
  complete a := by cases a <;> simp
  distinct := by decide

instance : Enumeration HandoffMode where
  members := [.planning, .implementation, .validation, .review, .full]
  value
    | .planning => "planning"
    | .implementation => "implementation"
    | .validation => "validation"
    | .review => "review"
    | .full => "full"
  complete a := by cases a <;> simp
  distinct := by decide

instance : Enumeration ContextFor where
  members := [.planner, .implementer, .validator, .reviewer, .specReviewer, .codeReviewer, .full]
  value
    | .planner => "planner"
    | .implementer => "implementer"
    | .validator => "validator"
    | .reviewer => "reviewer"
    | .specReviewer => "spec-reviewer"
    | .codeReviewer => "code-reviewer"
    | .full => "full"
  complete a := by cases a <;> simp
  distinct := by decide

instance : Enumeration ContextScope where
  members := [.task, .todo, .run]
  value
    | .task => "task"
    | .todo => "todo"
    | .run => "run"
  complete a := by cases a <;> simp
  distinct := by decide

instance : Enumeration ContextFormat where
  members := [.markdown, .json, .text]
  value
    | .markdown => "markdown"
    | .json => "json"
    | .text => "text"
  complete a := by cases a <;> simp
  distinct := by decide

instance : Enumeration HandoffStatus where
  members := [.open, .claimed, .closed, .cancelled]
  value
    | .open => "open"
    | .claimed => "claimed"
    | .closed => "closed"
    | .cancelled => "cancelled"
  complete a := by cases a <;> simp
  distinct := by decide

instance : Enumeration LockPolicy where
  members := [.none, .retain, .release, .transfer]
  value
    | .none => "none"
    | .retain => "retain"
    | .release => "release"
    | .transfer => "transfer"
  complete a := by cases a <;> simp
  distinct := by decide

instance : Enumeration TaskType where
  members := [.managed, .recorded]
  value
    | .managed => "managed"
    | .recorded => "recorded"
  complete a := by cases a <;> simp
  distinct := by decide

instance : Enumeration TaskStatusStage where
  members :=
    [.draft, .planning, .planReview, .approved, .implementing, .implemented, .validating, .done,
      .failedValidation, .cancelled]
  value
    | .draft => "draft"
    | .planning => "planning"
    | .planReview => "plan_review"
    | .approved => "approved"
    | .implementing => "implementing"
    | .implemented => "implemented"
    | .validating => "validating"
    | .done => "done"
    | .failedValidation => "failed_validation"
    | .cancelled => "cancelled"
  complete a := by cases a <;> simp
  distinct := by decide

instance : Enumeration RunType where
  members := [.planning, .implementation, .validation]
  value
    | .planning => "planning"
    | .implementation => "implementation"
    | .validation => "validation"
  complete a := by cases a <;> simp
  distinct := by decide

instance : Enumeration PlanStatus where
  members := [.draft, .proposed, .accepted, .superseded, .rejected]
  value
    | .draft => "draft"
    | .proposed => "proposed"
    | .accepted => "accepted"
    | .superseded => "superseded"
    | .rejected => "rejected"
  complete a := by cases a <;> simp
  distinct := by decide

instance : Enumeration QuestionStatus where
  members := [.open, .answered, .dismissed]
  value
    | .open => "open"
    | .answered => "answered"
    | .dismissed => "dismissed"
  complete a := by cases a <;> simp
  distinct := by decide

instance : Enumeration RunStatus where
  members := [.running, .paused, .finished, .passed, .failed, .blocked, .aborted]
  value
    | .running => "running"
    | .paused => "paused"
    | .finished => "finished"
    | .passed => "passed"
    | .failed => "failed"
    | .blocked => "blocked"
    | .aborted => "aborted"
  complete a := by cases a <;> simp
  distinct := by decide

instance : Enumeration ValidationResult where
  members := [.passed, .failed, .blocked]
  value
    | .passed => "passed"
    | .failed => "failed"
    | .blocked => "blocked"
  complete a := by cases a <;> simp
  distinct := by decide

instance : Enumeration ValidationCheckStatus where
  members := [.pass, .fail, .warn, .notRun]
  value
    | .pass => "pass"
    | .fail => "fail"
    | .warn => "warn"
    | .notRun => "not_run"
  complete a := by cases a <;> simp
  distinct := by decide

instance : Enumeration FileLinkKind where
  members := [.code, .test, .doc, .config, .dir, .other, .artifact]
  value
    | .code => "code"
    | .test => "test"
    | .doc => "doc"
    | .config => "config"
    | .dir => "dir"
    | .other => "other"
    | .artifact => "artifact"
  complete a := by cases a <;> simp
  distinct := by decide

instance : Enumeration TodoStatus where
  members := [.open, .active, .done, .blocked, .skipped]
  value
    | .open => "open"
    | .active => "active"
    | .done => "done"
    | .blocked => "blocked"
    | .skipped => "skipped"
  complete a := by cases a <;> simp
  distinct := by decide

export Enumeration (value)

-- ════════════════════════════════════════════════════════════════════════
-- Stages
-- ════════════════════════════════════════════════════════════════════════

/-- `ACTIVE_TASK_STAGES`. -/
def activeTaskStages : List TaskStatusStage := [.planning, .implementing, .validating]

/-- `IMPLEMENTABLE_TASK_STAGES`. -/
def implementableTaskStages : List TaskStatusStage := [.approved, .failedValidation]

/-- `ALLOWED_STAGE_TRANSITIONS`. -/
def allowedStageTransitions : TaskStatusStage → List TaskStatusStage
  | .draft => [.planReview, .cancelled]
  | .planning => [.planReview, .cancelled]
  | .planReview => [.draft, .approved, .cancelled]
  | .approved => [.implemented, .cancelled]
  | .implementing => [.implemented, .cancelled]
  | .implemented => [.done, .failedValidation, .cancelled]
  | .validating => [.done, .failedValidation, .cancelled]
  | .failedValidation => [.implementing, .approved, .planReview, .cancelled]
  | .done => []
  | .cancelled => []

/-- `can_transition`. -/
def canTransition (current target : TaskStatusStage) : Prop :=
  target ∈ allowedStageTransitions current

instance (current target : TaskStatusStage) : Decidable (canTransition current target) :=
  inferInstanceAs (Decidable (_ ∈ _))

/-- `require_transition`. -/
def requireTransition (current target : TaskStatusStage) : Except Raised Unit :=
  raiseIf (¬ canTransition current target)
    (launchError ("Invalid stage transition: " ++ value current ++ " -> " ++ value target))

/-- The run type that goes with a lock stage, and back. -/
def RunType.stage : RunType → TaskStatusStage
  | .planning => .planning
  | .implementation => .implementing
  | .validation => .validating

-- ════════════════════════════════════════════════════════════════════════
-- Normalisation of user input
-- ════════════════════════════════════════════════════════════════════════

/-- The member a text names, or a refusal that starts with `refusal` and quotes
the text as `shown`. -/
def normalizeWith (α : Type) [Enumeration α] (refusal shown text : String) : Except Raised α :=
  match Enumeration.ofValue? text with
  | some a => .ok a
  | none => .error (launchError (refusal ++ shown))

def normalizeTaskStatusStage (text : String) : Except Raised TaskStatusStage :=
  normalizeWith _ "Unsupported task stage: " text text

def normalizeRunType (text : String) : Except Raised RunType :=
  normalizeWith _ "Unsupported run type: " text text

def normalizePlanStatus (text : String) : Except Raised PlanStatus :=
  normalizeWith _ "Unsupported plan status: " text text

def normalizeQuestionStatus (text : String) : Except Raised QuestionStatus :=
  normalizeWith _ "Unsupported question status: " text text

def normalizeRunStatus (text : String) : Except Raised RunStatus :=
  normalizeWith _ "Unsupported run status: " text text

def normalizeValidationResult (text : String) : Except Raised ValidationResult :=
  normalizeWith _ "Unsupported validation result: " text text

/-- `"skip"` is another name of `"not_run"`. -/
def normalizeValidationCheckStatus (text : String) : Except Raised ValidationCheckStatus :=
  normalizeWith _ "Unsupported validation check status: " text
    (if text = "skip" then "not_run" else text)

/-- `"directory"` is another name of `"dir"`. -/
def normalizeFileLinkKind (text : String) : Except Raised FileLinkKind :=
  normalizeWith _ "Unsupported file link kind: " text (if text = "directory" then "dir" else text)

def normalizeTodoStatus (text : String) : Except Raised TodoStatus :=
  normalizeWith _ "Unsupported todo status: " text text

def normalizeTaskType (text : String) : Except Raised TaskType :=
  normalizeWith _ "Unsupported task type: " text text

variable [Runtime]

def normalizeActorType (text : String) : Except Raised ActorType :=
  normalizeWith _ "Unsupported actor type: " (Runtime.repr text) text

def normalizeActorRole (text : String) : Except Raised ActorRole :=
  normalizeWith _ "Unsupported actor role: " (Runtime.repr text) text

def normalizeHarnessKind (text : String) : Except Raised HarnessKind :=
  normalizeWith _ "Unsupported harness kind: " (Runtime.repr text) text

def normalizeHandoffMode (text : String) : Except Raised HandoffMode :=
  normalizeWith _ "Unsupported handoff mode: " (Runtime.repr text) text

/-- The names of stages stand for the roles that work in them. -/
def normalizeContextFor (text : String) : Except Raised ContextFor :=
  let role := match text with
    | "planning" => "planner"
    | "implementation" => "implementer"
    | "validation" => "validator"
    | "review" => "reviewer"
    | "spec" => "spec-reviewer"
    | "code" => "code-reviewer"
    | other => other
  normalizeWith _ "Unsupported context role: " (Runtime.repr text) role

def normalizeContextScope (text : String) : Except Raised ContextScope :=
  normalizeWith _ "Unsupported context scope: " (Runtime.repr text) text

def normalizeContextFormat (text : String) : Except Raised ContextFormat :=
  normalizeWith _ "Unsupported context format: " (Runtime.repr text) text

def normalizeHandoffStatus (text : String) : Except Raised HandoffStatus :=
  normalizeWith _ "Unsupported handoff status: " (Runtime.repr text) text

def normalizeLockPolicy (text : String) : Except Raised LockPolicy :=
  normalizeWith _ "Unsupported lock policy: " (Runtime.repr text) text

end Taskledger
