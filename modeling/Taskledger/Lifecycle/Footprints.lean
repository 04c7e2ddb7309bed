import Taskledger.Library.Footprint
import Taskledger.Services.Operations

/-!
# What an operation may write

The parts of a ledger, and for each operation the parts it may write. Every other
part is the same after it, whether it returned or raised.
-/

namespace Taskledger

open Library Action

-- the longest operations have some twenty steps
set_option synthInstance.maxSize 2000

/-- The parts of a ledger. -/
inductive Part where
  | tasks | plans | questions | runs | locks | changes | checks | reviews | handoffs | todos
  | links | requirements | introductions | releases | audits | events | activeTask | counter
  deriving DecidableEq

/-- A part is the same in two ledgers. -/
def Ledger.Same (s s' : Ledger) : Part → Prop
  | .tasks => s'.tasks = s.tasks
  | .plans => s'.plans = s.plans
  | .questions => s'.questions = s.questions
  | .runs => s'.runs = s.runs
  | .locks => s'.locks = s.locks
  | .changes => s'.changes = s.changes
  | .checks => s'.checks = s.checks
  | .reviews => s'.reviews = s.reviews
  | .handoffs => s'.handoffs = s.handoffs
  | .todos => s'.todos = s.todos
  | .links => s'.links = s.links
  | .requirements => s'.requirements = s.requirements
  | .introductions => s'.introductions = s.introductions
  | .releases => s'.releases = s.releases
  | .audits => s'.audits = s.audits
  | .events => s'.events = s.events
  | .activeTask => s'.activeTask = s.activeTask
  | .counter => s'.nextTaskNumber = s.nextTaskNumber

/-- The parts a recorder may write. -/
def Recorder.parts : Recorder → List Part
  | activateTask .. | clearActiveTask .. => [.events, .activeTask]
  | editTask .. | closeTask .. | linkIntroduction .. => [.tasks, .events]
  | repairTaskRecord .. => [.events]
  | materializePlanTodos .. | addTodo .. | setTodoDone .. => [.tasks, .todos, .events]
  | addQuestion .. | addQuestions .. | answerQuestion .. | answerQuestions ..
  | dismissQuestion .. => [.questions, .events]
  | markPlanningGuidanceViewed .. | logImplementation .. | addImplementationDeviation ..
  | addImplementationArtifact .. | addValidationCheck .. | waiveCriterion .. => [.runs, .events]
  | createIntroduction .. => [.introductions, .releases, .events]
  | addRequirement .. | removeRequirement .. | waiveRequirement .. =>
    [.tasks, .requirements, .events]
  | addFileLink .. | removeFileLink .. | refreshFileBaseline .. => [.tasks, .links, .events]
  | addChange .. | scanChanges .. | addCheck .. | runImplementationCommand ..
  | runPlanningCommand .. | repairPlanningCommandChanges .. =>
    [.tasks, .runs, .changes, .checks, .events]
  | recordCodeReview .. => [.tasks, .reviews, .events]
  | tagRelease .. => [.introductions, .releases, .events]
  | createHandoff .. | claimHandoff .. | closeHandoff .. | cancelHandoff .. =>
    [.locks, .handoffs]

/-- The parts an operation may write. -/
def Op.parts : Op → List Part
  | createTask .. => [.tasks, .events, .counter]
  | createFollowUpTask .. | recordCompletedTask .. =>
    [.tasks, .runs, .changes, .links, .events, .activeTask, .counter]
  | startPlanning .. | revisePlan .. | startImplementation .. | restartImplementation ..
  | resumeImplementation .. | finishImplementation .. | startValidation ..
  | finishValidation .. | cancelTask .. => [.tasks, .runs, .locks, .audits, .events]
  | proposePlan .. | upsertPlan .. | regeneratePlan .. | amendPlan .. =>
    [.tasks, .plans, .runs, .locks, .audits, .events]
  | approvePlan .. | rejectPlan .. => [.tasks, .plans, .todos, .events]
  | uncancelTask .. | unarchiveTask .. => [.tasks, .events]
  | archiveTask .. => [.tasks, .events, .activeTask]
  | breakLock .. => [.locks, .audits, .events]
  | repairOrphanedPlanningRun .. => [.runs, .events]
  | recorder r => r.parts

/-- Only the parts of a list may differ. -/
def SameBut (parts : List Part) : Footprint Ledger where
  Moves s s' := ∀ p, p ∉ parts → s.Same s' p
  refl s p _ := by cases p <;> rfl
  trans s s' s'' h h' p hp := by
    have h₁ := h p hp
    have h₂ := h' p hp
    cases p <;> exact h₂.trans h₁

/-- A part is one of those that may be written. -/
class Among (p : Part) (parts : List Part) : Prop where
  mem : p ∈ parts

instance {p : Part} {parts : List Part} : Among p (p :: parts) := ⟨by simp⟩

instance {p q : Part} {parts : List Part} [h : Among p parts] : Among p (q :: parts) :=
  ⟨by simp [h.mem]⟩

/-- A write of one part. -/
theorem within_part {f : Ledger → Ledger} {parts : List Part} (p : Part) [h : Among p parts]
    (hf : ∀ (s : Ledger) q, q ≠ p → s.Same (f s) q) :
    Within (SameBut parts) (Action.write f : LedgerAction Unit) :=
  within_write fun s q hq => hf s q fun hqp => hq (hqp ▸ h.mem)

variable [Runtime] {parts : List Part} {env : Env}

section Primitives

instance {task : TaskRecord} [Among .tasks parts] : Within (SameBut parts) (saveTask task) :=
  within_part .tasks fun s q hq => by cases q <;> first | rfl | exact absurd rfl hq

instance {plan : PlanRecord} [Among .plans parts] : Within (SameBut parts) (overwritePlan plan) :=
  within_part .plans fun s q hq => by cases q <;> first | rfl | exact absurd rfl hq

instance {question : QuestionRecord} [Among .questions parts] :
    Within (SameBut parts) (saveQuestion question) :=
  within_part .questions fun s q hq => by cases q <;> first | rfl | exact absurd rfl hq

instance {run : TaskRunRecord} [Among .runs parts] : Within (SameBut parts) (saveRun run) :=
  within_part .runs fun s q hq => by cases q <;> first | rfl | exact absurd rfl hq

instance {taskId : String} [Among .locks parts] : Within (SameBut parts) (removeLock taskId) :=
  within_part .locks fun s q hq => by cases q <;> first | rfl | exact absurd rfl hq

instance {change : CodeChangeRecord} [Among .changes parts] :
    Within (SameBut parts) (saveChange change) :=
  within_part .changes fun s q hq => by cases q <;> first | rfl | exact absurd rfl hq

instance {taskId name : String} [Among .changes parts] :
    Within (SameBut parts) (removeChangeFile taskId name) :=
  within_part .changes fun s q hq => by cases q <;> first | rfl | exact absurd rfl hq

instance {check : ImplementationCheckRecord} [Among .checks parts] :
    Within (SameBut parts) (saveCheck check) :=
  within_part .checks fun s q hq => by cases q <;> first | rfl | exact absurd rfl hq

instance {review : CodeReviewRecord} [Among .reviews parts] :
    Within (SameBut parts) (saveCodeReview review) :=
  within_part .reviews fun s q hq => by cases q <;> first | rfl | exact absurd rfl hq

instance {handoff : TaskHandoffRecord} [Among .handoffs parts] :
    Within (SameBut parts) (saveHandoff handoff) :=
  within_part .handoffs fun s q hq => by cases q <;> first | rfl | exact absurd rfl hq

instance {taskId : String} {todos : List TaskTodo} [Among .todos parts] :
    Within (SameBut parts) (saveTodos taskId todos) :=
  within_part .todos fun s q hq => by cases q <;> first | rfl | exact absurd rfl hq

instance {taskId : String} {links : List FileLink} [Among .links parts] :
    Within (SameBut parts) (saveLinks taskId links) :=
  within_part .links fun s q hq => by cases q <;> first | rfl | exact absurd rfl hq

instance {taskId : String} {requirements : List DependencyRequirement} [Among .requirements parts] :
    Within (SameBut parts) (saveRequirements taskId requirements) :=
  within_part .requirements fun s q hq => by cases q <;> first | rfl | exact absurd rfl hq

instance {introduction : IntroductionRecord} [Among .introductions parts] :
    Within (SameBut parts) (saveIntroduction introduction) :=
  within_part .introductions fun s q hq => by cases q <;> first | rfl | exact absurd rfl hq

instance {state : ActiveTaskState} [Among .activeTask parts] :
    Within (SameBut parts) (saveActiveTaskState state) :=
  within_part .activeTask fun s q hq => by cases q <;> first | rfl | exact absurd rfl hq

instance {plan : PlanRecord} [h : Among .plans parts] : Within (SameBut parts) (savePlan plan) where
  moves s := by
    unfold savePlan runOn
    beta_reduce
    split
    · exact (SameBut parts).refl s
    · intro q hq
      cases q <;> first | rfl | exact absurd h.mem hq

instance {lock : TaskLock} [h : Among .locks parts] : Within (SameBut parts) (writeLock lock) where
  moves s := by
    unfold writeLock runOn
    beta_reduce
    split
    · exact (SameBut parts).refl s
    · intro q hq
      cases q <;> first | rfl | exact absurd h.mem hq

instance {release : ReleaseRecord} [h : Among .releases parts] :
    Within (SameBut parts) (saveRelease release) where
  moves s := by
    unfold saveRelease runOn
    beta_reduce
    split
    · exact (SameBut parts).refl s
    · intro q hq
      cases q <;> first | rfl | exact absurd h.mem hq

instance {ids : List String} [h : Among .counter parts] :
    Within (SameBut parts) (allocateTaskIdAndAdvance ids) where
  moves s := by
    unfold allocateTaskIdAndAdvance runOn
    simp only
    split
    · intro q hq
      cases q <;> first | rfl | exact absurd h.mem hq
    · exact (SameBut parts).refl s

instance {taskId event : String} {data : Dict} [Among .events parts] :
    Within (SameBut parts) (appendEvent env taskId event data) :=
  within_part .events fun s q hq => by
    by_cases hlog : env.eventLogging = true
    · rw [if_pos hlog]
      cases q <;> first | rfl | exact absurd rfl hq
    · rw [if_neg hlog]
      cases q <;> rfl

instance {release : ReleaseRecord} [Among .events parts] :
    Within (SameBut parts) (appendReleaseEvent env release) :=
  within_part .events fun s q hq => by
    by_cases hlog : env.eventLogging = true
    · rw [if_pos hlog]
      cases q <;> first | rfl | exact absurd rfl hq
    · rw [if_neg hlog]
      cases q <;> rfl

instance {taskId : String} {lock : TaskLock} [Among .audits parts] :
    Within (SameBut parts) (writeBrokenLockAudit env taskId lock) :=
  within_part .audits fun s q hq => by cases q <;> first | rfl | exact absurd rfl hq

instance [Among .activeTask parts] : Within (SameBut parts) clearActiveTaskState := by
  have : Within (SameBut parts)
      (Action.write (Ledger.putActiveTask none) : LedgerAction Unit) :=
    within_part .activeTask fun s q hq => by cases q <;> first | rfl | exact absurd rfl hq
  unfold clearActiveTaskState
  infer_instance

end Primitives

section Events

variable [Among .events parts]

instance {task : TaskRecord} {lock : TaskLock} :
    Within (SameBut parts) (lockTaken env task lock) := by
  unfold lockTaken
  infer_instance

instance {task : TaskRecord} {run : TaskRunRecord} {existing : TaskLock} :
    Within (SameBut parts) (keepLock env task run existing) := by
  unfold keepLock
  infer_instance

instance {previous : Option ActiveTaskState} {task : TaskRecord} {force : Bool}
    {reason : Option String} :
    Within (SameBut parts) (notePrevious env previous task force reason) := by
  unfold notePrevious
  split <;> infer_instance

instance {task : TaskRecord} {w : RecordedWork} {recordedBy : ActorRef} :
    Within (SameBut parts) (noteRecordedTask env task w recordedBy) := by
  unfold noteRecordedTask
  infer_instance

instance {taskRef reason : String} :
    Within (SameBut parts) (repairTaskRecord env taskRef reason) := by
  unfold repairTaskRecord
  infer_instance

end Events

section Locks

variable [Among .locks parts] [Among .audits parts] [Among .events parts]

instance {task : TaskRecord} {run : TaskRunRecord} {runType : RunType} {reason : String}
    {actor : ActorRef} {harness : Option NamedHarness} :
    Within (SameBut parts) (createLock env task run runType reason actor harness) := by
  unfold createLock
  infer_instance

instance {task : TaskRecord} {run : TaskRunRecord} {runType : RunType} {reason : String}
    {actor : ActorRef} {harness : Option NamedHarness} :
    Within (SameBut parts) (acquireLock env task run runType reason actor harness) := by
  unfold acquireLock
  refine .after fun existing => ?_
  split <;> infer_instance

instance {task : TaskRecord} {runType : RunType} {runId event : String} {extraData : Dict} :
    Within (SameBut parts) (deleteLock env task runType runId event extraData) := by
  unfold deleteLock
  infer_instance

instance {taskId : String} {lock : TaskLock} {reason : String} :
    Within (SameBut parts) (releaseExpiredLock env taskId lock reason) := by
  unfold releaseExpiredLock
  infer_instance

instance {task : TaskRecord} {finish : RunToFinish} {version : Nat} :
    Within (SameBut parts) (releasePlanningRun env task finish version) := by
  unfold releasePlanningRun
  split <;> infer_instance

instance {task : TaskRecord} {run : TaskRunRecord} {repairExpiredLock : Bool} {reason : String}
    {lock : TaskLock} :
    Within (SameBut parts) (repairResumeLock env task run repairExpiredLock reason lock) := by
  unfold repairResumeLock
  infer_instance

instance {task : TaskRecord} {run : TaskRunRecord} {repairExpiredLock : Bool} {reason : String} :
    Within (SameBut parts) (clearResumeLock env task run repairExpiredLock reason) := by
  unfold clearResumeLock
  refine .after fun existing => ?_
  split <;> infer_instance

instance {task : TaskRecord} {reason : String} {lock : TaskLock} :
    Within (SameBut parts) (writeBrokenLock env task reason lock) := by
  unfold writeBrokenLock
  infer_instance

instance {taskRef reason : String} : Within (SameBut parts) (breakLock env taskRef reason) := by
  unfold breakLock
  refine .after fun task => .after fun lock => ?_
  split <;> infer_instance

end Locks

section Runs

variable [Among .runs parts] [Among .events parts]

instance {finish : RunToFinish} {planBody : String} :
    Within (SameBut parts) (finishPlanningRun env finish planBody) := by
  unfold finishPlanningRun
  split <;> infer_instance

instance {task : TaskRecord} {run : TaskRunRecord} :
    Within (SameBut parts) (noteGuidance env task run) := by
  unfold noteGuidance
  infer_instance

instance {taskRef : String} :
    Within (SameBut parts) (markPlanningGuidanceViewed env taskRef) := by
  unfold markPlanningGuidanceViewed
  refine .after fun task => .check fun _ => .after fun run => ?_
  split <;> infer_instance

instance {taskRef action : String} {change : TaskRunRecord → TaskRunRecord} {data : Dict} :
    Within (SameBut parts) (recordOnRun env taskRef action change data) := by
  unfold recordOnRun
  infer_instance

instance {taskRef message : String} :
    Within (SameBut parts) (logImplementation env taskRef message) := by
  unfold logImplementation
  infer_instance

instance {taskRef message : String} :
    Within (SameBut parts) (addImplementationDeviation env taskRef message) := by
  unfold addImplementationDeviation
  infer_instance

instance {taskRef path summary : String} :
    Within (SameBut parts) (addImplementationArtifact env taskRef path summary) := by
  unfold addImplementationArtifact
  infer_instance

instance {taskRef : String} {request : CheckRequest} :
    Within (SameBut parts) (addValidationCheck env taskRef request) := by
  unfold addValidationCheck
  infer_instance

instance {taskRef criterionRef reason : String} {actorName : Option String} :
    Within (SameBut parts) (waiveCriterion env taskRef criterionRef reason actorName) := by
  unfold waiveCriterion
  infer_instance

instance {run : Option TaskRunRecord} : Within (SameBut parts) (saveRun? run) := by
  unfold saveRun?
  split <;> infer_instance

instance {taskRef : String} {runId : Option String} {reason : String} :
    Within (SameBut parts) (repairOrphanedPlanningRun env taskRef runId reason) := by
  unfold repairOrphanedPlanningRun
  infer_instance

end Runs

section Questions

variable [Among .questions parts] [Among .events parts]

instance {task : TaskRecord} {question : QuestionRecord} :
    Within (SameBut parts) (recordQuestion env task question) := by
  unfold recordQuestion
  infer_instance

instance {taskRef text : String} {requiredForPlan : Bool} {actor : Option ActorRef}
    {harness : Option NamedHarness} :
    Within (SameBut parts) (addQuestion env taskRef text requiredForPlan actor harness) := by
  unfold addQuestion
  infer_instance

instance {taskRef : String} {questions : List (String × Bool)} {actor : Option ActorRef}
    {harness : Option NamedHarness} {allowDuplicates : Bool} :
    Within (SameBut parts) (addQuestions env taskRef questions actor harness allowDuplicates) := by
  unfold addQuestions
  infer_instance

instance {taskRef questionId text : String} {actor : Option ActorRef} {answerSource : String} :
    Within (SameBut parts) (answerQuestion env taskRef questionId text actor answerSource) := by
  unfold answerQuestion
  infer_instance

instance {taskId : String} {actor : Option ActorRef} {answerSource : String}
    {answers : List (String × String)} :
    Within (SameBut parts) (answerEach env taskId actor answerSource answers) := by
  induction answers with
  | nil => exact within_pure
  | cons answer rest ih =>
    unfold answerEach
    infer_instance

instance {taskRef : String} {answers : List (String × String)} {actor : Option ActorRef}
    {answerSource : String} :
    Within (SameBut parts) (answerQuestions env taskRef answers actor answerSource) := by
  unfold answerQuestions
  infer_instance

instance {taskRef questionId : String} :
    Within (SameBut parts) (dismissQuestion env taskRef questionId) := by
  unfold dismissQuestion
  infer_instance

end Questions

section Tasks

variable [Among .tasks parts] [Among .events parts]

instance {ref : String} {request : EditRequest} :
    Within (SameBut parts) (editTask env ref request) := by
  unfold editTask
  infer_instance

instance {ref : String} {targetStage : Option String} {reason : String} {actor : Option ActorRef}
    {allowAgentUncancel : Bool} :
    Within (SameBut parts) (uncancelTask env ref targetStage reason actor allowAgentUncancel) := by
  unfold uncancelTask
  infer_instance

instance {task : TaskRecord} {note : Option String} :
    Within (SameBut parts) (writeClosure env task note) := by
  unfold writeClosure
  infer_instance

instance {ref : String} {note : Option String} :
    Within (SameBut parts) (closeTask env ref note) := by
  unfold closeTask
  infer_instance

instance {taskRef introductionRef : String} :
    Within (SameBut parts) (linkIntroduction env taskRef introductionRef) := by
  unfold linkIntroduction
  infer_instance

instance {task : TaskRecord} {reason : String} {slug : Option String} {reopenForWork : Bool} :
    Within (SameBut parts) (writeUnarchive env task reason slug reopenForWork) := by
  unfold writeUnarchive
  infer_instance

instance {ref reason : String} {slug : Option String} {reopenForWork : Bool} :
    Within (SameBut parts) (unarchiveTask env ref reason slug reopenForWork) := by
  unfold unarchiveTask
  infer_instance

end Tasks

section Creation

variable [Among .tasks parts] [Among .events parts] [Among .counter parts]

instance {slug : Option String} {title : String} :
    Within (SameBut parts) (newTaskIdentity slug title) := by
  unfold newTaskIdentity
  infer_instance

instance {request : TaskRequest} : Within (SameBut parts) (createTask env request) := by
  unfold createTask
  infer_instance

end Creation

section Lifecycle

variable [Among .tasks parts] [Among .runs parts] [Among .locks parts] [Among .audits parts]
  [Among .events parts]

instance {task : TaskRecord} {runType : RunType} {actor : Option ActorRef}
    {harness : Option NamedHarness} :
    Within (SameBut parts) (startRun env task runType actor harness) := by
  unfold startRun
  infer_instance

instance {task : TaskRecord} {runType : RunType} {runId : String} {targetStage : TaskStatusStage}
    {event : String} {extraData : Dict} :
    Within (SameBut parts) (releaseLock env task runType runId targetStage event extraData) := by
  unfold releaseLock
  infer_instance

instance {taskRef : String} {actor : Option ActorRef} {harness : Option NamedHarness} :
    Within (SameBut parts) (startPlanning env taskRef actor harness) := by
  unfold startPlanning
  infer_instance

instance {taskRef : String} : Within (SameBut parts) (revisePlan env taskRef) := by
  unfold revisePlan
  infer_instance

instance {task : TaskRecord} : Within (SameBut parts) (autoRevise env task) := by
  unfold autoRevise
  infer_instance

instance {taskRef : String} {actor : Option ActorRef} {harness : Option NamedHarness} :
    Within (SameBut parts) (startImplementation env taskRef actor harness) := by
  unfold startImplementation
  infer_instance

instance {taskRef summary : String} {actor : Option ActorRef} {harness : Option NamedHarness} :
    Within (SameBut parts) (restartImplementation env taskRef summary actor harness) := by
  unfold restartImplementation
  infer_instance

instance {taskRef : String} {runId : Option String} {reason : String} {actor : Option ActorRef}
    {harness : Option NamedHarness} {repairExpiredLock : Bool} :
    Within (SameBut parts)
      (resumeImplementation env taskRef runId reason actor harness repairExpiredLock) := by
  unfold resumeImplementation
  infer_instance

instance {taskRef summary : String} :
    Within (SameBut parts) (finishImplementation env taskRef summary) := by
  unfold finishImplementation
  infer_instance

instance {taskRef : String} {actor : Option ActorRef} {harness : Option NamedHarness} :
    Within (SameBut parts) (startValidation env taskRef actor harness) := by
  unfold startValidation
  infer_instance

instance {taskRef result summary : String} {recommendation : Option String} :
    Within (SameBut parts) (finishValidation env taskRef result summary recommendation) := by
  unfold finishValidation
  infer_instance

instance {task : TaskRecord} {ref : String} {reason : Option String} {lock : Option TaskLock} :
    Within (SameBut parts) (releaseForCancel env task ref reason lock) := by
  unfold releaseForCancel
  split <;> infer_instance

instance {ref : String} {reason : Option String} :
    Within (SameBut parts) (cancelTask env ref reason) := by
  unfold cancelTask
  infer_instance

end Lifecycle

section Todos

variable [Among .tasks parts] [Among .todos parts] [Among .events parts]

instance {task : TaskRecord} {sourcePlan : String} {todos : List TaskTodo} :
    Within (SameBut parts) (writePlanTodos env task sourcePlan todos) := by
  unfold writePlanTodos
  infer_instance

instance {taskRef : String} {version : Nat} {dryRun : Bool} :
    Within (SameBut parts) (materializePlanTodos env taskRef version dryRun) := by
  unfold materializePlanTodos
  infer_instance

instance {updated : TaskRecord} {version : Nat} :
    Within (SameBut parts) (materializeApproved env updated version) := by
  unfold materializeApproved
  infer_instance

instance {task : TaskRecord} {todos : List TaskTodo} :
    Within (SameBut parts) (replaceTodos env task todos) := by
  unfold replaceTodos
  infer_instance

instance {taskRef text : String} {source : Option String} {mandatory : Bool} :
    Within (SameBut parts) (addTodo env taskRef text source mandatory) := by
  unfold addTodo
  infer_instance

instance {taskRef todoId : String} {request : TodoDoneRequest} :
    Within (SameBut parts) (setTodoDone env taskRef todoId request) := by
  unfold setTodoDone
  infer_instance

end Todos

section Links

variable [Among .tasks parts] [Among .links parts] [Among .events parts]

instance {task : TaskRecord} {links : List FileLink} :
    Within (SameBut parts) (replaceLinks env task links) := by
  unfold replaceLinks
  infer_instance

instance {taskRef : String} {request : LinkRequest} :
    Within (SameBut parts) (addFileLink env taskRef request) := by
  unfold addFileLink
  infer_instance

instance {taskRef path : String} : Within (SameBut parts) (removeFileLink env taskRef path) := by
  unfold removeFileLink
  infer_instance

instance {taskRef path reason : String} {target : FileSnapshot} :
    Within (SameBut parts) (refreshFileBaseline env taskRef path reason target) := by
  unfold refreshFileBaseline
  refine .check fun _ => .after fun found => .after fun task => .check fun _ => ?_
  split <;> infer_instance

end Links

section Requirements

variable [Among .tasks parts] [Among .requirements parts] [Among .events parts]

instance {task : TaskRecord} {ids : List String} :
    Within (SameBut parts) (replaceRequirements env task ids) := by
  unfold replaceRequirements
  infer_instance

instance {taskRef requiredTaskRef : String} :
    Within (SameBut parts) (addRequirement env taskRef requiredTaskRef) := by
  unfold addRequirement
  infer_instance

instance {taskRef requiredTaskRef : String} :
    Within (SameBut parts) (removeRequirement env taskRef requiredTaskRef) := by
  unfold removeRequirement
  infer_instance

instance {taskRef requiredTaskRef actorType reason : String} :
    Within (SameBut parts) (waiveRequirement env taskRef requiredTaskRef actorType reason) := by
  unfold waiveRequirement
  infer_instance

end Requirements

section Approvals

variable [Among .tasks parts] [Among .plans parts] [Among .todos parts] [Among .events parts]

instance {taskRef : String} {version : Nat} {request : ApprovalRequest} :
    Within (SameBut parts) (approvePlan env taskRef version request) := by
  unfold approvePlan
  infer_instance

instance {taskRef : String} {reason : Option String} :
    Within (SameBut parts) (rejectPlan env taskRef reason) := by
  unfold rejectPlan
  infer_instance

end Approvals

section Plans

variable [Among .tasks parts] [Among .plans parts] [Among .runs parts] [Among .locks parts]
  [Among .audits parts] [Among .events parts]

instance {previous : Option PlanRecord} :
    Within (SameBut parts) (supersedePrevious previous) := by
  unfold supersedePrevious
  split <;> infer_instance

instance {taskRef body : String} {criteria : List String} {allowOpenQuestions : Bool} :
    Within (SameBut parts) (regeneratePlanFromAnswers env taskRef body criteria allowOpenQuestions) := by
  unfold regeneratePlanFromAnswers
  infer_instance

instance {taskRef body : String} {criteria : List String} :
    Within (SameBut parts) (proposePlan env taskRef body criteria) := by
  unfold proposePlan
  infer_instance

instance {task : TaskRecord} {body : String} {criteria : List String} {autoReviseFlag : Bool} :
    Within (SameBut parts) (upsertProposal env task body criteria autoReviseFlag) := by
  unfold upsertProposal
  infer_instance

instance {task : TaskRecord} {body : String} {criteria : List String} {allowOpenQuestions : Bool} :
    Within (SameBut parts) (upsertRegeneration env task body criteria allowOpenQuestions) := by
  unfold upsertRegeneration
  infer_instance

instance {taskRef body : String} {criteria : List String}
    {fromAnswers allowOpenQuestions autoReviseFlag : Bool} :
    Within (SameBut parts)
      (upsertPlan env taskRef body criteria fromAnswers allowOpenQuestions autoReviseFlag) := by
  unfold upsertPlan
  refine .after fun branch => ?_
  infer_instance

instance {taskRef : String} {dropCriteria dropTodos removeFiles : List String} {reason : String} :
    Within (SameBut parts) (amendPlan env taskRef dropCriteria dropTodos removeFiles reason) := by
  unfold amendPlan
  infer_instance

end Plans

section Changes

variable [Among .tasks parts] [Among .runs parts] [Among .changes parts] [Among .checks parts]
  [Among .events parts]

instance {taskRef : String} {request : ChangeRequest} :
    Within (SameBut parts) (addChange env taskRef request) := by
  unfold addChange
  infer_instance

instance {taskRef summary : String} {fromGit : Bool} {git : Except Raised GitChangeState} :
    Within (SameBut parts) (scanChanges env taskRef summary fromGit git) := by
  unfold scanChanges
  infer_instance

instance {taskRef : String} {request : ImplementationCheckRequest} :
    Within (SameBut parts) (addCheck env taskRef request) := by
  unfold addCheck
  infer_instance

instance {task : TaskRecord} {run : TaskRunRecord} {c : CommandRun} :
    Within (SameBut parts) (recordPlanningCommand env task run c) := by
  unfold recordPlanningCommand
  infer_instance

instance {taskRef : String} {c : CommandRun} :
    Within (SameBut parts) (runPlanningCommand env taskRef c) := by
  unfold runPlanningCommand
  infer_instance

instance {taskRef : String} {c : CommandRun} :
    Within (SameBut parts) (recordImplementationCommand env taskRef c) := by
  unfold recordImplementationCommand
  infer_instance

instance {taskRef : String} {c : CommandRun} :
    Within (SameBut parts) (runImplementationCommand env taskRef c) := by
  unfold runImplementationCommand
  infer_instance

instance {task : TaskRecord} {reason : String} {change : CodeChangeRecord} {run : TaskRunRecord} :
    Within (SameBut parts) (moveCommandChange env task reason change run) := by
  unfold moveCommandChange
  infer_instance

instance {task : TaskRecord} {reason : String} {dryRun : Bool}
    {changes : List CodeChangeRecord} :
    Within (SameBut parts) (repairCommandChanges env task reason dryRun changes) := by
  induction changes with
  | nil => exact within_pure
  | cons change rest ih =>
    unfold repairCommandChanges
    refine .after fun planningRun => ?_
    split <;> infer_instance

instance {taskRef reason : String} {dryRun : Bool} :
    Within (SameBut parts) (repairPlanningCommandChanges env taskRef reason dryRun) := by
  unfold repairPlanningCommandChanges
  infer_instance

end Changes

section Reviews

variable [Among .tasks parts] [Among .reviews parts] [Among .events parts]

instance {taskRef : String} {request : ReviewRequest} :
    Within (SameBut parts) (recordCodeReview env taskRef request) := by
  unfold recordCodeReview
  infer_instance

end Reviews

section Handoffs

variable [Among .locks parts] [Among .handoffs parts]

instance {taskRef : String} {request : HandoffRequest} :
    Within (SameBut parts) (createHandoff env taskRef request) := by
  unfold createHandoff
  infer_instance

instance {lock : TaskLock} : Within (SameBut parts) (saveLock lock) :=
  within_part .locks fun s q hq => by cases q <;> first | rfl | exact absurd rfl hq

instance {policy : LockPolicy} {actor : ActorRef} {harness : NamedHarness}
    {lock : Option TaskLock} :
    Within (SameBut parts) (handOverLock env policy actor harness lock) := by
  unfold handOverLock
  split <;> infer_instance

instance {taskId handoffId : String} {actor : Option ActorRef} {harness : Option NamedHarness}
    {newRunId : Option String} :
    Within (SameBut parts) (claimHandoff env taskId handoffId actor harness newRunId) := by
  unfold claimHandoff
  infer_instance

instance {taskId handoffId verb : String} {from_ : List HandoffStatus} {status : HandoffStatus}
    {reason : Option String} :
    Within (SameBut parts) (endHandoff taskId handoffId verb from_ status reason) := by
  unfold endHandoff
  infer_instance

instance {taskId handoffId : String} {reason : Option String} :
    Within (SameBut parts) (closeHandoff taskId handoffId reason) := by
  unfold closeHandoff
  infer_instance

instance {taskId handoffId : String} {reason : Option String} :
    Within (SameBut parts) (cancelHandoff taskId handoffId reason) := by
  unfold cancelHandoff
  infer_instance

end Handoffs

section Pointer

variable [Among .events parts] [Among .activeTask parts]

instance {task : TaskRecord} {previous : Option ActiveTaskState} {reason : Option String}
    {actorType : String} {force : Bool} :
    Within (SameBut parts) (switchActiveTask env task previous reason actorType force) := by
  unfold switchActiveTask
  infer_instance

instance {ref : String} {reason : Option String} {actorType : String} {force : Bool} :
    Within (SameBut parts) (activateTask env ref reason actorType force) := by
  unfold activateTask
  refine .after fun task => .check fun _ => .after fun previous => ?_
  split <;> infer_instance

instance {reason : String} {actorType : String} {force : Bool} :
    Within (SameBut parts) (clearActiveTask env reason actorType force) := by
  unfold clearActiveTask
  refine .after fun loaded => ?_
  split <;> infer_instance

instance {task : TaskRecord} : Within (SameBut parts) (clearArchivedPointer task) := by
  unfold clearArchivedPointer
  infer_instance

instance {child : TaskRecord} {request : FollowUpRequest} :
    Within (SameBut parts) (activateFollowUp env child request) := by
  unfold activateFollowUp
  infer_instance

end Pointer

section Archive

variable [Among .tasks parts] [Among .events parts] [Among .activeTask parts]

instance {task : TaskRecord} {reason : String} {force : Bool} :
    Within (SameBut parts) (writeArchive env task reason force) := by
  unfold writeArchive
  infer_instance

instance {ref reason : String} {force : Bool} :
    Within (SameBut parts) (archiveTask env ref reason force) := by
  unfold archiveTask
  infer_instance

end Archive

section Records

variable [Among .tasks parts] [Among .runs parts] [Among .changes parts] [Among .links parts]
  [Among .events parts] [Among .activeTask parts] [Among .counter parts]

instance {parentRef : String} {request : FollowUpRequest} :
    Within (SameBut parts) (createFollowUpTask env parentRef request) := by
  unfold createFollowUpTask
  refine .after fun found => .after fun parent => .check fun _ => .check fun _ => ?_
  infer_instance

instance {task : TaskRecord} {request : RecordRequest} :
    Within (SameBut parts) (recordWork env task request) := by
  unfold recordWork
  infer_instance

instance {request : RecordRequest} :
    Within (SameBut parts) (recordCompletedTask env request) := by
  unfold recordCompletedTask
  infer_instance

end Records

section Ledger

variable [Among .introductions parts] [Among .releases parts] [Among .events parts]

instance {title body : String} {slug : Option String} {labels : List String} :
    Within (SameBut parts) (createIntroduction env title body slug labels) := by
  unfold createIntroduction
  infer_instance

instance {version atTask : String} {note : Option String} {previousVersion : Option String}
    {actor : Option ActorRef} :
    Within (SameBut parts) (tagRelease env version atTask note previousVersion actor) := by
  unfold tagRelease
  infer_instance

end Ledger

-- ════════════════════════════════════════════════════════════════════════
-- Operations
-- ════════════════════════════════════════════════════════════════════════

omit [Runtime] in
/-- Dropping the result leaves what was written. -/
theorem ledger_dropResult {α : Type} (m : LedgerAction α) (s : Ledger) :
    ((dropResult m).runOn s).2 = (m.runOn s).2 := by
  have hsat : (dropResult m).Sat s fun _ s' => s' = (m.runOn s).2 :=
    Sat.bind (P := fun _ s' => s' = (m.runOn s).2) rfl (fun _ _ h => h) fun _ _ h => Sat.pure h
  exact hsat

omit [Runtime] in
/-- A dropped result was returned. -/
theorem outcome_dropResult {α : Type} (m : LedgerAction α) (s : Ledger) :
    ((dropResult m).runOn s).1 = .ok () ↔ ∃ a, (m.runOn s).1 = .ok a := by
  have hsat : (dropResult m).Sat s fun r _ => r = .ok () ↔ ∃ a, (m.runOn s).1 = .ok a := by
    refine Sat.bind (P := fun r _ => (m.runOn s).1 = r) rfl (fun e s' h => ?_) fun a s' h => ?_
    · simp [h]
    · exact Sat.pure (by simp [h])
  exact hsat

instance {α : Type} {F : Footprint Ledger} {m : LedgerAction α} [h : Within F m] :
    Within F (dropResult m) where
  moves s := by
    rw [ledger_dropResult]
    exact h.moves s

theorem Recorder.within (r : Recorder) : Within (SameBut r.parts) (r.run env) := by
  cases r <;> simp only [Recorder.parts, Recorder.run] <;> infer_instance

theorem Op.within (op : Op) : Within (SameBut op.parts) (op.run env) := by
  cases op with
  | recorder r => exact r.within
  | _ =>
    simp only [Op.parts, Op.run]
    infer_instance

/-- A step leaves every part alone that its operation does not write. -/
theorem Step.same (step : Step) (s : Ledger) {p : Part} (hp : p ∉ step.op.parts) :
    s.Same (step.next s) p :=
  step.op.within.moves s p hp

end Taskledger
