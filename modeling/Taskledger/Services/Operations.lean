import Taskledger.Services.PlanningFlow
import Taskledger.Services.Questions
import Taskledger.Services.ValidationFlow
import Taskledger.Services.TaskLifecycle
import Taskledger.Services.TaskArchive
import Taskledger.Services.TaskRepair
import Taskledger.Services.TaskCollections
import Taskledger.Services.ChangeTracking
import Taskledger.Services.CodeReview
import Taskledger.Services.Releases
import Taskledger.Services.HandoffLifecycle

/-!
# Operations

The operations of the services as data. A run of the program is a sequence of
them, each in its own environment; what an operation returns is dropped, and an
operation that raises leaves what it wrote before.

A managed command is one step, with nothing between what it reads and what it writes. Its
shell command may itself call the program: what such calls do to the ledger in between is
not in these runs, and is the subject of `Taskledger.Properties.Commands`.
-/

namespace Taskledger

open Library

/-- The operations that record, edit or point, and leave the lifecycle of tasks
alone. -/
inductive Recorder where
  | activateTask (ref : String) (reason : Option String) (actorType : String) (force : Bool)
  | clearActiveTask (reason actorType : String) (force : Bool)
  | editTask (ref : String) (request : EditRequest)
  | closeTask (ref : String) (note : Option String)
  | repairTaskRecord (ref reason : String)
  | repairPlanningCommandChanges (ref reason : String) (dryRun : Bool)
  | materializePlanTodos (ref : String) (version : Nat) (dryRun : Bool)
  | markPlanningGuidanceViewed (ref : String)
  | addQuestion (ref text : String) (required : Bool) (actor : Option ActorRef)
      (harness : Option NamedHarness)
  | addQuestions (ref : String) (questions : List (String × Bool)) (actor : Option ActorRef)
      (harness : Option NamedHarness) (allowDuplicates : Bool)
  | answerQuestion (ref questionId text : String) (actor : Option ActorRef) (source : String)
  | answerQuestions (ref : String) (answers : List (String × String)) (actor : Option ActorRef)
      (source : String)
  | dismissQuestion (ref questionId : String)
  | logImplementation (ref message : String)
  | addImplementationDeviation (ref message : String)
  | addImplementationArtifact (ref path summary : String)
  | addValidationCheck (ref : String) (request : CheckRequest)
  | waiveCriterion (ref criterionRef reason : String) (actorName : Option String)
  | createIntroduction (title body : String) (slug : Option String) (labels : List String)
  | linkIntroduction (ref introductionRef : String)
  | addRequirement (ref requiredRef : String)
  | removeRequirement (ref requiredRef : String)
  | waiveRequirement (ref requiredRef actorType reason : String)
  | addFileLink (ref : String) (request : LinkRequest)
  | removeFileLink (ref path : String)
  | refreshFileBaseline (ref path reason : String) (target : FileSnapshot)
  | addTodo (ref text : String) (source : Option String) (mandatory : Bool)
  | setTodoDone (ref todoId : String) (request : TodoDoneRequest)
  | addChange (ref : String) (request : ChangeRequest)
  | scanChanges (ref summary : String) (fromGit : Bool) (git : Except Raised GitChangeState)
  | addCheck (ref : String) (request : ImplementationCheckRequest)
  | runImplementationCommand (ref : String) (command : CommandRun)
  | runPlanningCommand (ref : String) (command : CommandRun)
  | recordCodeReview (ref : String) (request : ReviewRequest)
  | tagRelease (version atTask : String) (note previousVersion : Option String)
      (actor : Option ActorRef)
  | createHandoff (ref : String) (request : HandoffRequest)
  | claimHandoff (taskId handoffId : String) (actor : Option ActorRef)
      (harness : Option NamedHarness) (newRunId : Option String)
  | closeHandoff (taskId handoffId : String) (reason : Option String)
  | cancelHandoff (taskId handoffId : String) (reason : Option String)

/-- The operations of the services. -/
inductive Op where
  | createTask (request : TaskRequest)
  | createFollowUpTask (parentRef : String) (request : FollowUpRequest)
  | recordCompletedTask (request : RecordRequest)
  | startPlanning (ref : String) (actor : Option ActorRef) (harness : Option NamedHarness)
  | revisePlan (ref : String)
  | proposePlan (ref body : String) (criteria : List String)
  | upsertPlan (ref body : String) (criteria : List String)
      (fromAnswers allowOpenQuestions autoRevise : Bool)
  | regeneratePlan (ref body : String) (criteria : List String) (allowOpenQuestions : Bool)
  | amendPlan (ref : String) (dropCriteria dropTodos removeFiles : List String) (reason : String)
  | approvePlan (ref : String) (version : Nat) (request : ApprovalRequest)
  | rejectPlan (ref : String) (reason : Option String)
  | startImplementation (ref : String) (actor : Option ActorRef) (harness : Option NamedHarness)
  | restartImplementation (ref summary : String) (actor : Option ActorRef)
      (harness : Option NamedHarness)
  | resumeImplementation (ref : String) (runId : Option String) (reason : String)
      (actor : Option ActorRef) (harness : Option NamedHarness) (repairExpiredLock : Bool)
  | finishImplementation (ref summary : String)
  | startValidation (ref : String) (actor : Option ActorRef) (harness : Option NamedHarness)
  | finishValidation (ref result summary : String) (recommendation : Option String)
  | cancelTask (ref : String) (reason : Option String)
  | uncancelTask (ref : String) (target : Option String) (reason : String)
      (actor : Option ActorRef) (allowAgent : Bool)
  | archiveTask (ref reason : String) (force : Bool)
  | unarchiveTask (ref reason : String) (slug : Option String) (reopenForWork : Bool)
  | breakLock (ref reason : String)
  | repairOrphanedPlanningRun (ref : String) (runId : Option String) (reason : String)
  | recorder (r : Recorder)

/-- An action with its result dropped. -/
def dropResult {α : Type} (m : LedgerAction α) : LedgerAction Unit := m >>= fun _ => pure ()

variable [Runtime]

namespace Recorder

/-- The action of a recorder. -/
def run (env : Env) : Recorder → LedgerAction Unit
  | activateTask ref reason actorType force =>
    dropResult (Taskledger.activateTask env ref reason actorType force)
  | clearActiveTask reason actorType force =>
    dropResult (Taskledger.clearActiveTask env reason actorType force)
  | editTask ref request => dropResult (Taskledger.editTask env ref request)
  | closeTask ref note => dropResult (Taskledger.closeTask env ref note)
  | repairTaskRecord ref reason => dropResult (Taskledger.repairTaskRecord env ref reason)
  | repairPlanningCommandChanges ref reason dryRun =>
    dropResult (Taskledger.repairPlanningCommandChanges env ref reason dryRun)
  | materializePlanTodos ref version dryRun =>
    dropResult (Taskledger.materializePlanTodos env ref version dryRun)
  | markPlanningGuidanceViewed ref =>
    dropResult (Taskledger.markPlanningGuidanceViewed env ref)
  | addQuestion ref text required actor harness =>
    dropResult (Taskledger.addQuestion env ref text required actor harness)
  | addQuestions ref questions actor harness allowDuplicates =>
    dropResult (Taskledger.addQuestions env ref questions actor harness allowDuplicates)
  | answerQuestion ref questionId text actor source =>
    dropResult (Taskledger.answerQuestion env ref questionId text actor source)
  | answerQuestions ref answers actor source =>
    dropResult (Taskledger.answerQuestions env ref answers actor source)
  | dismissQuestion ref questionId =>
    dropResult (Taskledger.dismissQuestion env ref questionId)
  | logImplementation ref message => dropResult (Taskledger.logImplementation env ref message)
  | addImplementationDeviation ref message =>
    dropResult (Taskledger.addImplementationDeviation env ref message)
  | addImplementationArtifact ref path summary =>
    dropResult (Taskledger.addImplementationArtifact env ref path summary)
  | addValidationCheck ref request =>
    dropResult (Taskledger.addValidationCheck env ref request)
  | waiveCriterion ref criterionRef reason actorName =>
    dropResult (Taskledger.waiveCriterion env ref criterionRef reason actorName)
  | createIntroduction title body slug labels =>
    dropResult (Taskledger.createIntroduction env title body slug labels)
  | linkIntroduction ref introductionRef =>
    dropResult (Taskledger.linkIntroduction env ref introductionRef)
  | addRequirement ref requiredRef =>
    dropResult (Taskledger.addRequirement env ref requiredRef)
  | removeRequirement ref requiredRef =>
    dropResult (Taskledger.removeRequirement env ref requiredRef)
  | waiveRequirement ref requiredRef actorType reason =>
    dropResult (Taskledger.waiveRequirement env ref requiredRef actorType reason)
  | addFileLink ref request => dropResult (Taskledger.addFileLink env ref request)
  | removeFileLink ref path => dropResult (Taskledger.removeFileLink env ref path)
  | refreshFileBaseline ref path reason target =>
    dropResult (Taskledger.refreshFileBaseline env ref path reason target)
  | addTodo ref text source mandatory =>
    dropResult (Taskledger.addTodo env ref text source mandatory)
  | setTodoDone ref todoId request => dropResult (Taskledger.setTodoDone env ref todoId request)
  | addChange ref request => dropResult (Taskledger.addChange env ref request)
  | scanChanges ref summary fromGit git =>
    dropResult (Taskledger.scanChanges env ref summary fromGit git)
  | addCheck ref request => dropResult (Taskledger.addCheck env ref request)
  | runImplementationCommand ref command =>
    dropResult (Taskledger.runImplementationCommand env ref command)
  | runPlanningCommand ref command =>
    dropResult (Taskledger.runPlanningCommand env ref command)
  | recordCodeReview ref request => dropResult (Taskledger.recordCodeReview env ref request)
  | tagRelease version atTask note previousVersion actor =>
    dropResult (Taskledger.tagRelease env version atTask note previousVersion actor)
  | createHandoff ref request => dropResult (Taskledger.createHandoff env ref request)
  | claimHandoff taskId handoffId actor harness newRunId =>
    dropResult (Taskledger.claimHandoff env taskId handoffId actor harness newRunId)
  | closeHandoff taskId handoffId reason =>
    dropResult (Taskledger.closeHandoff taskId handoffId reason)
  | cancelHandoff taskId handoffId reason =>
    dropResult (Taskledger.cancelHandoff taskId handoffId reason)

end Recorder

namespace Op

/-- The action of an operation. -/
def run (env : Env) : Op → LedgerAction Unit
  | createTask request => dropResult (Taskledger.createTask env request)
  | createFollowUpTask parentRef request =>
    dropResult (Taskledger.createFollowUpTask env parentRef request)
  | recordCompletedTask request => dropResult (Taskledger.recordCompletedTask env request)
  | startPlanning ref actor harness =>
    dropResult (Taskledger.startPlanning env ref actor harness)
  | revisePlan ref => dropResult (Taskledger.revisePlan env ref)
  | proposePlan ref body criteria => dropResult (Taskledger.proposePlan env ref body criteria)
  | upsertPlan ref body criteria fromAnswers allowOpenQuestions autoRevise =>
    dropResult
      (Taskledger.upsertPlan env ref body criteria fromAnswers allowOpenQuestions autoRevise)
  | regeneratePlan ref body criteria allowOpenQuestions =>
    dropResult (regeneratePlanFromAnswers env ref body criteria allowOpenQuestions)
  | amendPlan ref dropCriteria dropTodos removeFiles reason =>
    dropResult (Taskledger.amendPlan env ref dropCriteria dropTodos removeFiles reason)
  | approvePlan ref version request =>
    dropResult (Taskledger.approvePlan env ref version request)
  | rejectPlan ref reason => dropResult (Taskledger.rejectPlan env ref reason)
  | startImplementation ref actor harness =>
    dropResult (Taskledger.startImplementation env ref actor harness)
  | restartImplementation ref summary actor harness =>
    dropResult (Taskledger.restartImplementation env ref summary actor harness)
  | resumeImplementation ref runId reason actor harness repairExpiredLock =>
    dropResult
      (Taskledger.resumeImplementation env ref runId reason actor harness repairExpiredLock)
  | finishImplementation ref summary =>
    dropResult (Taskledger.finishImplementation env ref summary)
  | startValidation ref actor harness =>
    dropResult (Taskledger.startValidation env ref actor harness)
  | finishValidation ref result summary recommendation =>
    dropResult (Taskledger.finishValidation env ref result summary recommendation)
  | cancelTask ref reason => dropResult (Taskledger.cancelTask env ref reason)
  | uncancelTask ref target reason actor allowAgent =>
    dropResult (Taskledger.uncancelTask env ref target reason actor allowAgent)
  | archiveTask ref reason force => dropResult (Taskledger.archiveTask env ref reason force)
  | unarchiveTask ref reason slug reopenForWork =>
    dropResult (Taskledger.unarchiveTask env ref reason slug reopenForWork)
  | breakLock ref reason => dropResult (Taskledger.breakLock env ref reason)
  | repairOrphanedPlanningRun ref runId reason =>
    dropResult (Taskledger.repairOrphanedPlanningRun env ref runId reason)
  | recorder r => r.run env

end Op

/-- One operation and the environment it runs in. -/
structure Step where
  env : Env
  op : Op

/-- What a step returns or raises. -/
def Step.outcome (step : Step) (s : Ledger) : Except Raised Unit :=
  ((step.op.run step.env).runOn s).1

/-- The ledger after a step, whether it returned or raised. -/
def Step.next (step : Step) (s : Ledger) : Ledger := ((step.op.run step.env).runOn s).2

end Taskledger
