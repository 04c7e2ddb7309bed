import Taskledger.Library.Transition
import Taskledger.Lifecycle.View

/-!
# The lifecycle machine

What the operations do to the view of one task, as labelled moves. A move states
the checks its operation has passed and the view it leaves, all files written.
-/

namespace Taskledger

open Library

namespace View

/-- No lock, and no running run. -/
structure Idle (v : View) : Prop where
  unlocked : v.lock = none
  stopped : ∀ runId r, v.runs runId = some r → r.status ≠ .running

/-- A running run of a type. -/
structure Running (v : View) (runId : String) (r : RunCore) (runType : RunType) : Prop where
  stored : v.runs runId = some r
  ofType : r.runType = runType
  running : r.status = .running

/-- A running run of a type that the lock names. -/
structure UnderLock (v : View) (runId : String) (r : RunCore) (runType : RunType) : Prop extends
    v.Running runId r runType where
  locked : ∃ l, v.lock = some l ∧ l.runType = runType ∧ l.runId = runId

/-- The stored plan of the accepted version is an accepted one. -/
structure Accepted (v : View) (t : TaskCore) (version : Nat) : Prop where
  recorded : t.accepted = some version
  stored : ∃ p, v.plans version = some p ∧ p.listed = true ∧ p.status = .accepted

/-- The listed plan with the largest version. -/
structure Latest (v : View) (version : Nat) (p : PlanCore) : Prop where
  stored : v.plans version = some p
  listed : p.listed = true
  largest : ∀ m q, v.plans m = some q → q.listed = true → m ≤ version

/-- A version after those of all listed plans, and not taken. -/
structure NewVersion (v : View) (version : Nat) : Prop where
  positive : 0 < version
  free : v.plans version = none
  after : ∀ m q, v.plans m = some q → q.listed = true → m < version

/-- A finished implementation run. -/
def Implemented (v : View) (runId : String) (r : RunCore) : Prop :=
  v.runs runId = some r ∧ r.runType = .implementation ∧ r.status = .finished

/-- A failed or blocked validation run. -/
def Invalidated (v : View) (runId : String) (r : RunCore) : Prop :=
  v.runs runId = some r ∧ r.runType = .validation ∧ r.status ∈ [RunStatus.failed, .blocked]

/-- What an uncancelled task must have for its target stage. -/
def Uncancels (v : View) (t : TaskCore) : TaskStatusStage → Prop
  | .draft => True
  | .planReview => ∃ n p, v.Latest n p ∧ p.status = .proposed
  | .approved => ∃ n, v.Accepted t n
  | .implemented => ∃ runId r, t.implementationRun = some runId ∧ v.Implemented runId r
  | .failedValidation =>
    (∃ n, v.Accepted t n) ∧ ∃ runId r, t.validationRun = some runId ∧ v.Invalidated runId r
  | _ => False

/-- A new run under a new lock, and the task that links it. -/
def start (runId : String) (r : RunCore) (t : TaskCore) (v : View) : View :=
  ((v.setRun runId r).setLock (some ⟨r.runType, runId, true⟩)).setTask t

/-- A run whose status changes while the lock goes. -/
def stop (runId : String) (r : RunCore) (status : RunStatus) (t : TaskCore) (v : View) : View :=
  ((v.setRun runId { r with status := status }).setTask t).setLock none

/-- The plans once the previous plan of a regenerated one is superseded, when it was
proposed. -/
def demote (previous : Option (Nat × PlanCore)) (plans : Nat → Option PlanCore) :
    Nat → Option PlanCore :=
  match previous with
  | some (n, p) =>
    if p.status = .proposed then Function.update plans n (some { p with status := .superseded })
    else plans
  | none => plans

/-- The runs once the planning run of a regenerated plan is finished. -/
def finishRun (finish : Option (String × RunCore)) (runs : String → Option RunCore) :
    String → Option RunCore :=
  match finish with
  | some (runId, r) => Function.update runs runId (some { r with status := .finished })
  | none => runs

/-- A regenerated plan of version `n`. -/
def regenerate (n : Nat) (p : PlanCore) (previous : Option (Nat × PlanCore))
    (finish : Option (String × RunCore)) (t : TaskCore) (v : View) : View where
  task := some t
  runs := finishRun finish v.runs
  plans := demote previous (Function.update v.plans n (some p))
  lock := none

/-- The run to finish is the running planning run, and there is none only when no
run is running. -/
def ToFinish (v : View) : Option (String × RunCore) → Prop
  | some (runId, r) => v.Running runId r .planning
  | none => ∀ runId r, v.runs runId = some r → r.status ≠ .running

/-- A plan after the approval of version `n`. -/
def approvedPlan (n m : Nat) (p : PlanCore) : PlanCore :=
  if p.listed = false then p
  else if m = n then { p with status := .accepted, approved := true }
  else if p.status = .rejected then p
  else { p with status := .superseded }

/-- The plans after the approval of version `n`. -/
def approve (n : Nat) (t : TaskCore) (v : View) : View :=
  { v with plans := fun m => (v.plans m).map (approvedPlan n m) }.setTask t

end View

/-- The core of a task that was just created. -/
def newCore (stage : TaskStatusStage) (taskType : TaskType) : TaskCore where
  stage := stage
  taskType := taskType
  archived := false
  accepted := none
  planningRun := none
  implementationRun := none
  validationRun := none

/-- The stage a task is unarchived to. -/
def unarchivedStage (reopen : Bool) (stage : TaskStatusStage) : TaskStatusStage :=
  if reopen = true ∧ stage = .implemented then .failedValidation else stage

namespace Lifecycle

inductive Label where
  | create | record | addFinished | link
  | startPlanning | propose (listed : Bool) | regenerate (listed : Bool) | approve | reject
  | startImplementation | resume | finishImplementation
  | startValidation | finishValidation (result : ValidationResult)
  | cancel | uncancel (target : TaskStatusStage) | archive | unarchive (reopen : Bool)
  | dropLock | repairRun

/-- The labels of the moves that leave the stage alone. -/
def Label.quiet : Label → Prop
  | addFinished | link | startPlanning | startValidation | dropLock | repairRun => True
  | _ => False

variable [Runtime]

/-- A run as it is started: running, under a new id. -/
structure NewRun (v : View) (runId : String) (r : RunCore) (runType : RunType) : Prop where
  canonical : Canonical "run" runId
  free : v.runs runId = none
  ofType : r.runType = runType
  running : r.status = .running
  waivers : r.waiversPass = true

/-- The moves of the task with an id. -/
inductive Move (id : String) : Label → View → View → Prop
  | create {v : View} (hid : Canonical "task" id) (hfree : v.task = none) :
      Move id .create v (v.setTask (newCore .draft .managed))
  | record {v : View} (hid : Canonical "task" id) (hfree : v.task = none) :
      Move id .record v (v.setTask (newCore .done .recorded))
  | addFinished {v : View} {t : TaskCore} {runId : String} {r : RunCore} (ht : v.task = some t)
      (htype : t.taskType = .recorded) (hid : Canonical "run" runId)
      (hfree : v.runs runId = none) (hr : r.status = .finished) (hw : r.waiversPass = true) :
      Move id .addFinished v (v.setRun runId r)
  | link {v : View} {t : TaskCore} {impl : String} {val : Option String} (ht : v.task = some t)
      (htype : t.taskType = .recorded) (himpl : Canonical "run" impl)
      (hval : ∀ runId, val = some runId → Canonical "run" runId) :
      Move id .link v (v.setTask { t with implementationRun := some impl, validationRun := val })
  | startPlanning {v : View} {t : TaskCore} {runId : String} {r : RunCore} (ht : v.task = some t)
      (hstage : t.stage = .draft ∨ t.stage = .planReview) (hidle : v.Idle)
      (hrun : NewRun v runId r .planning) :
      Move id .startPlanning v (v.start runId r { t with planningRun := some runId })
  | propose {v : View} {t : TaskCore} {runId : String} {r : RunCore} {n : Nat} {listed : Bool}
      (ht : v.task = some t) (hstage : t.stage = .draft ∨ t.stage = .planReview)
      (hrun : v.UnderLock runId r .planning) (hnew : v.NewVersion n) :
      Move id (.propose listed) v
        ((v.setPlan n ⟨.proposed, false, listed⟩).stop runId r .finished
          { t with stage := .planReview })
  | regenerate {v : View} {t : TaskCore} {finish : Option (String × RunCore)}
      {previous : Option (Nat × PlanCore)} {n : Nat} {listed : Bool} (ht : v.task = some t)
      (hfinish : v.ToFinish finish) (hnew : v.NewVersion n)
      (hprevious : ∀ m p, previous = some (m, p) → v.Latest m p) :
      Move id (.regenerate listed) v
        (v.regenerate n ⟨.proposed, false, listed⟩ previous finish
          { t with stage := .planReview })
  | approve {v : View} {t : TaskCore} {n : Nat} {p : PlanCore} (ht : v.task = some t)
      (hstage : t.stage = .planReview) (hidle : v.Idle) (hplan : v.plans n = some p)
      (hlisted : p.listed = true) (hproposed : p.status = .proposed) :
      Move id .approve v (v.approve n { t with stage := .approved, accepted := some n })
  | reject {v : View} {t : TaskCore} {n : Nat} {p : PlanCore} (ht : v.task = some t)
      (hstage : t.stage = .planReview) (hlatest : v.Latest n p) :
      Move id .reject v (v.setPlan n { p with status := .rejected })
  | startImplementation {v : View} {t : TaskCore} {runId : String} {r : RunCore} {n : Nat}
      (ht : v.task = some t) (hstage : t.stage = .approved ∨ t.stage = .failedValidation)
      (haccepted : v.Accepted t n) (hidle : v.Idle) (hrun : NewRun v runId r .implementation)
      (hversion : r.planVersion = some n) :
      Move id .startImplementation v
        (v.start runId r { t with stage := .implementing, implementationRun := some runId })
  | resume {v : View} {t : TaskCore} {runId : String} {r : RunCore} {n : Nat}
      (ht : v.task = some t) (hstage : t.stage = .approved ∨ t.stage = .implementing)
      (haccepted : v.Accepted t n) (hlock : v.lock = none)
      (hrun : v.Running runId r .implementation) :
      Move id .resume v ((v.setLock (some ⟨.implementation, runId, true⟩)).setTask
        { t with stage := .implementing, implementationRun := some runId })
  | finishImplementation {v : View} {t : TaskCore} {runId : String} {r : RunCore}
      (ht : v.task = some t) (hlatest : t.implementationRun = some runId)
      (hrun : v.Running runId r .implementation) :
      Move id .finishImplementation v
        (v.stop runId r .finished { t with stage := .implemented })
  | startValidation {v : View} {t : TaskCore} {runId impl : String} {r ri : RunCore}
      (ht : v.task = some t) (hstage : t.stage = .implemented)
      (himpl : t.implementationRun = some impl) (hfinished : v.Implemented impl ri)
      (hidle : v.Idle) (hrun : NewRun v runId r .validation)
      (hbased : r.implementationRun = some impl) :
      Move id .startValidation v (v.start runId r { t with validationRun := some runId })
  | finishValidation {v : View} {t : TaskCore} {runId : String} {r : RunCore}
      {result : ValidationResult} (ht : v.task = some t) (hlatest : t.validationRun = some runId)
      (hrun : v.Running runId r .validation) :
      Move id (.finishValidation result) v
        (v.stop runId r (verdictStatus result) { t with stage := verdictStage result })
  | cancel {v : View} {t : TaskCore} (ht : v.task = some t)
      (hstage : canTransition t.stage .cancelled) :
      Move id .cancel v ((v.setTask { t with stage := .cancelled }).setLock none)
  | uncancel {v : View} {t : TaskCore} {target : TaskStatusStage} (ht : v.task = some t)
      (hstage : t.stage = .cancelled) (hlock : v.lock = none) (htarget : v.Uncancels t target) :
      Move id (.uncancel target) v (v.setTask { t with stage := target })
  | archive {v : View} {t : TaskCore} (ht : v.task = some t) (harchived : t.archived = false)
      (hstage : t.stage ∉ activeTaskStages) :
      Move id .archive v (v.setTask { t with archived := true })
  | unarchive {v : View} {t : TaskCore} {reopen : Bool} (ht : v.task = some t)
      (harchived : t.archived = true)
      (hstage : t.stage ∈ nonterminalUnarchiveStaleStages → reopen = true) :
      Move id (.unarchive reopen) v
        (v.setTask { t with archived := false, stage := unarchivedStage reopen t.stage })
  | dropLock {v : View} : Move id .dropLock v (v.setLock none)
  | repairRun {v : View} {runId : String} {r : RunCore} (hlock : v.lock = none)
      (hrun : v.Running runId r .planning) :
      Move id .repairRun v (v.setRun runId { r with status := .finished })

/-- The machine of the task with an id. -/
def machine (id : String) : Machine View Label where
  move := Move id
  quiet := Label.quiet

end Lifecycle

end Taskledger
