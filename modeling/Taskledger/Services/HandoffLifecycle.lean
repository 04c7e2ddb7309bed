import Taskledger.Services.Tasks

/-!
# Handoffs

A handoff is created for a task, then claimed, closed or cancelled. Claiming one
may hand the task's lock over.
-/

namespace Taskledger

open Library

variable [Runtime] (env : Env)

-- ════════════════════════════════════════════════════════════════════════
-- Creation
-- ════════════════════════════════════════════════════════════════════════

/-- What `build_handoff_payload` and `render_markdown_handoff` give for a request. -/
structure HandoffContext where
  mode : HandoffMode
  contextFor : Option ContextFor
  scope : ContextScope
  body : String

/-- The arguments of `create_handoff` besides the task. -/
structure HandoffRequest where
  mode : Option String := none
  workerStepId : Option String := none
  todoId : Option String := none
  focusRunId : Option String := none
  intendedActorType : Option String := none
  intendedActorName : Option String := none
  intendedHarness : Option String := none
  summary : Option String := none
  nextAction : Option String := none
  actor : Option ActorRef := none
  harness : Option NamedHarness := none
  /-- The context rendered for the request, or what rendering it raises. -/
  context : Except Raised HandoffContext

/-- `normalize_actor_type(…) if … else None`. -/
def normalizeActorType? : Option String → Except Raised (Option ActorType)
  | none => .ok none
  | some text => if text = "" then .ok none else some <$> normalizeActorType text

/-- The handoff `create_handoff` writes. -/
def newHandoffOf (taskRef : String) (request : HandoffRequest) :
    LedgerQuery TaskHandoffRecord := do
  let task ← resolveTask taskRef
  raiseIf (request.mode = none ∧ request.workerStepId = none) <|
    launchError "Handoff creation requires --mode or --worker."
  let context ← (request.context : Except Raised HandoffContext)
  let known ← listHandoffs task.id
  let intended ← (normalizeActorType? request.intendedActorType :
    Except Raised (Option ActorType))
  return {
    handoffId := Runtime.nextId "handoff" (known.map TaskHandoffRecord.handoffId)
    taskId := task.id
    mode := context.mode
    contextFor := context.contextFor
    workerStepId := request.workerStepId
    scope := context.scope
    todoId := request.todoId
    focusRunId := request.focusRunId
    contextFormat := .markdown
    contextHash := some ("sha256:" ++ Runtime.contentHash context.body)
    generatedAt := some (utcNow env)
    status := .open
    createdAt := utcNow env
    createdBy := request.actor.getD env.resolvedActor
    createdFromHarness := some (request.harness.getD env.resolvedHarness).toHarnessRef
    intendedActorType := intended
    intendedActorName := request.intendedActorName
    intendedHarness := request.intendedHarness
    summary := request.summary
    nextAction := request.nextAction
    contextBody := context.body }

/-- `create_handoff`. -/
def createHandoff (taskRef : String) (request : HandoffRequest) :
    LedgerAction TaskHandoffRecord := do
  let handoff ← newHandoffOf env taskRef request
  saveHandoff handoff
  return handoff

-- ════════════════════════════════════════════════════════════════════════
-- Lock transfer
-- ════════════════════════════════════════════════════════════════════════

/-- `save_lock` over the lock file there is. -/
def saveLock (lock : TaskLock) : LedgerAction Unit := .write (Ledger.putLock lock)

/-- An actor in a lock's transfer history. -/
def actorText (actor : ActorRef) : String := value actor.actorType ++ ":" ++ actor.actorName

/-- `transfer_lock`. -/
def transferredLock (lock : TaskLock) (actor : ActorRef) (harness : NamedHarness) : TaskLock :=
  { lock with
    holder := actor
    actor := some actor
    harness := some harness.toHarnessRef
    transferHistory := lock.transferHistory ++ [(lock.lockId, actorText lock.holder, actorText actor)]
    transferDate := some (utcNow env) }

/-- `release_lock`: the lock file stays, with the time of its release. -/
def releasedLock (lock : TaskLock) : TaskLock :=
  { lock with transferDate := some (utcNow env) }

/-- The lock as the policy of a claimed handoff leaves it. -/
def claimedLock (policy : LockPolicy) (actor : ActorRef) (harness : NamedHarness)
    (lock : TaskLock) : TaskLock :=
  if policy = .transfer then transferredLock env lock actor harness else releasedLock env lock

/-- The policies under which a claim touches the lock. -/
def touchesLock (policy : LockPolicy) : Bool := policy ∈ [.transfer, .release]

/-- The lock a claim hands over: the one of the handoff's source run. -/
def lockToHandOver (taskRef : String) (handoff : TaskHandoffRecord) :
    LedgerQuery (Option TaskLock) :=
  match handoff.sourceRunId.filter fun run => touchesLock handoff.lockPolicy ∧ run ≠ "" with
  | none => pure none
  | some sourceRun => do
    let task ← resolveTask taskRef
    let lock ← readLock task.id
    return lock.filter fun l => l.runId = sourceRun

-- ════════════════════════════════════════════════════════════════════════
-- Claiming
-- ════════════════════════════════════════════════════════════════════════

/-- An intent of a handoff that is stated and not met. -/
def unmet (intended : Option String) (actual : String) : Bool :=
  (orOption intended none).any (· ≠ actual)

/-- The intents of a handoff against the claiming actor and harness. -/
def checkIntent (handoff : TaskHandoffRecord) (actor : ActorRef) (harness : HarnessRef) :
    Except Raised Unit := do
  raiseIf (handoff.intendedActorType.any (· ≠ actor.actorType) = true) <|
    launchError ("Actor type mismatch: handoff intended for "
      ++ (handoff.intendedActorType.map value).getD "" ++ ", but claiming as "
      ++ value actor.actorType)
  raiseIf (unmet handoff.intendedActorName actor.actorName = true) <|
    launchError ("Actor name mismatch: handoff intended for "
      ++ handoff.intendedActorName.getD "" ++ ", but claiming as " ++ actor.actorName)
  raiseIf (handoff.intendedHarness ≠ some "any"
      ∧ unmet handoff.intendedHarness harness.name = true) <|
    launchError ("Harness mismatch: handoff intended for "
      ++ handoff.intendedHarness.getD "" ++ ", but claiming in " ++ harness.name)

/-- The claimed handoff. -/
def claimedHandoff (handoff : TaskHandoffRecord) (actor : ActorRef) (harness : HarnessRef)
    (runId : Option String) (lock : Option TaskLock) : TaskHandoffRecord :=
  { handoff with
    status := .claimed
    claimRunId := runId
    releasedLockId := (lock.map TaskLock.lockId).or handoff.releasedLockId
    claimedAt := some (utcNow env)
    claimedBy := some actor
    claimedInHarness := some harness }

/-- Write the handed-over lock, when there is one. -/
def handOverLock (policy : LockPolicy) (actor : ActorRef) (harness : NamedHarness) :
    Option TaskLock → LedgerAction Unit
  | none => pure ()
  | some lock => saveLock (claimedLock env policy actor harness lock)

/-- `claim_handoff`. -/
def claimHandoff (taskId handoffId : String) (actor : Option ActorRef := none)
    (harness : Option NamedHarness := none) (newRunId : Option String := none) :
    LedgerAction TaskHandoffRecord := do
  let handoff ← resolveHandoff taskId handoffId
  raiseIf (handoff.status ≠ .open) <|
    launchError ("Cannot claim handoff in status " ++ value handoff.status)
  let resolvedActor := actor.getD env.resolvedActor
  let resolvedHarness := harness.getD env.resolvedHarness
  checkIntent handoff resolvedActor resolvedHarness.toHarnessRef
  let lock ← lockToHandOver taskId handoff
  handOverLock env handoff.lockPolicy resolvedActor resolvedHarness lock
  let updated := claimedHandoff env handoff resolvedActor resolvedHarness.toHarnessRef newRunId lock
  saveHandoff updated
  return updated

/-- The common body of `close_handoff` and `cancel_handoff`. -/
def endHandoff (taskId handoffId verb : String) (from_ : List HandoffStatus)
    (status : HandoffStatus) (reason : Option String) : LedgerAction TaskHandoffRecord := do
  let handoff ← resolveHandoff taskId handoffId
  raiseIf (handoff.status ∉ from_) <|
    launchError ("Cannot " ++ verb ++ " handoff in status " ++ value handoff.status)
  let updated := { handoff with status := status, summary := orOption reason handoff.summary }
  saveHandoff updated
  return updated

/-- `close_handoff`. -/
def closeHandoff (taskId handoffId : String) (reason : Option String := none) :
    LedgerAction TaskHandoffRecord :=
  endHandoff taskId handoffId "close" [.open, .claimed] .closed reason

/-- `cancel_handoff`. -/
def cancelHandoff (taskId handoffId : String) (reason : Option String := none) :
    LedgerAction TaskHandoffRecord :=
  endHandoff taskId handoffId "cancel" [.open] .cancelled reason

end Taskledger
