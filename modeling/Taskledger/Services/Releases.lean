import Taskledger.Services.Tasks

/-!
# Releases
-/

namespace Taskledger

open Library

variable [Runtime] (env : Env)

/-- `_task_number`. -/
def taskNumber (taskId : String) : Except Raised Nat :=
  let digits := (Text.dropStart taskId "task-").toList
  if Text.startsWith taskId "task-" ∧ digits ≠ [] ∧ digits.all Char.isDigit then
    .ok ((digits? digits).getD 0)
  else .error (launchError ("Release ranges require numeric task ids: " ++ taskId))

/-- The releases with a boundary before `boundary`, each with its number. -/
def releasesBefore (boundary : Nat) : List ReleaseRecord →
    Except Raised (List (Nat × ReleaseRecord))
  | [] => .ok []
  | release :: rest => do
    let number ← taskNumber release.boundaryTaskId
    let others ← releasesBefore boundary rest
    return if number < boundary then (number, release) :: others else others

/-- The first release with the largest number. -/
def latestRelease : List (Nat × ReleaseRecord) → Option (Nat × ReleaseRecord)
  | [] => none
  | first :: rest =>
    match latestRelease rest with
    | none => some first
    | some best => if best.1 ≤ first.1 then some first else some best

/-- `_resolve_previous_release`. -/
def resolvePreviousRelease (releases : List ReleaseRecord) (boundary : Nat) :
    Option String → Except Raised (Option ReleaseRecord)
  | none => do
    let candidates ← releasesBefore boundary releases
    return (latestRelease candidates).map Prod.snd
  | some explicit =>
    match releases.find? fun r => r.version = explicit with
    | none => .error (launchError ("Release not found: " ++ explicit))
    | some release => do
      let number ← taskNumber release.boundaryTaskId
      raiseIf (boundary ≤ number) <|
        launchError ("Previous release " ++ explicit ++ " must be before the new boundary task.")
      return some release

/-- The done tasks with a number after `lower` and up to `upper`. -/
def countDoneBetween (lower upper : Nat) : List TaskRecord → Except Raised Nat
  | [] => .ok 0
  | task :: rest =>
    if task.statusStage = .done then do
      let number ← taskNumber task.id
      let others ← countDoneBetween lower upper rest
      return if lower < number ∧ number ≤ upper then others + 1 else others
    else countDoneBetween lower upper rest

/-- `_task_summary`. -/
def taskSummary (task : TaskRecord) : Dict :=
  [("task_id", .str task.id),
    ("slug", .str task.slug),
    ("title", .str task.title),
    ("status_stage", .str (value task.statusStage)),
    ("archived", .bool (isArchivedTask task))]

/-- The number after which a release counts tasks. -/
def lowerNumber : Option ReleaseRecord → Except Raised Nat
  | none => .ok 0
  | some release => taskNumber release.boundaryTaskId

/-- What `tag_release` has read and checked: the boundary task and the release. -/
def releaseOf (version atTask : String) (note previousVersion : Option String)
    (actor : Option ActorRef) : LedgerQuery (TaskRecord × ReleaseRecord) := do
  let boundary ← resolveTask atTask
  raiseIf (boundary.statusStage ≠ .done) <|
    launchError ("Release boundaries must point to done tasks: " ++ boundary.id ++ " is "
      ++ value boundary.statusStage ++ ".")
  let existing ← listReleases
  raiseIf (existing.any (fun r => r.version = version) = true) <|
    launchError ("Release version already exists: " ++ version)
  let number ← (taskNumber boundary.id : Except Raised Nat)
  let previous ← (resolvePreviousRelease existing number previousVersion :
    Except Raised (Option ReleaseRecord))
  let lower ← (lowerNumber previous : Except Raised Nat)
  let tasks ← listTasks
  let count ← (countDoneBetween lower number tasks : Except Raised Nat)
  return (boundary,
    { version := version
      boundaryTaskId := boundary.id
      createdAt := utcNow env
      createdBy := actor.getD env.resolvedActor
      note := note
      taskCount := previous.map fun _ => count
      previousVersion := previous.map ReleaseRecord.version })

/-- `_append_release_event`: the actor and the harness are the resolved ones. -/
def appendReleaseEvent (release : ReleaseRecord) : LedgerAction Unit :=
  .write fun s =>
    if env.eventLogging then
      s.addEvent
        { ts := utcNow env
          event := "release.tagged"
          taskId := release.boundaryTaskId
          actor := env.resolvedActor
          harness := some env.resolvedHarness.toHarnessRef
          eventId := nextEventId (utcNow env) (env.uuid s.events.length)
          data := [("version", .str release.version),
            ("boundary_task_id", .str release.boundaryTaskId),
            ("note", .ofOption release.note),
            ("previous_version", .ofOption release.previousVersion)] }
    else s

/-- `tag_release`. -/
def tagRelease (version atTask : String) (note : Option String := none)
    (previousVersion : Option String := none) (actor : Option ActorRef := none) :
    LedgerAction Dict := do
  let (boundary, release) ← releaseOf env version atTask note previousVersion actor
  saveRelease release
  appendReleaseEvent env release
  rebuildV2Indexes
  return [("kind", .str "release"),
    ("release", .dict release.toDict),
    ("boundary_task", .dict (taskSummary boundary))]

end Taskledger
