import Taskledger.Services.ImplementationFlow

/-!
# Change and check tracking

Code changes, implementation checks and the commands run for a stage.
-/

namespace Taskledger

open Library

variable [Runtime] (env : Env)

-- ════════════════════════════════════════════════════════════════════════
-- Changes
-- ════════════════════════════════════════════════════════════════════════

/-- The arguments of `add_change` besides the task. -/
structure ChangeRequest where
  path : String
  kind : String
  summary : String
  gitCommit : Option String := none
  gitDiffStat : Option String := none
  command : Option String := none
  beforeHash : Option String := none
  afterHash : Option String := none
  exitCode : Option Int := none
  artifactRefs : List String := []

/-- The change `add_change` writes. -/
def newChange (changeId : String) (task : TaskRecord) (run : TaskRunRecord)
    (request : ChangeRequest) : CodeChangeRecord where
  changeId := changeId
  taskId := task.id
  implementationRun := run.runId
  timestamp := utcNow env
  kind := request.kind
  path := request.path
  summary := Text.strip request.summary
  gitCommit := request.gitCommit
  gitDiffStat := request.gitDiffStat
  command := request.command
  beforeHash := request.beforeHash
  afterHash := request.afterHash
  exitCode := request.exitCode

/-- The run with a change attached. -/
def runWithChange (run : TaskRunRecord) (changeId : String) (artifactRefs : List String) :
    TaskRunRecord :=
  { run with
    changeRefs := run.changeRefs ++ [changeId]
    artifactRefs := run.artifactRefs ++ artifactRefs }

/-- The task with a change attached. -/
def taskWithChange (task : TaskRecord) (changeId : String) : TaskRecord :=
  { task with
    codeChangeLogRefs := task.codeChangeLogRefs ++ [changeId]
    updatedAt := utcNow env }

/-- `add_change`. -/
def addChange (taskRef : String) (request : ChangeRequest) : LedgerAction CodeChangeRecord := do
  let (task, run) ← requireImplementationWork env taskRef "record changes on"
    "record code changes"
  let known ← listChanges task.id
  let change := newChange env (Runtime.nextId "change" (known.map CodeChangeRecord.changeId))
    task run request
  saveChange change
  saveRun (runWithChange run change.changeId request.artifactRefs)
  saveTask (taskWithChange env task change.changeId)
  appendEvent env task.id "change.logged"
    [("change_id", .str change.changeId), ("path", .str request.path)]
  return change

/-- `_git_change_state`, as version control answered. -/
structure GitChangeState where
  branch : String
  status : String
  diffStat : String

/-- `scan_changes`, with the answer of version control. -/
def scanChanges (taskRef summary : String) (fromGit : Bool)
    (git : Except Raised GitChangeState) : LedgerAction CodeChangeRecord := do
  raiseIf (fromGit = false) <|
    cliError "scan-changes currently requires --from-git." exitCodeBadInput
  let state ← (git : Except Raised GitChangeState)
  addChange env taskRef
    { path := "."
      kind := "scan"
      summary := Text.orElse (Text.strip summary) "Scanned Git changes."
      command := some "git branch --show-current && git status --short && git diff --stat"
      gitDiffStat := some <| Text.join "\n"
        ["branch: " ++ state.branch, "status:", Text.orElse state.status "(clean)",
          "diff_stat:", Text.orElse state.diffStat "(no diff)"] }

-- ════════════════════════════════════════════════════════════════════════
-- Checks
-- ════════════════════════════════════════════════════════════════════════

/-- The arguments of `add_check` besides the task. -/
structure ImplementationCheckRequest where
  argv : List String
  command : String
  exitCode : Option Int
  summary : Option String := none
  category : CheckCategory := .other
  artifactRefs : List String := []

/-- The status an exit code stands for. -/
def checkStatusOf : Option Int → CheckStatus
  | none => .unknown
  | some code => if code = 0 then .passed else .failed

/-- The check `add_check` writes. -/
def newImplementationCheck (checkId : String) (task : TaskRecord) (run : TaskRunRecord)
    (request : ImplementationCheckRequest) : ImplementationCheckRecord where
  checkId := checkId
  taskId := task.id
  implementationRun := run.runId
  timestamp := utcNow env
  command := request.command
  argv := request.argv
  exitCode := request.exitCode
  status := checkStatusOf request.exitCode
  category := request.category
  summary := (some (Text.strip (request.summary.getD ""))).filter (· ≠ "")

/-- The run with a check attached. -/
def runWithImplementationCheck (run : TaskRunRecord) (checkId : String)
    (artifactRefs : List String) : TaskRunRecord :=
  { run with
    checkRefs := run.checkRefs ++ [checkId]
    artifactRefs := run.artifactRefs ++ artifactRefs }

/-- `add_check`. -/
def addCheck (taskRef : String) (request : ImplementationCheckRequest) :
    LedgerAction ImplementationCheckRecord := do
  let (task, run) ← requireImplementationWork env taskRef "record checks on"
    "record implementation checks"
  let known ← listChecks task.id
  let check := newImplementationCheck env
    (Runtime.nextId "check" (known.map ImplementationCheckRecord.checkId)) task run request
  saveCheck check
  saveRun (runWithImplementationCheck run check.checkId request.artifactRefs)
  saveTask { task with updatedAt := utcNow env }
  appendEvent env task.id "implementation.check.logged"
    [("check_id", .str check.checkId), ("command", .str request.command)]
  return check

/-- `classify_check_command`. -/
def classifyCheckCommand (argv : List String) : CheckCategory :=
  let normalized := argv.map Runtime.lower
  match normalized with
  | [] => .other
  | program :: _ =>
    if "pytest" ∈ normalized then .test
    else if program = "ruff" then if "format" ∈ normalized then .format else .lint
    else if program ∈ ["mypy", "pyright", "pyre"] then .typecheck
    else if program ∈ ["tox", "nox"] then .test
    else if program ∈ ["npm", "pnpm", "yarn"] ∧ "test" ∈ normalized then .test
    else .other

-- ════════════════════════════════════════════════════════════════════════
-- Commands
-- ════════════════════════════════════════════════════════════════════════

/-- A command that was run: its text, its result, and the path a long output is
written to. -/
structure CommandRun where
  argv : List String
  /-- `shlex.join(argv)`. -/
  command : String
  returncode : Int
  stdout : String
  stderr : String
  artifactPath : String

/-- `_command_output`. -/
def commandOutput (c : CommandRun) : String :=
  "$ " ++ c.command ++ "\n\nstdout:\n" ++ Text.orElse c.stdout "(empty)" ++ "\n\nstderr:\n"
    ++ Text.orElse c.stderr "(empty)" ++ "\n"

/-- The artifact a long output is kept in. -/
def artifactRef (c : CommandRun) : Option String :=
  let output := commandOutput c
  if output.length > 4000 ∨ (output.toList.filter (· = '\n')).length > 50 then
    some c.artifactPath
  else none

/-- `_command_summary`. -/
def commandSummary (c : CommandRun) : String :=
  "Ran " ++ c.command ++ " (exit " ++ toString c.returncode ++ ")"
    ++ match artifactRef c with
      | some ref => " output: @" ++ ref
      | none => ""

/-- The payload of a command that was run. -/
def commandPayload (kind taskId : String) (check : Option Dict) (c : CommandRun) : Dict :=
  ([("kind", .str kind), ("task_id", .str taskId)] : Dict)
  ++ optionalEntry "check" (check.map .dict)
  ++ ([("change", .null),
    ("exit_code", .int c.returncode),
    ("artifact_path", .ofOption (artifactRef c)),
    ("stdout", .str c.stdout),
    ("stderr", .str c.stderr)] : Dict)

/-- The planning run a command is run for. -/
def requirePlanningWork (taskRef : String) : LedgerQuery (TaskRecord × TaskRunRecord) := do
  let task ← resolveTask taskRef
  ensureNotArchived task "run planning command on"
  let run ← requireRunningRun task task.latestPlanningRun .planning
  let lock ← lockForMutation env task.id
  enforceDecision (planCommandDecision task lock (some run))
  return (task, run)

-- ════════════════════════════════════════════════════════════════════════
-- Before and after the command
-- ════════════════════════════════════════════════════════════════════════

/-- `run_planning_command` up to the command. -/
def beginPlanningCommand (taskRef : String) (argv : List String) :
    LedgerQuery (TaskRecord × TaskRunRecord) := do
  raiseIf (argv = []) (cliError "plan command requires a command to run." exitCodeBadInput)
  requirePlanningWork env taskRef

/-- The run with a planning command on it. -/
def runWithPlanningCommand (run : TaskRunRecord) (c : CommandRun) : TaskRunRecord :=
  { run with
    worklog := run.worklog ++ [commandSummary c]
    artifactRefs := run.artifactRefs ++ (artifactRef c).toList }

/-- `run_planning_command` after the command: the task and the run are the ones read
before it. -/
def recordPlanningCommand (task : TaskRecord) (run : TaskRunRecord) (c : CommandRun) :
    LedgerAction Dict := do
  saveRun (runWithPlanningCommand run c)
  saveTask { task with updatedAt := utcNow env }
  appendEvent env task.id "plan.command"
    [("run_id", .str run.runId),
      ("command", .str c.command),
      ("exit_code", .int c.returncode),
      ("artifact_ref", .ofOption (artifactRef c))]
  return commandPayload "planning_command" task.id none c

/-- `run_implementation_command` up to the command. -/
def beginImplementationCommand (taskRef : String) (argv : List String) :
    LedgerQuery (TaskRecord × TaskRunRecord) := do
  raiseIf (argv = []) (cliError "implement command requires a command to run." exitCodeBadInput)
  requireImplementationWork env taskRef "record implementation commands on"
    "record implementation commands"

/-- `run_implementation_command` after the command: the task and the run are read again. -/
def recordImplementationCommand (taskRef : String) (c : CommandRun) : LedgerAction Dict := do
  let check ← addCheck env taskRef
    { argv := c.argv
      command := c.command
      exitCode := some c.returncode
      summary := some (commandSummary c)
      category := classifyCheckCommand c.argv
      artifactRefs := (artifactRef c).toList }
  return commandPayload "implementation_check" check.taskId (some check.toDict) c

-- A managed command as one operation: nothing else happens in the ledger while its shell
-- command runs.

/-- `run_planning_command`. -/
def runPlanningCommand (taskRef : String) (c : CommandRun) : LedgerAction Dict := do
  let (task, run) ← (beginPlanningCommand env taskRef c.argv : LedgerQuery _)
  recordPlanningCommand env task run c

/-- `run_implementation_command`. -/
def runImplementationCommand (taskRef : String) (c : CommandRun) : LedgerAction Dict := do
  let _ ← (beginImplementationCommand env taskRef c.argv : LedgerQuery _)
  recordImplementationCommand env taskRef c

end Taskledger
