import Taskledger.Storage.TaskStore

/-!
# Agent command logs

The transcript records of the commands an agent runs: the recorder of one call of the
program, and the record of a command that an implementation or a plan ran.
-/

namespace Taskledger

open Library

/-- What the log takes from the standard library. -/
class LogRuntime where
  /-- `re.compile(pattern).sub(replacement, text)`. -/
  reSub : String → String → String → String
  /-- `json.dumps(value, indent=2, sort_keys=True)`. -/
  dumpIndented : Value → String

structure AgentLoggingConfig where
  enabled : Bool := false
  captureTaskledgerCli : Bool := true
  captureManagedShell : Bool := true
  captureVisibleStdout : Bool := true
  captureVisibleStderr : Bool := true
  captureVisibleCombined : Bool := true
  capturePayloadMetadata : Bool := true
  maxInlineChars : Nat := 4000
  storeFullOutputArtifacts : Bool := true
  maxArtifactBytes : Option Nat := some 2000000
  redactPatterns : List String := []

inductive CommandKind where
  | taskledgerCli | managedShell
  deriving DecidableEq

inductive CommandStatus where
  | succeeded | failed | unknown
  deriving DecidableEq

structure AgentCommandLogRecord where
  logId : String
  ledgerRef : String
  startedAt : String
  finishedAt : String
  durationMs : Nat
  commandKind : CommandKind
  argv : List String
  commandLine : String
  cwd : String
  exitCode : Option Int := none
  status : CommandStatus := .unknown
  taskId : Option String := none
  runId : Option String := none
  runType : Option RunType := none
  activeStage : Option TaskStatusStage := none
  actor : Option ActorRef := none
  harness : Option HarnessRef := none
  jsonOutput : Bool := false
  operationName : Option String := none
  visibleStdoutRef : Option String := none
  visibleStderrRef : Option String := none
  visibleCombinedRef : Option String := none
  visibleStdoutExcerpt : Option String := none
  visibleStderrExcerpt : Option String := none
  visibleCombinedExcerpt : Option String := none
  managedStdoutRef : Option String := none
  managedStderrRef : Option String := none
  managedCombinedRef : Option String := none
  managedCommandExitCode : Option Int := none
  payloadRef : Option String := none
  payloadKind : Option String := none
  errorCode : Option String := none
  errorSummary : Option String := none
  redactionsApplied : List String := []
  deriving DecidableEq

/-- The records under `agent-logs/`, and the artifacts beside them by path. -/
structure AgentLogs where
  records : List AgentCommandLogRecord := []
  artifacts : List (String × String) := []
  deriving DecidableEq

/-- `append_agent_command_log`. -/
def appendAgentCommandLog (record : AgentCommandLogRecord) (logs : AgentLogs) : AgentLogs :=
  { logs with records := logs.records ++ [record] }

/-- `write_agent_command_artifact`: the reference and the logs with the artifact. -/
def writeAgentCommandArtifact (logId suffix content : String) (logs : AgentLogs) :
    String × AgentLogs :=
  let path := "agent-logs/artifacts/" ++ logId ++ "." ++ suffix
  (path, { logs with
    artifacts := logs.artifacts.filter (fun a => a.1 ≠ path) ++ [(path, content)] })

-- ════════════════════════════════════════════════════════════════════════
-- Texts
-- ════════════════════════════════════════════════════════════════════════

/-- The characters `shlex.quote` leaves unquoted. -/
def isShellSafe (c : Char) : Bool :=
  ('a' ≤ c && c ≤ 'z') || ('A' ≤ c && c ≤ 'Z') || ('0' ≤ c && c ≤ '9') ||
    c ∈ ['_', '@', '%', '+', '=', ':', ',', '.', '/', '-']

/-- `shlex.quote`. -/
def shlexQuote (text : String) : String :=
  if text = "" then "''"
  else if text.toList.all isShellSafe then text
  else "'" ++ String.join (text.toList.map fun c => if c = '\'' then "'\"'\"'" else c.toString)
    ++ "'"

/-- `shlex.join`. -/
def shlexJoin (argv : List String) : String :=
  Text.join " " (argv.map shlexQuote)

/-- `_combined_output`. -/
def combinedOutput (stdout stderr : String) : String :=
  "[stdout]\n" ++ Text.orElse stdout "(empty)" ++ "\n\n[stderr]\n"
    ++ Text.orElse stderr "(empty)" ++ "\n"

/-- The characters of the longest beginning that takes at most `n` bytes. -/
def takeBytes : Nat → List Char → List Char
  | _, [] => []
  | n, c :: cs => if c.utf8Size ≤ n then c :: takeBytes (n - c.utf8Size) cs else []

/-- `_truncate_artifact`. -/
def truncateArtifact (content : String) : Option Nat → String
  | none => content
  | some maxBytes => String.ofList (takeBytes maxBytes content.toList)

/-- The log id after those of the logs, for a command that started at an instant. -/
def nextLogId (timestamp : String) (logs : AgentLogs) : String :=
  let stamp := Text.without '-' (Text.without ':' timestamp)
  let compact := String.ofList (stamp.toList.takeWhile (· ≠ '.'))
  let days := (logs.records.map fun r => (r.logId, r.startedAt)).foldl
    (fun seen r => if seen.any (fun s => s.1 = r.1) then seen else seen ++ [r]) []
  let sequence := 1 + (days.filter fun r =>
    Text.startsWith r.2 (String.ofList (timestamp.toList.take 10))).length
  "cmd-" ++ compact ++ "-"
    ++ String.ofList (List.replicate (6 - (Nat.repr sequence).length) '0') ++ Nat.repr sequence

/-- `_payload_kind`. -/
def payloadKindOf : Value → String
  | .dict entries =>
    match Dict.get entries "kind" with
    | .str kind => if kind = "" then "object" else kind
    | _ => "object"
  | .list _ => "collection"
  | .null => "NoneType"
  | .bool _ => "bool"
  | .int _ => "int"
  | .str _ => "str"
  | .scalar .. => "float"

/-- `_task_id_from_value`. -/
def taskIdFromValue : Value → Option String
  | .dict entries =>
    match Dict.get entries "task_id" with
    | .str direct => some direct
    | _ =>
      match Dict.get entries "id" with
      | .str candidate =>
        if Text.startsWith candidate "task-" then some candidate else nested entries
      | _ => nested entries
  | _ => none
where
  /-- The id of the task in the payload. -/
  nested (entries : Dict) : Option String :=
    match Dict.get entries "task" with
    | .dict task => (Dict.get task "id").asString?
    | _ => none

-- ════════════════════════════════════════════════════════════════════════
-- Redaction
-- ════════════════════════════════════════════════════════════════════════

variable [LogRuntime]

/-- One pattern of `_apply_redactions`: the text, and the patterns that replaced something. -/
def redactOne (state : String × List String) (pattern : String) : String × List String :=
  let updated := LogRuntime.reSub pattern "[REDACTED]" state.1
  (updated,
    if updated ≠ state.1 ∧ pattern ∉ state.2 then state.2 ++ [pattern] else state.2)

/-- `_apply_redactions`, with the patterns that were applied before. -/
def applyRedactions (patterns applied : List String) (text : String) : String × List String :=
  patterns.foldl redactOne (text, applied)

/-- `_capture_output_piece`: the excerpt, the reference, and the logs. -/
def captureOutputPiece (config : AgentLoggingConfig) (logId suffix content : String)
    (enabled : Bool) (logs : AgentLogs) : Option String × Option String × AgentLogs :=
  if enabled = false then (none, none, logs)
  else
    let cut := String.ofList (content.toList.take config.maxInlineChars)
    let excerpt := if content.length > config.maxInlineChars then cut ++ "\n...[truncated]" else cut
    if config.storeFullOutputArtifacts = false then (some excerpt, none, logs)
    else
      let written := writeAgentCommandArtifact logId suffix
        (truncateArtifact content config.maxArtifactBytes) logs
      (some excerpt, some written.1, written.2)

/-- What a record takes from its surroundings. -/
structure LogContext where
  ledgerRef : String
  startedAt : String
  finishedAt : String
  durationMs : Nat
  cwd : String
  /-- The harness of `load_harness_state`, when there is one. -/
  harnessState : Option HarnessRef

variable (config : AgentLoggingConfig) (context : LogContext)

-- ════════════════════════════════════════════════════════════════════════
-- Commands that the program runs
-- ════════════════════════════════════════════════════════════════════════

/-- The arguments of `record_managed_shell_command`. -/
structure ManagedCommand where
  taskId : String
  runId : String
  runType : RunType
  argv : List String
  exitCode : Int
  stdout : String
  stderr : String

/-- `record_managed_shell_command`. -/
def recordManagedShellCommand (c : ManagedCommand) (logs : AgentLogs) : AgentLogs :=
  if config.enabled = false ∨ config.captureManagedShell = false then logs
  else
    let logId := nextLogId context.startedAt logs
    let stdout := applyRedactions config.redactPatterns [] c.stdout
    let stderr := applyRedactions config.redactPatterns [] c.stderr
    let (stdoutExcerpt, stdoutRef, logs) :=
      captureOutputPiece config logId "managed.stdout.txt" stdout.1 config.captureVisibleStdout logs
    let (stderrExcerpt, stderrRef, logs) :=
      captureOutputPiece config logId "managed.stderr.txt" stderr.1 config.captureVisibleStderr logs
    let (combinedExcerpt, combinedRef, logs) :=
      captureOutputPiece config logId "managed.combined.txt" (combinedOutput stdout.1 stderr.1)
        config.captureVisibleCombined logs
    appendAgentCommandLog
      { logId := logId
        ledgerRef := context.ledgerRef
        startedAt := context.startedAt
        finishedAt := context.startedAt
        durationMs := 0
        commandKind := .managedShell
        argv := c.argv
        commandLine := if c.argv = [] then "" else shlexJoin c.argv
        cwd := context.cwd
        exitCode := some c.exitCode
        status := if c.exitCode = 0 then .succeeded else .failed
        taskId := some c.taskId
        runId := some c.runId
        runType := some c.runType
        activeStage := some c.runType.stage
        managedStdoutRef := stdoutRef
        managedStderrRef := stderrRef
        managedCombinedRef := combinedRef
        managedCommandExitCode := some c.exitCode
        visibleStdoutExcerpt := stdoutExcerpt
        visibleStderrExcerpt := stderrExcerpt
        visibleCombinedExcerpt := combinedExcerpt
        redactionsApplied := stdout.2 ++ stderr.2 } logs

-- ════════════════════════════════════════════════════════════════════════
-- The recorder of a call of the program
-- ════════════════════════════════════════════════════════════════════════

/-- What `AgentCommandRecorder` notes while the program runs. -/
structure AgentCommandRecorder where
  redactions : List String := []
  taskId : Option String := none
  runId : Option String := none
  runType : Option RunType := none
  activeStage : Option TaskStatusStage := none
  actor : Option ActorRef := none
  harness : Option HarnessRef := none
  operationName : Option String := none
  status : CommandStatus := .unknown
  exitCode : Option Int := none
  payloadKind : Option String := none
  payloadRef : Option String := none
  errorCode : Option String := none
  errorSummary : Option String := none

/-- A call of `note_task`, `note_payload` or `note_error`; an error comes with its code. -/
inductive Note where
  | task (taskId : String)
  | payload (payload : Value) (operationName : Option String)
  | error (text code : String) (exitCode : Option Int)

/-- `AgentCommandRecorder.note_task`: a lock that does not load raises. -/
def noteTask (s : Ledger) (taskId : String) (r : AgentCommandRecorder) :
    AgentCommandRecorder × Except Raised Unit :=
  let noted := { r with taskId := some taskId }
  match readLock taskId s with
  | .error e => (noted, .error e)
  | .ok none => (noted, .ok ())
  | .ok (some lock) =>
    ({ noted with
        runId := some lock.runId
        runType := some lock.runType
        activeStage := some lock.stage
        actor := some (lock.actor.getD lock.holder)
        harness := lock.harness }, .ok ())

/-- The task of a payload, when none was noted before. -/
def notePayloadTask (s : Ledger) (payload : Value) (r : AgentCommandRecorder) :
    AgentCommandRecorder × Except Raised Unit :=
  match taskIdFromValue payload, r.taskId with
  | some taskId, none => noteTask s taskId r
  | _, _ => (r, .ok ())

/-- The artifact of a payload. -/
def notePayloadText (payload : Value) (r : AgentCommandRecorder) (logs : AgentLogs) :
    AgentCommandRecorder × AgentLogs :=
  if config.capturePayloadMetadata = false then (r, logs)
  else
    let redacted := applyRedactions config.redactPatterns r.redactions
      (LogRuntime.dumpIndented payload ++ "\n")
    let text := truncateArtifact redacted.1 config.maxArtifactBytes
    let noted := { r with redactions := redacted.2 }
    if text = "" then (noted, logs)
    else
      let written := writeAgentCommandArtifact (nextLogId context.startedAt logs) "payload.json"
        text logs
      ({ noted with payloadRef := some written.1 }, written.2)

/-- The notes of the recorder; what they raise is dropped. -/
def note (s : Ledger) (state : AgentCommandRecorder × AgentLogs) :
    Note → AgentCommandRecorder × AgentLogs
  | .task taskId => ((noteTask s taskId state.1).1, state.2)
  | .payload payload operationName =>
    let named := { state.1 with
      operationName := orOption operationName state.1.operationName
      payloadKind := some (payloadKindOf payload) }
    match notePayloadTask s payload named with
    | (noted, .error _) => (noted, state.2)
    | (noted, .ok _) =>
      notePayloadText config context payload
        { noted with status := .succeeded, exitCode := some 0 } state.2
  | .error text code exitCode =>
    ({ state.1 with
        status := .failed
        exitCode := some (exitCode.getD 1)
        errorCode := some code
        errorSummary := some text }, state.2)

/-- A call of the program that is recorded: its arguments, what it noted and what it wrote. -/
structure RecordedCall where
  argv : List String
  jsonOutput : Bool
  notes : List Note
  stdout : String
  stderr : String

/-- The status that `finish` settles on. -/
def finishedStatus (r : AgentCommandRecorder) : CommandStatus :=
  if r.status = .unknown then if r.errorSummary.isSome then .failed else .succeeded else r.status

/-- `AgentCommandRecorder.finish`. -/
def finish (c : RecordedCall) (r : AgentCommandRecorder) (logs : AgentLogs) : AgentLogs :=
  let stdout := applyRedactions config.redactPatterns r.redactions c.stdout
  let stderr := applyRedactions config.redactPatterns stdout.2 c.stderr
  let logId := nextLogId context.startedAt logs
  let (stdoutExcerpt, stdoutRef, logs) :=
    captureOutputPiece config logId "stdout.txt" stdout.1 config.captureVisibleStdout logs
  let (stderrExcerpt, stderrRef, logs) :=
    captureOutputPiece config logId "stderr.txt" stderr.1 config.captureVisibleStderr logs
  let (combinedExcerpt, combinedRef, logs) :=
    captureOutputPiece config logId "combined.txt" (combinedOutput stdout.1 stderr.1)
      config.captureVisibleCombined logs
  appendAgentCommandLog
    { logId := logId
      ledgerRef := context.ledgerRef
      startedAt := context.startedAt
      finishedAt := context.finishedAt
      durationMs := context.durationMs
      commandKind := .taskledgerCli
      argv := c.argv
      commandLine := if c.argv = [] then "taskledger" else shlexJoin c.argv
      cwd := context.cwd
      exitCode := some (r.exitCode.getD (if finishedStatus r = .succeeded then 0 else 1))
      status := finishedStatus r
      taskId := r.taskId
      runId := r.runId
      runType := r.runType
      activeStage := r.activeStage
      actor := r.actor
      harness := r.harness.or context.harnessState
      jsonOutput := c.jsonOutput
      operationName := r.operationName
      visibleStdoutRef := stdoutRef
      visibleStderrRef := stderrRef
      visibleCombinedRef := combinedRef
      visibleStdoutExcerpt := stdoutExcerpt
      visibleStderrExcerpt := stderrExcerpt
      visibleCombinedExcerpt := combinedExcerpt
      payloadRef := r.payloadRef
      payloadKind := r.payloadKind
      errorCode := r.errorCode
      errorSummary := r.errorSummary
      redactionsApplied := stderr.2 } logs

/-- A recorded call, from its first note to `finish`. -/
def recordCall (s : Ledger) (c : RecordedCall) (logs : AgentLogs) : AgentLogs :=
  let noted := c.notes.foldl (note config context s) ({}, logs)
  finish config context c noted.1 noted.2

end Taskledger
