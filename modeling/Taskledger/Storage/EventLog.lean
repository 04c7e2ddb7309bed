import Mathlib.Data.Prod.Lex
import Mathlib.Data.String.Basic
import Taskledger.Domain.FromDict
import Taskledger.Library.Directory
import Taskledger.Library.Lines
import Taskledger.Library.Tails
import Taskledger.Storage.TaskStore

/-!
# The event log

Events are appended to a file for each day, as lines of JSON. All of them are read in the order
of the files and then sorted; the recent ones are read from the last line backwards.
-/

namespace Taskledger

open Library

/-- JSON, as far as event logs use it. -/
class EventJson where
  /-- `json.loads`, or the text of its error. -/
  loads : String → Except String Value
  /-- `json.dumps(payload, sort_keys=True)`. -/
  dumps : Dict → String
  dumps_ne_blank : ∀ d, Text.isBlank (dumps d) = false
  dumps_line : ∀ d, ∀ c ∈ (dumps d).toList, Text.isLineBreak c = false
  /-- Texts come back under their keys. -/
  loads_dumps : ∀ d, ∃ d', loads (dumps d) = .ok (.dict d') ∧
    ∀ key s, Dict.get d key = .str s → Dict.get d' key = .str s

/-- A file of the log. -/
structure LogFile where
  name : String
  text : String

/-- The directory of the event logs; a directory that is missing has no files. -/
abbrev EventsDir : Type := Directory LogFile.name

namespace EventLog

variable [Runtime] [EventJson] (now eventsDir : String)

-- ════════════════════════════════════════════════════════════════════════
-- Writing
-- ════════════════════════════════════════════════════════════════════════

/-- The name of `event_log_path`. -/
def eventLogPath (timestamp : String) : String :=
  String.ofList (timestamp.toList.take 10) ++ ".ndjson"

/-- The text of a file, empty when there is none. -/
def textOf (dir : EventsDir) (name : String) : String :=
  ((dir.lookup name).map LogFile.text).getD ""

/-- `append_event`. -/
def appendEvent (dir : EventsDir) (event : TaskEvent) : EventsDir :=
  dir.save {
    name := eventLogPath event.ts
    text := textOf dir (eventLogPath event.ts) ++ EventJson.dumps event.toDict ++ "\n" }

-- ════════════════════════════════════════════════════════════════════════
-- Reading
-- ════════════════════════════════════════════════════════════════════════

def unreadable (name reason : String) : Raised :=
  launchError ("Failed to read event log " ++ eventsDir ++ "/" ++ name ++ ": " ++ reason)

/-- The event of a line; what is no mapping is passed over. -/
def readLine (name line : String) : Except Raised (Option TaskEvent) :=
  match EventJson.loads line with
  | .error reason => .error (unreadable eventsDir name reason)
  | .ok (.dict payload) => some <$> TaskEvent.fromDict now payload
  | .ok _ => .ok none

/-- The lines of one file; `events` are those read so far. -/
def loadLines (name : String) (events : List TaskEvent) :
    List String → Except Raised (List TaskEvent)
  | [] => .ok events
  | line :: rest =>
    if Text.isBlank line then loadLines name events rest
    else do
      match ← readLine now eventsDir name line with
      | none => loadLines name events rest
      | some event =>
        raiseIf (event.eventId ∈ events.map TaskEvent.eventId)
          (launchError ("Duplicate event id detected: " ++ event.eventId))
        loadLines name (events ++ [event]) rest

def loadFiles (events : List TaskEvent) : List LogFile → Except Raised (List TaskEvent)
  | [] => .ok events
  | file :: rest => do
    let events ← loadLines now eventsDir file.name events (Text.splitlines file.text)
    loadFiles events rest

/-- The key of the sorting. -/
def key (event : TaskEvent) : String ×ₗ String := toLex (event.ts, event.eventId)

/-- The events as they stand in the files, from the first file on. -/
def loggedEvents (dir : EventsDir) : Except Raised (List TaskEvent) :=
  loadFiles now eventsDir [] (sortedBy LogFile.name dir.files)

/-- `load_events`. -/
def loadEvents (dir : EventsDir) : Except Raised (List TaskEvent) := do
  let events ← loggedEvents now eventsDir dir
  return events.insertionSort fun a b => key a ≤ key b

/-- The lines of one file from behind; `found` are the events found so far, the latest first. -/
def recentLines (taskId : Option String) (limit : Nat) (name : String) (found : List TaskEvent) :
    List String → Except Raised (List TaskEvent)
  | [] => .ok found
  | line :: rest =>
    if Text.isBlank line then recentLines taskId limit name found rest
    else do
      match ← readLine now eventsDir name line with
      | none => recentLines taskId limit name found rest
      | some event =>
        if taskId.any (· ≠ event.taskId) then recentLines taskId limit name found rest
        else if limit ≤ (found ++ [event]).length then return found ++ [event]
        else recentLines taskId limit name (found ++ [event]) rest

def recentFiles (taskId : Option String) (limit : Nat) (found : List TaskEvent) :
    List LogFile → Except Raised (List TaskEvent)
  | [] => .ok found
  | file :: rest => do
    let found ← recentLines now eventsDir taskId limit file.name found
      (Text.splitlines file.text).reverse
    if limit ≤ found.length then return found
    recentFiles taskId limit found rest

/-- `load_recent_events`. -/
def loadRecentEvents (dir : EventsDir) (taskId : Option String) (limit : Int) :
    Except Raised (List TaskEvent) :=
  if limit ≤ 0 then .ok []
  else do
    let found ← recentFiles now eventsDir taskId limit.toNat []
      (sortedBy LogFile.name dir.files).reverse
    return found.reverse

end EventLog

end Taskledger
