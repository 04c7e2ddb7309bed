import Taskledger.Domain.States

/-!
# Actors and harnesses

Every record kind has `toDict`, the mapping written to its file, and `reload`,
what reading that file back gives: the refusals and defaults of `from_dict`
on the written mapping.
-/

namespace Taskledger

open Library

/-- `_string_value(data, key)` on a written string: empty ones are refused. -/
def requireString (key text : String) : Except Raised Unit :=
  raiseIf (text = "") (launchError ("Missing or invalid '" ++ key ++ "' value."))

/-- `a or b` on optional strings. -/
def orOption : Option String → Option String → Option String
  | none, b => b
  | some a, b => if a = "" then b else some a

structure ActorRef where
  actorType : ActorType := .agent
  actorName : String := "taskledger"
  tool : Option String := none
  sessionId : Option String := none
  host : Option String := none
  pid : Option Nat := none
  actorId : Option String := none
  role : Option ActorRole := none
  harnessId : Option String := none
  commandPid : Option Nat := none
  pidScope : Option PidScope := none
  deriving DecidableEq

namespace ActorRef

def toDict (a : ActorRef) : Dict :=
  [("actor_type", .str (value a.actorType)),
    ("actor_name", .str a.actorName),
    ("tool", .ofOption a.tool),
    ("session_id", .ofOption a.sessionId),
    ("host", .ofOption a.host),
    ("pid", .ofNat? a.pid),
    ("actor_id", .ofOption a.actorId),
    ("role", .ofOption (a.role.map value)),
    ("harness_id", .ofOption a.harnessId),
    ("command_pid", .ofNat? a.commandPid),
    ("pid_scope", .ofOption (a.pidScope.map value))]

/-- An empty name reads back as the default name. -/
def reload (a : ActorRef) : ActorRef :=
  { a with actorName := Text.orElse a.actorName "taskledger" }

end ActorRef

structure HarnessRef where
  harnessId : String
  name : String
  kind : HarnessKind := .unknown
  sessionId : Option String := none
  workingDirectory : Option String := none
  command : Option String := none
  version : Option String := none
  capabilities : List String := []
  createdAt : String
  deriving DecidableEq

namespace HarnessRef

def toDict (h : HarnessRef) : Dict :=
  [("harness_id", .str h.harnessId),
    ("name", .str h.name),
    ("kind", .str (value h.kind)),
    ("session_id", .ofOption h.sessionId),
    ("working_directory", .ofOption h.workingDirectory),
    ("command", .ofOption h.command),
    ("version", .ofOption h.version),
    ("capabilities", .ofStrings h.capabilities),
    ("created_at", .str h.createdAt),
    ("schema_version", .int 1),
    ("object_type", .str "harness")]

def reload (h : HarnessRef) : Except Raised HarnessRef := do
  requireString "harness_id" h.harnessId
  requireString "name" h.name
  return h

/-- `HarnessRef.from_dict(data) if data is not None else None`. -/
def reload? : Option HarnessRef → Except Raised (Option HarnessRef)
  | none => .ok none
  | some h => do
    let harness ← h.reload
    return some harness

end HarnessRef

/-- A harness as `resolve_harness` and `default_harness` make it: every branch of
theirs gives an id and a name. -/
structure NamedHarness extends HarnessRef where
  harnessId_ne : harnessId ≠ ""
  name_ne : name ≠ ""

theorem NamedHarness.reload_eq (h : NamedHarness) : h.toHarnessRef.reload = .ok h.toHarnessRef := by
  simp [HarnessRef.reload, requireString, raiseIf, h.harnessId_ne, h.name_ne]
  rfl

/-- A named harness is read back as it was written. -/
theorem NamedHarness.reload?_eq (h : Option NamedHarness) :
    HarnessRef.reload? (h.map NamedHarness.toHarnessRef) =
      .ok (h.map NamedHarness.toHarnessRef) := by
  cases h with
  | none => rfl
  | some h =>
    show (h.toHarnessRef.reload >>= fun r => .ok (some r)) = _
    rw [h.reload_eq]
    rfl

end Taskledger
