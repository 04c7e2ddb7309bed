import Taskledger.Domain.Errors
import Taskledger.Library.Effect
import Taskledger.Library.Toml

/-!
# The ledger configuration

Four keys of the project configuration name the ledger in use. They are read from the parsed
TOML, and written by editing its lines.
-/

namespace Taskledger

open Library

-- ════════════════════════════════════════════════════════════════════════
-- Records
-- ════════════════════════════════════════════════════════════════════════

/-- `ledger_next_task_number`: a positive integer, or `True`, which counts as the integer one. -/
inductive TaskNumber
  | int (n : Nat)
  | true
  deriving DecidableEq

/-- `str(number)`. -/
def TaskNumber.text : TaskNumber → String
  | int n => Nat.repr n
  | true => "True"

structure LedgerConfig where
  ref : String := "main"
  parentRef : Option String := none
  nextTaskNumber : TaskNumber := .int 1
  branchGuard : String := "off"
  deriving DecidableEq

structure LedgerConfigPatch where
  ref : Option String := none
  parentRef : Option String := none
  nextTaskNumber : Option Int := none
  branchGuard : Option String := none

/-- `LEDGER_REF_PATTERN.match`; `$` also matches before a last line end. -/
def matchesRefPattern (s : String) : Bool :=
  let chars := if Text.endsWith s "\n" then s.toList.dropLast else s.toList
  !chars.isEmpty && chars.all fun c => c.isAlphanum || c ∈ ['.', '_', '-']

/-- `validate_ledger_ref`. -/
def validateLedgerRef (s : String) : Except Raised Unit := do
  raiseIf (s = "") (launchError "ledger_ref must be a non-empty string.")
  raiseIf (80 < s.length) (launchError "ledger_ref must be at most 80 characters.")
  raiseIf (matchesRefPattern s = false)
    (launchError "ledger_ref may only contain a-z, A-Z, 0-9, '.', '_', '-'.")
  raiseIf (Text.contains ".." s = true) (launchError "ledger_ref must not contain '..'.")
  raiseIf (Text.contains "/" s ∨ Text.contains "\\" s)
    (launchError "ledger_ref must not contain path separators.")

-- ════════════════════════════════════════════════════════════════════════
-- Reading
-- ════════════════════════════════════════════════════════════════════════

def branchGuards : List String := ["off", "warn", "error"]

/-- `ledger_ref` of `_ledger_config_from_dict`. -/
def ledgerRefOf : Option Value → Except Raised String
  | none | some .null => .ok "main"
  | some (.str ref) => do
    validateLedgerRef ref
    return ref
  | some _ => .error (launchError "ledger_ref must be a string.")

def ledgerParentRefOf : Option Value → Except Raised (Option String)
  | none | some .null => .ok none
  | some (.str ref) => .ok (if ref = "" then none else some ref)
  | some _ => .error (launchError "ledger_parent_ref must be a string.")

def notPositive : Raised := launchError "ledger_next_task_number must be a positive integer."

def ledgerNextTaskNumberOf : Option Value → Except Raised TaskNumber
  | none | some .null => .ok (.int 1)
  | some (.int i) => if i < 1 then .error notPositive else .ok (.int i.toNat)
  | some (.bool true) => .ok .true
  | some _ => .error notPositive

def notAGuard : Raised := launchError "ledger_branch_guard must be one of: off, warn, error."

def ledgerBranchGuardOf : Option Value → Except Raised String
  | none | some .null => .ok "off"
  | some (.str guard) => if guard ∈ branchGuards then .ok guard else .error notAGuard
  | some _ => .error notAGuard

/-- `_ledger_config_from_dict`. -/
def ledgerConfigFromDict (data : TomlDocument) : Except Raised LedgerConfig := do
  let ref ← ledgerRefOf (data.get? "ledger_ref")
  let parentRef ← ledgerParentRefOf (data.get? "ledger_parent_ref")
  let nextTaskNumber ← ledgerNextTaskNumberOf (data.get? "ledger_next_task_number")
  let branchGuard ← ledgerBranchGuardOf (data.get? "ledger_branch_guard")
  return {
    ref := ref
    parentRef := parentRef
    nextTaskNumber := nextTaskNumber
    branchGuard := branchGuard }

variable [TomlReader]

/-- `config_path.read_text(encoding="utf-8").strip()`. -/
def configText (file : String) : String := Text.strip (Text.normalizeNewlines file)

/-- `load_ledger_config`; `file` is the content of `path`, when it exists. -/
def loadLedgerConfig (path : String) : Option String → Except Raised LedgerConfig
  | none => .ok {}
  | some file =>
    if configText file = "" then .ok {}
    else match readToml (configText file) with
      | some data => ledgerConfigFromDict data
      | none =>
        .error (launchError ("Invalid project config " ++ path ++ ": "
          ++ TomlReader.reason (configText file)))

-- ════════════════════════════════════════════════════════════════════════
-- Writing
-- ════════════════════════════════════════════════════════════════════════

/-- `is_toml_key_line`. -/
def isTomlKeyLine (line key : String) : Bool :=
  let rest := (Text.strip line).toList.drop key.length
  Text.startsWith (Text.strip line) key && !rest.isEmpty
    && (rest.dropWhile Text.isSpace).head? = some '='

/-- The keys of `keys_to_set`, in the order they are appended. -/
def ledgerKeys : List String :=
  ["ledger_ref", "ledger_parent_ref", "ledger_next_task_number", "ledger_branch_guard"]

/-- The key that a line assigns, as `_apply_ledger_patch` sees it. -/
def keyOfLine (line : String) : Option String :=
  ledgerKeys.find? fun key =>
    Text.startsWith (Text.strip line) key && isTomlKeyLine (Text.strip line) key

/-- The value of a key as it is written. -/
def formattedValue (config : LedgerConfig) (key : String) : String :=
  if key = "ledger_next_task_number" then config.nextTaskNumber.text
  else
    "\"" ++ (if key = "ledger_ref" then config.ref
      else if key = "ledger_parent_ref" then config.parentRef.getD ""
      else config.branchGuard) ++ "\""

def ledgerLine (config : LedgerConfig) (key : String) : String :=
  key ++ " = " ++ formattedValue config key

/-- The line as it is written. -/
def editLine (config : LedgerConfig) (line : String) : String :=
  match keyOfLine line with
  | some key => ledgerLine config key
  | none => line

/-- The keys that no line assigns. -/
def missingKeys (lines : List String) : List String :=
  ledgerKeys.filter fun key => key ∉ lines.filterMap keyOfLine

def ledgerBlockComment : String :=
  "# Taskledger branch-scoped state. This block is intentionally safe to commit."

/-- The lines that are appended for the missing keys. -/
def ledgerBlock (config : LedgerConfig) (lines missing : List String) : List String :=
  if missing = [] then []
  else
    (if lines.getLast?.any fun line => !Text.isBlank line then [""] else [])
      ++ [ledgerBlockComment] ++ missing.map (ledgerLine config)

/-- The lines of a text; an empty text has none. -/
def configLines (text : String) : List String :=
  if text = "" then [] else Text.splitOn '\n' text

/-- `join_toml_lines`. -/
def joinTomlLines (lines : List String) : String :=
  let result := Text.join "\n" lines
  if result ≠ "" ∧ ¬ Text.endsWith result "\n" then result ++ "\n" else result

/-- `_apply_ledger_patch`, with the values of a configuration. -/
def applyLedgerPatch (text : String) (config : LedgerConfig) : String :=
  let edited := (configLines text).map (editLine config)
  joinTomlLines (edited ++ ledgerBlock config edited (missingKeys (configLines text)))

/-- The check of a given ref. -/
def checkPatchRef : Option String → Except Raised Unit
  | some ref => validateLedgerRef ref
  | none => .ok ()

/-- The checks of `update_ledger_config` on the patch. -/
def checkPatch (patch : LedgerConfigPatch) : Except Raised Unit := do
  checkPatchRef patch.ref
  raiseIf (patch.nextTaskNumber.any fun n => n < 1) notPositive
  raiseIf (patch.branchGuard.any fun guard => guard ∉ branchGuards) notAGuard

/-- The configuration after a patch. -/
def patchedConfig (current : LedgerConfig) (patch : LedgerConfigPatch) : LedgerConfig where
  ref := patch.ref.getD current.ref
  parentRef :=
    let parent := patch.parentRef.getD (current.parentRef.getD "")
    if parent = "" then none else some parent
  nextTaskNumber := (patch.nextTaskNumber.map fun n => .int n.toNat).getD current.nextTaskNumber
  branchGuard := patch.branchGuard.getD current.branchGuard

/-- The configuration that `update_ledger_config` starts from. -/
def currentConfig (text : String) : Except Raised LedgerConfig :=
  if text = "" then ledgerConfigFromDict .empty
  else match readToml text with
    | some data => ledgerConfigFromDict data
    | none => .error (.python "TOMLDecodeError" (TomlReader.reason text))

/-- `update_ledger_config`: the text it writes and the configuration it returns. -/
def updateLedgerConfig (file : Option String) (patch : LedgerConfigPatch) :
    Except Raised (String × LedgerConfig) := do
  let text := configText (file.getD "")
  checkPatch patch
  let current ← currentConfig text
  let config := patchedConfig current patch
  return (applyLedgerPatch text config, config)

end Taskledger
