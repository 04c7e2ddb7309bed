import Taskledger.Library.PlainData

/-!
# Errors
-/

namespace Taskledger

open Library

/-- A `LaunchError` with the attributes the services set on it. -/
structure LaunchError where
  message : String
  exitCode : Nat := 1
  errorCode : String := "LAUNCH_ERROR"
  errorType : String := "LaunchError"
  remediation : List String := []
  data : Dict := []

/-- What a computation raises: a `LaunchError`, or another Python exception. -/
inductive Raised where
  | launch (e : LaunchError)
  | python (exception message : String)

/-- `raise LaunchError(message)`. -/
def launchError (message : String) : Raised :=
  .launch { message := message, data := [("code", .str "LAUNCH_ERROR"), ("message", .str message)] }

/-- `_cli_error(message, exit_code)`. -/
def cliError (message : String) (exitCode : Nat) : Raised :=
  .launch
    { message := message
      exitCode := exitCode
      data := [("code", .str "LAUNCH_ERROR"), ("message", .str message)] }

def exitCodeBadInput : Nat := 2
def exitCodeWorkflowRejection : Nat := 3
def exitCodeLockConflict : Nat := 4
def exitCodeMissing : Nat := 5
def exitCodeStorageError : Nat := 6
def exitCodeValidationFailed : Nat := 7
def exitCodeInvalidTransition : Nat := exitCodeWorkflowRejection
def exitCodeApprovalRequired : Nat := exitCodeWorkflowRejection
def exitCodeDependencyBlocked : Nat := exitCodeWorkflowRejection
def exitCodeStaleLockRequiresBreak : Nat := exitCodeLockConflict

end Taskledger
