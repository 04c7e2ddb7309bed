import Taskledger.Services.AgentLogging
import Taskledger.PlainRuntime
import Mathlib.Data.List.Forall2
import Mathlib.Logic.Relation

/-!
# Redaction of the agent logs

Two commands that differ only inside what the redact patterns match should leave the same
record and the same artifacts. The outputs and the payloads of a command pass through
the patterns, one after the other, and one of them can take away what a later one would match.
Its arguments and its error do not pass through any.
-/

namespace Taskledger

open Library

section Redaction

variable [LogRuntime] {config : AgentLoggingConfig}

-- ════════════════════════════════════════════════════════════════════════
-- The patterns
-- ════════════════════════════════════════════════════════════════════════

/-- A list with a pattern that it may have already. -/
def addOne (applied : List String) (p : String) : List String :=
  if p ∈ applied then applied else applied ++ [p]

/-- A list with the patterns of another that it does not have yet. -/
def addNew (applied new : List String) : List String := new.foldl addOne applied

omit [LogRuntime] in
theorem mem_addOne {applied : List String} {p q : String} :
    q ∈ addOne applied p ↔ q ∈ applied ∨ q = p := by
  unfold addOne
  split <;> simp_all

omit [LogRuntime] in
theorem mem_addNew {applied new : List String} {p : String} (h : p ∈ applied ∨ p ∈ new) :
    p ∈ addNew applied new := by
  induction new generalizing applied with
  | nil => simpa [addNew] using h
  | cons q rest ih =>
    refine ih ?_
    rw [mem_addOne]
    rcases h with h | h
    · exact .inl (.inl h)
    · rcases List.mem_cons.1 h with rfl | h
      · exact .inl (.inr rfl)
      · exact .inr h

omit [LogRuntime] in
theorem addNew_addOne (before applied : List String) (p : String) :
    addNew before (addOne applied p) = addOne (addNew before applied) p := by
  by_cases hp : p ∈ applied
  · rw [addOne, if_pos hp, addOne, if_pos (mem_addNew (.inr hp))]
  · rw [addOne, if_neg hp, addNew, List.foldl_append]
    rfl

theorem redactOne_eq (state : String × List String) (p : String) :
    redactOne state p = (LogRuntime.reSub p "[REDACTED]" state.1,
      if LogRuntime.reSub p "[REDACTED]" state.1 = state.1 then state.2
      else addOne state.2 p) := by
  by_cases hsame : LogRuntime.reSub p "[REDACTED]" state.1 = state.1
  · simp [redactOne, hsame]
  · by_cases hp : p ∈ state.2
    · simp [redactOne, addOne, hsame, hp]
    · simp [redactOne, addOne, hsame, hp]

omit [LogRuntime] in
theorem addNew_addNew (before applied new : List String) :
    addNew before (addNew applied new) = addNew (addNew before applied) new := by
  induction new generalizing applied with
  | nil => rfl
  | cons q rest ih =>
    have h := ih (addOne applied q)
    rwa [addNew_addOne] at h

/-- Whatever plain text replaces what the pattern matches, the two texts become the same. -/
def SameOutside (p x y : String) : Prop :=
  ∀ r : String, '\\' ∉ r.toList → LogRuntime.reSub p r x = LogRuntime.reSub p r y

/-- Two texts differ only inside what the patterns match, here in one pattern's matches, there in
another's. -/
def DiffersInMatches (patterns : List String) : String → String → Prop :=
  Relation.ReflTransGen fun x y => ∃ p ∈ patterns, SameOutside p x y

/-- The text that patterns leave, one after the other. -/
def leftBy (patterns : List String) (text : String) : String :=
  patterns.foldl (fun left p => LogRuntime.reSub p "[REDACTED]" left) text

/-- The patterns that replace something when it is their turn. -/
def hitting : List String → String → List String
  | [], _ => []
  | p :: rest, text =>
    let left := LogRuntime.reSub p "[REDACTED]" text
    if left = text then hitting rest left else p :: hitting rest left

/-- Each of these patterns once. -/
def hitPatterns (patterns : List String) (text : String) : List String :=
  addNew [] (hitting patterns text)

/-- No pattern gets in another's way: one after the other they leave the same of two texts, and
the same ones replace something. -/
structure RedactedSame (patterns : List String) (x y : String) : Prop where
  left : leftBy patterns x = leftBy patterns y
  hits : hitPatterns patterns x = hitPatterns patterns y

theorem RedactedSame.refl (patterns : List String) (x : String) : RedactedSame patterns x x :=
  ⟨rfl, rfl⟩

theorem applyRedactions_eq (patterns applied : List String) (text : String) :
    applyRedactions patterns applied text =
      (leftBy patterns text, addNew applied (hitting patterns text)) := by
  induction patterns generalizing applied text with
  | nil => rfl
  | cons p rest ih =>
    simp only [applyRedactions, List.foldl_cons, redactOne_eq] at ih ⊢
    rw [ih, hitting]
    split <;> rfl

theorem RedactedSame.apply {patterns applied : List String} {x y : String}
    (h : RedactedSame patterns x y) :
    applyRedactions patterns applied x = applyRedactions patterns applied y := by
  have hhits : addNew applied (hitting patterns x) = addNew applied (hitting patterns y) := by
    have hx := addNew_addNew applied [] (hitting patterns x)
    have hy := addNew_addNew applied [] (hitting patterns y)
    exact hx.symm.trans ((congrArg (addNew applied) h.hits).trans hy)
  rw [applyRedactions_eq, applyRedactions_eq, h.left, hhits]

/-- Argument lists that differ only inside matches of an argument or of the command line. -/
def ArgvDiffersInMatches (patterns argv argv' : List String) : Prop :=
  List.Forall₂ (DiffersInMatches patterns) argv argv' ∨
    DiffersInMatches patterns (shlexJoin argv) (shlexJoin argv')

-- ════════════════════════════════════════════════════════════════════════
-- Logged commands
-- ════════════════════════════════════════════════════════════════════════

/-- Notes that differ only inside matches. -/
def Note.DiffersInMatches (patterns : List String) : Note → Note → Prop
  | .task taskId, .task taskId' => taskId = taskId'
  | .payload p name, .payload q name' =>
    Taskledger.DiffersInMatches patterns (LogRuntime.dumpIndented p ++ "\n")
      (LogRuntime.dumpIndented q ++ "\n") ∧ taskIdFromValue p = taskIdFromValue q ∧ name = name'
  | .error text code exitCode, .error text' code' exitCode' =>
    Taskledger.DiffersInMatches patterns text text' ∧ code = code' ∧ exitCode = exitCode'
  | _, _ => False

/-- The text of a payload is redacted to the same. -/
def Note.RedactedSame (patterns : List String) : Note → Note → Prop
  | .payload p _, .payload q _ =>
    Taskledger.RedactedSame patterns (LogRuntime.dumpIndented p ++ "\n")
      (LogRuntime.dumpIndented q ++ "\n")
  | _, _ => True

/-- What one note says. -/
def Note.says (said : Option String × Option String) : Note → Option String × Option String
  | .task _ => said
  | .payload p _ => (said.1, some (payloadKindOf p))
  | .error text _ _ => (some text, said.2)

/-- A command of the agent: a call of the program, or a command the program ran. -/
inductive LoggedCommand where
  | call (c : RecordedCall)
  | managed (c : ManagedCommand)

namespace LoggedCommand

def argv : LoggedCommand → List String
  | call c => c.argv
  | managed c => c.argv

def stdout : LoggedCommand → String
  | call c => c.stdout
  | managed c => c.stdout

def stderr : LoggedCommand → String
  | call c => c.stderr
  | managed c => c.stderr

/-- The text of the last error and the kind of the last payload that a command notes. -/
def said : LoggedCommand → Option String × Option String
  | call c => c.notes.foldl Note.says (none, none)
  | managed _ => (none, none)

/-- The logs with the command. -/
def log (config : AgentLoggingConfig) (context : LogContext) (s : Ledger) (logs : AgentLogs) :
    LoggedCommand → AgentLogs
  | call c => recordCall config context s c logs
  | managed c => recordManagedShellCommand config context c logs

/-- Commands that differ only inside what the patterns match. -/
def DiffersInMatches (patterns : List String) : LoggedCommand → LoggedCommand → Prop
  | call c, call c' =>
    ArgvDiffersInMatches patterns c.argv c'.argv ∧ c.jsonOutput = c'.jsonOutput ∧
      List.Forall₂ (Note.DiffersInMatches patterns) c.notes c'.notes ∧
      Taskledger.DiffersInMatches patterns c.stdout c'.stdout ∧
      Taskledger.DiffersInMatches patterns c.stderr c'.stderr
  | managed c, managed c' =>
    ArgvDiffersInMatches patterns c.argv c'.argv ∧ c.taskId = c'.taskId ∧ c.runId = c'.runId ∧
      c.runType = c'.runType ∧ c.exitCode = c'.exitCode ∧
      Taskledger.DiffersInMatches patterns c.stdout c'.stdout ∧
      Taskledger.DiffersInMatches patterns c.stderr c'.stderr
  | _, _ => False

/-- The texts of the commands are redacted to the same. -/
def RedactedSame (patterns : List String) : LoggedCommand → LoggedCommand → Prop
  | call c, call c' =>
    List.Forall₂ (Note.RedactedSame patterns) c.notes c'.notes ∧
      Taskledger.RedactedSame patterns c.stdout c'.stdout ∧
      Taskledger.RedactedSame patterns c.stderr c'.stderr
  | managed c, managed c' =>
    leftBy patterns c.stdout = leftBy patterns c'.stdout ∧
      leftBy patterns c.stderr = leftBy patterns c'.stderr ∧
      hitPatterns patterns c.stdout ++ hitPatterns patterns c.stderr =
        hitPatterns patterns c'.stdout ++ hitPatterns patterns c'.stderr
  | _, _ => False

end LoggedCommand

/-- Recorders that differ in the kind of the payload and the text of the error only. -/
def AgentCommandRecorder.Agrees (r r' : AgentCommandRecorder) : Prop :=
  ∃ kind error, r' = { r with payloadKind := kind, errorSummary := error } ∧
    error.isSome = r.errorSummary.isSome

variable {s : Ledger} {r r' : AgentCommandRecorder} {context : LogContext} {logs : AgentLogs}

omit [LogRuntime] in
theorem AgentCommandRecorder.Agrees.noteTask (h : r.Agrees r') (taskId : String) :
    (noteTask s taskId r).1.Agrees (noteTask s taskId r').1 ∧
      (Taskledger.noteTask s taskId r).2 = (Taskledger.noteTask s taskId r').2 := by
  obtain ⟨kind, error, rfl, herror⟩ := h
  unfold Taskledger.noteTask
  split <;> exact ⟨⟨kind, error, rfl, herror⟩, rfl⟩

omit [LogRuntime] in
theorem AgentCommandRecorder.Agrees.notePayloadTask (h : r.Agrees r') {p q : Value}
    (htask : taskIdFromValue p = taskIdFromValue q) :
    (notePayloadTask s p r).1.Agrees (notePayloadTask s q r').1 ∧
      (Taskledger.notePayloadTask s p r).2 = (Taskledger.notePayloadTask s q r').2 := by
  have hid : r'.taskId = r.taskId := by
    obtain ⟨kind, error, rfl, -⟩ := h
    rfl
  unfold Taskledger.notePayloadTask
  rw [← htask, hid]
  split
  · exact h.noteTask _
  · exact ⟨h, rfl⟩

theorem AgentCommandRecorder.Agrees.notePayloadText (h : r.Agrees r') {p q : Value}
    (htext : RedactedSame config.redactPatterns (LogRuntime.dumpIndented p ++ "\n")
      (LogRuntime.dumpIndented q ++ "\n")) :
    (notePayloadText config context p r logs).1.Agrees
        (notePayloadText config context q r' logs).1 ∧
      (Taskledger.notePayloadText config context p r logs).2 =
        (Taskledger.notePayloadText config context q r' logs).2 := by
  obtain ⟨kind, error, rfl, herror⟩ := h
  unfold Taskledger.notePayloadText
  rw [htext.apply]
  dsimp only
  split
  · exact ⟨⟨kind, error, rfl, herror⟩, rfl⟩
  · split <;> exact ⟨⟨kind, error, rfl, herror⟩, rfl⟩

/-- A note keeps the recorders of two commands in agreement, and the logs the same. -/
theorem AgentCommandRecorder.Agrees.note (h : r.Agrees r') {n n' : Note}
    (hn : n.DiffersInMatches config.redactPatterns n')
    (hsame : n.RedactedSame config.redactPatterns n') :
    (note config context s (r, logs) n).1.Agrees (note config context s (r', logs) n').1 ∧
      (Taskledger.note config context s (r, logs) n).2 =
        (Taskledger.note config context s (r', logs) n').2 := by
  cases n with
  | task taskId =>
    cases n' with
    | task taskId' =>
      cases (show taskId = taskId' from hn)
      exact ⟨(h.noteTask taskId).1, rfl⟩
    | payload _ _ => exact hn.elim
    | error _ _ _ => exact hn.elim
  | payload p name =>
    cases n' with
    | task _ => exact hn.elim
    | error _ _ _ => exact hn.elim
    | payload q name' =>
      obtain ⟨-, htask, rfl⟩ := hn
      have hnamed : { r with
            operationName := orOption name r.operationName
            payloadKind := some (payloadKindOf p) : AgentCommandRecorder }.Agrees { r' with
            operationName := orOption name r'.operationName
            payloadKind := some (payloadKindOf q) } := by
        obtain ⟨kind, error, rfl, herror⟩ := h
        exact ⟨some (payloadKindOf q), error, rfl, herror⟩
      obtain ⟨hagrees, houtcome⟩ := hnamed.notePayloadTask (s := s) htask
      simp only [Taskledger.note]
      generalize Taskledger.notePayloadTask s p _ = x at hagrees houtcome ⊢
      generalize Taskledger.notePayloadTask s q _ = y at hagrees houtcome ⊢
      obtain ⟨noted, outcome⟩ := x
      obtain ⟨noted', outcome'⟩ := y
      cases (show outcome = outcome' from houtcome)
      cases outcome with
      | error e => exact ⟨hagrees, rfl⟩
      | ok _ =>
        have hdone : { noted with status := .succeeded, exitCode := some 0 :
            AgentCommandRecorder }.Agrees { noted' with status := .succeeded, exitCode := some 0 } := by
          obtain ⟨kind, error, hsame, herror⟩ := hagrees
          cases (show noted' = _ from hsame)
          exact ⟨kind, error, rfl, herror⟩
        exact hdone.notePayloadText hsame
  | error text code exitCode =>
    cases n' with
    | task _ => exact hn.elim
    | payload _ _ => exact hn.elim
    | error text' code' exitCode' =>
      obtain ⟨-, rfl, rfl⟩ := hn
      obtain ⟨kind, error, rfl, -⟩ := h
      exact ⟨⟨kind, some text', rfl, rfl⟩, rfl⟩

/-- The notes of a call keep the recorders in agreement. -/
theorem AgentCommandRecorder.Agrees.notes (h : r.Agrees r') {notes notes' : List Note}
    (hn : List.Forall₂ (Note.DiffersInMatches config.redactPatterns) notes notes')
    (hsame : List.Forall₂ (Note.RedactedSame config.redactPatterns) notes notes') :
    (notes.foldl (Taskledger.note config context s) (r, logs)).1.Agrees
        (notes'.foldl (Taskledger.note config context s) (r', logs)).1 ∧
      (notes.foldl (Taskledger.note config context s) (r, logs)).2 =
        (notes'.foldl (Taskledger.note config context s) (r', logs)).2 := by
  induction hn generalizing r r' logs with
  | nil => exact ⟨h, rfl⟩
  | @cons n n' _ _ hone _ ih =>
    obtain ⟨hfirst, hrest⟩ := List.forall₂_cons.1 hsame
    obtain ⟨hagrees, hlogs⟩ := @note _ config s r r' context logs h n n' hone hfirst
    simp only [List.foldl_cons]
    generalize Taskledger.note config context s (r, logs) n = x at hagrees hlogs ⊢
    generalize Taskledger.note config context s (r', logs) n' = y at hagrees hlogs ⊢
    obtain ⟨noted, after⟩ := x
    obtain ⟨noted', after'⟩ := y
    cases (show after = after' from hlogs)
    exact ih hagrees hrest

/-- What a record says of errors and payloads, as far as the calls tell it. -/
def AgentCommandRecorder.said (r : AgentCommandRecorder) : Option String × Option String :=
  (r.errorSummary, r.payloadKind)

section Artifacts

variable {logId suffix suffix' content : String} {enabled : Bool}

end Artifacts

end Redaction

section Evaluation

/-- The pattern `token=\S+` replaced; `inMatch` says that the last character was matched. -/
def replaceTokens (replacement : String) (inMatch : Bool) : List Char → List Char
  | [] => []
  | c :: cs =>
    if inMatch && !Text.isSpace c then replaceTokens replacement true cs
    else if "token=".toList.isPrefixOf (c :: cs) &&
        ((c :: cs).drop 6).head?.any fun d => !Text.isSpace d then
      replacement.toList ++ replaceTokens replacement true cs
    else c :: replaceTokens replacement false cs

/-- The pattern `token` replaced; `left` characters of the last match are still to come. -/
def replaceWords (replacement : String) (left : Nat) : List Char → List Char
  | [] => []
  | c :: cs =>
    if 0 < left then replaceWords replacement (left - 1) cs
    else if "token".toList.isPrefixOf (c :: cs) then
      replacement.toList ++ replaceWords replacement 4 cs
    else c :: replaceWords replacement 0 cs

/-- A library that knows two patterns. -/
@[reducible]
def tokenRuntime : LogRuntime where
  reSub pattern replacement text :=
    if pattern = "token=\\S+" then String.ofList (replaceTokens replacement false text.toList)
    else if pattern = "token" then String.ofList (replaceWords replacement 0 text.toList)
    else text
  dumpIndented _ := "{}"

attribute [local instance] tokenRuntime

end Evaluation

end Taskledger
