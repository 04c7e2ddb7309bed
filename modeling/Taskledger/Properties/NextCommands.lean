import Taskledger.Properties.Atomicity
import Taskledger.Services.NextAction

/-!
# The next command and the primary command

Outside two recoveries the command a payload names is the one primary entry of its list.
-/

namespace Taskledger

open Library

/-- The primary entries of a list of commands. -/
def primaries (commands : List CommandHint) : List String :=
  (commands.filter CommandHint.primary).map CommandHint.command

/-- One entry is primary, and it is the next command; without a next command none is. -/
def PrimaryIsNext (p : NextActionPayload) : Prop :=
  primaries p.commands = p.nextCommand.toList

-- ════════════════════════════════════════════════════════════════════════
-- Commands
-- ════════════════════════════════════════════════════════════════════════

theorem primaries_cons {c : CommandHint} {rest : List CommandHint} :
    primaries (c :: rest) = if c.primary then c.command :: primaries rest else primaries rest := by
  rw [primaries, List.filter_cons]
  split <;> rfl

theorem primaries_append {xs ys : List CommandHint} :
    primaries (xs ++ ys) = primaries xs ++ primaries ys := by
  rw [primaries, List.filter_append, List.map_append]
  rfl

theorem primaries_insertAfterPrimary {extras commands : List CommandHint}
    (h : primaries extras = []) :
    primaries (insertAfterPrimary extras commands) = primaries commands := by
  induction commands with
  | nil => exact h
  | cons c rest ih =>
    rw [insertAfterPrimary]
    split
    · rw [primaries_cons, primaries_cons, primaries_append, h, List.nil_append]
    · rw [primaries_cons, primaries_cons, ih]

/-- The commands of a worker step are not primary. -/
theorem primaries_appendWorkerCommands {commands : List CommandHint} {step : Option WorkerStep} :
    primaries (appendWorkerCommands commands step) = primaries commands := by
  cases step with
  | none => rfl
  | some step =>
    refine primaries_insertAfterPrimary ?_
    rw [WorkerStep.commands, primaries_append]
    cases step.reviewCommand <;> rfl

theorem primaries_commandsOfAction {action : NextActionKind} {item : NextItem} :
    primaries (commandsOfAction action item) =
      (primaryCommandForNextItem action (some item)).toList := by
  rw [commandsOfAction]
  cases primaryCommandForNextItem action (some item) with
  | none => rfl
  | some primary =>
    simp only [primaries_append]
    split <;> split <;> rfl

/-- The item and the action of a decision fit together: answered questions are there to regenerate
the plan, and no lock is there to be resumed. -/
def Fits (action : NextActionKind) : Option NextItem → Prop
  | some (.answeredQuestion _) => action = .planRegenerate
  | some (.lock _ _ _) => action ≠ .expiredLockResume
  | _ => True

/-- The two functions agree on what fits together. -/
theorem primaries_commandsForNextItem {action : NextActionKind} {item : Option NextItem}
    (h : Fits action item) :
    primaries (commandsForNextItem action item) =
      (primaryCommandForNextItem action item).toList := by
  rcases item with _ | q | q | t | r | ref | p | t | ⟨t, l, expired⟩
  · rw [commandsForNextItem]
    cases primaryCommandForNextItem action none <;> rfl
  · rfl
  · rw [show action = .planRegenerate from h]
    rfl
  · rfl
  · rfl
  · exact primaries_commandsOfAction
  · rw [commandsForNextItem, primaries_append]
    split <;> rfl
  · rw [commandsForNextItem]
    split
    · rename_i hresume
      rw [primaryCommandForNextItem, if_pos hresume]
      rfl
    · rename_i hresume
      split
      · rename_i hrepair
        rw [primaryCommandForNextItem, if_neg hresume, if_pos hrepair]
        rfl
      · exact primaries_commandsOfAction
  · rw [primaryCommandForNextItem, if_neg h]
    rfl

/-- Texts whose first parts differ. -/
theorem append_ne_append {a b x y : String} (hlength : a.length = b.length) (hne : a ≠ b) :
    a ++ x ≠ b ++ y := by
  intro h
  have hchars : a.toList ++ x.toList = b.toList ++ y.toList := by
    rw [← String.toList_append, ← String.toList_append, h]
  have hleft : a.toList = b.toList := List.append_inj_left hchars (by
    rw [String.length_toList, String.length_toList, hlength])
  exact hne (String.toList_inj.1 hleft)

theorem repairLockCommand_split (taskId : String) : repairLockCommand taskId =
    "taskledger r" ++ ("epair lock --task " ++ taskId ++ " --reason \"...\"") := by
  unfold repairLockCommand
  rw [← String.append_assoc, ← String.append_assoc]
  exact congrArg (· ++ taskId ++ " --reason \"...\"") (by decide)

theorem resumeExpiredCommand_split (taskId : String) :
    "taskledger implement resume --repair-expired-lock --task " ++ taskId ++ " --reason \"...\"" =
      "taskledger i" ++ ("mplement resume --repair-expired-lock --task " ++ taskId
        ++ " --reason \"...\"") := by
  rw [← String.append_assoc, ← String.append_assoc]
  exact congrArg (· ++ taskId ++ " --reason \"...\"") (by decide)

/-- A lock that is to be resumed is offered to be repaired. -/
theorem primaries_expiredLock {t : TaskRecord} {l : TaskLock} {expired : Bool} :
    primaries (commandsForNextItem .expiredLockResume (some (.lock t l expired))) ≠
      (primaryCommandForNextItem .expiredLockResume (some (.lock t l expired))).toList := by
  intro h
  have hcommands : repairLockCommand t.id =
      "taskledger implement resume --repair-expired-lock --task " ++ t.id
        ++ " --reason \"...\"" := List.head_eq_of_cons_eq h
  have hsplit := (repairLockCommand_split t.id).symm.trans
    (hcommands.trans (resumeExpiredCommand_split t.id))
  exact append_ne_append (by decide) (by decide) hsplit

-- ════════════════════════════════════════════════════════════════════════
-- Decisions
-- ════════════════════════════════════════════════════════════════════════

section Decisions

variable [Runtime] {env : Env} {task : TaskRecord} {lock : Option TaskLock}
  {runs : List TaskRunRecord} {d : NextActionDecision} {s : Ledger}

omit [Runtime] in
/-- A decision of a stage: its item fits, and it resumes no expired lock. -/
def StageFits (d : NextActionDecision) : Prop :=
  d.action ≠ .expiredLockResume ∧ Fits d.action d.nextItem

omit [Runtime] in
theorem fits_open {questions : List QuestionRecord} {ids : List String} :
    StageFits (openQuestionsDecision questions ids) := by
  refine ⟨nofun, ?_⟩
  show Fits .questionAnswer ((firstQuestionByIds questions ids).map .question)
  cases firstQuestionByIds questions ids <;> trivial

omit [Runtime] in
theorem fits_answered {questions : List QuestionRecord} {ids : List String} :
    Fits .planRegenerate ((firstQuestionByIds questions ids).map .answeredQuestion) := by
  cases firstQuestionByIds questions ids with
  | none => trivial
  | some q => rfl

theorem planningDecision_fits (h : planningDecision task s = .ok d) : StageFits d := by
  obtain ⟨questions, -, h⟩ := Query.bind_eq_ok.1 h
  obtain ⟨latest, -, h⟩ := Query.bind_eq_ok.1 h
  cases Query.pure_eq_ok.1 h
  split
  · exact fits_open
  · split
    · exact ⟨nofun, fits_answered⟩
    · exact ⟨nofun, trivial⟩

theorem reviewedPlanDecision_fits (h : reviewedPlanDecision task s = .ok d) : StageFits d := by
  obtain ⟨questions, -, h⟩ := Query.bind_eq_ok.1 h
  obtain ⟨latest, -, h⟩ := Query.bind_eq_ok.1 h
  cases Query.pure_eq_ok.1 h
  split
  · exact fits_open
  · split
    · exact ⟨nofun, fits_answered⟩
    · refine ⟨nofun, ?_⟩
      cases latest <;> trivial

omit [Runtime] in
theorem implementationDecision_fits (h : implementationDecision task s = .ok d) : StageFits d := by
  obtain ⟨report, -, h⟩ := Query.bind_eq_ok.1 h
  split at h
  · obtain ⟨todo, -, h⟩ := Query.bind_eq_ok.1 h
    cases Query.pure_eq_ok.1 h
    refine ⟨nofun, ?_⟩
    cases todo <;> trivial
  · cases Query.pure_eq_ok.1 h
    exact ⟨nofun, trivial⟩

omit [Runtime] in
/-- An item that a blocker names is no answered question and no lock. -/
def Blocked (item : Option NextItem) : Prop := ∀ action, Fits action item

omit [Runtime] in
theorem blocked_none : Blocked none := fun _ => trivial

omit [Runtime] in
theorem blocked_map {α : Type} {f : α → NextItem} (hf : ∀ a, Blocked (some (f a)))
    (found : Option α) : Blocked (found.map f) := by
  cases found with
  | none => exact blocked_none
  | some a => exact hf a

theorem itemOfBlocker_blocked {report : GateReport} {kind : String} {b : Dict}
    {item : Option NextItem} (h : itemOfBlocker task report kind b s = .ok item) :
    Blocked item := by
  rw [itemOfBlocker] at h
  split at h
  · cases Query.pure_eq_ok.1 h
    cases (b.get "ref").asString? with
    | none => exact blocked_none
    | some id => exact blocked_map (by intro _ _; trivial) _
  split at h
  · cases href : (b.get "ref").asString? with
    | none =>
      rw [href] at h
      cases Query.pure_eq_ok.1 h
      exact blocked_none
    | some id =>
      rw [href] at h
      obtain ⟨todo, -, h⟩ := Query.bind_eq_ok.1 h
      cases Query.pure_eq_ok.1 h
      exact blocked_map (by intro _ _; trivial) _
  split at h
  · cases Query.pure_eq_ok.1 h
    exact blocked_map (by intro _ _; trivial) _
  split at h
  · cases Query.pure_eq_ok.1 h
    exact fun _ => trivial
  · obtain ⟨plan, -, h⟩ := Query.bind_eq_ok.1 h
    cases Query.pure_eq_ok.1 h
    cases plan <;> exact fun _ => trivial

theorem firstBlockedItem_blocked {report : GateReport} {found : List (String × Dict)}
    {item : Option NextItem} (h : firstBlockedItem task report found s = .ok item) :
    Blocked item := by
  induction found with
  | nil =>
    cases Query.pure_eq_ok.1 h
    exact blocked_none
  | cons entry rest ih =>
    obtain ⟨kind, b⟩ := entry
    obtain ⟨first, hfirst, h⟩ := Query.bind_eq_ok.1 h
    cases first with
    | none => exact ih h
    | some first =>
      cases Query.pure_eq_ok.1 h
      exact itemOfBlocker_blocked hfirst

theorem nextValidationItem_blocked {report : GateReport} {item : Option NextItem}
    (h : nextValidationItem task report s = .ok item) : Blocked item := by
  obtain ⟨first, hfirst, h⟩ := Query.bind_eq_ok.1 h
  cases Query.pure_eq_ok.1 h
  cases first with
  | some first => exact firstBlockedItem_blocked hfirst
  | none => exact blocked_map (by intro _ _; trivial) _

theorem validationDecision_fits (h : validationDecision task s = .ok d) : StageFits d := by
  obtain ⟨report, -, h⟩ := Query.bind_eq_ok.1 h
  split at h
  · obtain ⟨item, hitem, h⟩ := Query.bind_eq_ok.1 h
    cases Query.pure_eq_ok.1 h
    exact ⟨nofun, nextValidationItem_blocked hitem _⟩
  · cases Query.pure_eq_ok.1 h
    exact ⟨nofun, trivial⟩

theorem approvedDecision_fits (h : approvedDecision env task lock s = .ok d) : StageFits d := by
  obtain ⟨running, -, h⟩ := Query.bind_eq_ok.1 h
  generalize (running.filter fun run => !(run.runType = .implementation
    && task.latestImplementationRun = some run.runId && lock.isNone)) = nonResumable at h
  cases nonResumable with
  | cons run rest =>
    obtain ⟨details, -, h⟩ := bind_eq_ok.1 h
    cases pure_eq_ok.1 h
    exact ⟨nofun, trivial⟩
  | nil =>
    obtain ⟨resumable, -, h⟩ := Query.bind_eq_ok.1 h
    cases resumable with
    | some run =>
      cases Query.pure_eq_ok.1 h
      exact ⟨nofun, trivial⟩
    | none =>
      obtain ⟨dependencies, -, h⟩ := Query.bind_eq_ok.1 h
      cases Query.pure_eq_ok.1 h
      exact ⟨nofun, trivial⟩

theorem orphanedActiveStageAction_fits (h : orphanedActiveStageAction task lock s = .ok d) :
    StageFits d := by
  obtain ⟨runs, -, h⟩ := Query.bind_eq_ok.1 h
  obtain ⟨plans, -, h⟩ := Query.bind_eq_ok.1 h
  cases Query.pure_eq_ok.1 h
  rw [decideOrphanedActiveStage]
  split
  · refine ⟨?_, trivial⟩
    intro h
    cases h
  · refine ⟨?_, trivial⟩
    intro h
    cases h

theorem inactiveStatusNextAction_fits (h : inactiveStatusNextAction env task lock s = .ok d) :
    StageFits d := by
  rw [inactiveStatusNextAction] at h
  cases hstage : task.statusStage <;> rw [hstage] at h
  case planReview => exact reviewedPlanDecision_fits h
  case approved => exact approvedDecision_fits h
  case planning => exact orphanedActiveStageAction_fits h
  case implementing => exact orphanedActiveStageAction_fits h
  case validating => exact orphanedActiveStageAction_fits h
  case implemented =>
    obtain ⟨run, -, h⟩ := Query.bind_eq_ok.1 h
    cases Query.pure_eq_ok.1 h
    exact ⟨nofun, trivial⟩
  case failedValidation =>
    obtain ⟨dependencies, -, h⟩ := Query.bind_eq_ok.1 h
    cases Query.pure_eq_ok.1 h
    exact ⟨nofun, trivial⟩
  all_goals
    cases Query.pure_eq_ok.1 h
    exact ⟨nofun, trivial⟩

theorem stageDecision_fits {activeStage : Option RunType}
    (h : stageDecision env task lock activeStage s = .ok d) : StageFits d := by
  rcases activeStage with _ | _ | _ | _
  · exact inactiveStatusNextAction_fits h
  · exact planningDecision_fits h
  · exact implementationDecision_fits h
  · exact validationDecision_fits h

-- ════════════════════════════════════════════════════════════════════════
-- Locks
-- ════════════════════════════════════════════════════════════════════════

/-- The lock has expired, and it is that of the running implementation run of the task. -/
def ExpiredOnRun (env : Env) (task : TaskRecord) (runs : List TaskRunRecord) (l : TaskLock) :
    Prop :=
  lockIsExpired env l = .ok true ∧ (runOfExpiredLock task l runs).isSome = true

omit [Runtime] in
/-- The decision is to resume on a lock that expired. -/
def ResumesOnLock (task : TaskRecord) (d : NextActionDecision) : Prop :=
  d.action = .expiredLockResume ∧ ∃ l expired, d.nextItem = some (.lock task l expired)

theorem inactiveLockDecision_eq {l : TaskLock} {d' : NextActionDecision}
    (h : inactiveLockDecision env task l runs d = .ok d') :
    (ExpiredOnRun env task runs l → ResumesOnLock task d') ∧
      (¬ ExpiredOnRun env task runs l → StageFits d') := by
  obtain ⟨expired, hexpired, h⟩ := bind_eq_ok.1 h
  obtain ⟨item, hitem, h⟩ := bind_eq_ok.1 h
  obtain ⟨expiredItem, -, hitem⟩ := bind_eq_ok.1 hitem
  cases pure_eq_ok.1 hitem
  cases pure_eq_ok.1 h
  cases expired with
  | false =>
    refine ⟨fun hrun => ?_, fun _ => ?_⟩
    · cases hexpired.symm.trans hrun.1
    · refine ⟨nofun, ?_⟩
      show (NextActionKind.repairLock ≠ .expiredLockResume)
      exact nofun
  | true =>
    rw [if_pos rfl, decideExpiredLockAction]
    cases hrun : runOfExpiredLock task l runs with
    | none =>
      refine ⟨fun h => ?_, fun _ => ⟨nofun, ?_⟩⟩
      · rw [ExpiredOnRun, hrun] at h
        cases h.2
      · show (NextActionKind.repairLock ≠ .expiredLockResume)
        exact nofun
    | some run =>
      refine ⟨fun _ => ⟨rfl, l, expiredItem, rfl⟩, fun h => absurd ⟨hexpired, ?_⟩ h⟩
      rw [hrun]
      rfl

theorem deadHolderDecision_fits {l : TaskLock} {d' : NextActionDecision}
    (h : deadHolderDecision env task l d = .ok d') : StageFits d' := by
  obtain ⟨item, hitem, h⟩ := bind_eq_ok.1 h
  obtain ⟨expired, -, hitem⟩ := bind_eq_ok.1 hitem
  cases pure_eq_ok.1 hitem
  cases pure_eq_ok.1 h
  refine ⟨nofun, ?_⟩
  show (NextActionKind.repairLock ≠ .expiredLockResume)
  exact nofun

/-- The lock of the task has expired, it is that of the task's running implementation run, and its
holder is not known to be gone. -/
def ResumesExpiredLock (env : Env) (task : TaskRecord) (s : Ledger) : Prop :=
  ∃ l runs, readLock task.id s = .ok (some l) ∧ listRuns task.id s = .ok runs ∧
    ExpiredOnRun env task runs l ∧ lockClassification env l ≠ some deadHolder

/-- What a decision becomes by the lock of the task. -/
theorem decision_by_lock {activeStage : Option RunType} {byLock decision : NextActionDecision}
    (hlock : readLock task.id s = .ok lock) (hruns : listRuns task.id s = .ok runs)
    (hstage : taskActiveStage env task s = .ok activeStage) (hd : StageFits d)
    (hbyLock : withInactiveLock env task lock activeStage runs d = .ok byLock)
    (hdecision : withDeadHolder env task lock byLock = .ok decision) :
    (ResumesExpiredLock env task s → ResumesOnLock task decision) ∧
      (¬ ResumesExpiredLock env task s → StageFits decision) := by
  cases lock with
  | none =>
    cases hbyLock
    cases hdecision
    refine ⟨?_, fun _ => hd⟩
    rintro ⟨l, runs', hl, -⟩
    cases hl.symm.trans hlock
  | some l =>
    have hresumes : ResumesExpiredLock env task s ↔
        ExpiredOnRun env task runs l ∧ lockClassification env l ≠ some deadHolder := by
      constructor
      · rintro ⟨l', runs', hl, hr, hrest⟩
        cases hl.symm.trans hlock
        cases hr.symm.trans hruns
        exact hrest
      · exact fun hrest => ⟨l, runs, hlock, hruns, hrest⟩
    have hfits : (ExpiredOnRun env task runs l → ResumesOnLock task byLock) ∧
        (¬ ExpiredOnRun env task runs l → StageFits byLock) := by
      cases activeStage with
      | none => exact inactiveLockDecision_eq hbyLock
      | some stage =>
        cases hbyLock
        refine ⟨fun hexpired => ?_, fun _ => hd⟩
        obtain ⟨lock', hlock', hstage⟩ := Query.bind_eq_ok.1 hstage
        cases hlock'.symm.trans hlock
        obtain ⟨expired, hexpired', hstage⟩ := Query.bind_eq_ok.1 hstage
        cases hexpired'.symm.trans hexpired.1
        cases Query.pure_eq_ok.1 hstage
    rw [withDeadHolder] at hdecision
    rw [hresumes]
    split at hdecision
    · rename_i hdead
      exact ⟨fun h => absurd hdead h.2, fun _ => deadHolderDecision_fits hdecision⟩
    · rename_i hdead
      cases hdecision
      exact ⟨fun h => hfits.1 h.1, fun h => hfits.2 fun hexpired => h ⟨hexpired, hdead⟩⟩

/-- The next command is the one primary entry of the list exactly when the task is not archived
and not about to be resumed on a lock that expired. -/
theorem primary_is_next_iff {guidance : ProjectGuidance} {p : NextActionPayload}
    (h : nextActionForTask env guidance task s = .ok p) :
    PrimaryIsNext p ↔ isArchivedTask task = false ∧ ¬ ResumesExpiredLock env task s := by
  obtain ⟨lock, hlock, h⟩ := Query.bind_eq_ok.1 h
  obtain ⟨runs, hruns, h⟩ := Query.bind_eq_ok.1 h
  obtain ⟨activeStage, hstage, h⟩ := Query.bind_eq_ok.1 h
  split at h
  · rename_i harchived
    cases Query.pure_eq_ok.1 h
    rw [harchived]
    exact ⟨fun h => (by cases h), fun h => (by cases h.1)⟩
  · rename_i harchived
    obtain ⟨byStage, hbyStage, h⟩ := Query.bind_eq_ok.1 h
    obtain ⟨byLock, hbyLock, h⟩ := Query.bind_eq_ok.1 h
    obtain ⟨decision, hdecision, h⟩ := Query.bind_eq_ok.1 h
    obtain ⟨step, -, h⟩ := Query.bind_eq_ok.1 h
    cases Query.pure_eq_ok.1 h
    have hfits := decision_by_lock hlock hruns hstage (stageDecision_fits hbyStage) hbyLock hdecision
    have hcommands (guidanceText : Option String) :
        primaries (appendWorkerCommands
          ((guidanceText.map (CommandHint.other "guidance" "Review planning guidance")).toList
            ++ commandsForNextItem decision.action decision.nextItem) step) =
          primaries (commandsForNextItem decision.action decision.nextItem) := by
      rw [primaries_appendWorkerCommands, primaries_append]
      cases guidanceText <;> rfl
    rw [PrimaryIsNext, hcommands, and_iff_right (Bool.eq_false_iff.2 harchived)]
    constructor
    · intro hprimary hresumes
      obtain ⟨haction, l, expired, hitem⟩ := hfits.1 hresumes
      rw [haction, hitem] at hprimary
      exact primaries_expiredLock hprimary
    · intro hresumes
      exact primaries_commandsForNextItem (hfits.2 hresumes).2

end Decisions

section Evaluation

attribute [local instance] plainRuntime

/-- The instant after the lock of a run that was started at zero has expired. -/
def afterLeaseEnv : Env := { plainEnv with now := lockLease + 1 }

/-- An implementation whose lock has expired is to be resumed, and its lock is offered to be
repaired. -/
theorem expired_lock_drifts :
    (afterOps implementingOps).Reachable ∧ ∃ p,
      nextAction afterLeaseEnv {} "task-0001" (afterOps implementingOps) = .ok p ∧ ¬ PrimaryIsNext p := by
  refine ⟨reachable_afterOps _, ?_⟩
  have hview : ((nextAction afterLeaseEnv {} "task-0001" (afterOps implementingOps)).toOption.map
      fun p => (primaries p.commands, p.nextCommand)) =
      some (["taskledger repair lock --task task-0001 --reason \"...\""],
        some ("taskledger implement resume --repair-expired-lock --task task-0001 "
          ++ "--reason \"...\"")) := by decide +kernel
  obtain ⟨p, hp, hcommands⟩ := Option.map_eq_some_iff.1 hview
  refine ⟨p, toOption_eq_some.1 hp, fun hprimary => ?_⟩
  obtain ⟨hlist, hnext⟩ := Prod.mk.inj hcommands
  rw [PrimaryIsNext, hlist, hnext] at hprimary
  exact absurd hprimary (by decide +kernel)

theorem primary_is_next_implementing :
    ∃ p, nextAction plainEnv {} "task-0001" (afterOps implementingOps) = .ok p ∧
      PrimaryIsNext p := by
  have htask : ((resolveTask "task-0001" false (afterOps implementingOps)).toOption.map
      fun t => (t.id, isArchivedTask t)) = some ("task-0001", false) := by decide +kernel
  obtain ⟨task, ht, hfields⟩ := Option.map_eq_some_iff.1 htask
  have hid : task.id = "task-0001" := congrArg Prod.fst hfields
  have harchived : isArchivedTask task = false := congrArg Prod.snd hfields
  have hsome : (nextAction plainEnv {} "task-0001" (afterOps implementingOps)).toOption.isSome =
      true := by decide +kernel
  obtain ⟨p, hp⟩ := isSome_toOption.1 hsome
  obtain ⟨task', ht', hnext⟩ := Query.bind_eq_ok.1 hp
  cases ht'.symm.trans (toOption_eq_some.1 ht)
  refine ⟨p, hp, (primary_is_next_iff hnext).2 ⟨harchived, ?_⟩⟩
  rintro ⟨l, runs, hl, -, ⟨hexpired, -⟩, -⟩
  rw [hid] at hl
  have hlive : ((readLock "task-0001" (afterOps implementingOps)).toOption.map fun lock =>
      lock.all fun l => !(lockIsExpired plainEnv l).toOption.getD false) = some true := by
    decide +kernel
  rw [toOption_eq_some.2 hl] at hlive
  have hnot := Option.some.inj hlive
  simp [hexpired, Except.toOption] at hnot

end Evaluation

end Taskledger
