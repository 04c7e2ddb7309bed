import Taskledger.Lifecycle.Reads

/-!
# Recorders keep the views

The operations that record, edit or point write task, run and lock files only with
the core they have, so they leave the view of every task as it is.
-/

namespace Taskledger

open Library Action

variable [Runtime] {env : Env} {V : String → View} {s : Ledger} {ref : String}

/-- The ledgers with given views. -/
def Frozen (V : String → View) (s : Ledger) : Prop := s.view = V

-- ════════════════════════════════════════════════════════════════════════
-- Writes
-- ════════════════════════════════════════════════════════════════════════

theorem keeps_saveTask {t : TaskRecord} (h : (V t.id).task = some t.core) :
    Keeps (Frozen V) (saveTask t) :=
  Keeps.write fun s hs => by
    rw [Frozen, Ledger.view_putTask, hs, View.setTask_self _ _ h, Function.update_eq_self]

theorem keeps_saveRun {r : TaskRunRecord} (h : (V r.taskId).runs r.runId = some r.core) :
    Keeps (Frozen V) (saveRun r) :=
  Keeps.write fun s hs => by
    rw [Frozen, Ledger.view_putRun, hs, View.setRun_self _ _ _ h, Function.update_eq_self]

theorem keeps_saveLock {l : TaskLock} (h : (V l.taskId).lock = some l.core) :
    Keeps (Frozen V) (saveLock l) :=
  Keeps.write fun s hs => by
    rw [Frozen, Ledger.view_putLock, hs, View.setLock_self _ _ h, Function.update_eq_self]

/-- A write of a file that is not part of the views. -/
theorem keeps_aside {f : Ledger → Ledger} (hf : ∀ s, (f s).view = s.view) :
    Keeps (Frozen V) (Action.write f : LedgerAction Unit) :=
  Keeps.write fun s hs => (hf s).trans hs

theorem keeps_appendEvent (taskId event : String) (data : Dict) :
    Keeps (Frozen V) (appendEvent env taskId event data) :=
  keeps_aside fun s => by
    split <;> rfl

section

variable {β : Type} {k : Unit → LedgerAction β}

theorem Frozen.task {t : TaskRecord} (h : (V t.id).task = some t.core)
    (hk : ∀ u, Keeps (Frozen V) (k u)) : Keeps (Frozen V) (saveTask t >>= k) :=
  (keeps_saveTask h).bind hk

theorem Frozen.run {r : TaskRunRecord} (h : (V r.taskId).runs r.runId = some r.core)
    (hk : ∀ u, Keeps (Frozen V) (k u)) : Keeps (Frozen V) (saveRun r >>= k) :=
  (keeps_saveRun h).bind hk

theorem Frozen.aside {f : Ledger → Ledger} (hf : ∀ s, (f s).view = s.view)
    (hk : ∀ u, Keeps (Frozen V) (k u)) : Keeps (Frozen V) (Action.write f >>= k) :=
  (keeps_aside hf).bind hk

theorem Frozen.event {taskId event : String} {data : Dict}
    (hk : ∀ u, Keeps (Frozen V) (k u)) :
    Keeps (Frozen V) (appendEvent env taskId event data >>= k) :=
  (keeps_appendEvent _ _ _).bind hk

end

theorem keeps_clearActiveTaskState : Keeps (Frozen V) clearActiveTaskState :=
  Keeps.query fun _ _ _ _ => keeps_aside fun _ => rfl

omit [Runtime] in
theorem keeps_dropResult {α : Type} {I : Ledger → Prop} {m : LedgerAction α} (h : Keeps I m) :
    Keeps I (dropResult m) :=
  h.bind fun _ => Keeps.pure

-- ════════════════════════════════════════════════════════════════════════
-- Facts about frozen views
-- ════════════════════════════════════════════════════════════════════════

theorem frozen_task {includeArchived : Bool} {t : TaskRecord} (hs : Frozen V s)
    (h : resolveTask ref includeArchived s = .ok t) : (V t.id).task = some t.core :=
  hs ▸ view_resolved h

theorem frozen_run {runId : String} {taskId : String} {r : TaskRunRecord} (hs : Frozen V s)
    (h : resolveRun taskId runId s = .ok r) : (V r.taskId).runs r.runId = some r.core := by
  obtain ⟨hv, rfl⟩ := view_run h
  exact hs ▸ hv

theorem frozen_runningRun {t : TaskRecord} {runId : Option String} {runType : RunType}
    {r : TaskRunRecord} (hs : Frozen V s) (h : requireRunningRun t runId runType s = .ok r) :
    (V r.taskId).runs r.runId = some r.core := by
  obtain ⟨hr, -⟩ := requireRunningRun_eq_ok h
  obtain ⟨i, -, hr⟩ := requireRun_eq_ok hr
  exact frozen_run hs hr

/-- A task with its sidecars, as an operation reads it first. -/
theorem frozen_fullTask {t t' : TaskRecord} {includeArchived : Bool}
    (hs : Frozen V s) (h : resolveTask ref includeArchived s = .ok t) {s' : Ledger}
    (h' : WithSidecars s' t t') : (V t'.id).task = some t'.core := by
  rw [h'.core, h'.id]
  exact frozen_task hs h

-- ════════════════════════════════════════════════════════════════════════
-- Tasks and pointers
-- ════════════════════════════════════════════════════════════════════════

theorem keeps_switchActiveTask (task : TaskRecord) (previous : Option ActiveTaskState)
    (reason : Option String) (actorType : String) (force : Bool) :
    Keeps (Frozen V) (switchActiveTask env task previous reason actorType force) := by
  refine Keeps.query fun _ _ _ _ => Keeps.except fun actor _ =>
    Frozen.aside (fun _ => rfl) fun _ => Keeps.bind ?_ fun _ =>
      Frozen.event fun _ => Keeps.read
  cases previous with
  | none => exact Keeps.pure
  | some state => exact keeps_appendEvent _ _ _

theorem keeps_activateTask (ref : String) (reason : Option String) (actorType : String)
    (force : Bool) : Keeps (Frozen V) (activateTask env ref reason actorType force) := by
  refine Keeps.query fun task _ _ _ => Keeps.except fun _ _ => Keeps.query fun previous _ _ _ => ?_
  split
  · exact Keeps.read
  · exact keeps_switchActiveTask _ _ _ _ _

theorem keeps_clearActiveTask (reason actorType : String) (force : Bool) :
    Keeps (Frozen V) (clearActiveTask env reason actorType force) := by
  refine Keeps.query fun loaded _ _ _ => ?_
  cases loaded with
  | none => exact Keeps.throw
  | some state =>
    exact Keeps.query fun _ _ _ _ => Keeps.query fun _ _ _ _ =>
      keeps_clearActiveTaskState.bind fun _ => Frozen.event fun _ => Keeps.read

theorem keeps_editTask (ref : String) (request : EditRequest) :
    Keeps (Frozen V) (editTask env ref request) := by
  refine Keeps.query fun task _ hs ht => Keeps.except fun _ _ => Keeps.query fun _ _ _ _ =>
    Keeps.except fun _ _ => ?_
  exact Frozen.task (frozen_task hs ht :) fun _ => Frozen.event fun _ =>
    Keeps.query fun _ _ _ _ => Keeps.pure

theorem keeps_closeTask (ref : String) (note : Option String) :
    Keeps (Frozen V) (closeTask env ref note) := by
  refine Keeps.query fun task _ hs ht => Keeps.except fun _ _ => Keeps.except fun _ _ => ?_
  split
  · exact Keeps.pure
  · exact Frozen.task (frozen_task hs ht :) fun _ => Frozen.event fun _ =>
      Keeps.query fun _ _ _ _ => Keeps.pure

theorem keeps_repairTaskRecord (ref reason : String) :
    Keeps (Frozen V) (repairTaskRecord env ref reason) :=
  Keeps.except fun _ _ => Keeps.query fun _ _ _ _ => Keeps.query fun _ _ _ _ =>
    Keeps.query fun _ _ _ _ => Frozen.event fun _ => Keeps.pure

theorem frozen_planningRunOfChange {t : TaskRecord} {change : CodeChangeRecord}
    {r : TaskRunRecord} (hs : Frozen V s) (h : planningRunOfChange t change s = .ok (some r)) :
    (V r.taskId).runs r.runId = some r.core := by
  unfold planningRunOfChange at h
  split at h
  · cases Query.pure_eq_ok.1 h
  · obtain ⟨run, hrun, h⟩ := Query.bind_eq_ok.1 h
    have hfilter := Query.pure_eq_ok.1 h
    rw [Option.filter_eq_some_iff] at hfilter
    obtain ⟨rfl, -⟩ := hfilter
    obtain ⟨i, -, hr⟩ := optionalRun_eq_ok hrun
    exact frozen_run hs hr

theorem keeps_repairCommandChanges {task : TaskRecord} (ht : (V task.id).task = some task.core)
    (reason : String) (dryRun : Bool) (changes : List CodeChangeRecord) :
    Keeps (Frozen V) (repairCommandChanges env task reason dryRun changes) := by
  induction changes with
  | nil => exact Keeps.pure
  | cons change rest ih =>
    refine Keeps.query fun planningRun _ hs hrun => ?_
    cases planningRun with
    | none => exact ih
    | some run =>
      refine (Keeps.onlyIf fun _ => ?_).bind fun _ => ih.bind fun _ => Keeps.pure
      exact Frozen.run (frozen_planningRunOfChange hs hrun :) fun _ =>
        Frozen.aside (fun _ => rfl) fun _ => Frozen.task ht fun _ => keeps_appendEvent _ _ _

theorem keeps_repairPlanningCommandChanges (ref reason : String) (dryRun : Bool) :
    Keeps (Frozen V) (repairPlanningCommandChanges env ref reason dryRun) :=
  Keeps.except fun _ _ => Keeps.query fun _ _ hs ht => Keeps.query fun _ _ _ _ =>
    (keeps_repairCommandChanges (frozen_task hs ht) _ _ _).bind fun _ =>
      Keeps.query fun _ _ _ _ => Keeps.pure

-- ════════════════════════════════════════════════════════════════════════
-- Planning
-- ════════════════════════════════════════════════════════════════════════

theorem keeps_materializePlanTodos (ref : String) (version : Nat) (dryRun : Bool) :
    Keeps (Frozen V) (materializePlanTodos env ref version dryRun) := by
  refine Keeps.query fun found _ hs hfound => Keeps.query fun task _ _ htask =>
    Keeps.query fun _ _ _ _ => (Keeps.onlyIf fun _ => ?_).bind fun _ => Keeps.pure
  have ht : (V task.id).task = some task.core :=
    frozen_fullTask hs hfound (taskWithSidecars_eq_ok htask)
  exact Frozen.aside (fun _ => rfl) fun _ => Frozen.task ht fun _ => keeps_appendEvent _ _ _

theorem keeps_markPlanningGuidanceViewed (ref : String) :
    Keeps (Frozen V) (markPlanningGuidanceViewed env ref) := by
  refine Keeps.query fun task _ _ _ => Keeps.except fun _ _ => Keeps.query fun run _ hs hrun => ?_
  cases run with
  | none => exact Keeps.pure
  | some r =>
    obtain ⟨i, -, hr⟩ := optionalRun_eq_ok hrun
    refine Keeps.bind (Keeps.onlyIf fun _ => ?_) fun _ => Keeps.pure
    exact Frozen.run (frozen_run hs hr :) fun _ => keeps_appendEvent _ _ _

theorem keeps_recordQuestion (task : TaskRecord) (question : QuestionRecord) :
    Keeps (Frozen V) (recordQuestion env task question) :=
  Frozen.aside (fun _ => rfl) fun _ => keeps_appendEvent _ _ _

theorem keeps_addQuestion (ref text : String) (required : Bool) (actor : Option ActorRef)
    (harness : Option NamedHarness) :
    Keeps (Frozen V) (addQuestion env ref text required actor harness) :=
  Keeps.query fun _ _ _ _ => Keeps.except fun _ _ => Keeps.query fun _ _ _ _ =>
    Keeps.except fun _ _ => Keeps.query fun _ _ _ _ =>
      (keeps_recordQuestion _ _).bind fun _ => Keeps.pure

theorem keeps_addQuestions (ref : String) (questions : List (String × Bool))
    (actor : Option ActorRef) (harness : Option NamedHarness) (allowDuplicates : Bool) :
    Keeps (Frozen V) (addQuestions env ref questions actor harness allowDuplicates) :=
  Keeps.query fun _ _ _ _ => Keeps.except fun _ _ => Keeps.query fun _ _ _ _ =>
    Keeps.except fun _ _ => Keeps.except fun _ _ => Keeps.query fun _ _ _ _ =>
      (Keeps.each fun _ _ => keeps_recordQuestion _ _).bind fun _ => Keeps.pure

theorem keeps_answerQuestion (ref questionId text : String) (actor : Option ActorRef)
    (source : String) : Keeps (Frozen V) (answerQuestion env ref questionId text actor source) :=
  Keeps.query fun _ _ _ _ => Keeps.except fun _ _ => Keeps.query fun _ _ _ _ =>
    Keeps.except fun _ _ => Keeps.except fun _ _ => Keeps.query fun _ _ _ _ =>
      Keeps.except fun _ _ => Frozen.aside (fun _ => rfl) fun _ =>
        Frozen.event fun _ => Keeps.pure

theorem keeps_answerEach (taskId : String) (actor : Option ActorRef) (source : String)
    (answers : List (String × String)) :
    Keeps (Frozen V) (answerEach env taskId actor source answers) := by
  induction answers with
  | nil => exact Keeps.pure
  | cons answer rest ih =>
    exact (keeps_answerQuestion _ _ _ _ _).bind fun _ => ih.bind fun _ => Keeps.pure

theorem keeps_answerQuestions (ref : String) (answers : List (String × String))
    (actor : Option ActorRef) (source : String) :
    Keeps (Frozen V) (answerQuestions env ref answers actor source) :=
  Keeps.query fun _ _ _ _ => Keeps.except fun _ _ => Keeps.except fun _ _ =>
    Keeps.query fun _ _ _ _ => Keeps.except fun _ _ => Keeps.except fun _ _ =>
      (keeps_answerEach _ _ _ _).bind fun _ => Keeps.query fun _ _ _ _ => Keeps.pure

theorem keeps_dismissQuestion (ref questionId : String) :
    Keeps (Frozen V) (dismissQuestion env ref questionId) :=
  Keeps.query fun _ _ _ _ => Keeps.except fun _ _ => Keeps.query fun _ _ _ _ =>
    Keeps.except fun _ _ => Keeps.query fun _ _ _ _ => Frozen.aside (fun _ => rfl) fun _ =>
      Frozen.event fun _ => Keeps.pure

-- ════════════════════════════════════════════════════════════════════════
-- Work on a run
-- ════════════════════════════════════════════════════════════════════════

/-- The task and the run of an implementation under way. -/
theorem frozen_implementationWork {operation action : String} {t : TaskRecord}
    {r : TaskRunRecord} (hs : Frozen V s)
    (h : requireImplementationWork env ref operation action s = .ok (t, r)) :
    (V t.id).task = some t.core ∧ (V r.taskId).runs r.runId = some r.core := by
  obtain ⟨ht, hr⟩ := requireImplementationWork_eq_ok h
  exact ⟨frozen_task hs ht, frozen_runningRun hs hr⟩

theorem keeps_recordOnRun (ref action : String) {change : TaskRunRecord → TaskRunRecord}
    (hchange : ∀ r, (change r).core = r.core ∧ (change r).taskId = r.taskId ∧
      (change r).runId = r.runId) (data : Dict) :
    Keeps (Frozen V) (recordOnRun env ref action change data) := by
  refine Keeps.query fun work _ hs hwork => ?_
  obtain ⟨task, run⟩ := work
  obtain ⟨hcore, htask, hid⟩ := hchange run
  have hrun := (frozen_implementationWork hs hwork).2
  exact (keeps_saveRun (by rw [hcore, htask, hid]; exact hrun)).bind fun _ =>
    Frozen.event fun _ => Keeps.pure

theorem keeps_logImplementation (ref message : String) :
    Keeps (Frozen V) (logImplementation env ref message) := by
  unfold logImplementation
  refine keeps_recordOnRun _ _ ?_ _
  exact fun _ => ⟨rfl, rfl, rfl⟩

theorem keeps_addImplementationDeviation (ref message : String) :
    Keeps (Frozen V) (addImplementationDeviation env ref message) := by
  unfold addImplementationDeviation
  refine keeps_recordOnRun _ _ ?_ _
  exact fun _ => ⟨rfl, rfl, rfl⟩

theorem keeps_addImplementationArtifact (ref path summary : String) :
    Keeps (Frozen V) (addImplementationArtifact env ref path summary) := by
  unfold addImplementationArtifact
  refine keeps_recordOnRun _ _ ?_ _
  exact fun _ => ⟨rfl, rfl, rfl⟩

theorem frozen_validationWork {t : TaskRecord} {r : TaskRunRecord} (hs : Frozen V s)
    (h : requireValidationWork env ref s = .ok (t, r)) :
    (V r.taskId).runs r.runId = some r.core := by
  exact frozen_runningRun hs (requireValidationWork_eq_ok h).2

omit [Runtime] in
/-- A check that passes, or carries no waiver, keeps the core of its run. -/
theorem core_withCheck (r : TaskRunRecord) {check : ValidationCheck}
    (h : check.waiver = none ∨ check.status = .pass) : (withCheck r check).core = r.core := by
  rcases h with h | h <;>
    simp [withCheck, TaskRunRecord.core, TaskRunRecord.readPlanVersion, TaskRunRecord.planRef, h]

theorem keeps_withCheck {r : TaskRunRecord} {check : ValidationCheck}
    (hr : (V r.taskId).runs r.runId = some r.core)
    (h : check.waiver = none ∨ check.status = .pass) :
    Keeps (Frozen V) (saveRun (withCheck r check)) :=
  keeps_saveRun (by rw [core_withCheck r h]; exact hr)

theorem keeps_addValidationCheck (ref : String) (request : CheckRequest) :
    Keeps (Frozen V) (addValidationCheck env ref request) := by
  refine Keeps.query fun work _ hs h => ?_
  obtain ⟨task, run, check⟩ := work
  obtain ⟨⟨t, r⟩, hwork, h⟩ := Query.bind_eq_ok.1 h
  obtain ⟨status, _, h⟩ := Query.bind_eq_ok.1 h
  obtain ⟨_, _, h⟩ := Query.bind_eq_ok.1 h
  obtain ⟨criterion, _, h⟩ := Query.bind_eq_ok.1 h
  cases Query.pure_eq_ok.1 h
  exact (keeps_withCheck (frozen_validationWork hs hwork) (.inl rfl)).bind fun _ =>
    Frozen.event fun _ => Keeps.pure

theorem keeps_waiveCriterion (ref criterionRef reason : String) (actorName : Option String) :
    Keeps (Frozen V) (waiveCriterion env ref criterionRef reason actorName) := by
  refine Keeps.query fun work _ hs h => ?_
  obtain ⟨task, run, criterion⟩ := work
  obtain ⟨⟨t, r⟩, hwork, h⟩ := Query.bind_eq_ok.1 h
  obtain ⟨_, _, h⟩ := Query.bind_eq_ok.1 h
  obtain ⟨_, _, h⟩ := Query.bind_eq_ok.1 h
  cases Query.pure_eq_ok.1 h
  exact (keeps_withCheck (frozen_validationWork hs hwork) (.inr rfl)).bind fun _ =>
    Frozen.event fun _ => Keeps.pure

-- ════════════════════════════════════════════════════════════════════════
-- Changes, checks and commands
-- ════════════════════════════════════════════════════════════════════════

theorem keeps_addChange (ref : String) (request : ChangeRequest) :
    Keeps (Frozen V) (addChange env ref request) := by
  refine Keeps.query fun work _ hs hwork => ?_
  obtain ⟨task, run⟩ := work
  obtain ⟨ht, hr⟩ := frozen_implementationWork hs hwork
  exact Keeps.query fun _ _ _ _ => Frozen.aside (fun _ => rfl) fun _ => Frozen.run (hr :) fun _ =>
    Frozen.task (ht :) fun _ => Frozen.event fun _ => Keeps.pure

theorem keeps_scanChanges (ref summary : String) (fromGit : Bool)
    (git : Except Raised GitChangeState) :
    Keeps (Frozen V) (scanChanges env ref summary fromGit git) :=
  Keeps.except fun _ _ => Keeps.except fun _ _ => keeps_addChange _ _

theorem keeps_addCheck (ref : String) (request : ImplementationCheckRequest) :
    Keeps (Frozen V) (addCheck env ref request) := by
  refine Keeps.query fun work _ hs hwork => ?_
  obtain ⟨task, run⟩ := work
  obtain ⟨ht, hr⟩ := frozen_implementationWork hs hwork
  exact Keeps.query fun _ _ _ _ => Frozen.aside (fun _ => rfl) fun _ => Frozen.run (hr :) fun _ =>
    Frozen.task (ht :) fun _ => Frozen.event fun _ => Keeps.pure

theorem keeps_runImplementationCommand (ref : String) (command : CommandRun) :
    Keeps (Frozen V) (runImplementationCommand env ref command) :=
  Keeps.query fun _ _ _ _ => (keeps_addCheck _ _).bind fun _ => Keeps.pure

theorem frozen_planningWork {argv : List String} {t : TaskRecord} {r : TaskRunRecord}
    (hs : Frozen V s) (h : beginPlanningCommand env ref argv s = .ok (t, r)) :
    (V t.id).task = some t.core ∧ (V r.taskId).runs r.runId = some r.core := by
  obtain ⟨ht, hr⟩ := beginPlanningCommand_eq_ok h
  exact ⟨frozen_task hs ht, frozen_runningRun hs hr⟩

theorem keeps_runPlanningCommand (ref : String) (command : CommandRun) :
    Keeps (Frozen V) (runPlanningCommand env ref command) := by
  refine Keeps.query fun work _ hs hwork => ?_
  obtain ⟨task, run⟩ := work
  obtain ⟨ht, hr⟩ := frozen_planningWork hs hwork
  exact Frozen.run (hr :) fun _ => Frozen.task (ht :) fun _ => Frozen.event fun _ => Keeps.pure

theorem keeps_recordCodeReview (ref : String) (request : ReviewRequest) :
    Keeps (Frozen V) (recordCodeReview env ref request) := by
  refine Keeps.query fun reviewed _ hs h => ?_
  obtain ⟨task, review⟩ := reviewed
  have ht : (V task.id).task = some task.core := by
    obtain ⟨t, ht, h⟩ := Query.bind_eq_ok.1 h
    have htask : task = t := by
      iterate 10 obtain ⟨_, _, h⟩ := Query.bind_eq_ok.1 h
      exact congrArg Prod.fst (Query.pure_eq_ok.1 h).symm
    rw [htask]
    exact frozen_task hs ht
  exact Frozen.aside (fun _ => rfl) fun _ => Frozen.task (ht :) fun _ => Frozen.event fun _ =>
    Keeps.pure

-- ════════════════════════════════════════════════════════════════════════
-- Collections
-- ════════════════════════════════════════════════════════════════════════

theorem keeps_createIntroduction (title body : String) (slug : Option String)
    (labels : List String) : Keeps (Frozen V) (createIntroduction env title body slug labels) :=
  Keeps.query fun _ _ _ _ => Frozen.aside (fun _ => rfl) fun _ => Keeps.query fun _ _ _ _ =>
    Keeps.pure

theorem keeps_linkIntroduction (ref introductionRef : String) :
    Keeps (Frozen V) (linkIntroduction env ref introductionRef) := by
  refine Keeps.query fun task _ hs ht => Keeps.except fun _ _ => Keeps.query fun _ _ _ _ => ?_
  exact Frozen.task (frozen_task hs ht :) fun _ => Frozen.event fun _ =>
    Keeps.query fun _ _ _ _ => Keeps.pure

theorem frozen_requirementTasks {requiredRef operation : String} {task required : TaskRecord}
    (hs : Frozen V s)
    (h : requirementTasks ref requiredRef operation s = .ok (task, required)) :
    (V task.id).task = some task.core := by
  obtain ⟨found, hfound, hfull, -⟩ := requirementTasks_eq_ok h
  exact frozen_fullTask hs hfound hfull

theorem keeps_replaceRequirements {task : TaskRecord} (ht : (V task.id).task = some task.core)
    (ids : List String) : Keeps (Frozen V) (replaceRequirements env task ids) :=
  Frozen.aside (fun _ => rfl) fun _ => Frozen.task ht fun _ => Keeps.query fun _ _ _ _ => Keeps.pure

theorem keeps_addRequirement (ref requiredRef : String) :
    Keeps (Frozen V) (addRequirement env ref requiredRef) :=
  Keeps.query fun _ _ hs h => keeps_replaceRequirements (frozen_requirementTasks hs h) _

theorem keeps_removeRequirement (ref requiredRef : String) :
    Keeps (Frozen V) (removeRequirement env ref requiredRef) :=
  Keeps.query fun _ _ hs h => keeps_replaceRequirements (frozen_requirementTasks hs h) _

theorem keeps_waiveRequirement (ref requiredRef actorType reason : String) :
    Keeps (Frozen V) (waiveRequirement env ref requiredRef actorType reason) := by
  refine Keeps.except fun _ _ => Keeps.except fun _ _ => Keeps.query fun tasks _ hs h => ?_
  obtain ⟨task, required⟩ := tasks
  have ht := frozen_requirementTasks hs h
  exact Keeps.query fun _ _ _ _ => Frozen.aside (fun _ => rfl) fun _ => Frozen.task (ht :) fun _ =>
    Frozen.event fun _ => Keeps.query fun _ _ _ _ => Keeps.pure

theorem keeps_replaceLinks {task : TaskRecord} (ht : (V task.id).task = some task.core)
    (links : List FileLink) : Keeps (Frozen V) (replaceLinks env task links) :=
  Frozen.aside (fun _ => rfl) fun _ => Frozen.task ht fun _ => Keeps.pure

theorem keeps_addFileLink (ref : String) (request : LinkRequest) :
    Keeps (Frozen V) (addFileLink env ref request) := by
  refine Keeps.query fun found _ hs hfound => Keeps.query fun task _ _ htask =>
    Keeps.except fun _ _ => Keeps.except fun _ _ => ?_
  have ht := frozen_fullTask hs hfound (taskWithSidecars_eq_ok htask)
  exact (keeps_replaceLinks ht _).bind fun _ =>
    Frozen.event fun _ => Keeps.query fun _ _ _ _ => Keeps.pure

theorem keeps_removeFileLink (ref path : String) :
    Keeps (Frozen V) (removeFileLink env ref path) := by
  refine Keeps.query fun found _ hs hfound => Keeps.query fun task _ _ htask =>
    Keeps.except fun _ _ => ?_
  have ht := frozen_fullTask hs hfound (taskWithSidecars_eq_ok htask)
  exact (keeps_replaceLinks ht _).bind fun _ =>
    Keeps.query fun _ _ _ _ => Keeps.pure

theorem keeps_refreshFileBaseline (ref path reason : String) (target : FileSnapshot) :
    Keeps (Frozen V) (refreshFileBaseline env ref path reason target) := by
  refine Keeps.except fun _ _ => Keeps.query fun found _ hs hfound =>
    Keeps.query fun task _ _ htask => Keeps.except fun _ _ => ?_
  split
  · exact Keeps.throw
  · have ht := frozen_fullTask hs hfound (taskWithSidecars_eq_ok htask)
    exact (keeps_replaceLinks ht _).bind fun _ =>
      Frozen.event fun _ => Keeps.query fun _ _ _ _ => Keeps.pure

theorem keeps_replaceTodos {task : TaskRecord} (ht : (V task.id).task = some task.core)
    (todos : List TaskTodo) : Keeps (Frozen V) (replaceTodos env task todos) :=
  Frozen.aside (fun _ => rfl) fun _ => Frozen.task ht fun _ => Keeps.pure

theorem keeps_addTodo (ref text : String) (source : Option String) (mandatory : Bool) :
    Keeps (Frozen V) (addTodo env ref text source mandatory) := by
  refine Keeps.query fun new _ hs h => ?_
  obtain ⟨task, todo⟩ := new
  obtain ⟨found, _, hfound, hfull, -⟩ := newTodoOf_eq_ok h
  exact (keeps_replaceTodos (frozen_fullTask hs hfound hfull) _).bind fun _ =>
    Frozen.event fun _ => Keeps.pure

theorem keeps_setTodoDone (ref todoId : String) (request : TodoDoneRequest) :
    Keeps (Frozen V) (setTodoDone env ref todoId request) := by
  refine Keeps.query fun marked _ hs h => ?_
  obtain ⟨task, todo⟩ := marked
  obtain ⟨found, hfound, hfull⟩ := todoToMark_eq_ok h
  exact (keeps_replaceTodos (frozen_fullTask hs hfound hfull) _).bind fun _ =>
    Frozen.event fun _ => Keeps.pure

-- ════════════════════════════════════════════════════════════════════════
-- Releases and handoffs
-- ════════════════════════════════════════════════════════════════════════

theorem keeps_saveRelease (release : ReleaseRecord) : Keeps (Frozen V) (saveRelease release) := by
  intro s hs
  unfold Sat runOn saveRelease
  cases s.releases.lookup release.version <;> exact hs

theorem keeps_tagRelease (version atTask : String) (note previousVersion : Option String)
    (actor : Option ActorRef) :
    Keeps (Frozen V) (tagRelease env version atTask note previousVersion actor) := by
  refine Keeps.query fun _ _ _ _ => (keeps_saveRelease _).bind fun _ =>
    (keeps_aside fun s => ?_).bind fun _ => Keeps.query fun _ _ _ _ => Keeps.pure
  split <;> rfl

theorem keeps_createHandoff (ref : String) (request : HandoffRequest) :
    Keeps (Frozen V) (createHandoff env ref request) :=
  Keeps.query fun _ _ _ _ => Frozen.aside (fun _ => rfl) fun _ => Keeps.pure

/-- A lock that is handed over keeps its core. -/
theorem core_claimedLock {l : TaskLock} {policy : LockPolicy} {actor : ActorRef}
    {harness : NamedHarness} (hl : ∃ stored : TaskLock, stored.reload = .ok l) :
    (claimedLock env policy actor harness l).core = l.core := by
  obtain ⟨stored, hr⟩ := hl
  have hharness : ∃ h, HarnessRef.reload? l.harness = .ok h := by
    simp only [TaskLock.reload, bind_eq_ok, pure_eq_ok] at hr
    obtain ⟨-, -, -, -, -, -, -, -, -, -, h, hh, rfl⟩ := hr
    exact ⟨h, HarnessRef.reload?_eq hh ▸ hh⟩
  have hnamed : ∃ h, HarnessRef.reload? (some harness.toHarnessRef) = .ok h :=
    ⟨_, NamedHarness.reload?_eq (some harness)⟩
  unfold claimedLock
  split
  · refine congrArg (LockCore.mk l.runType l.runId) ?_
    rw [Bool.eq_iff_iff, TaskLock.isSound_iff, TaskLock.isSound_iff]
    simp [transferredLock, hharness, hnamed]
  · exact congrArg (LockCore.mk l.runType l.runId)
      (TaskLock.isSound_congr rfl rfl rfl rfl rfl rfl rfl)

theorem frozen_lockToHandOver {handoff : TaskHandoffRecord} {l : TaskLock} (hs : Frozen V s)
    (h : lockToHandOver ref handoff s = .ok (some l)) :
    (V l.taskId).lock = some l.core ∧ ∃ stored : TaskLock, stored.reload = .ok l := by
  unfold lockToHandOver at h
  cases hrun : handoff.sourceRunId.filter fun run =>
      touchesLock handoff.lockPolicy ∧ run ≠ "" with
  | none =>
    rw [hrun] at h
    cases Query.pure_eq_ok.1 h
  | some sourceRun =>
    rw [hrun] at h
    obtain ⟨task, _, h⟩ := Query.bind_eq_ok.1 h
    obtain ⟨lock, hlock, h⟩ := Query.bind_eq_ok.1 h
    have hfilter := Query.pure_eq_ok.1 h
    rw [Option.filter_eq_some_iff] at hfilter
    obtain ⟨rfl, -⟩ := hfilter
    obtain ⟨stored, hst, hr⟩ := readLock_some hlock
    have htask : l.taskId = task.id := by
      simp only [TaskLock.reload, bind_eq_ok, pure_eq_ok] at hr
      obtain ⟨-, -, -, -, -, -, -, -, -, -, h, hh, rfl⟩ := hr
      exact (Directory.key_of_lookup hst : stored.taskId = task.id)
    rw [htask]
    exact ⟨hs ▸ view_locked hlock, stored, hr⟩

theorem keeps_claimHandoff (taskId handoffId : String) (actor : Option ActorRef)
    (harness : Option NamedHarness) (newRunId : Option String) :
    Keeps (Frozen V) (claimHandoff env taskId handoffId actor harness newRunId) := by
  refine Keeps.query fun handoff _ _ _ => Keeps.except fun _ _ => Keeps.except fun _ _ =>
    Keeps.query fun lock _ hs h => Keeps.bind ?_ fun _ =>
      Frozen.aside (fun _ => rfl) fun _ => Keeps.pure
  cases lock with
  | none => exact Keeps.pure
  | some l =>
    obtain ⟨hv, hl⟩ := frozen_lockToHandOver hs h
    refine keeps_saveLock ?_
    have hid : (claimedLock env handoff.lockPolicy (actor.getD env.resolvedActor)
        (harness.getD env.resolvedHarness) l).taskId = l.taskId := by
      unfold claimedLock
      split <;> rfl
    rw [core_claimedLock hl, hid]
    exact hv

theorem keeps_endHandoff (taskId handoffId verb : String) (from_ : List HandoffStatus)
    (status : HandoffStatus) (reason : Option String) :
    Keeps (Frozen V) (endHandoff taskId handoffId verb from_ status reason) :=
  Keeps.query fun _ _ _ _ => Keeps.except fun _ _ => Frozen.aside (fun _ => rfl) fun _ => Keeps.pure

-- ════════════════════════════════════════════════════════════════════════
-- All recorders
-- ════════════════════════════════════════════════════════════════════════

/-- A recorder leaves the view of every task as it is. -/
theorem Recorder.keeps_views (r : Recorder) : Keeps (Frozen V) (r.run env) := by
  cases r with
  | activateTask => exact keeps_dropResult (keeps_activateTask _ _ _ _)
  | clearActiveTask => exact keeps_dropResult (keeps_clearActiveTask _ _ _)
  | editTask => exact keeps_dropResult (keeps_editTask _ _)
  | closeTask => exact keeps_dropResult (keeps_closeTask _ _)
  | repairTaskRecord => exact keeps_dropResult (keeps_repairTaskRecord _ _)
  | repairPlanningCommandChanges =>
    exact keeps_dropResult (keeps_repairPlanningCommandChanges _ _ _)
  | materializePlanTodos => exact keeps_dropResult (keeps_materializePlanTodos _ _ _)
  | markPlanningGuidanceViewed => exact keeps_dropResult (keeps_markPlanningGuidanceViewed _)
  | addQuestion => exact keeps_dropResult (keeps_addQuestion _ _ _ _ _)
  | addQuestions => exact keeps_dropResult (keeps_addQuestions _ _ _ _ _)
  | answerQuestion => exact keeps_dropResult (keeps_answerQuestion _ _ _ _ _)
  | answerQuestions => exact keeps_dropResult (keeps_answerQuestions _ _ _ _)
  | dismissQuestion => exact keeps_dropResult (keeps_dismissQuestion _ _)
  | logImplementation => exact keeps_dropResult (keeps_logImplementation _ _)
  | addImplementationDeviation => exact keeps_dropResult (keeps_addImplementationDeviation _ _)
  | addImplementationArtifact => exact keeps_dropResult (keeps_addImplementationArtifact _ _ _)
  | addValidationCheck => exact keeps_dropResult (keeps_addValidationCheck _ _)
  | waiveCriterion => exact keeps_dropResult (keeps_waiveCriterion _ _ _ _)
  | createIntroduction => exact keeps_dropResult (keeps_createIntroduction _ _ _ _)
  | linkIntroduction => exact keeps_dropResult (keeps_linkIntroduction _ _)
  | addRequirement => exact keeps_dropResult (keeps_addRequirement _ _)
  | removeRequirement => exact keeps_dropResult (keeps_removeRequirement _ _)
  | waiveRequirement => exact keeps_dropResult (keeps_waiveRequirement _ _ _ _)
  | addFileLink => exact keeps_dropResult (keeps_addFileLink _ _)
  | removeFileLink => exact keeps_dropResult (keeps_removeFileLink _ _)
  | refreshFileBaseline => exact keeps_dropResult (keeps_refreshFileBaseline _ _ _ _)
  | addTodo => exact keeps_dropResult (keeps_addTodo _ _ _ _)
  | setTodoDone => exact keeps_dropResult (keeps_setTodoDone _ _ _)
  | addChange => exact keeps_dropResult (keeps_addChange _ _)
  | scanChanges => exact keeps_dropResult (keeps_scanChanges _ _ _ _)
  | addCheck => exact keeps_dropResult (keeps_addCheck _ _)
  | runImplementationCommand => exact keeps_dropResult (keeps_runImplementationCommand _ _)
  | runPlanningCommand => exact keeps_dropResult (keeps_runPlanningCommand _ _)
  | recordCodeReview => exact keeps_dropResult (keeps_recordCodeReview _ _)
  | tagRelease => exact keeps_dropResult (keeps_tagRelease _ _ _ _ _)
  | createHandoff => exact keeps_dropResult (keeps_createHandoff _ _)
  | claimHandoff => exact keeps_dropResult (keeps_claimHandoff _ _ _ _ _)
  | closeHandoff => exact keeps_dropResult (keeps_endHandoff _ _ _ _ _ _)
  | cancelHandoff => exact keeps_dropResult (keeps_endHandoff _ _ _ _ _ _)

end Taskledger
