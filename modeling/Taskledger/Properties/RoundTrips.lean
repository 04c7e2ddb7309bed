import Taskledger.Lifecycle.Steps
import Taskledger.Storage.RecordFiles

/-!
# Records and their files

When the file a record was saved to is loaded as that record.
-/

namespace Taskledger

open Library

/-- The body has no carriage return, and no blank at its end but newlines. -/
def BodyKept (body : String) : Prop :=
  '\r' ∉ body.toList ∧ Text.rstrip body = Text.rstripNewlines body

section

variable [Runtime]

theorem rstripNewlines_fileBody (body : String) :
    Text.rstripNewlines (fileBody body) = fileBody body := by
  simp only [fileBody, Text.rstripNewlines, String.toList_ofList, Text.dropTrailing_dropTrailing]

/-- The body of a file without its trailing newlines. -/
theorem rstripNewlines_written (body : String) :
    Text.rstripNewlines (Runtime.normalizeNewlines (Text.rstrip body ++ "\n")) = fileBody body := by
  have hagain : Runtime.normalizeNewlines (Runtime.normalizeNewlines (Text.rstrip body ++ "\n")) =
      Runtime.normalizeNewlines (Text.rstrip body ++ "\n") := by
    simp only [Runtime.normalizeNewlines_eq, Text.normalizeNewlines, String.toList_ofList]
    rw [Text.unifyLineEnds_of_not_mem (Text.not_mem_unifyLineEnds _ _)]
  rw [fileBody, hagain]

/-- A body reads back up to its trailing newlines exactly when it has no other trailing blanks
and no carriage returns. -/
theorem rstripNewlines_fileBody_eq {body : String} :
    Text.rstripNewlines (fileBody body) = Text.rstripNewlines body ↔ BodyKept body := by
  have hkept : '\r' ∉ (Text.rstrip body).toList →
      Text.normalizeNewlines (Text.rstrip body) = Text.rstrip body := fun h => by
    rw [Text.normalizeNewlines, Text.unifyLineEnds_of_not_mem h, String.ofList_toList]
  rw [rstripNewlines_fileBody, fileBody_eq, BodyKept]
  constructor
  · intro h
    have hcr : '\r' ∉ body.toList := by
      intro hmem
      have hleft : '\r' ∈ (Text.rstripNewlines body).toList := by
        rw [Text.rstripNewlines, String.toList_ofList]
        exact (Text.mem_dropTrailing_or hmem).resolve_right (by decide)
      rw [← h, Text.normalizeNewlines, String.toList_ofList] at hleft
      exact Text.not_mem_unifyLineEnds _ _ hleft
    refine ⟨hcr, ?_⟩
    rw [← h, hkept fun hmem => hcr ?_]
    rw [Text.rstrip, String.toList_ofList] at hmem
    exact Text.mem_of_mem_dropTrailing hmem
  · rintro ⟨hcr, hend⟩
    rw [← hend, hkept fun hmem => hcr ?_]
    rw [Text.rstrip, String.toList_ofList] at hmem
    exact Text.mem_of_mem_dropTrailing hmem

-- ════════════════════════════════════════════════════════════════════════
-- Tasks, plans and questions
-- ════════════════════════════════════════════════════════════════════════

omit [Runtime] in
theorem asInt?_int (i : Int) : (Value.int i).asInt? = some i := rfl

attribute [local simp] requireContract requireSidecarContract requireV2FileVersion
  taskledgerSchemaVersion taskledgerV2FileVersion asInt?_int Dict.get_cons Dict.get?_cons
  bind_eq_ok map_eq_ok stringValue requireString stampValue orOption_getD normalizeWith_value
  get_metadata_write get?_metadata_write

variable {now : String}

/-- The task as its own file is to hold it: its sidecars have files of their own, and the newlines
its body ends with are dropped. -/
def TaskRecord.trimmed (t : TaskRecord) : TaskRecord :=
  { t with body := Text.rstripNewlines t.body, requirements := [], fileLinks := [], todos := [] }

/-- The task has an id, a slug, a title and its times; its actors are storable; its body is kept;
it is introduced by no empty text and is a follow-up when it is related to a parent. -/
def TaskRecord.Storable (t : TaskRecord) : Prop :=
  t.id ≠ "" ∧ t.slug ≠ "" ∧ t.title ≠ "" ∧ t.createdAt ≠ "" ∧ t.updatedAt ≠ "" ∧
    t.introductionRef ≠ some "" ∧ (∀ relation ∈ t.parentRelation, relation = "follow_up") ∧
    (∀ a ∈ t.closedBy, a.Storable) ∧ (∀ a ∈ t.archivedBy, a.Storable) ∧
    (∀ a ∈ t.recordedBy, a.Storable) ∧ BodyKept t.body

/-- The plan without the newlines its body ends with. -/
def PlanRecord.trimmed (p : PlanRecord) : PlanRecord :=
  { p with body := Text.rstripNewlines p.body }

/-- The plan has a task and a time; its actors, criteria and todos are storable; its body is
kept; and when it is based on no questions it refers to none. -/
def PlanRecord.Storable (p : PlanRecord) : Prop :=
  p.taskId ≠ "" ∧ p.createdAt ≠ "" ∧ p.createdBy.Storable ∧ (∀ c ∈ p.criteria, c.Storable) ∧
    (∀ t ∈ p.todos, t.Storable) ∧ (∀ a ∈ p.approvedBy, a.Storable) ∧
    (p.basedOnQuestionIds = [] → p.questionRefs = []) ∧ BodyKept p.body

omit [Runtime] in
theorem get_entry_append (k : String) (v : Option Value) (d : Dict) (key : String) :
    Dict.get (optionalEntry k v ++ d) key = if key = k then v.getD (d.get key) else d.get key := by
  cases v with
  | none => simp [optionalEntry]
  | some v => simp [optionalEntry]

omit [Runtime] in
theorem get_entry (k : String) (v : Option Value) (key : String) :
    Dict.get (optionalEntry k v) key = if key = k then v.getD .null else .null := by
  simpa using get_entry_append k v [] key

omit [Runtime] in
theorem getD_map_str (text : Option String) : (text.map Value.str).getD .null = .ofOption text := by
  cases text <;> rfl

omit [Runtime] in
theorem getD_map_dict {α : Type} (toDict : α → Dict) (record : Option α) :
    (record.map fun r => Value.dict (toDict r)).getD .null = .ofDict? (record.map toDict) := by
  cases record <;> rfl

omit [Runtime] in
/-- The version of a plan is read off its number, and off its id when the number is zero. -/
theorem orNumber_planId (version : Nat) :
    orNumber (some version) (orNumber (some version)
      (planVersionFromId (some (planId version)))) = some version := by
  cases version with
  | zero => decide
  | succ n => rfl

omit [Runtime] in
theorem orNumber_planVersionValue (version : Option Nat) :
    orNumber version (planVersionValue (.ofOption (version.map planId))) = version := by
  rcases version with _ | _ | n
  · rfl
  · decide
  · rfl

omit [Runtime] in
theorem optionalParentRelation_ofOption (relation : Option String) :
    optionalParentRelation (.ofOption relation) = .ok relation ↔
      ∀ r ∈ relation, r = "follow_up" := by
  cases relation <;> simp [optionalParentRelation]

omit [Runtime] in
theorem orOption_eq_self (text : Option String) :
    orOption text (orOption text none) = text ↔ text ≠ some "" := by
  cases text <;> simp [orOption]

omit [Runtime] in
theorem recordList_null {α : Type} (fromDict : Value → Except Raised α) :
    recordList fromDict .null = .ok [] := rfl

theorem TaskRecord.load_document (hnow : now ≠ "") (t : TaskRecord) :
    (∃ t', loadRecord (TaskRecord.fromDict now) t.document = .ok t' ∧ t'.trimmed = t.trimmed) ↔
      t.Storable := by
  have hstage : ∀ s : TaskStatusStage, value s ≠ "" := value_ne (by decide)
  have htype : ∀ k : TaskType, memberOr normalizeTaskType "managed" (.str (value k)) = .ok k :=
    memberOr_value (fun k => normalizeWith_value _ (value k) k) (by decide)
  cases t
  rw [TaskRecord.document, loadRecord_write (by simp [TaskRecord.toDict, Dict.get?_pop])]
  simp [TaskRecord.fromDict, TaskRecord.toDict, TaskRecord.trimmed, TaskRecord.Storable,
    Dict.get_pop, Dict.get?_pop, get_entry_append, get_entry, getD_map_str, getD_map_dict,
    stageText, orOption_some (hstage _), normalizeTaskStatusStage, htype, recordList_null,
    orElse_eq_self hnow, orOption_eq_self, orNumber_planVersionValue,
    optionalParentRelation_ofOption, unlessNone_actor, rstripNewlines_fileBody_eq]
  tauto

theorem PlanRecord.load_document (hnow : now ≠ "") (p : PlanRecord) :
    (∃ p', loadRecord (PlanRecord.fromDict now) p.document = .ok p' ∧ p'.trimmed = p.trimmed) ↔
      p.Storable := by
  have hstatus : ∀ s : PlanStatus, value s ≠ "" := value_ne (by decide)
  have hids : ∀ ids refs : List String, (ids = [] → refs = ids) ↔ (ids = [] → refs = []) :=
    fun ids refs => ⟨fun h hnil => (h hnil).trans hnil, fun h hnil => (h hnil).trans hnil.symm⟩
  cases p
  rw [PlanRecord.document, loadRecord_write (by simp [PlanRecord.toDict])]
  simp [PlanRecord.fromDict, PlanRecord.toDict, PlanRecord.trimmed, PlanRecord.Storable, hstatus,
    normalizePlanStatus, orNumber_planId, orElse_eq_self hnow, refsUnder, hids,
    recordList_eq_self, ActorRef.fromDict_toDict, AcceptanceCriterion.fromDict_toDict,
    TaskTodo.fromDict_toDict hnow, unlessNone_actor, rstripNewlines_fileBody_eq]
  tauto

/-- The question has an id, a task, a text and a time, and who asked and answered is storable. -/
def QuestionRecord.Storable (q : QuestionRecord) : Prop :=
  q.id ≠ "" ∧ q.taskId ≠ "" ∧ q.question ≠ "" ∧ q.createdAt ≠ "" ∧
    (∀ a ∈ q.answeredByActor, a.Storable) ∧ (∀ a ∈ q.askedByActor, a.Storable) ∧
    ∀ h ∈ q.askedInHarness, h.Storable

theorem QuestionRecord.load_document (hnow : now ≠ "") (q : QuestionRecord) :
    loadRecord (QuestionRecord.fromDict now) q.document = .ok q ↔ q.Storable := by
  have hstatus : ∀ s : QuestionStatus, value s ≠ "" := value_ne (by decide)
  cases q
  rw [QuestionRecord.document, loadRecord_write (by simp [QuestionRecord.toDict])]
  simp [QuestionRecord.fromDict, QuestionRecord.toDict, QuestionRecord.Storable, hstatus,
    normalizeQuestionStatus, orElse_eq_self hnow, unlessNone_actor, unlessNone_harness hnow]
  tauto

-- ════════════════════════════════════════════════════════════════════════
-- Runs, changes, checks and reviews
-- ════════════════════════════════════════════════════════════════════════

/-- The run names the plan it is based on in both of its ways or in none, and the two agree. -/
def TaskRunRecord.PlanNamed (r : TaskRunRecord) : Prop :=
  r.basedOnPlan ≠ some "" ∧ (r.basedOnPlan = none → r.basedOnPlanVersion = none) ∧
    (r.basedOnPlanVersion.getD 0 = 0 → planVersionFromId r.basedOnPlan = r.basedOnPlanVersion)

/-- The run has an id, a task and a time; its actors, harness and checks are storable; and it
names its plan in both ways. -/
def TaskRunRecord.Storable (r : TaskRunRecord) : Prop :=
  r.runId ≠ "" ∧ r.taskId ≠ "" ∧ r.startedAt ≠ "" ∧ r.actor.Storable ∧
    (∀ h ∈ r.harness, h.Storable) ∧ (∀ c ∈ r.checks, c.Storable) ∧
    (∀ a ∈ r.actorHistory, a.Storable) ∧ r.PlanNamed

omit [Runtime] in
theorem TaskRunRecord.planNamed_iff (r : TaskRunRecord) :
    (orNumber r.basedOnPlanVersion
        (planVersionValue (.ofOption (orOption r.basedOnPlan r.planRef))) = r.basedOnPlanVersion ∧
      orOption r.basedOnPlan r.planRef = r.basedOnPlan) ↔ r.PlanNamed := by
  have hvalue : ∀ o, planVersionValue (.ofOption o) = planVersionFromId o := by
    intro o
    cases o <;> rfl
  have hid : ∀ n, planId n ≠ "" := fun n h => by
    have := congrArg String.toList h
    simp [planId] at this
  unfold TaskRunRecord.PlanNamed TaskRunRecord.planRef
  rcases r.basedOnPlan with _ | text
  · rcases r.basedOnPlanVersion with _ | n
    · simp [orOption, orNumber, hvalue]
    · simp [orOption]
  · by_cases htext : text = ""
    · rcases r.basedOnPlanVersion with _ | n
      · simp [orOption, htext]
      · simp [orOption, htext, hid]
    · rcases r.basedOnPlanVersion with _ | _ | n
      · simp [orOption, orNumber, hvalue, htext]
      · simp [orOption, orNumber, hvalue, htext]
      · simp [orOption, orNumber, htext]

theorem TaskRunRecord.load_document (hnow : now ≠ "") (r : TaskRunRecord) :
    loadRecord (TaskRunRecord.fromDict now) r.document = .ok r ↔ r.Storable := by
  have hstatus : ∀ s : RunStatus, value s ≠ "" := value_ne (by decide)
  have htype : ∀ t : RunType, value t ≠ "" := value_ne (by decide)
  have hplan := r.planNamed_iff
  cases r
  rw [TaskRunRecord.document, loadRecord_write (by simp [TaskRunRecord.toDict])]
  simp [TaskRunRecord.fromDict, TaskRunRecord.toDict, TaskRunRecord.Storable, hstatus, htype,
    normalizeRunStatus, normalizeRunType, runResult_value, orElse_eq_self hnow,
    ActorRef.fromDict_toDict, recordList_eq_self, ValidationCheck.fromDict_toDict hnow,
    unlessNone_harness hnow] at hplan ⊢
  rw [← hplan]
  tauto

/-- The change has its ids, a time, a kind, a path and a summary. -/
def CodeChangeRecord.Storable (c : CodeChangeRecord) : Prop :=
  c.changeId ≠ "" ∧ c.taskId ≠ "" ∧ c.implementationRun ≠ "" ∧ c.timestamp ≠ "" ∧ c.kind ≠ "" ∧
    c.path ≠ "" ∧ c.summary ≠ ""

theorem CodeChangeRecord.load_document (hnow : now ≠ "") (c : CodeChangeRecord) :
    loadRecord (CodeChangeRecord.fromDict now) c.document = .ok c ↔ c.Storable := by
  cases c
  rw [CodeChangeRecord.document, loadRecord_write (by simp [CodeChangeRecord.toDict])]
  simp [CodeChangeRecord.fromDict, CodeChangeRecord.toDict, CodeChangeRecord.Storable,
    orElse_eq_self hnow]
  tauto

/-- The check has its ids, a time and a command. -/
def ImplementationCheckRecord.Storable (c : ImplementationCheckRecord) : Prop :=
  c.checkId ≠ "" ∧ c.taskId ≠ "" ∧ c.implementationRun ≠ "" ∧ c.timestamp ≠ "" ∧ c.command ≠ ""

theorem ImplementationCheckRecord.load_document (hnow : now ≠ "") (c : ImplementationCheckRecord) :
    loadRecord (ImplementationCheckRecord.fromDict now) c.document = .ok c ↔ c.Storable := by
  have hstatus : ∀ s : CheckStatus, memberOr
      (fun text => normalizeWith CheckStatus "Unsupported check status: " text text) "unknown"
      (.str (value s)) = .ok s := memberOr_value (fun s => normalizeWith_value _ _ s) (by decide)
  have hcategory : ∀ s : CheckCategory, memberOr
      (fun text => normalizeWith CheckCategory "Unsupported check category: " text text) "other"
      (.str (value s)) = .ok s := memberOr_value (fun s => normalizeWith_value _ _ s) (by decide)
  cases c
  rw [ImplementationCheckRecord.document,
    loadRecord_write (by simp [ImplementationCheckRecord.toDict])]
  simp [ImplementationCheckRecord.fromDict, ImplementationCheckRecord.toDict,
    ImplementationCheckRecord.Storable, hstatus, hcategory, orElse_eq_self hnow]
  tauto

/-- The review without the newlines its body ends with. -/
def CodeReviewRecord.trimmed (r : CodeReviewRecord) : CodeReviewRecord :=
  { r with body := Text.rstripNewlines r.body }

/-- The review has its ids and a time, its reviewer and harness are storable, and its body is
kept. -/
def CodeReviewRecord.Storable (r : CodeReviewRecord) : Prop :=
  r.reviewId ≠ "" ∧ r.taskId ≠ "" ∧ r.reviewedAt ≠ "" ∧ r.reviewer.Storable ∧
    (∀ h ∈ r.harness, h.Storable) ∧ BodyKept r.body

theorem CodeReviewRecord.load_document (hnow : now ≠ "") (r : CodeReviewRecord) :
    (∃ r', loadRecord (CodeReviewRecord.fromDict now) r.document = .ok r' ∧
      r'.trimmed = r.trimmed) ↔ r.Storable := by
  have hresult : ∀ s : ReviewResult, memberOr
      (fun text => normalizeWith ReviewResult "Unsupported code review result: " text text)
      "blocked" (.str (value s)) = .ok s :=
    memberOr_value (fun s => normalizeWith_value _ _ s) (by decide)
  have hsource : ∀ s : ReviewSource, memberOr
      (fun text => normalizeWith ReviewSource "Unsupported code review source: " text text)
      "manual" (.str (value s)) = .ok s :=
    memberOr_value (fun s => normalizeWith_value _ _ s) (by decide)
  cases r
  rw [CodeReviewRecord.document, loadRecord_write (by simp [CodeReviewRecord.toDict])]
  simp [CodeReviewRecord.fromDict, CodeReviewRecord.toDict, CodeReviewRecord.trimmed,
    CodeReviewRecord.Storable, hresult, hsource, orElse_eq_self hnow, ActorRef.fromDict_toDict,
    unlessNone_harness hnow, rstripNewlines_fileBody_eq]
  tauto

/-- The release has a version, a boundary, a time and a creator with a name. -/
def ReleaseRecord.Storable (r : ReleaseRecord) : Prop :=
  r.version ≠ "" ∧ r.boundaryTaskId ≠ "" ∧ r.createdAt ≠ "" ∧ r.createdBy.Storable

theorem ReleaseRecord.load_document (hnow : now ≠ "") (r : ReleaseRecord) :
    loadRecord (ReleaseRecord.fromDict now) r.document = .ok r ↔ r.Storable := by
  cases r
  rw [ReleaseRecord.document, loadRecord_write (by simp [ReleaseRecord.toDict])]
  simp [ReleaseRecord.fromDict, ReleaseRecord.toDict, ReleaseRecord.Storable, orElse_eq_self hnow,
    ActorRef.fromDict_toDict]
  tauto

-- ════════════════════════════════════════════════════════════════════════
-- Todos, links, requirements and handoffs
-- ════════════════════════════════════════════════════════════════════════

theorem TaskTodo.load_document (hnow : now ≠ "") (owner : String) (t : TaskTodo) :
    loadRecord (fun data => TaskTodo.fromDict now (.dict data)) (t.document owner) = .ok t ↔
      t.Storable := by
  cases t
  rw [TaskTodo.document, loadRecord_write (by simp [sidecarMetadata, Dict.get?_set])]
  rename_i workerStepId
  cases workerStepId <;>
  · simp [TaskTodo.fromDict, TaskTodo.toDict, TaskTodo.Storable, sidecarMetadata, Dict.get_set,
      todoStatus, normalizeTodoStatus_value, refsUnder, orElse_eq_self hnow, unlessEmpty_actor,
      unlessEmpty_harness hnow, eq_comm (a := ([] : List String))]
    tauto

/-- The link under the id and the task it is filed with. -/
def FileLink.filedUnder (owner : String) (l : FileLink) : FileLink :=
  { l with id := some ((orOption l.id none).getD (linkIdFromPath l.path)), taskId := some owner }

/-- The link has a path and its times. -/
def FileLink.Storable (l : FileLink) : Prop := l.path ≠ "" ∧ l.createdAt ≠ "" ∧ l.updatedAt ≠ ""

theorem FileLink.load_document (hnow : now ≠ "") (owner : String) (l : FileLink) :
    loadRecord (fun data => FileLink.fromDict now (.dict data)) (l.document owner) =
      .ok (l.filedUnder owner) ↔ l.Storable := by
  have hkind : ∀ k : FileLinkKind, memberOr normalizeFileLinkKind "code" (.str (value k)) = .ok k :=
    memberOr_value normalizeFileLinkKind_value (by decide)
  cases l
  rw [FileLink.document, loadRecord_write (by simp [sidecarMetadata, Dict.get?_set])]
  simp [FileLink.fromDict, FileLink.toDict, FileLink.Storable, FileLink.filedUnder,
    sidecarMetadata, Dict.get_set, hkind, orElse_eq_self hnow]

/-- The requirement under the id it is filed with, naming the task it requires in both ways. -/
def DependencyRequirement.filed (r : DependencyRequirement) : DependencyRequirement :=
  { r with
    id := some ((orOption r.id none).getD (requirementIdFromTask r.taskId))
    taskId := r.requiredTask
    requiredTaskId := some r.requiredTask }

/-- The requirement has a required task, a status and its times, and its waiver is storable. -/
def DependencyRequirement.Storable (r : DependencyRequirement) : Prop :=
  r.requiredTask ≠ "" ∧ r.requiredStatus ≠ "" ∧ r.createdAt ≠ "" ∧ r.updatedAt ≠ "" ∧
    ∀ w ∈ r.waiver, w.Storable

theorem DependencyRequirement.load_document (hnow : now ≠ "") (owner : String)
    (r : DependencyRequirement) :
    loadRecord (fun data => DependencyRequirement.fromDict now (.dict data)) (r.document owner) =
      .ok r.filed ↔ r.Storable := by
  have hstatus : ∀ text, Text.orElse text "done" = text ↔ text ≠ "" :=
    fun _ => orElse_eq_self (by decide)
  rw [DependencyRequirement.document,
    loadRecord_write (by simp [sidecarMetadata, Dict.get?_set])]
  by_cases htask : r.requiredTask = ""
  · simp [DependencyRequirement.fromDict, DependencyRequirement.toDict,
      DependencyRequirement.Storable, DependencyRequirement.filed, sidecarMetadata, Dict.get_set,
      Waiver.fromDict_ofDict? hnow, htask, orOption]
    exact fun hne _ h => absurd h hne
  · cases r
    simp [DependencyRequirement.fromDict, DependencyRequirement.toDict,
      DependencyRequirement.Storable, DependencyRequirement.filed, sidecarMetadata, Dict.get_set,
      orElse_eq_self hnow, hstatus, Waiver.fromDict_ofDict? hnow, htask, orOption_some htask]
    tauto

/-- The handoff without the newlines its context ends with. -/
def TaskHandoffRecord.trimmed (h : TaskHandoffRecord) : TaskHandoffRecord :=
  { h with contextBody := Text.rstripNewlines h.contextBody }

/-- The handoff has an id, a task and a time, its actors and harnesses are storable, and its
context is kept. -/
def TaskHandoffRecord.Storable (h : TaskHandoffRecord) : Prop :=
  h.handoffId ≠ "" ∧ h.taskId ≠ "" ∧ h.createdAt ≠ "" ∧ h.createdBy.Storable ∧
    (∀ x ∈ h.createdFromHarness, x.Storable) ∧ (∀ a ∈ h.claimedBy, a.Storable) ∧
    (∀ x ∈ h.claimedInHarness, x.Storable) ∧ BodyKept h.contextBody

theorem TaskHandoffRecord.load_document (hnow : now ≠ "") (h : TaskHandoffRecord) :
    (∃ h', loadHandoff now h.document = .ok h' ∧ h'.trimmed = h.trimmed) ↔ h.Storable := by
  have hmode : ∀ m : HandoffMode, value m ≠ "" := value_ne (by decide)
  have hfor : ∀ c : Option ContextFor,
      memberUnlessEmpty normalizeContextFor (.ofOption (c.map value)) = .ok c :=
    memberUnlessEmpty_value normalizeContextFor_value (by decide)
  have hscope : ∀ c : ContextScope,
      memberOr normalizeContextScope "task" (.str (value c)) = .ok c :=
    memberOr_value (fun c => normalizeWith_value _ (Runtime.repr (value c)) c) (by decide)
  have hformat : ∀ c : ContextFormat,
      memberOr normalizeContextFormat "markdown" (.str (value c)) = .ok c :=
    memberOr_value (fun c => normalizeWith_value _ (Runtime.repr (value c)) c) (by decide)
  have hstatus : ∀ c : HandoffStatus,
      memberOr normalizeHandoffStatus "open" (.str (value c)) = .ok c :=
    memberOr_value (fun c => normalizeWith_value _ (Runtime.repr (value c)) c) (by decide)
  have hactor : ∀ t : Option ActorType,
      memberUnlessEmpty normalizeActorType (.ofOption (t.map value)) = .ok t :=
    memberUnlessEmpty_value (fun t => normalizeWith_value _ (Runtime.repr (value t)) t) (by decide)
  have hpolicy : ∀ c : LockPolicy, memberOr normalizeLockPolicy "none" (.str (value c)) = .ok c :=
    memberOr_value (fun c => normalizeWith_value _ (Runtime.repr (value c)) c) (by decide)
  have hbody : ∀ body, Text.rstripNewlines (Text.orElse
      (Runtime.normalizeNewlines (Text.rstrip body ++ "\n"))
      (if Value.null.truthy = true then Runtime.strOf .null else "")) =
        Text.rstripNewlines (fileBody body) := by
    intro body
    rw [if_neg (by decide), rstripNewlines_fileBody, ← rstripNewlines_written]
    congr 1
    unfold Text.orElse
    split
    · rename_i hempty
      exact hempty.symm
    · rfl
  cases h
  simp [loadHandoff, TaskHandoffRecord.document, writeMarkdownRecord, TaskHandoffRecord.fromDict,
    TaskHandoffRecord.toDict, TaskHandoffRecord.trimmed, TaskHandoffRecord.Storable, Dict.get_set,
    Dict.get?_set, Dict.get?_pop, Dict.get_pop, get_entry, getD_map_str, hmode, hfor, hscope,
    hformat, hstatus, hactor,
    hpolicy, normalizeHandoffMode, orElse_eq_self hnow, ActorRef.fromDict_toDict,
    unlessEmpty_actor, unlessEmpty_harness hnow, hbody, rstripNewlines_fileBody_eq]
  tauto

-- ════════════════════════════════════════════════════════════════════════
-- Any record
-- ════════════════════════════════════════════════════════════════════════

/-- A record of one of the kinds that are saved to a file; a sidecar comes with its task. -/
inductive StoredRecord where
  | task (t : TaskRecord)
  | plan (p : PlanRecord)
  | question (q : QuestionRecord)
  | run (r : TaskRunRecord)
  | change (c : CodeChangeRecord)
  | check (c : ImplementationCheckRecord)
  | review (r : CodeReviewRecord)
  | release (r : ReleaseRecord)
  | handoff (h : TaskHandoffRecord)
  | todo (owner : String) (t : TaskTodo)
  | link (owner : String) (l : FileLink)
  | requirement (owner : String) (r : DependencyRequirement)

namespace StoredRecord

/-- Loaded at the time `now`, the file the record was saved to is that record, up to the newlines
a body ends with. A task is compared without its sidecars and a sidecar under the id it is filed
with. -/
def ReadsBack (now : String) : StoredRecord → Prop
  | task t => ∃ t', loadRecord (TaskRecord.fromDict now) t.document = .ok t' ∧
      t'.trimmed = t.trimmed
  | plan p => ∃ p', loadRecord (PlanRecord.fromDict now) p.document = .ok p' ∧
      p'.trimmed = p.trimmed
  | question q => loadRecord (QuestionRecord.fromDict now) q.document = .ok q
  | run r => loadRecord (TaskRunRecord.fromDict now) r.document = .ok r
  | change c => loadRecord (CodeChangeRecord.fromDict now) c.document = .ok c
  | check c => loadRecord (ImplementationCheckRecord.fromDict now) c.document = .ok c
  | review r => ∃ r', loadRecord (CodeReviewRecord.fromDict now) r.document = .ok r' ∧
      r'.trimmed = r.trimmed
  | release r => loadRecord (ReleaseRecord.fromDict now) r.document = .ok r
  | handoff h => ∃ h', loadHandoff now h.document = .ok h' ∧ h'.trimmed = h.trimmed
  | todo owner t =>
    loadRecord (fun data => TaskTodo.fromDict now (.dict data)) (t.document owner) = .ok t
  | link owner l =>
    loadRecord (fun data => FileLink.fromDict now (.dict data)) (l.document owner) =
      .ok (l.filedUnder owner)
  | requirement owner r =>
    loadRecord (fun data => DependencyRequirement.fromDict now (.dict data)) (r.document owner) =
      .ok r.filed

/-- The texts a loader requires are there, the values it has a fallback for are not those the
fallback replaces, and the same holds of the records nested in it. -/
def Storable : StoredRecord → Prop
  | task t => t.Storable
  | plan p => p.Storable
  | question q => q.Storable
  | run r => r.Storable
  | change c => c.Storable
  | check c => c.Storable
  | review r => r.Storable
  | release r => r.Storable
  | handoff h => h.Storable
  | todo _ t => t.Storable
  | link _ l => l.Storable
  | requirement _ r => r.Storable

/-- The record is stored in the ledger. -/
def IsIn (s : Ledger) : StoredRecord → Prop
  | task t => t ∈ s.tasks.files
  | plan p => p ∈ s.plans.files
  | question q => q ∈ s.questions.files
  | run r => r ∈ s.runs.files
  | change c => c ∈ s.changes.files
  | check c => c ∈ s.checks.files
  | review r => r ∈ s.reviews.files
  | release r => r ∈ s.releases.files
  | handoff h => h ∈ s.handoffs.files
  | todo owner t => ⟨owner, t⟩ ∈ s.todos.files
  | link owner l => ⟨owner, l⟩ ∈ s.links.files
  | requirement owner r => ⟨owner, r⟩ ∈ s.requirements.files

end StoredRecord

/-- A record of any kind reads back at any time exactly when it is storable. -/
theorem reads_back_iff (env : Env) (r : StoredRecord) :
    r.ReadsBack (utcNow env) ↔ r.Storable := by
  have hnow : utcNow env ≠ "" := Runtime.utcNowIso_ne env.now
  cases r with
  | task t => exact t.load_document hnow
  | plan p => exact p.load_document hnow
  | question q => exact q.load_document hnow
  | run r => exact r.load_document hnow
  | change c => exact c.load_document hnow
  | check c => exact c.load_document hnow
  | review r => exact r.load_document hnow
  | release r => exact r.load_document hnow
  | handoff h => exact h.load_document hnow
  | todo owner t => exact t.load_document hnow owner
  | link owner l => exact l.load_document hnow owner
  | requirement owner r => exact r.load_document hnow owner

end

section Evaluation

attribute [local instance] plainRuntime

/-- A plan is proposed while its question is still open. -/
def openQuestionOps : List Op :=
  [.createTask { title := "A", description := "d" }, .startPlanning "task-0001" none none,
    .recorder (.addQuestion "task-0001" "Why?" false none none),
    .proposePlan "task-0001" "Do it." ["it works"]]

/-- The plan is based on no answered question, and reads back as based on the open one. -/
theorem proposed_plan_changes :
    ∃ s : Ledger, s.Reachable ∧ ∃ r : StoredRecord, r.IsIn s ∧
      ¬ r.ReadsBack (utcNow plainEnv) := by
  have hplan : ((afterOps openQuestionOps).plans.files.map fun p =>
      (p.basedOnQuestionIds, p.questionRefs)) = [([], ["q-0001"])] := by decide
  have hmem : ([], ["q-0001"]) ∈ (afterOps openQuestionOps).plans.files.map fun p =>
      (p.basedOnQuestionIds, p.questionRefs) := by
    rw [hplan]
    exact List.mem_singleton_self _
  obtain ⟨p, hp, hrefs⟩ := List.mem_map.1 hmem
  rw [Prod.mk.injEq] at hrefs
  refine ⟨_, reachable_afterOps openQuestionOps, .plan p, hp, fun h => ?_⟩
  have hstorable : p.Storable := (reads_back_iff plainEnv (.plan p)).1 h
  have hnone : p.questionRefs = [] := hstorable.2.2.2.2.2.2.1 hrefs.1
  rw [hrefs.2] at hnone
  cases hnone

end Evaluation

end Taskledger
