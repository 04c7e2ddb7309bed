import Taskledger.Lifecycle.Answers
import Taskledger.Lifecycle.Listings
import Taskledger.Properties.ReadOnly

/-!
# Batches of answers

The answers of a batch are recorded one after the other, and each is checked when its turn
comes. What a batch that raises leaves are the answers before the first one that is refused.
-/

namespace Taskledger

open Library Action Lifecycle

section Batches

variable [Runtime] {s s' : Ledger} {env : Env} {task : TaskRecord} {actor : Option ActorRef}
  {answerSource questionId text ref : String} {question : QuestionRecord}

-- ════════════════════════════════════════════════════════════════════════
-- One answer
-- ════════════════════════════════════════════════════════════════════════

/-- The record `answer_question` writes. -/
def answeredWith (env : Env) (actor : Option ActorRef) (answerSource : String)
    (question : QuestionRecord) (text : String) : QuestionRecord :=
  { question with
    status := .answered
    answer := some (Text.strip text)
    answeredAt := some (utcNow env)
    answeredBy := some (actor.getD { actorType := .user, actorName := "user" }).actorName
    answeredByActor := some (actor.getD { actorType := .user, actorName := "user" })
    answerSource :=
      if Runtime.lower (Text.strip answerSource) = "" then none
      else some (Runtime.lower (Text.strip answerSource)) }

/-- The question of a task that is stored under an id. -/
def Ledger.asked (s : Ledger) (taskId questionId : String) : Option QuestionRecord :=
  (s.questions.lookup (taskId, questionId)).bind fun stored => stored.reload.toOption

omit [Runtime] in
theorem asked_eq_some : s.asked task.id questionId = some question ↔
    ∃ stored, s.questions.lookup (task.id, questionId) = some stored ∧
      stored.reload = .ok question := by
  simp only [Ledger.asked, Option.bind_eq_some_iff, toOption_eq_some]

/-- An answer to a question of the task passes the checks that do not depend on the question. -/
structure AnswerReady (env : Env) (s : Ledger) (task : TaskRecord) : Prop where
  found : resolveTask task.id false s = .ok task
  visible : isArchivedTask task = false
  allowed : ∃ lock, lockForMutation env task.id s = .ok lock ∧
    enforceDecision (questionMutationDecision task lock .user) = .ok ()
  listed : ∃ known, listQuestions task.id s = .ok known
  canonical : ∀ q ∈ s.questions.files, Canonical "q" q.id

omit [Runtime] in
theorem QuestionRecord.loads_iff {q : QuestionRecord} : (∃ q', q.reload = .ok q') ↔
    q.id ≠ "" ∧ q.taskId ≠ "" ∧ q.question ≠ "" ∧
      ∃ h, HarnessRef.reload? q.askedInHarness = .ok h := by
  simp only [QuestionRecord.reload, bind_eq_ok, pure_eq_ok, requireString, raiseIf_eq_ok]
  constructor
  · rintro ⟨_, _, hid, _, htask, _, hquestion, h, hh, -⟩
    exact ⟨hid, htask, hquestion, h, hh⟩
  · rintro ⟨hid, htask, hquestion, h, hh⟩
    exact ⟨_, (), hid, (), htask, (), hquestion, h, hh, rfl⟩

/-- An answered question loads. -/
theorem answered_loads {stored : QuestionRecord} (h : stored.reload = .ok question) :
    ∃ q, (answeredWith env actor answerSource question text).reload = .ok q := by
  have hloads := QuestionRecord.loads_iff.1 ⟨question, h⟩
  simp only [QuestionRecord.reload, bind_eq_ok, pure_eq_ok] at h
  obtain ⟨-, -, -, -, -, -, harness, hharness, rfl⟩ := h
  cases HarnessRef.reload?_eq hharness
  exact QuestionRecord.loads_iff.2 ⟨hloads.1, hloads.2.1, hloads.2.2.1, _, hharness⟩

/-- An id leads to the question that is stored under it. -/
theorem AnswerReady.resolved (h : AnswerReady env s task)
    (hasked : s.asked task.id questionId = some question) :
    resolveQuestion task.id questionId s = .ok question ∧ question.id = questionId ∧
      question.taskId = task.id := by
  obtain ⟨stored, hstored, hreload⟩ := asked_eq_some.1 hasked
  obtain ⟨known, hknown⟩ := h.listed
  obtain ⟨hid, htask, -, -⟩ := QuestionRecord.of_reload hreload
  have hkey := Directory.key_of_lookup hstored
  rw [Prod.mk.injEq] at hkey
  have hcan : Canonical "q" questionId := hkey.2 ▸ h.canonical stored (Directory.mem_of_lookup hstored)
  have hnormal : normalizeResourceRef questionId "q" = .ok questionId :=
    hcan.normalizeResourceRef_eq (by decide)
  refine ⟨Query.bind_eq_ok.2 ⟨_, hnormal, Query.bind_eq_ok.2 ⟨known, hknown, ?_⟩⟩,
    hid.trans hkey.2, htask.trans hkey.1⟩
  cases hfind : known.find? fun q => refersTo questionId questionId q.id with
  | none =>
    obtain ⟨q, hq, hqid⟩ := question_listed hknown (Directory.mem_of_lookup hstored) hkey.1
    have hnone := List.find?_eq_none.1 hfind q hq
    simp [refersTo, hqid, hkey.2] at hnone
  | some q =>
    have hqid : q.id = questionId := by simpa [refersTo] using List.find?_some hfind
    obtain ⟨stored', hstored', hreload', -⟩ :=
      listed_question hknown (List.mem_of_find?_eq_some hfind)
    rw [hqid, hstored] at hstored'
    cases hstored'
    cases hreload.symm.trans hreload'
    rfl

/-- What a recorded answer leaves. -/
structure Answered (env : Env) (s s' : Ledger) (record : QuestionRecord) : Prop where
  questions : s'.questions = s.questions.save record
  tasks : s'.tasks = s.tasks
  locks : s'.locks = s.locks
  logged : env.eventLogging = true →
    ∃ more, s'.events = s.events ++ more ∧ more.length = 1
  silent : env.eventLogging = false → s'.events = s.events

theorem lockForMutation_congr {taskId : String} {lock : Option TaskLock} (h : s'.locks = s.locks)
    (hlock : lockForMutation env taskId s = .ok lock) : lockForMutation env taskId s' = .ok lock := by
  have hread : readLock taskId s' = readLock taskId s := by
    unfold readLock
    rw [h]
  obtain ⟨l, hl, hrest⟩ := Query.bind_eq_ok.1 hlock
  refine Query.bind_eq_ok.2 ⟨l, hread.trans hl, ?_⟩
  cases l with
  | none => exact hrest
  | some l => exact hrest

/-- A recorded answer leaves the questions of the task ready, and the other ones as they were. -/
theorem AnswerReady.after (h : AnswerReady env s task)
    (hasked : s.asked task.id questionId = some question)
    (hafter : Answered env s s' (answeredWith env actor answerSource question text)) :
    AnswerReady env s' task ∧
      ∀ id, id ≠ questionId → s'.asked task.id id = s.asked task.id id := by
  obtain ⟨-, hid, htask⟩ := h.resolved hasked
  obtain ⟨stored, hstored, hreload⟩ := asked_eq_some.1 hasked
  obtain ⟨lock, hlock, hdecision⟩ := h.allowed
  obtain ⟨known, hknown⟩ := h.listed
  have hkey : (answeredWith env actor answerSource question text).id = questionId := hid
  refine ⟨⟨?_, h.visible, ⟨lock, ?_, hdecision⟩, ?_, ?_⟩, ?_⟩
  · rw [resolveTask_congr hafter.tasks]
    exact h.found
  · exact lockForMutation_congr hafter.locks hlock
  · have hall : ∀ q ∈ s'.questions.files.filter fun q => q.taskId = task.id,
        ∃ q', q.reload = .ok q' := by
      intro q hq
      rw [List.mem_filter, decide_eq_true_eq, hafter.questions] at hq
      rcases Directory.mem_files_save.1 hq.1 with rfl | ⟨hold, -⟩
      · exact answered_loads hreload
      · obtain ⟨read, hread, -⟩ := bind_eq_ok.1 hknown
        obtain ⟨q', -, hq'⟩ := reload_ok_of_mem hread
          (List.mem_filter.2 ⟨hold, decide_eq_true hq.2⟩)
        exact ⟨q', hq'⟩
    obtain ⟨read, hread⟩ := reloadAll_loads.2 hall
    exact ⟨_, bind_eq_ok.2 ⟨read, hread, rfl⟩⟩
  · intro q hq
    rw [hafter.questions] at hq
    rcases Directory.mem_files_save.1 hq with rfl | ⟨hq, -⟩
    · rw [hkey, ← (QuestionRecord.of_reload hreload).1.symm.trans hid]
      exact h.canonical stored (Directory.mem_of_lookup hstored)
    · exact h.canonical q hq
  · intro id hne
    unfold Ledger.asked
    rw [hafter.questions, Directory.lookup_save_of_ne]
    rintro h
    exact hne ((Prod.mk.inj h).2.symm.trans hkey)

-- ════════════════════════════════════════════════════════════════════════
-- A batch
-- ════════════════════════════════════════════════════════════════════════

/-- The records of answers. -/
def answerRecords (env : Env) (actor : Option ActorRef) (answerSource : String)
    (asked : String → Option QuestionRecord) (answers : List (String × String)) :
    List QuestionRecord :=
  answers.filterMap fun answer =>
    (asked answer.1).map fun question => answeredWith env actor answerSource question answer.2

/-- What recorded answers leave. -/
structure AllAnswered (env : Env) (s s' : Ledger) (records : List QuestionRecord) : Prop where
  questions : s'.questions = records.foldl Directory.save s.questions
  logged : env.eventLogging = true →
    ∃ more, s'.events = s.events ++ more ∧ more.length = records.length
  silent : env.eventLogging = false → s'.events = s.events

omit [Runtime] in
theorem AllAnswered.cons {s₁ s₂ : Ledger} {record : QuestionRecord} {records : List QuestionRecord}
    (hall : AllAnswered env s₁ s₂ records) (hfirst : Answered env s s₁ record) :
    AllAnswered env s s₂ (record :: records) where
  questions := by
    rw [hall.questions, hfirst.questions]
    rfl
  logged hlog := by
    obtain ⟨first, hfirst, hone⟩ := hfirst.logged hlog
    obtain ⟨more, hmore, hlength⟩ := hall.logged hlog
    refine ⟨first ++ more, ?_, ?_⟩
    · rw [hmore, hfirst, List.append_assoc]
    · rw [List.length_append, List.length_cons, hone, hlength]
      omega
  silent hlog := (hall.silent hlog).trans (hfirst.silent hlog)

theorem mem_answerRecords {asked : String → Option QuestionRecord}
    {answers : List (String × String)} {record : QuestionRecord} :
    record ∈ answerRecords env actor answerSource asked answers ↔
      ∃ answer ∈ answers, ∃ question, asked answer.1 = some question ∧
        answeredWith env actor answerSource question answer.2 = record := by
  simp only [answerRecords, List.mem_filterMap, Option.map_eq_some_iff]

/-- The batch passes the checks that come before the answers, and the lock lets it go on. -/
structure BatchAdmitted (env : Env) (s : Ledger) (ref : String) (answers : List (String × String))
    (task : TaskRecord) : Prop where
  found : resolveTask ref false s = .ok task
  visible : isArchivedTask task = false
  nonempty : answers ≠ []
  known : ∃ known, listQuestions task.id s = .ok known ∧
    ∀ answer ∈ answers, answer.1 ∈ known.map QuestionRecord.id
  texts : ∀ answer ∈ answers, Text.isBlank answer.2 = false
  allowed : ∃ lock, lockForMutation env task.id s = .ok lock ∧
    enforceDecision (questionMutationDecision task lock .user) = .ok ()

/-- The answer of a mapping is recorded under the task. -/
def Ledger.Recorded (s : Ledger) (taskId : String) (answer : String × String) : Prop :=
  ∃ q, s.questions.lookup (taskId, answer.1) = some q ∧ q.status = .answered ∧
    q.answer = some (Text.strip answer.2)

theorem BatchAdmitted.ready {answers : List (String × String)} (hs : s.Sound)
    (hcanonical : ∀ q ∈ s.questions.files, Canonical "q" q.id)
    (h : BatchAdmitted env s ref answers task) :
    AnswerReady env s task ∧ ∀ answer ∈ answers, s.asked task.id answer.1 ≠ none := by
  obtain ⟨known, hknown, hids⟩ := h.known
  refine ⟨⟨resolve_again hs h.found rfl, h.visible, h.allowed, ⟨known, hknown⟩, hcanonical⟩,
    fun answer hanswer => ?_⟩
  obtain ⟨q, hq, hid⟩ := List.mem_map.1 (hids answer hanswer)
  obtain ⟨stored, hstored, hreload, -⟩ := listed_question hknown hq
  rw [Option.ne_none_iff_exists']
  exact ⟨q, asked_eq_some.2 ⟨stored, hid ▸ hstored, hreload⟩⟩

/-- The answers of the prefix are recorded, the others are as they were. -/
theorem AllAnswered.recorded {answers prefixed : List (String × String)}
    (hready : AnswerReady env s task) (hasked : ∀ answer ∈ answers, s.asked task.id answer.1 ≠ none)
    (hkeys : (answers.map Prod.fst).Nodup) (hprefixed : ∀ answer ∈ prefixed, answer ∈ answers)
    (h : AllAnswered env s s' (answerRecords env actor answerSource (s.asked task.id) prefixed))
    {answer : String × String} (hanswer : answer ∈ answers) :
    s'.Recorded task.id answer ↔ answer ∈ prefixed ∨ s.Recorded task.id answer := by
  have hlookup := Directory.lookup_saves s.questions
    (answerRecords env actor answerSource (s.asked task.id) prefixed) (task.id, answer.1)
  rw [← h.questions] at hlookup
  -- The key of a record tells which answer it was made from.
  have horigin : ∀ record ∈ answerRecords env actor answerSource (s.asked task.id) prefixed,
      (record.taskId, record.id) = (task.id, answer.1) → answer ∈ prefixed ∧
        record.status = .answered ∧ record.answer = some (Text.strip answer.2) := by
    intro record hrecord hkey
    obtain ⟨b, hb, question, hquestion, rfl⟩ := mem_answerRecords.1 hrecord
    have hid : b.1 = answer.1 :=
      (hready.resolved hquestion).2.1.symm.trans (Prod.mk.inj hkey).2
    cases List.inj_on_of_nodup_map hkeys (hprefixed b hb) hanswer hid
    exact ⟨hb, rfl, rfl⟩
  rcases hlookup with ⟨record, hrecord, hkey, hlookup⟩ | ⟨hno, hlookup⟩
  · obtain ⟨hmem, hstatus, htext⟩ := horigin record hrecord hkey
    exact iff_of_true ⟨record, hlookup, hstatus, htext⟩ (.inl hmem)
  · have hnotin : answer ∉ prefixed := by
      intro hmem
      obtain ⟨question, hquestion⟩ := Option.ne_none_iff_exists'.1 (hasked answer hanswer)
      obtain ⟨-, hid, htask⟩ := hready.resolved hquestion
      refine hno _ (mem_answerRecords.2 ⟨answer, hmem, question, hquestion, rfl⟩) ?_
      exact congrArg₂ Prod.mk htask hid
    unfold Ledger.Recorded
    rw [hlookup]
    exact (or_iff_right hnotin).symm

end Batches

section Evaluation

attribute [local instance] plainRuntime

end Evaluation

end Taskledger
