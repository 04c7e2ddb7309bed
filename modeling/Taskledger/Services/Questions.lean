import Taskledger.Services.PlanInput

/-!
# Planning questions
-/

namespace Taskledger

open Library

variable [Runtime] (env : Env)

/-- `_normalize_question_batch` from item `index` on; `seen` holds the keys of the
items before. -/
def normalizeQuestionBatchFrom (allowDuplicates : Bool) (index : Nat) (seen : List String) :
    List (String × Bool) → Except Raised (List (String × Bool))
  | [] => .ok []
  | (text, required) :: rest => do
    let stripped := Text.strip text
    raiseIf (stripped = "") <|
      cliError ("Question text must not be empty for item " ++ Nat.repr index ++ ".")
        exitCodeBadInput
    let key := Runtime.casefold stripped
    raiseIf (allowDuplicates = false ∧ key ∈ seen) <|
      cliError ("Duplicate question text in batch: " ++ stripped) exitCodeBadInput
    let others ← normalizeQuestionBatchFrom allowDuplicates (index + 1) (key :: seen) rest
    return (stripped, required) :: others

/-- `_normalize_question_batch`. -/
def normalizeQuestionBatch (questions : List (String × Bool)) (allowDuplicates : Bool) :
    Except Raised (List (String × Bool)) := do
  raiseIf (questions = []) (cliError "At least one question is required." exitCodeBadInput)
  normalizeQuestionBatchFrom allowDuplicates 1 [] questions

/-- A question asked now on the latest plan of a task. -/
def newQuestion (id : String) (task : TaskRecord) (text : String) (requiredForPlan : Bool)
    (actor : Option ActorRef) (harness : Option NamedHarness) : QuestionRecord where
  id := id
  taskId := task.id
  question := text
  planVersion := task.latestPlanVersion
  createdAt := utcNow env
  askedByActor := some (actor.getD (defaultActor env))
  askedInHarness := some ((harness.map NamedHarness.toHarnessRef).getD (defaultHarness env))
  requiredForPlan := requiredForPlan

/-- Write a new question and its event. -/
def recordQuestion (task : TaskRecord) (question : QuestionRecord) : LedgerAction Unit := do
  saveQuestion question
  appendEvent env task.id "question.added"
    [("question_id", .str question.id), ("required_for_plan", .bool question.requiredForPlan)]

/-- `add_question`. -/
def addQuestion (taskRef text : String) (requiredForPlan : Bool := false)
    (actor : Option ActorRef := none) (harness : Option NamedHarness := none) :
    LedgerAction QuestionRecord := do
  let task ← resolveTask taskRef
  ensureNotArchived task "add question to"
  let lock ← lockForMutation env task.id
  enforceDecision (questionAddDecision task lock .planner)
  let known ← listQuestions task.id
  let question := newQuestion env (Runtime.nextId "q" (known.map QuestionRecord.id)) task
    (Text.strip text) requiredForPlan actor harness
  recordQuestion env task question
  return question

/-- The questions of a batch, each with the next id after those in `ids`. -/
def questionsOfBatch (task : TaskRecord) (actor : Option ActorRef)
    (harness : Option NamedHarness) (ids : List String) :
    List (String × Bool) → List QuestionRecord
  | [] => []
  | (text, required) :: rest =>
    newQuestion env (Runtime.nextId "q" ids) task text required actor harness
      :: questionsOfBatch task actor harness (ids ++ [Runtime.nextId "q" ids]) rest

/-- `add_questions`. -/
def addQuestions (taskRef : String) (questions : List (String × Bool))
    (actor : Option ActorRef := none) (harness : Option NamedHarness := none)
    (allowDuplicates : Bool := false) : LedgerAction Dict := do
  let task ← resolveTask taskRef
  ensureNotArchived task "add questions to"
  let lock ← lockForMutation env task.id
  enforceDecision (questionAddDecision task lock .planner)
  let normalized ← (normalizeQuestionBatch questions allowDuplicates :
    Except Raised (List (String × Bool)))
  let known ← listQuestions task.id
  let created := questionsOfBatch env task actor harness (known.map QuestionRecord.id) normalized
  Action.each created fun question => recordQuestion env task question
  return [("kind", .str "question_add_many"),
    ("task_id", .str task.id),
    ("added_question_ids", .ofStrings (created.map QuestionRecord.id)),
    ("added", .list (created.map fun q => .dict q.toDict))]

/-- The sources an answer to a required question may come from. -/
def explicitSources : List String := ["explicit_user_chat", "user_file"]

/-- `answer_question`. -/
def answerQuestion (taskRef questionId text : String) (actor : Option ActorRef := none)
    (answerSource : String := "user") : LedgerAction QuestionRecord := do
  let task ← resolveTask taskRef
  ensureNotArchived task "answer question on"
  let lock ← lockForMutation env task.id
  enforceDecision (questionMutationDecision task lock .user)
  raiseIf (Text.isBlank text) <|
    cliError "Answer text must not be empty." exitCodeInvalidTransition
  let question ← resolveQuestion task.id questionId
  let resolvedActor := actor.getD { actorType := .user, actorName := "user" }
  let source := Runtime.lower (Text.strip answerSource)
  raiseIf (question.requiredForPlan = true ∧ source ∉ explicitSources) <|
    cliError ("Required planning question requires explicit user source. "
             ++ "Use --source explicit_user_chat after the user answers in chat.") exitCodeApprovalRequired
  let answered := { question with
    status := .answered
    answer := some (Text.strip text)
    answeredAt := some (utcNow env)
    answeredBy := some resolvedActor.actorName
    answeredByActor := some resolvedActor
    answerSource := if source = "" then none else some source }
  saveQuestion answered
  appendEvent env task.id "question.answered" [("question_id", .str answered.id)]
  return answered

/-- Answer the questions of a mapping one after the other. -/
def answerEach (taskId : String) (actor : Option ActorRef) (answerSource : String) :
    List (String × String) → LedgerAction (List QuestionRecord)
  | [] => pure []
  | (questionId, text) :: rest => do
    let first ← answerQuestion env taskId questionId text actor answerSource
    let others ← answerEach taskId actor answerSource rest
    return first :: others

/-- `_REQUIRED_PLAN_FIELDS` and `_RECOMMENDED_PLAN_FIELDS`. -/
def requiredPlanFields : List String := ["goal", "acceptance_criteria", "todos"]

def recommendedPlanFields : List String := ["files", "test_commands", "expected_outputs"]

/-- `_planning_template_hints(from_answers=True)`. -/
def planningTemplateHints : Dict :=
  [("template_command", .str "taskledger plan template --from-answers --file plan.md"),
    ("required_plan_fields", .ofStrings requiredPlanFields),
    ("recommended_plan_fields", .ofStrings recommendedPlanFields)]

/-- The next command after the questions were looked at. -/
def questionNextAction (regenerationNeeded : Bool) (requiredOpen : List String) : String :=
  if regenerationNeeded then "taskledger plan upsert --from-answers --file plan.md"
  else if requiredOpen = [] then "taskledger plan propose --file plan.md"
  else "taskledger question answer-many --file answers.yaml"

/-- The answers given since a plan was written. -/
def answeredSince (questions : List QuestionRecord) : Option PlanRecord → List String
  | some plan => staleAnswerQuestionIds questions plan
  | none => (questions.filter fun q => q.status = .answered).map QuestionRecord.id

/-- `question_status`. -/
def questionStatus (taskRef : String) : LedgerQuery Dict := do
  let task ← resolveTask taskRef
  let questions ← listQuestions task.id
  let requiredOpen := requiredOpenQuestionIds questions
  let latest ← latestPlanOrNone task.id
  let since := answeredSince questions latest
  let needed : Bool := since ≠ [] && requiredOpen = []
  return [("kind", .str "question_status"),
      ("task_id", .str task.id),
      ("required_open", .int requiredOpen.length),
      ("required_open_questions", .ofStrings requiredOpen),
      ("answered_required_questions",
        .ofStrings ((requiredAnswers questions).map QuestionRecord.id)),
      ("answered", .int (questions.filter fun q => q.status = .answered).length),
      ("answered_since_latest_plan", .ofStrings since),
      ("plan_regeneration_needed", .bool needed),
      ("next_action", .str (questionNextAction needed requiredOpen))]
    ++ if needed then planningTemplateHints else []

/-- The entries of `question_status` that `answer_questions` repeats. -/
def statusEntries (status : Dict) : Dict :=
  ["required_open", "required_open_questions", "plan_regeneration_needed", "next_action",
    "template_command", "required_plan_fields", "recommended_plan_fields"].flatMap fun key =>
      optionalEntry key (status.get? key)

/-- `answer_questions`. -/
def answerQuestions (taskRef : String) (answers : List (String × String))
    (actor : Option ActorRef := none) (answerSource : String := "harness") :
    LedgerAction Dict := do
  let task ← resolveTask taskRef
  ensureNotArchived task "answer questions on"
  raiseIf (answers = []) (cliError "At least one answer is required." exitCodeBadInput)
  let known ← listQuestions task.id
  let unknown := (answers.map Prod.fst).filter fun id => id ∉ known.map QuestionRecord.id
  raiseIf (unknown ≠ []) <|
    cliError ("Unknown question ids: " ++ Text.join ", " unknown) exitCodeMissing
  let blank := (answers.filter fun a => Text.isBlank a.2).map Prod.fst
  raiseIf (blank ≠ []) <|
    cliError ("Answer text must not be empty for: " ++ Text.join ", " blank) exitCodeBadInput
  let answered ← answerEach env task.id actor answerSource answers
  let status ← questionStatus task.id
  return [("kind", .str "question_answer_many"),
      ("task_id", .str task.id),
      ("answered_question_ids", .ofStrings (answered.map QuestionRecord.id)),
      ("answered", .list (answered.map fun q => .dict q.toDict))]
    ++ statusEntries status

/-- `dismiss_question`. -/
def dismissQuestion (taskRef questionId : String) : LedgerAction QuestionRecord := do
  let task ← resolveTask taskRef
  ensureNotArchived task "dismiss question on"
  let lock ← lockForMutation env task.id
  enforceDecision (questionMutationDecision task lock .user)
  let question ← resolveQuestion task.id questionId
  let dismissed := { question with status := .dismissed }
  saveQuestion dismissed
  appendEvent env task.id "question.dismissed" [("question_id", .str dismissed.id)]
  return dismissed

end Taskledger
