import Taskledger.Services.Tasks

/-!
# Plan input

A submitted plan is a text with optional YAML front matter. This module reads
its criteria, todos and other fields, and writes a stored plan back as such a
text.
-/

namespace Taskledger

open Library

/-- A line that opens or closes the front matter. -/
def isFence (line : String) : Bool := Text.strip line = "---"

/-- The lines before and after the first fence. -/
def splitAtFence : List String → Option (List String × List String)
  | [] => none
  | line :: rest =>
    if isFence line then some ([], rest)
    else (splitAtFence rest).map fun (before, after) => (line :: before, after)

/-- `_optional_string_value`. -/
def optionalStringValue : Value → Option String
  | .str s => if Text.isBlank s then none else some s
  | _ => none

/-- `_optional_front_matter_string`. -/
def optionalFrontMatterString (frontMatter : Dict) (key : String) : Option String :=
  optionalStringValue (frontMatter.get key)

/-- The items of a front matter list of texts. -/
def textItems (key : String) : List Value → Except Raised (List String)
  | [] => .ok []
  | .str s :: rest =>
    if Text.isBlank s then
      .error (cliError ("Plan front matter '" ++ key ++ "' must contain non-empty strings.")
        exitCodeBadInput)
    else do
      let others ← textItems key rest
      return Text.strip s :: others
  | _ :: _ =>
    .error (cliError ("Plan front matter '" ++ key ++ "' must contain non-empty strings.")
      exitCodeBadInput)

/-- `_string_tuple_from_front_matter`. -/
def stringTupleFromFrontMatter (frontMatter : Dict) (key : String) :
    Except Raised (List String) :=
  match frontMatter.get key with
  | .null => .ok []
  | .list items => textItems key items
  | _ => .error (cliError ("Plan front matter '" ++ key ++ "' must be a list.") exitCodeBadInput)

/-- `_criterion_id`. -/
def criterionId (index : Nat) : String := "ac-" ++ Text.fourDigits index

/-- The criteria of plain texts, blank ones dropped; ids count all of them. -/
def criteriaFromTexts (index : Nat) : List String → List AcceptanceCriterion
  | [] => []
  | text :: rest =>
    if Text.isBlank text then criteriaFromTexts (index + 1) rest
    else
      { id := criterionId index, text := Text.strip text } :: criteriaFromTexts (index + 1) rest

variable [Runtime]

/-- `_parse_plan_front_matter`. -/
def parsePlanFrontMatter (body : String) : Except Raised (Dict × String) :=
  match Text.splitlines body with
  | [] => .ok ([], body)
  | first :: rest =>
    if !isFence first then .ok ([], body)
    else match splitAtFence rest with
      | none => .error (cliError "Unterminated plan front matter." exitCodeBadInput)
      | some (front, after) =>
        match Runtime.safeLoad (Text.join "\n" front) with
        | .error reason => .error (.python "YAMLError" reason)
        | .ok (.dict entries) => .ok (entries, Text.join "\n" after)
        | .ok v =>
          if v.truthy then
            .error (cliError "Plan front matter must be a YAML mapping." exitCodeBadInput)
          else .ok ([], Text.join "\n" after)

/-- `str(value or "")`. -/
def textOrEmpty (v : Value) : String :=
  if v.truthy then Runtime.strOf v else ""

/-- `bool(item.get("mandatory", True))`. -/
def mandatoryOf (item : Dict) : Bool :=
  ((Dict.get? item "mandatory").getD (.bool true)).truthy

/-- A criterion given as a mapping without a `text`: a single key with its text. -/
def shorthandCriterion : Dict → Except Raised AcceptanceCriterion
  | [(key, v)] =>
    let text := Text.strip (Runtime.strOf v)
    if text = "" then
      .error (cliError "Plan criteria mappings must include non-empty text." exitCodeBadInput)
    else .ok { id := Text.strip key, text := text, mandatory := true }
  | _ => .error (cliError "Plan criteria mappings must include text." exitCodeBadInput)

/-- One entry of the criteria list of the front matter. -/
def criterionOf (index : Nat) : Value → Except Raised (Option AcceptanceCriterion)
  | .str s =>
    if Text.isBlank s then .ok none
    else .ok (some { id := criterionId index, text := Text.strip s })
  | .dict item =>
    let text := Text.strip (textOrEmpty (Dict.get item "text"))
    if text = "" then some <$> shorthandCriterion item
    else
      let given := Dict.get item "id"
      .ok (some
        { id := Text.strip (if given.truthy then Runtime.strOf given else criterionId index)
          text := text
          mandatory := mandatoryOf item })
  | _ => .error (cliError "Plan criteria must be strings or mappings." exitCodeBadInput)

/-- The criteria list of the front matter, numbered from `index`. -/
def criteriaFromList (index : Nat) : List Value → Except Raised (List AcceptanceCriterion)
  | [] => .ok []
  | item :: rest => do
    let criterion ← criterionOf index item
    let others ← criteriaFromList (index + 1) rest
    return criterion.toList ++ others

/-- The criteria before the check for duplicate ids. -/
def rawCriteria (frontMatter : Dict) (criteria : List String) :
    Except Raised (List AcceptanceCriterion) :=
  match (frontMatter.get? "acceptance_criteria").getD (frontMatter.get "criteria") with
  | .null => .ok (criteriaFromTexts 1 criteria)
  | .list items => criteriaFromList 1 items
  | _ => .error (cliError "Plan criteria front matter must be a list." exitCodeBadInput)

/-- `_criteria_from_plan_input`. -/
def criteriaFromPlanInput (frontMatter : Dict) (criteria : List String) :
    Except Raised (List AcceptanceCriterion) := do
  let items ← rawCriteria frontMatter criteria
  raiseIf (¬ (items.map AcceptanceCriterion.id).Nodup)
    (cliError "Plan criteria ids must be unique." exitCodeBadInput)
  return items

variable (env : Env)

/-- `_plan_todo_worker_step_id`. -/
def planTodoWorkerStepId (item : Dict) (index : Nat) : Except Raised (Option String) :=
  match item.get "worker_step" with
  | .null => .ok none
  | .str step =>
    if Text.isBlank step then
      .error (cliError ("Plan todo " ++ Nat.repr index
        ++ " worker_step must be a non-empty string.") exitCodeBadInput)
    else match env.workerSteps with
      | none =>
        .error (cliError "Plan todo worker_step requires an enabled worker pipeline."
          exitCodeBadInput)
      | some steps =>
        if Text.strip step ∈ steps then .ok (some (Text.strip step))
        else
          .error (cliError ("Unknown worker step '" ++ Text.strip step
            ++ "'. Configured step ids: "
            ++ Text.orElse (Text.join ", " steps) "(none configured)") exitCodeBadInput)
  | _ =>
    .error (cliError ("Plan todo " ++ Nat.repr index
      ++ " worker_step must be a non-empty string.") exitCodeBadInput)

/-- The default id of a plan todo. -/
def planTodoId (index : Nat) : String := "plan-todo-" ++ Text.fourDigits index

/-- One entry of the todo list of the front matter. -/
def planTodoOf (index : Nat) : Value → Except Raised (Option TaskTodo)
  | .str s =>
    if Text.isBlank s then .ok none
    else .ok (some
      { id := planTodoId index
        text := Text.strip s
        createdAt := utcNow env
        updatedAt := utcNow env
        mandatory := true
        source := some "plan" })
  | .dict item => do
    let text := Text.strip (textOrEmpty (Dict.get item "text"))
    raiseIf (text = "") (cliError "Plan todo mappings must include text." exitCodeBadInput)
    let workerStep ← planTodoWorkerStepId env item index
    let given := if (Dict.get item "id").truthy then Dict.get item "id" else Dict.get item "id_hint"
    return some
      { id := if given.truthy then Runtime.strOf given else planTodoId index
        text := text
        createdAt := utcNow env
        updatedAt := utcNow env
        mandatory := mandatoryOf item
        source := some "plan"
        validationHint := optionalStringValue (Dict.get item "validation_hint")
        workerStepId := workerStep }
  | _ => .error (cliError "Plan todos must be strings or mappings." exitCodeBadInput)

/-- The todo list of the front matter, numbered from `index`. -/
def planTodosFromList (index : Nat) : List Value → Except Raised (List TaskTodo)
  | [] => .ok []
  | item :: rest => do
    let todo ← planTodoOf env index item
    let others ← planTodosFromList (index + 1) rest
    return todo.toList ++ others

/-- `_todos_from_plan_input`. -/
def todosFromPlanInput (frontMatter : Dict) : Except Raised (List TaskTodo) :=
  match frontMatter.get "todos" with
  | .null => .ok []
  | .list items => planTodosFromList env 1 items
  | _ => .error (cliError "Plan todos front matter must be a list." exitCodeBadInput)

/-- The fields a submitted text gives a plan. -/
structure PlanInput where
  frontMatter : Dict
  body : String
  criteria : List AcceptanceCriterion
  todos : List TaskTodo
  files : List String
  testCommands : List String
  expectedOutputs : List String

/-- The readings of `propose_plan` and `regenerate_plan_from_answers` after the
front matter was split off. -/
def planInputOf (frontMatter : Dict) (body : String) (criteria : List String) :
    Except Raised PlanInput := do
  let items ← criteriaFromPlanInput frontMatter criteria
  let todos ← todosFromPlanInput env frontMatter
  let files ← stringTupleFromFrontMatter frontMatter "files"
  let testCommands ← stringTupleFromFrontMatter frontMatter "test_commands"
  let expectedOutputs ← stringTupleFromFrontMatter frontMatter "expected_outputs"
  return {
    frontMatter := frontMatter
    body := body
    criteria := items
    todos := todos
    files := files
    testCommands := testCommands
    expectedOutputs := expectedOutputs }

/-- Read a submitted plan text. -/
def readPlanInput (body : String) (criteria : List String) : Except Raised PlanInput := do
  let (frontMatter, planBody) ← parsePlanFrontMatter body
  planInputOf env frontMatter planBody criteria

/-- The plan of a submitted text, but for what the questions decide. -/
def planOfInput (input : PlanInput) (taskId : String) (version : Nat) (supersedes : Option Nat) :
    PlanRecord where
  taskId := taskId
  planVersion := version
  body := Text.strip input.body
  status := .proposed
  createdAt := utcNow env
  createdBy := defaultActor env
  supersedes := supersedes
  criteria := input.criteria
  todos := input.todos
  goal := optionalFrontMatterString input.frontMatter "goal"
  files := input.files
  testCommands := input.testCommands
  expectedOutputs := input.expectedOutputs
  todosWaivedReason :=
    (optionalFrontMatterString input.frontMatter "todos_waived_reason").or
      ((optionalFrontMatterString input.frontMatter "todo_waiver_reason").or
        (optionalFrontMatterString input.frontMatter "no_todos_reason"))

-- ════════════════════════════════════════════════════════════════════════
-- Writing a plan as an input text
-- ════════════════════════════════════════════════════════════════════════

/-- An optional text with content. -/
def nonempty? : Option String → Option String
  | none => none
  | some s => if s = "" then none else some s

/-- `_todo_payload`. -/
def todoPayload (todo : TaskTodo) : Dict :=
  [("id", .str todo.id), ("text", .str todo.text), ("mandatory", .bool todo.mandatory)]
  ++ optionalEntry "validation_hint" ((nonempty? todo.validationHint).map .str)
  ++ optionalEntry "worker_step" ((nonempty? todo.workerStepId).map .str)

/-- A list entry that is left out when the list is empty. -/
def textsEntry (key : String) (items : List String) : Dict :=
  if items.isEmpty then [] else [(key, .ofStrings items)]

/-- `_editable_front_matter`. -/
def editableFrontMatter (plan : PlanRecord) : Dict :=
  optionalEntry "goal" ((nonempty? plan.goal).map .str)
  ++ textsEntry "files" plan.files
  ++ textsEntry "test_commands" plan.testCommands
  ++ textsEntry "expected_outputs" plan.expectedOutputs
  ++ optionalEntry "generation_reason" ((nonempty? plan.generationReason).map .str)
  ++ optionalEntry "todos_waived_reason" ((nonempty? plan.todosWaivedReason).map .str)
  ++ [("acceptance_criteria", .list (plan.criteria.map fun c => .dict c.toDict)),
    ("todos", .list (plan.todos.map fun t => .dict (todoPayload t)))]

/-- `render_editable_plan`. -/
def renderEditablePlan (plan : PlanRecord) : String :=
  let front := Text.strip (Runtime.safeDump (editableFrontMatter plan))
  let body := Text.rstrip plan.body
  if body = "" then "---\n" ++ front ++ "\n---\n\n"
  else "---\n" ++ front ++ "\n---\n\n" ++ body ++ "\n"

/-- `approved_plan_content_hash`. -/
def approvedPlanContentHash (plan : PlanRecord) : String :=
  Runtime.contentHash <| Runtime.dumpJson <| .dict
    [("body", .str plan.body),
      ("goal", .ofOption plan.goal),
      ("files", .ofStrings plan.files),
      ("test_commands", .ofStrings plan.testCommands),
      ("expected_outputs", .ofStrings plan.expectedOutputs),
      ("criteria", .list (plan.criteria.map fun c => .dict c.toDict)),
      ("todos", .list (plan.todos.map fun t => .dict t.toDict))]

-- ════════════════════════════════════════════════════════════════════════
-- Questions a plan depends on
-- ════════════════════════════════════════════════════════════════════════

/-- `_answer_snapshot_hash`. -/
def answerSnapshotHash (questions : List QuestionRecord) : Option String :=
  let answered := (questions.filter fun q => q.status = .answered).map fun q =>
    q.id ++ String.ofList [Char.ofNat 0] ++ q.answer.getD ""
  if answered.isEmpty then none
  else some ("sha256:" ++ Runtime.contentHash (Text.join "\n" (sortedBy id answered)))

/-- `_required_open_question_ids`. -/
def requiredOpenQuestionIds (questions : List QuestionRecord) : List String :=
  (questions.filter fun q => q.status = .open ∧ q.requiredForPlan).map QuestionRecord.id

/-- The answered questions a plan must reflect. -/
def requiredAnswers (questions : List QuestionRecord) : List QuestionRecord :=
  questions.filter fun q => q.status = .answered ∧ q.requiredForPlan

/-- `_stale_answer_question_ids`. -/
def staleAnswerQuestionIds (questions : List QuestionRecord) (plan : PlanRecord) : List String :=
  if plan.generationReason = some "after_questions"
      ∧ plan.basedOnAnswerHash = answerSnapshotHash questions then []
  else (requiredAnswers questions).map QuestionRecord.id

end Taskledger
