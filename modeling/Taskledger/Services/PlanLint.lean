import Taskledger.Services.PlanInput

/-!
# Plan lint

The rules of `lint_plan` whose issues are errors outside strict mode. The other
rules only add warnings there, and approval looks at errors alone.
-/

namespace Taskledger

open Library

/-- An issue of severity `error`. -/
structure PlanLintIssue where
  code : String
  location : String
  message : String
  hint : String

def PlanLintIssue.toDict (i : PlanLintIssue) : Dict :=
  [("severity", .str "error"),
    ("code", .str i.code),
    ("location", .str i.location),
    ("message", .str i.message),
    ("hint", .str i.hint)]

/-- A heading line: its depth and what follows the blanks after the hashes. -/
def headingOf (line : String) : Option (Nat × List Char) :=
  let hashes := line.toList.takeWhile (· == '#')
  match line.toList.dropWhile (· == '#') with
  | c :: rest =>
    if Text.isSpace c && !hashes.isEmpty then some (hashes.length, rest.dropWhile Text.isSpace)
    else none
  | [] => none

/-- The depth of a line that is the heading `title`, in any letter case. -/
def titledHeading (title line : String) : Option Nat :=
  match headingOf line with
  | some (depth, rest) =>
    if depth ≤ 3 ∧ (Text.dropTrailing Text.isSpace rest).map Char.toLower
        = title.toList.map Char.toLower then some depth
    else none
  | none => none

/-- A line that ends a section of the given depth. -/
def endsSection (depth : Nat) (line : String) : Bool :=
  match headingOf line with
  | some (d, rest) => d ≤ depth && !rest.isEmpty
  | none => false

/-- The section text of the lines collected so far, unless it is blank. -/
def sectionText (lines : List String) : Option String :=
  let text := Text.strip (Text.join "\n" lines)
  if text = "" then none else some text

/-- `_body_section`; `current` holds the depth and the lines, reversed, of the
section the scan is in. -/
def bodySectionFrom (title : String) (current : Option (Nat × List String)) :
    List String → Option String
  | [] => current.bind fun c => sectionText c.2.reverse
  | line :: rest =>
    match titledHeading title line with
    | some depth => bodySectionFrom title (some (depth, [])) rest
    | none =>
      match current with
      | none => bodySectionFrom title none rest
      | some (depth, lines) =>
        if endsSection depth line then sectionText lines.reverse
        else bodySectionFrom title (some (depth, line :: lines)) rest

/-- The suffixes of a text, each with the character before it. -/
def positions (before : Option Char) : List Char → List (Option Char × List Char)
  | [] => [(before, [])]
  | c :: cs => (before, c :: cs) :: positions (some c) cs

variable [Runtime]

/-- The text after `goal:` on the first such line with some. -/
def goalLine : List String → Option String
  | [] => none
  | line :: rest =>
    let stripped := Text.strip line
    let text := Text.strip (String.ofList (stripped.toList.drop 5))
    if Text.startsWith (Runtime.lower stripped) "goal:" ∧ text ≠ "" then some text
    else goalLine rest

/-- `_goal_text`. -/
def goalText (plan : PlanRecord) : Option String :=
  match plan.goal with
  | some goal => if Text.isBlank goal then fromBody else some (Text.strip goal)
  | none => fromBody
where
  fromBody : Option String :=
    (bodySectionFrom "Goal" none (Text.splitlines plan.body)).or
      (goalLine (Text.splitlines plan.body))

/-- `[.\w/\\-]+\.\w{1,8}` somewhere in the text. -/
def namesFile (text : String) : Bool :=
  (positions none text.toList).any fun
    | (some before, '.' :: c :: _) =>
      (before ∈ ['.', '/', '\\', '-'] || Runtime.isWord before) && Runtime.isWord c
    | _ => false

/-- A nonempty text between two backticks. -/
def hasBackticked (text : String) : Bool :=
  (positions none text.toList).any fun
    | (_, '`' :: rest) =>
      !(rest.takeWhile (· != '`')).isEmpty && !(rest.dropWhile (· != '`')).isEmpty
    | _ => false

/-- A word boundary on the left of a suffix that starts with a word character. -/
def startsWord (before : Option Char) : Bool := !before.any Runtime.isWord

/-- The word as a whole somewhere in the text. -/
def hasWord (word text : String) : Bool :=
  (positions none text.toList).any fun (before, rest) =>
    startsWord before && word.toList.isPrefixOf rest
      && !(rest.drop word.length).head?.any Runtime.isWord

/-- The word, blanks and a word character somewhere in the text. -/
def hasWordAndName (word text : String) : Bool :=
  (positions none text.toList).any fun (before, rest) =>
    let after := rest.drop word.length
    startsWord before && word.toList.isPrefixOf rest && after.head?.any Text.isSpace
      && (after.dropWhile Text.isSpace).head?.any Runtime.isWord

/-- `_GENERIC_TODO_PHRASES`. -/
def genericTodoPhrases : List String :=
  ["fix tests", "clean up", "update docs", "make it work", "handle edge cases", "add tests",
    "refactor"]

/-- `_todo_is_concrete`. The patterns for calls and for paths under `tests/` are
covered by the ones for files and by the check for separators. -/
def todoIsConcrete (todo : TaskTodo) : Bool :=
  let text := Text.strip todo.text
  if text = "" ∨ Text.strip (Runtime.lower text) ∈ genericTodoPhrases then false
  else
    namesFile text || hasBackticked text || ["pytest", "ruff", "mypy"].any (hasWord · text)
      || ["class", "def"].any (hasWordAndName · text)
      || todo.validationHint.any (fun hint => !Text.isBlank hint)
      || text.toList.any (fun c => c ∈ ['/', '\\', '.'])

/-- The issues of vague todos, numbered from `index`. -/
def vagueTodoIssues (index : Nat) : List TaskTodo → List PlanLintIssue
  | [] => []
  | todo :: rest =>
    let others := vagueTodoIssues (index + 1) rest
    if todoIsConcrete todo then others
    else
      { code := "todo_not_concrete"
        location := "plan.todos[" ++ Nat.repr index ++ "]"
        message := "Todo is too vague: \"" ++ todo.text ++ "\"."
        hint := "Name a file, function, command, or specific action." } :: others

/-- An issue when `c` holds. -/
def issueWhen (c : Bool) (issue : PlanLintIssue) : List PlanLintIssue :=
  if c then [issue] else []

/-- The error rules of `_run_lint_rules`. -/
def lintErrors (plan : PlanRecord) : List PlanLintIssue :=
  issueWhen (goalText plan).isNone
    { code := "missing_goal"
      location := "plan.goal"
      message := "Plan must define a concrete goal."
      hint := "Add `goal: ...` to plan front matter or a `## Goal` section." }
  ++ issueWhen plan.criteria.isEmpty
    { code := "missing_acceptance_criteria"
      location := "plan.criteria"
      message := "Plan must have at least one acceptance criterion."
      hint := "Add `acceptance_criteria:` to plan front matter." }
  ++ issueWhen (plan.todos.isEmpty && Text.isBlank (plan.todosWaivedReason.getD ""))
    { code := "missing_todos"
      location := "plan.todos"
      message := "Plan must have at least one todo or a todos_waived_reason."
      hint := "Add `todos:` to plan front matter or set `todos_waived_reason`." }
  ++ issueWhen (Text.isBlank plan.body)
    { code := "missing_plan_body"
      location := "plan.body"
      message := "Plan must have a non-empty body after front matter."
      hint := "Add implementation notes after the closing `---` separator." }
  ++ vagueTodoIssues 0 plan.todos

/-- `lint_plan(…, strict=False)`: the error issues of a stored plan version. -/
def lintPlan (taskRef : String) (version : Nat) : LedgerQuery (List PlanLintIssue) := do
  let task ← resolveTask taskRef
  let plan ← resolvePlan task.id (some version)
  return lintErrors plan

end Taskledger
