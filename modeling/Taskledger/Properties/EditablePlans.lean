import Taskledger.Properties.PlanContents

/-!
# Editable plans

A stored plan is written as a text that a proposal reads again. The fields come back from the
front matter; the front matter comes back whole when none of its lines is a fence, and the body
when newlines are its only line breaks.
-/

namespace Taskledger

open Library Action

section Reading

variable [Runtime] {env : Env} {p q : PlanRecord} {index : Nat}

-- ════════════════════════════════════════════════════════════════════════
-- Contents
-- ════════════════════════════════════════════════════════════════════════

/-- What a todo of a plan asks for. -/
structure TodoContent where
  id : String
  text : String
  mandatory : Bool
  validationHint : Option String
  workerStepId : Option String

def TaskTodo.content (t : TaskTodo) : TodoContent where
  id := t.id
  text := t.text
  mandatory := t.mandatory
  validationHint := t.validationHint
  workerStepId := t.workerStepId

/-- What a plan says. -/
structure PlanContent where
  criteria : List AcceptanceCriterion
  todos : List TodoContent
  goal : Option String
  files : List String
  testCommands : List String
  expectedOutputs : List String
  todosWaivedReason : Option String
  body : String

def PlanRecord.content (p : PlanRecord) : PlanContent where
  criteria := p.criteria
  todos := p.todos.map TaskTodo.content
  goal := p.goal
  files := p.files
  testCommands := p.testCommands
  expectedOutputs := p.expectedOutputs
  todosWaivedReason := p.todosWaivedReason
  body := p.body

omit [Runtime] in
theorem PlanRecord.SameContent.content_eq (h : p.SameContent q) : p.content = q.content := by
  obtain ⟨hcriteria, htodos, hgoal, hwaiver, hfiles, htests, houtputs, hbody⟩ := h
  simp only [PlanRecord.content, hcriteria, htodos, hgoal, hwaiver, hfiles, htests, houtputs, hbody]

/-- A text gives one content. -/
theorem PlanRecord.ReadFrom.content_eq {body : String} {criteria : List String}
    (hp : p.ReadFrom env body criteria) (hq : q.ReadFrom env body criteria) :
    p.content = q.content := by
  obtain ⟨input, _, _, _, hread, hsame⟩ := hp
  obtain ⟨input', _, _, _, hread', hsame'⟩ := hq
  cases hread.symm.trans hread'
  exact hsame.content_eq.symm.trans hsame'.content_eq

/-- The rendered plan is read back with the content of the plan. -/
def PlanRecord.ReadsBack (env : Env) (p : PlanRecord) : Prop :=
  ∃ q : PlanRecord, q.ReadFrom env (renderEditablePlan p) [] ∧ q.content = p.content

-- ════════════════════════════════════════════════════════════════════════
-- The fields
-- ════════════════════════════════════════════════════════════════════════

theorem textOrEmpty_str (s : String) : textOrEmpty (.str s) = s := by
  unfold textOrEmpty
  split
  · exact Runtime.strOf_str s
  · rename_i hfalsy
    simpa [Value.truthy] using hfalsy

theorem criterionOf_toDict {c : AcceptanceCriterion} (hc : c.Stripped ∧ c.text ≠ "")
    (hid : c.id ≠ "") : criterionOf index (.dict c.toDict) = .ok (some c) := by
  obtain ⟨⟨hsid, hstext⟩, htext⟩ := hc
  have hget : textOrEmpty (Dict.get c.toDict "text") = c.text := textOrEmpty_str c.text
  have hgiven : (Dict.get c.toDict "id").truthy = true := by
    simpa [Dict.get, Dict.get?, AcceptanceCriterion.toDict, Value.truthy] using hid
  have hread : Runtime.strOf (Dict.get c.toDict "id") = c.id := Runtime.strOf_str c.id
  have hmandatory : mandatoryOf c.toDict = c.mandatory := rfl
  simp only [criterionOf, hget, hstext, if_neg htext, if_pos hgiven, hread, hsid, hmandatory]

theorem criteriaFromList_toDict {cs : List AcceptanceCriterion}
    (h : ∀ c ∈ cs, (c.Stripped ∧ c.text ≠ "") ∧ c.id ≠ "") :
    criteriaFromList index (cs.map fun c => .dict c.toDict) = .ok cs := by
  induction cs generalizing index with
  | nil => rfl
  | cons c rest ih =>
    obtain ⟨⟨hc, hid⟩, hrest⟩ := List.forall_mem_cons.1 h
    exact bind_eq_ok.2 ⟨_, criterionOf_toDict hc hid, bind_eq_ok.2 ⟨_, ih hrest, rfl⟩⟩

/-- The worker step of a todo is one of the process. -/
def TaskTodo.StepKnown (env : Env) (t : TaskTodo) : Prop :=
  ∀ step, t.workerStepId = some step → ∃ steps, env.workerSteps = some steps ∧ step ∈ steps

/-- A todo as its rendering is read. -/
def TaskTodo.readBack (env : Env) (t : TaskTodo) : TaskTodo where
  id := t.id
  text := t.text
  createdAt := utcNow env
  updatedAt := utcNow env
  mandatory := t.mandatory
  source := some "plan"
  validationHint := t.validationHint
  workerStepId := t.workerStepId

omit [Runtime] in
theorem nonempty?_of_not_blank {o : Option String}
    (h : ∀ s, o = some s → Text.isBlank s = false) : nonempty? o = o := by
  cases o with
  | none => rfl
  | some s =>
    refine if_neg ?_
    rintro rfl
    exact absurd (h "" rfl) (by decide)

omit [Runtime] in
theorem optionalStringValue_getD {o : Option String}
    (h : ∀ s, o = some s → Text.isBlank s = false) :
    optionalStringValue ((o.map Value.str).getD .null) = o := by
  cases o with
  | none => rfl
  | some s => exact optionalStringValue_eq_some.2 ⟨rfl, h s rfl⟩

omit [Runtime] in
theorem get?_append (d e : Dict) (key : String) :
    Dict.get? (d ++ e) key = (Dict.get? d key).or (Dict.get? e key) := by
  unfold Dict.get?
  rw [List.lookup_append]

omit [Runtime] in
theorem get?_optionalEntry (k : String) (v : Option Value) (key : String) :
    Dict.get? (optionalEntry k v) key = if key = k then v else none := by
  cases v with
  | none => simp [optionalEntry]
  | some v => simp [optionalEntry, Dict.get?_cons]

omit [Runtime] in
/-- The worker step of a rendered todo is read when it is known. -/
theorem planTodoWorkerStepId_payload {t : TaskTodo} (ht : t.Submitted) {r : Option String} :
    planTodoWorkerStepId env (todoPayload t) index = .ok r ↔
      t.StepKnown env ∧ r = t.workerStepId := by
  have hstep : Dict.get (todoPayload t) "worker_step" =
      (t.workerStepId.map Value.str).getD .null := by
    have hne := nonempty?_of_not_blank fun s hs => (ht.workerStep s hs).not_blank
    simp [todoPayload, Dict.get, get?_append, get?_optionalEntry, Dict.get?_cons, hne]
  unfold planTodoWorkerStepId TaskTodo.StepKnown
  rw [hstep]
  cases hworker : t.workerStepId with
  | none => simp [eq_comm]
  | some step =>
    have htrimmed := ht.workerStep step hworker
    simp only [Option.map_some, Option.getD_some, htrimmed.not_blank, Bool.false_eq_true, if_false,
      htrimmed.1, Option.some.injEq, forall_eq']
    cases env.workerSteps with
    | none => simp
    | some steps =>
      by_cases hmem : step ∈ steps
      · simp [hmem, eq_comm]
      · simp [hmem]

theorem planTodoOf_payload {t : TaskTodo} (ht : t.Submitted) (hid : t.id ≠ "")
    {r : Option TaskTodo} :
    planTodoOf env index (.dict (todoPayload t)) = .ok r ↔
      t.StepKnown env ∧ r = some (t.readBack env) := by
  have htext : Text.strip (textOrEmpty (Dict.get (todoPayload t) "text")) = t.text :=
    (congrArg Text.strip (textOrEmpty_str t.text)).trans ht.text.1
  have hmandatory : mandatoryOf (todoPayload t) = t.mandatory := rfl
  have hgiven : (Dict.get (todoPayload t) "id").truthy = true := by
    simpa [Dict.get, Dict.get?, todoPayload, Value.truthy] using hid
  have hread : Runtime.strOf (Dict.get (todoPayload t) "id") = t.id := Runtime.strOf_str t.id
  have hhint : optionalStringValue (Dict.get (todoPayload t) "validation_hint") =
      t.validationHint := by
    rw [← optionalStringValue_getD ht.hint]
    simp [todoPayload, Dict.get, get?_append, get?_optionalEntry, Dict.get?_cons,
      nonempty?_of_not_blank ht.hint]
  simp only [planTodoOf, bind_eq_ok, raiseIf_eq_ok, pure_eq_ok, htext, hmandatory, if_pos hgiven,
    hread, hhint, planTodoWorkerStepId_payload ht]
  constructor
  · rintro ⟨-, -, step, ⟨hknown, rfl⟩, rfl⟩
    exact ⟨hknown, rfl⟩
  · rintro ⟨hknown, rfl⟩
    exact ⟨(), ht.text.2, _, ⟨hknown, rfl⟩, rfl⟩

theorem planTodosFromList_payload {ts : List TaskTodo}
    (h : ∀ t ∈ ts, t.Submitted ∧ t.id ≠ "") {r : List TaskTodo} :
    planTodosFromList env index (ts.map fun t => .dict (todoPayload t)) = .ok r ↔
      (∀ t ∈ ts, t.StepKnown env) ∧ r = ts.map (TaskTodo.readBack env) := by
  induction ts generalizing index r with
  | nil => simp [planTodosFromList, eq_comm]
  | cons t rest ih =>
    obtain ⟨⟨ht, hid⟩, hrest⟩ := List.forall_mem_cons.1 h
    simp only [List.map_cons, planTodosFromList, bind_eq_ok, pure_eq_ok, planTodoOf_payload ht hid,
      ih hrest, List.forall_mem_cons]
    constructor
    · rintro ⟨_, ⟨hknown, rfl⟩, _, ⟨hothers, rfl⟩, rfl⟩
      exact ⟨⟨hknown, hothers⟩, rfl⟩
    · rintro ⟨⟨hknown, hothers⟩, rfl⟩
      exact ⟨_, ⟨hknown, rfl⟩, _, ⟨hothers, rfl⟩, rfl⟩

omit [Runtime] in
theorem textItems_str {key : String} {texts : List String} (h : ∀ s ∈ texts, Trimmed s) :
    textItems key (texts.map .str) = .ok texts := by
  induction texts with
  | nil => rfl
  | cons s rest ih =>
    obtain ⟨hs, hrest⟩ := List.forall_mem_cons.1 h
    rw [List.map_cons, textItems, if_neg (by simp [hs.not_blank]), ih hrest, hs.1]
    rfl

omit [Runtime] in
theorem get?_textsEntry (k : String) (items : List String) (key : String) :
    Dict.get? (textsEntry k items) key =
      if key = k ∧ items ≠ [] then some (.ofStrings items) else none := by
  cases items with
  | nil => simp [textsEntry]
  | cons s rest => simp [textsEntry, Dict.get?_cons]

omit [Runtime] in
/-- A list that is left out when it is empty is read as the list. -/
theorem stringTuple_of_entry {frontMatter : Dict} {key : String} {texts : List String}
    (hget : frontMatter.get key = if texts = [] then .null else .ofStrings texts)
    (h : ∀ s ∈ texts, Trimmed s) : stringTupleFromFrontMatter frontMatter key = .ok texts := by
  unfold stringTupleFromFrontMatter
  rw [hget]
  by_cases hempty : texts = []
  · rw [if_pos hempty, hempty]
  · rw [if_neg hempty]
    exact textItems_str h

/-- What the front matter of a plan gives, with a body. -/
def PlanRecord.readInput (env : Env) (p : PlanRecord) (body : String) : PlanInput where
  frontMatter := editableFrontMatter p
  body := body
  criteria := p.criteria
  todos := p.todos.map (TaskTodo.readBack env)
  files := p.files
  testCommands := p.testCommands
  expectedOutputs := p.expectedOutputs

/-- The criteria and the todos of a plan have ids. -/
structure PlanRecord.Named (p : PlanRecord) : Prop where
  criteria : ∀ c ∈ p.criteria, c.id ≠ ""
  todos : ∀ t ∈ p.todos, t.id ≠ ""

/-- The front matter of a plan is read as its fields when its worker steps are known. -/
theorem planInputOf_editable (hp : p.Submitted) (hnamed : p.Named) (body : String)
    {input : PlanInput} :
    planInputOf env (editableFrontMatter p) body [] = .ok input ↔
      (∀ t ∈ p.todos, t.StepKnown env) ∧ input = p.readInput env body := by
  have hcriteria : criteriaFromPlanInput (editableFrontMatter p) [] = .ok p.criteria := by
    have hget : (Dict.get? (editableFrontMatter p) "acceptance_criteria") =
        some (.list (p.criteria.map fun c => .dict c.toDict)) := by
      simp [editableFrontMatter, get?_append, get?_optionalEntry, get?_textsEntry, Dict.get?_cons]
    have hraw : rawCriteria (editableFrontMatter p) [] = .ok p.criteria := by
      unfold rawCriteria
      rw [hget]
      exact criteriaFromList_toDict fun c hc => ⟨hp.criteria c hc, hnamed.criteria c hc⟩
    exact bind_eq_ok.2 ⟨_, hraw, bind_eq_ok.2 ⟨(), raiseIf_eq_ok.2 (not_not.2 hp.ids), rfl⟩⟩
  have htodos {r : List TaskTodo} : todosFromPlanInput env (editableFrontMatter p) = .ok r ↔
      (∀ t ∈ p.todos, t.StepKnown env) ∧ r = p.todos.map (TaskTodo.readBack env) := by
    have hget : Dict.get (editableFrontMatter p) "todos" =
        .list (p.todos.map fun t => .dict (todoPayload t)) := by
      simp [editableFrontMatter, Dict.get, get?_append, get?_optionalEntry, get?_textsEntry,
        Dict.get?_cons]
    unfold todosFromPlanInput
    rw [hget]
    exact planTodosFromList_payload fun t ht => ⟨hp.todos t ht, hnamed.todos t ht⟩
  have hfiles : stringTupleFromFrontMatter (editableFrontMatter p) "files" = .ok p.files :=
    stringTuple_of_entry (by
      by_cases h : p.files = [] <;>
        simp [editableFrontMatter, Dict.get, get?_append, get?_optionalEntry, get?_textsEntry,
          Dict.get?_cons, h]) hp.files
  have htests :
      stringTupleFromFrontMatter (editableFrontMatter p) "test_commands" = .ok p.testCommands :=
    stringTuple_of_entry (by
      by_cases h : p.testCommands = [] <;>
        simp [editableFrontMatter, Dict.get, get?_append, get?_optionalEntry, get?_textsEntry,
          Dict.get?_cons, h]) hp.testCommands
  have houtputs :
      stringTupleFromFrontMatter (editableFrontMatter p) "expected_outputs" =
        .ok p.expectedOutputs :=
    stringTuple_of_entry (by
      by_cases h : p.expectedOutputs = [] <;>
        simp [editableFrontMatter, Dict.get, get?_append, get?_optionalEntry, get?_textsEntry,
          Dict.get?_cons, h]) hp.expectedOutputs
  simp only [planInputOf, bind_eq_ok, pure_eq_ok, hcriteria, htodos, hfiles, htests, houtputs,
    Except.ok.injEq]
  constructor
  · rintro ⟨_, rfl, _, ⟨hknown, rfl⟩, _, rfl, _, rfl, _, rfl, rfl⟩
    exact ⟨hknown, rfl⟩
  · rintro ⟨hknown, rfl⟩
    exact ⟨_, rfl, _, ⟨hknown, rfl⟩, _, rfl, _, rfl, _, rfl, rfl⟩

/-- The body of a submitted plan. -/
theorem body_planOfInput {frontMatter : Dict} {body : String} {criteria : List String}
    {input : PlanInput} (h : planInputOf env frontMatter body criteria = .ok input)
    (taskId : String) (version : Nat) (supersedes : Option Nat) :
    (planOfInput env input taskId version supersedes).body = Text.strip body := by
  obtain ⟨_, -, h⟩ := bind_eq_ok.1 h
  obtain ⟨_, -, h⟩ := bind_eq_ok.1 h
  obtain ⟨_, -, h⟩ := bind_eq_ok.1 h
  obtain ⟨_, -, h⟩ := bind_eq_ok.1 h
  obtain ⟨_, -, h⟩ := bind_eq_ok.1 h
  cases pure_eq_ok.1 h
  rfl

/-- The fields of a plan come back, whatever body they are read with. -/
theorem content_of_readInput (hp : p.Submitted) (body taskId : String) (version : Nat)
    (supersedes : Option Nat) :
    (planOfInput env (p.readInput env body) taskId version supersedes).content =
      { p.content with body := Text.strip body } := by
  have hgoal : optionalFrontMatterString (editableFrontMatter p) "goal" = p.goal := by
    rw [← optionalStringValue_getD hp.goal]
    simp [optionalFrontMatterString, editableFrontMatter, Dict.get, get?_append, get?_optionalEntry,
      get?_textsEntry, Dict.get?_cons, nonempty?_of_not_blank hp.goal]
  have hwaiver : optionalFrontMatterString (editableFrontMatter p) "todos_waived_reason" =
      p.todosWaivedReason := by
    rw [← optionalStringValue_getD hp.waiver]
    simp [optionalFrontMatterString, editableFrontMatter, Dict.get, get?_append, get?_optionalEntry,
      get?_textsEntry, Dict.get?_cons, nonempty?_of_not_blank hp.waiver]
  have hother (key : String) (hkey : key = "todo_waiver_reason" ∨ key = "no_todos_reason") :
      optionalFrontMatterString (editableFrontMatter p) key = none := by
    rcases hkey with rfl | rfl <;>
      simp [optionalFrontMatterString, editableFrontMatter, Dict.get, get?_append, get?_optionalEntry,
        get?_textsEntry, Dict.get?_cons, optionalStringValue]
  have htodos : (p.todos.map (TaskTodo.readBack env)).map TaskTodo.content =
      p.todos.map TaskTodo.content := by
    rw [List.map_map]
    rfl
  simp only [PlanRecord.content, planOfInput, PlanRecord.readInput, hgoal, hwaiver,
    hother _ (.inl rfl), hother _ (.inr rfl), Option.or_none, htodos]

-- ════════════════════════════════════════════════════════════════════════
-- The text
-- ════════════════════════════════════════════════════════════════════════

/-- The front matter of a plan as YAML. -/
def yamlText (p : PlanRecord) : String :=
  Text.strip (Runtime.safeDump (editableFrontMatter p))

/-- What is relied on of the YAML library: what it writes it reads back, and newlines are the
only line breaks it writes. -/
structure YamlKeeps (p : PlanRecord) : Prop where
  load : Runtime.safeLoad (yamlText p) = .ok (.dict (editableFrontMatter p))
  lines : Text.OnlyNewlines (yamlText p)

/-- No line of the front matter is a fence. -/
def NoFence (p : PlanRecord) : Prop := ∀ l ∈ Text.splitOn '\n' (yamlText p), isFence l = false

/-- The lines of the body of a rendered plan. -/
def bodyLines (body : String) : List String :=
  if Text.rstrip body = "" then [] else Text.splitlines (Text.rstrip body ++ "\n")

omit [Runtime] in
theorem splitlines_fence (t : String) :
    Text.splitlines ("---\n" ++ t) = "---" :: Text.splitlines t := by
  have hfence : Text.splitlines ("---" ++ "\n") = ["---"] := by decide
  rw [show ("---\n" : String) = "---" ++ "\n" from rfl, Text.splitlines_newline, hfence]
  rfl

theorem splitlines_render (hyaml : YamlKeeps p) :
    Text.splitlines (renderEditablePlan p) =
      "---" :: (Text.splitOn '\n' (yamlText p) ++ "---" :: "" :: bodyLines p.body) := by
  have hblank (t : String) : Text.splitlines ("\n" ++ t) = "" :: Text.splitlines t := by
    have hempty : Text.splitlines ("" ++ "\n") = [""] := by decide
    rw [show ("\n" : String) = "" ++ "\n" from rfl, Text.splitlines_newline, hempty]
    rfl
  have hfront (t : String) : Text.splitlines ("---\n" ++ yamlText p ++ "\n---\n\n" ++ t) =
      "---" :: (Text.splitOn '\n' (yamlText p) ++ "---" :: "" :: Text.splitlines t) := by
    have htext : "---\n" ++ yamlText p ++ "\n---\n\n" ++ t =
        "---\n" ++ (yamlText p ++ "\n" ++ ("---\n" ++ ("\n" ++ t))) := by
      simp only [String.append_assoc, show ("\n---\n\n" : String) = "\n" ++ ("---\n" ++ "\n") from rfl]
    rw [htext, splitlines_fence, Text.splitlines_newline,
      Text.splitlines_of_onlyNewlines hyaml.lines, splitlines_fence, hblank]
  by_cases hbody : Text.rstrip p.body = ""
  · have hnil : Text.splitlines "" = [] := by decide
    have hrender : renderEditablePlan p = "---\n" ++ yamlText p ++ "\n---\n\n" ++ "" := by
      rw [String.append_empty]
      exact if_pos hbody
    rw [hrender, hfront, bodyLines, if_pos hbody, hnil]
  · have hrender : renderEditablePlan p =
        "---\n" ++ yamlText p ++ "\n---\n\n" ++ (Text.rstrip p.body ++ "\n") := by
      rw [← String.append_assoc]
      exact if_neg hbody
    rw [hrender, hfront, bodyLines, if_neg hbody]

omit [Runtime] in
/-- The first fence splits the lines. -/
theorem splitAtFence_append {before after : List String} {fence : String}
    (h : ∀ l ∈ before, isFence l = false) (hfence : isFence fence = true) :
    splitAtFence (before ++ fence :: after) = some (before, after) := by
  induction before with
  | nil => exact if_pos hfence
  | cons l rest ih =>
    obtain ⟨hl, hrest⟩ := List.forall_mem_cons.1 h
    rw [List.cons_append, splitAtFence, if_neg (by simp [hl]), ih hrest]
    rfl

omit [Runtime] in
/-- A fence in the lines comes before all that follows them. -/
theorem splitAtFence_of_mem {before : List String} {l : String} (hl : l ∈ before)
    (hfence : isFence l = true) :
    ∃ front rest, ∀ after, splitAtFence (before ++ after) = some (front, rest ++ after) := by
  induction before with
  | nil => cases hl
  | cons first rest ih =>
    by_cases hfirst : isFence first = true
    · exact ⟨[], rest, fun _ => if_pos hfirst⟩
    · rcases List.mem_cons.1 hl with rfl | hl
      · exact absurd hfence hfirst
      · obtain ⟨front, others, hsplit⟩ := ih hl
        refine ⟨first :: front, others, fun after => ?_⟩
        rw [List.cons_append, splitAtFence, if_neg hfirst, hsplit]
        rfl

/-- The body is what follows the second fence. -/
theorem body_of_parsePlanFrontMatter {text planBody : String} {frontMatter : Dict}
    {rest front after : List String} (hlines : Text.splitlines text = "---" :: rest)
    (hsplit : splitAtFence rest = some (front, after))
    (h : parsePlanFrontMatter text = .ok (frontMatter, planBody)) :
    planBody = Text.join "\n" after := by
  have hfence : isFence "---" = true := by decide
  unfold parsePlanFrontMatter at h
  simp only [hlines, hfence, hsplit, Bool.not_true, Bool.false_eq_true, if_false] at h
  split at h
  · cases h
  · cases h
    rfl
  · split at h
    · cases h
    · cases h
      rfl

omit [Runtime] in
theorem ink_bodyLines (body : String) : (bodyLines body).flatMap Text.ink = Text.ink body := by
  have hend : Text.ink "\n" = [] := by decide
  unfold bodyLines
  split
  · rename_i hempty
    rw [← Text.ink_rstrip body, hempty]
    rfl
  · rw [Text.ink_splitlines, Text.ink_append, Text.ink_rstrip, hend, List.append_nil]

omit [Runtime] in
/-- A stripped body comes back exactly when newlines are its only line breaks. -/
theorem strip_bodyLines_iff {body : String} (h : Text.strip body = body) :
    Text.strip (Text.join "\n" ("" :: bodyLines body)) = body ↔ Text.OnlyNewlines body := by
  rcases Text.solid_of_strip_eq h with rfl | ⟨hstart, hend⟩
  · decide
  have hne : body ≠ "" := by
    rintro rfl
    exact absurd hstart (by simp [Text.StartsSolid])
  have hlines : bodyLines body = Text.splitlines (body ++ "\n") := by
    rw [bodyLines, hend.rstrip_eq, if_neg hne]
  constructor
  · intro hback c hc hbreak
    rw [← hback] at hc
    have hall : Text.OnlyNewlines (Text.join "\n" ("" :: bodyLines body)) := by
      refine Text.onlyNewlines_join (List.forall_mem_cons.2 ⟨by simp, ?_⟩)
      rw [hlines]
      exact fun l hl => Text.isLineBreak_of_mem_splitlines hl
    exact hall c (Text.mem_of_mem_strip hc) hbreak
  · intro honly
    have hcons : bodyLines body ≠ [] := by
      rw [hlines, Text.splitlines_of_onlyNewlines honly]
      exact Text.splitOn_ne_nil
    rw [Text.join_cons hcons, hlines, Text.join_splitlines_iff.2 honly]
    exact (Text.strip_newline_append body).trans h

-- ════════════════════════════════════════════════════════════════════════
-- The round trip
-- ════════════════════════════════════════════════════════════════════════

/-- When a plan comes back: no line of its front matter is a fence, newlines are the only line
breaks of its body, and its worker steps are known. -/
structure Editable (env : Env) (p : PlanRecord) : Prop where
  fences : NoFence p
  lines : Text.OnlyNewlines p.body
  steps : ∀ t ∈ p.todos, t.StepKnown env

/-- Without a fence the front matter is read whole. -/
theorem parse_render (hyaml : YamlKeeps p) (hfences : NoFence p) :
    parsePlanFrontMatter (renderEditablePlan p) =
      .ok (editableFrontMatter p, Text.join "\n" ("" :: bodyLines p.body)) := by
  have hfence : isFence "---" = true := by decide
  unfold parsePlanFrontMatter
  simp only [splitlines_render hyaml, hfence, splitAtFence_append hfences hfence, Bool.not_true,
    Bool.false_eq_true, if_false, Text.join_splitOn, hyaml.load]

/-- With a fence in the front matter the body that is read is longer than the plan's. -/
theorem body_of_fence (hyaml : YamlKeeps p) {l : String}
    (hl : l ∈ Text.splitOn '\n' (yamlText p)) (hfence : isFence l = true) {frontMatter : Dict}
    {planBody : String}
    (h : parsePlanFrontMatter (renderEditablePlan p) = .ok (frontMatter, planBody)) :
    Text.strip planBody ≠ p.body := by
  obtain ⟨front, rest, hsplit⟩ := splitAtFence_of_mem hl hfence
  have hbody := body_of_parsePlanFrontMatter (splitlines_render hyaml) (hsplit _) h
  intro hback
  have hink := congrArg (fun t => (Text.ink t).length) hback
  have hdashes : (Text.ink "---").length = 3 := by decide
  simp only [hbody, Text.ink_strip, Text.ink_join, List.flatMap_append, List.flatMap_cons,
    ink_bodyLines, List.length_append, hdashes] at hink
  omega

/-- A plan comes back exactly when it is editable. -/
theorem readsBack_iff (hp : p.Submitted) (hnamed : p.Named) (hyaml : YamlKeeps p) :
    p.ReadsBack env ↔ Editable env p := by
  constructor
  · rintro ⟨q, ⟨input, taskId, version, supersedes, hread, hsame⟩, hcontent⟩
    obtain ⟨⟨frontMatter, planBody⟩, hparse, hinput⟩ := bind_eq_ok.1 hread
    have hbody : Text.strip planBody = p.body := by
      have hplan : (planOfInput env input taskId version supersedes).body = p.body :=
        congrArg PlanContent.body (hsame.content_eq.trans hcontent)
      rw [← hplan, body_planOfInput hinput]
    have hfences : NoFence p := by
      intro l hl
      by_contra hfence
      exact body_of_fence hyaml hl (by simpa using hfence) hparse hbody
    rw [parse_render hyaml hfences] at hparse
    cases hparse
    exact
      { fences := hfences
        lines := (strip_bodyLines_iff hp.body).1 hbody
        steps := ((planInputOf_editable hp hnamed _).1 hinput).1 }
  · intro h
    have hparse := parse_render hyaml h.fences
    have hinput := (planInputOf_editable hp hnamed (Text.join "\n" ("" :: bodyLines p.body))).2
      ⟨h.steps, rfl⟩
    refine ⟨_, ⟨_, "", 0, none, bind_eq_ok.2 ⟨_, hparse, hinput⟩, rfl, rfl, rfl, rfl, rfl, rfl, rfl,
      rfl⟩, ?_⟩
    rw [content_of_readInput hp, (strip_bodyLines_iff hp.body).2 h.lines]
    rfl

omit [Runtime] in
theorem id_ne_of_reload {c c' : AcceptanceCriterion} (h : c.reload = .ok c') : c'.id ≠ "" := by
  simp only [AcceptanceCriterion.reload, requireString, bind_eq_ok, raiseIf_eq_ok, pure_eq_ok] at h
  obtain ⟨-, hid, -, -, rfl⟩ := h
  exact hid

/-- The criteria and the todos of a plan that is read have ids. -/
theorem named_of_reload (h : q.reload = .ok p) : p.Named := by
  simp only [PlanRecord.reload, bind_eq_ok, pure_eq_ok] at h
  obtain ⟨_, -, criteria, hcriteria, todos, htodos, rfl⟩ := h
  refine ⟨fun c hc => ?_, fun t ht => ?_⟩
  · obtain ⟨_, -, hreload⟩ := (mem_reloaded_iff hcriteria).1 hc
    exact id_ne_of_reload hreload
  · obtain ⟨stored, -, hreload⟩ := (mem_reloaded_iff htodos).1 ht
    simp only [TaskTodo.reload, requireString, bind_eq_ok, raiseIf_eq_ok, pure_eq_ok] at hreload
    obtain ⟨-, -, -, hid, -, -, rfl⟩ := hreload
    exact hid

theorem named_of_resolvePlan {s : Ledger} {id : String} {version : Option Nat}
    (h : resolvePlan id version s = .ok p) : p.Named := by
  obtain ⟨plans, _, hl, -, hp, -⟩ := resolvePlan_eq_ok h
  obtain ⟨stored, -, -, hreload⟩ := (mem_listPlans hl).1 hp
  exact named_of_reload hreload

/-- A stored plan is read back from its rendering, and a proposal of its rendering has its
content, exactly when the plan is editable; with nothing dropped an amendment renders the plan
itself. -/
theorem editable_plan_reads_back_iff {s : Ledger} (hs : s.Reachable) {id : String}
    {version : Option Nat} (hplan : resolvePlan id version s = .ok p) (hyaml : YamlKeeps p) :
    (p.ReadsBack env ↔ Editable env p) ∧
      (∀ (s' : Ledger) (ref : String) (proposal : Proposal),
        proposalOf env ref (renderEditablePlan p) [] s' = .ok proposal →
          (proposal.plan.content = p.content ↔ Editable env p)) ∧
      amendedPlan p [] [] [] = p := by
  have hiff : p.ReadsBack env ↔ Editable env p :=
    readsBack_iff (hs.submitted.resolved hplan) (named_of_resolvePlan hplan) hyaml
  refine ⟨hiff, fun s' ref proposal hproposal => ?_, by simp [amendedPlan]⟩
  have hread := readFrom_of_proposalOf hproposal
  rw [← hiff]
  constructor
  · intro hcontent
    exact ⟨proposal.plan, hread, hcontent⟩
  · rintro ⟨q, hq, hcontent⟩
    exact (hread.content_eq hq).trans hcontent

end Reading

section Evaluation

/-- The front matter of a plan with one criterion and no todos. -/
def oneCriterionFrontMatter : Dict :=
  [("generation_reason", .str "initial"),
    ("acceptance_criteria", .list [.dict
      [("id", .str "ac-0001"), ("text", .str "it works"), ("mandatory", .bool true)]]),
    ("todos", .list [])]

/-- It as YAML. -/
def oneCriterionYaml : String :=
  "generation_reason: initial\nacceptance_criteria:\n- id: ac-0001\n  text: it works\n"
    ++ "  mandatory: true\ntodos: []"

/-- The runtime to evaluate with, and the YAML of that front matter. -/
@[reducible]
def oneCriterionRuntime : Runtime :=
  { plainRuntime with
    safeDump := fun _ => oneCriterionYaml ++ "\n"
    safeLoad := fun text =>
      if text = oneCriterionYaml then .ok (.dict oneCriterionFrontMatter) else .ok (.str text) }

attribute [local instance] oneCriterionRuntime

/-- A plan with this body is proposed. -/
def proposedBody (body : String) : Ledger :=
  services.run .empty <| List.map (Step.mk plainEnv)
    [.createTask { title := "A", description := "d" }, .startPlanning "task-0001" none none,
      .proposePlan "task-0001" body ["it works"]]

/-- The plan that is stored then. -/
def oneCriterionPlan (body : String) : PlanRecord where
  taskId := "task-0001"
  planVersion := 1
  body := body
  createdAt := "1970-01-01T00:00:00+00:00"
  createdBy := defaultActor plainEnv
  criteria := [{ id := "ac-0001", text := "it works" }]
  generationReason := some "initial"

theorem yamlText_oneCriterionPlan (body : String) :
    yamlText (oneCriterionPlan body) = oneCriterionYaml := by
  have hstrip : Text.strip (oneCriterionYaml ++ "\n") = oneCriterionYaml := by decide
  exact hstrip

theorem yamlKeeps_oneCriterionPlan (body : String) : YamlKeeps (oneCriterionPlan body) := by
  refine ⟨?_, ?_⟩
  · rw [yamlText_oneCriterionPlan]
    exact if_pos rfl
  · rw [yamlText_oneCriterionPlan]
    decide

theorem editable_plan_reads_back_plain :
    (oneCriterionPlan "Do it.\nThen test.").ReadsBack plainEnv := by
  have hplan : resolvePlan "task-0001" none (proposedBody "Do it.\nThen test.") =
      .ok (oneCriterionPlan "Do it.\nThen test.") := toOption_eq_some.1 (by decide)
  refine (editable_plan_reads_back_iff (reachable_run _) hplan (yamlKeeps_oneCriterionPlan _)).1.2
    ⟨?_, by decide, fun t ht => by cases ht⟩
  have hlines : ∀ l ∈ Text.splitOn '\n' oneCriterionYaml, isFence l = false := by decide
  unfold NoFence
  rw [yamlText_oneCriterionPlan]
  exact hlines

/-- A form feed in a body comes back as a newline. -/
theorem form_feed_is_lost :
    ∃ s : Ledger, s.Reachable ∧ ∃ p, resolvePlan "task-0001" none s = .ok p ∧ YamlKeeps p ∧
      ¬ p.ReadsBack plainEnv := by
  have hplan : resolvePlan "task-0001" none (proposedBody "Do it.\x0cThen test.") =
      .ok (oneCriterionPlan "Do it.\x0cThen test.") := toOption_eq_some.1 (by decide)
  have hyaml := yamlKeeps_oneCriterionPlan "Do it.\x0cThen test."
  refine ⟨_, reachable_run _, _, hplan, hyaml, fun hback => ?_⟩
  have hs := (reachable_run _).submitted.resolved hplan
  have heditable := (readsBack_iff hs (named_of_resolvePlan hplan) hyaml).1 hback
  exact absurd heditable.lines (by decide)

end Evaluation

end Taskledger
