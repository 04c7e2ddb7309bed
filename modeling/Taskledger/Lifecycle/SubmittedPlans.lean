import Taskledger.Lifecycle.View

/-!
# Submitted plans

The readings of a plan text check every text of a criterion or a todo, but not the
ids of the criteria. A plan whose criteria have ids loads again.
-/

namespace Taskledger

open Library

variable [Runtime] {env : Env} {criteria : List AcceptanceCriterion} {todos : List TaskTodo}

omit [Runtime] in
theorem append_ne_empty {a b : String} (h : a ≠ "") : a ++ b ≠ "" := fun hab =>
  h (String.append_eq_empty_iff.1 hab).1

-- ════════════════════════════════════════════════════════════════════════
-- Criteria
-- ════════════════════════════════════════════════════════════════════════

omit [Runtime] in
theorem text_of_criteriaFromTexts (texts : List String) (index : Nat) :
    ∀ c ∈ criteriaFromTexts index texts, c.text ≠ "" := by
  induction texts generalizing index with
  | nil => simp [criteriaFromTexts]
  | cons text rest ih =>
    rw [criteriaFromTexts]
    split
    · exact ih _
    · rename_i hblank
      rw [List.forall_mem_cons]
      exact ⟨by simpa [Text.isBlank] using hblank, ih _⟩

theorem text_of_criterionOf {index : Nat} {item : Value} {c : AcceptanceCriterion}
    (h : criterionOf index item = .ok (some c)) : c.text ≠ "" := by
  cases item with
  | str text =>
    simp only [criterionOf] at h
    split at h
    · cases h
    · rename_i hblank
      cases h
      simpa [Text.isBlank] using hblank
  | dict item =>
    simp only [criterionOf] at h
    split at h
    · cases hs : shorthandCriterion item with
      | error e => simp [hs, Functor.map, Except.map] at h
      | ok c' =>
        simp only [hs, Functor.map, Except.map, Except.ok.injEq, Option.some.injEq] at h
        subst h
        unfold shorthandCriterion at hs
        split at hs
        · simp only at hs
          split at hs
          · cases hs
          · rename_i hne
            cases hs
            exact hne
        · cases hs
    · rename_i hne
      cases h
      exact hne
  | null => cases h
  | bool b => cases h
  | int n => cases h
  | scalar text truthy => cases h
  | list items => cases h

theorem text_of_criteriaFromList {index : Nat} {items : List Value}
    (h : criteriaFromList index items = .ok criteria) : ∀ c ∈ criteria, c.text ≠ "" := by
  induction items generalizing index criteria with
  | nil =>
    cases h
    simp
  | cons item rest ih =>
    obtain ⟨criterion, hc, h⟩ := bind_eq_ok.1 h
    obtain ⟨others, ho, h⟩ := bind_eq_ok.1 h
    cases pure_eq_ok.1 h
    rintro c hmem
    rcases List.mem_append.1 hmem with hmem | hmem
    · rw [Option.mem_toList] at hmem
      exact text_of_criterionOf (hmem ▸ hc)
    · exact ih ho c hmem

theorem text_of_criteriaFromPlanInput {frontMatter : Dict} {texts : List String}
    (h : criteriaFromPlanInput frontMatter texts = .ok criteria) : ∀ c ∈ criteria, c.text ≠ "" := by
  obtain ⟨items, hitems, h⟩ := bind_eq_ok.1 h
  obtain ⟨_, _, h⟩ := bind_eq_ok.1 h
  cases pure_eq_ok.1 h
  unfold rawCriteria at hitems
  split at hitems
  · cases hitems
    exact text_of_criteriaFromTexts _ _
  · exact text_of_criteriaFromList hitems
  · cases hitems

-- ════════════════════════════════════════════════════════════════════════
-- Todos
-- ════════════════════════════════════════════════════════════════════════

omit [Runtime] in
theorem planTodoId_ne (index : Nat) : planTodoId index ≠ "" := append_ne_empty (by decide)

theorem givenTodoId_ne (index : Nat) (given : Value) :
    (if given.truthy then Runtime.strOf given else planTodoId index) ≠ "" := by
  split
  · exact Runtime.strOf_ne _ ‹_›
  · exact planTodoId_ne _

theorem loads_of_planTodoOf {index : Nat} {item : Value} {todo : TaskTodo}
    (h : planTodoOf env index item = .ok (some todo)) : ∃ t, todo.reload = .ok t := by
  rw [TaskTodo.loads_iff]
  cases item with
  | str text =>
    simp only [planTodoOf] at h
    split at h
    · cases h
    · rename_i hblank
      cases h
      exact ⟨⟨_, rfl⟩, planTodoId_ne _, by simpa [Text.isBlank] using hblank⟩
  | dict item =>
    obtain ⟨_, htext, h⟩ := bind_eq_ok.1 h
    obtain ⟨workerStep, _, h⟩ := bind_eq_ok.1 h
    rw [raiseIf_eq_ok] at htext
    cases pure_eq_ok.1 h
    exact ⟨⟨_, rfl⟩, givenTodoId_ne index _, htext⟩
  | null => cases h
  | bool b => cases h
  | int n => cases h
  | scalar text truthy => cases h
  | list items => cases h

theorem loads_of_planTodosFromList {index : Nat} {items : List Value}
    (h : planTodosFromList env index items = .ok todos) :
    ∀ todo ∈ todos, ∃ t, todo.reload = .ok t := by
  induction items generalizing index todos with
  | nil =>
    cases h
    simp
  | cons item rest ih =>
    obtain ⟨todo, ht, h⟩ := bind_eq_ok.1 h
    obtain ⟨others, ho, h⟩ := bind_eq_ok.1 h
    cases pure_eq_ok.1 h
    rintro t hmem
    rcases List.mem_append.1 hmem with hmem | hmem
    · rw [Option.mem_toList] at hmem
      exact loads_of_planTodoOf (hmem ▸ ht)
    · exact ih ho t hmem

theorem loads_of_todosFromPlanInput {frontMatter : Dict}
    (h : todosFromPlanInput env frontMatter = .ok todos) :
    ∀ todo ∈ todos, ∃ t, todo.reload = .ok t := by
  unfold todosFromPlanInput at h
  split at h
  · cases h
    simp
  · exact loads_of_planTodosFromList h
  · cases h

-- ════════════════════════════════════════════════════════════════════════
-- Plans
-- ════════════════════════════════════════════════════════════════════════

/-- A plan of a submitted text whose criteria have ids loads. -/
theorem loads_of_readPlanInput {body : String} {texts : List String} {input : PlanInput}
    (h : readPlanInput env body texts = .ok input) (hids : ∀ c ∈ input.criteria, c.id ≠ "")
    {p : PlanRecord} (hc : p.criteria = input.criteria) (ht : p.todos = input.todos)
    (hid : p.taskId ≠ "") : p.loads = true := by
  obtain ⟨⟨frontMatter, planBody⟩, _, h⟩ := bind_eq_ok.1 h
  obtain ⟨items, hitems, h⟩ := bind_eq_ok.1 h
  obtain ⟨todos, htodos, h⟩ := bind_eq_ok.1 h
  obtain ⟨_, _, h⟩ := bind_eq_ok.1 h
  obtain ⟨_, _, h⟩ := bind_eq_ok.1 h
  obtain ⟨_, _, h⟩ := bind_eq_ok.1 h
  cases pure_eq_ok.1 h
  rw [PlanRecord.loads_iff, hc, ht]
  refine ⟨hid, fun c hmem => ?_, loads_of_todosFromPlanInput htodos⟩
  have htext := text_of_criteriaFromPlanInput hitems c hmem
  have hne := hids c hmem
  exact ⟨c, by simp [AcceptanceCriterion.reload, requireString, raiseIf, hne, htext]; rfl⟩

end Taskledger
