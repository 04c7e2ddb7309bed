import Taskledger.Properties.Approval
import Taskledger.Properties.ApprovedPlans
import Taskledger.Properties.PlanReview
import Taskledger.Properties.TodoGates

/-!
# Materialised plan todos

The todos of a plan are added to the todos of its task under fresh ids. What counts as added is
the plan and the normalised text, which read back as they were written.
-/

namespace Taskledger

open Library Action

section Materialization

variable [Runtime] {env : Env} {s s' : Ledger} {id ref source : String} {version : Nat}
  {existing : List (Option String × String)} {ids : List String} {todos : List TaskTodo}

/-- The key a todo of a task counts under. -/
def TaskTodo.key (t : TaskTodo) : Option String × String := todoKey t.sourcePlanId t.text

-- ════════════════════════════════════════════════════════════════════════
-- The todos that are added
-- ════════════════════════════════════════════════════════════════════════

/-- The ids of the todos that a plan adds are new and different. -/
theorem nodup_newPlanTodos (h : ids.Nodup) :
    (ids ++ (newPlanTodos env existing source ids todos).map TaskTodo.id).Nodup := by
  induction todos generalizing ids with
  | nil => rwa [newPlanTodos, List.map_nil, List.append_nil]
  | cons todo rest ih =>
    by_cases hmem : todoKey (some source) todo.text ∈ existing
    · rw [newPlanTodos, if_pos hmem]
      exact ih h
    · rw [newPlanTodos, if_neg hmem]
      have hfresh : (ids ++ [Runtime.nextId "todo" ids]).Nodup :=
        h.append (List.nodup_singleton _)
          (List.disjoint_singleton.2 (Runtime.nextId_fresh "todo" ids))
      have hrest := ih hfresh
      rwa [List.append_assoc] at hrest

/-- Every todo of the plan is one of the existing ones, or is added. -/
theorem newPlanTodos_represent :
    ∀ p ∈ todos, todoKey (some source) p.text ∈ existing ∨
      ∃ t ∈ newPlanTodos env existing source ids todos, t.key = todoKey (some source) p.text := by
  induction todos generalizing ids with
  | nil =>
    intro p hp
    cases hp
  | cons todo rest ih =>
    intro p hp
    by_cases hmem : todoKey (some source) todo.text ∈ existing
    · rw [newPlanTodos, if_pos hmem]
      rcases List.mem_cons.1 hp with rfl | hp
      · exact .inl hmem
      · exact ih p hp
    · rw [newPlanTodos, if_neg hmem]
      rcases List.mem_cons.1 hp with rfl | hp
      · exact .inr ⟨_, List.mem_cons_self, rfl⟩
      · rcases @ih (ids ++ [Runtime.nextId "todo" ids]) p hp with hold | ⟨t, ht, hkey⟩
        · exact .inl hold
        · exact .inr ⟨t, List.mem_cons_of_mem _ ht, hkey⟩

/-- Nothing is added when every todo of the plan is there. -/
theorem newPlanTodos_eq_nil (h : ∀ p ∈ todos, todoKey (some source) p.text ∈ existing) :
    newPlanTodos env existing source ids todos = [] := by
  induction todos generalizing ids with
  | nil => rfl
  | cons todo rest ih =>
    obtain ⟨htodo, hrest⟩ := List.forall_mem_cons.1 h
    rw [newPlanTodos, if_pos htodo]
    exact ih hrest

/-- What is added reads back as it is, as the todos of the plan do. -/
theorem reload_newPlanTodos (h : ∀ p ∈ todos, p.reload = .ok p) :
    ∀ t ∈ newPlanTodos env existing source ids todos, t.reload = .ok t := by
  induction todos generalizing ids with
  | nil =>
    intro p hp
    cases hp
  | cons todo rest ih =>
    obtain ⟨htodo, hrest⟩ := List.forall_mem_cons.1 h
    by_cases hmem : todoKey (some source) todo.text ∈ existing
    · rw [newPlanTodos, if_pos hmem]
      exact ih hrest
    · rw [newPlanTodos, if_neg hmem]
      intro t ht
      rcases List.mem_cons.1 ht with rfl | ht
      · simp only [TaskTodo.reload, bind_eq_ok, pure_eq_ok] at htodo ⊢
        obtain ⟨harness, hharness, _, -, _, htext, heq⟩ := htodo
        have hid : requireString "id" (Runtime.nextId "todo" ids) = .ok () := by
          rw [requireString, raiseIf_eq_ok]
          exact (canonical_nextId "todo" ids).ne_empty (by decide)
        have hcompleted : todo.completedBy.map ActorRef.reload = todo.completedBy :=
          congrArg TaskTodo.completedBy heq
        have hskipped : todo.skippedBy.map ActorRef.reload = todo.skippedBy :=
          congrArg TaskTodo.skippedBy heq
        have hsame : harness = todo.completedInHarness :=
          congrArg TaskTodo.completedInHarness heq
        refine ⟨harness, hharness, (), hid, (), htext, ?_⟩
        rw [hcompleted, hskipped, hsame]
      · exact ih hrest t ht

-- ════════════════════════════════════════════════════════════════════════
-- The todos that are loaded
-- ════════════════════════════════════════════════════════════════════════

omit [Runtime] in
theorem TaskTodo.key_of_reload {t t' : TaskTodo} (h : t.reload = .ok t') :
    t'.id = t.id ∧ t'.sourcePlanId = t.sourcePlanId ∧ t'.text = t.text := by
  simp only [TaskTodo.reload, bind_eq_ok, pure_eq_ok] at h
  obtain ⟨-, -, -, -, -, -, rfl⟩ := h
  exact ⟨rfl, rfl, rfl⟩

omit [Runtime] in
theorem mem_loadTodos (h : loadTodos id s = .ok todos) {t : TaskTodo} :
    t ∈ todos ↔ ∃ f ∈ s.todos.files, f.owner = id ∧ f.record.reload = .ok t := by
  obtain ⟨read, hread, h⟩ := bind_eq_ok.1 h
  rw [← pure_eq_ok.1 h, mem_sortedBy, mem_reloaded_iff hread]
  simp [filedUnder, and_assoc]

omit [Runtime] in
/-- The todos of a task are read in the order of their ids, none of them twice. -/
theorem ascending_loadTodos (h : loadTodos id s = .ok todos) :
    (todos.map TaskTodo.id).Pairwise (· < ·) := by
  obtain ⟨read, hread, h⟩ := bind_eq_ok.1 h
  cases pure_eq_ok.1 h
  refine ascending_sortedBy ?_
  rw [map_key_reloaded hread fun a b hab => (TaskTodo.key_of_reload hab).1]
  unfold filedUnder
  rw [List.map_map]
  have hkeys := List.pairwise_map.1 s.todos.nodup
  refine List.pairwise_map.2 ((hkeys.filter _).imp_of_mem fun {a b} ha hb hne heq => hne ?_)
  have howner : a.owner = b.owner := by
    rw [of_decide_eq_true (List.mem_filter.1 ha).2, of_decide_eq_true (List.mem_filter.1 hb).2]
  exact Prod.ext howner heq

omit [Runtime] in
/-- Of two readings in the order of the ids, the smaller one lies in the larger one. -/
theorem sublist_of_ascending {before after : List TaskTodo}
    (hbefore : (before.map TaskTodo.id).Pairwise (· < ·))
    (hafter : (after.map TaskTodo.id).Pairwise (· < ·)) (hsub : before ⊆ after) :
    before.Sublist after := by
  have hfilter : after.filter (fun t => t ∈ before) = before := by
    have hirrefl : Std.Irrefl fun a b : TaskTodo => a.id < b.id := ⟨fun _ => lt_irrefl _⟩
    have hasymm : Std.Asymm fun a b : TaskTodo => a.id < b.id := ⟨fun _ _ => lt_asymm⟩
    refine ((List.pairwise_map.1 hafter).filter _).eq_of_mem_iff (List.pairwise_map.1 hbefore)
      fun t => ?_
    rw [List.mem_filter, decide_eq_true_eq]
    exact ⟨And.right, fun ht => ⟨hsub ht, ht⟩⟩
  rw [← hfilter]
  exact List.filter_sublist

omit [Runtime] in
/-- Todos that read back as they are, written for a task, are what is loaded. -/
theorem loadTodos_written (hnodup : (todos.map TaskTodo.id).Nodup)
    (hreload : ∀ t ∈ todos, t.reload = .ok t) (hwritten : s'.todos = refiled id todos s.todos) :
    ∃ after, loadTodos id s' = .ok after ∧ ∀ t, t ∈ after ↔ t ∈ todos := by
  have hloads : ∃ after, loadTodos id s' = .ok after := by
    refine loadTodos_loads.2 fun f hf howner => ?_
    rw [hwritten] at hf
    exact ⟨_, hreload _ (record_mem_of_refiled hf howner)⟩
  obtain ⟨after, hafter⟩ := hloads
  refine ⟨after, hafter, fun t => ?_⟩
  rw [mem_loadTodos hafter, hwritten]
  constructor
  · rintro ⟨f, hf, howner, ht⟩
    have hmem := record_mem_of_refiled hf howner
    cases (hreload _ hmem).symm.trans ht
    exact hmem
  · intro ht
    exact ⟨⟨id, t⟩, mem_refiled hnodup ht, rfl, hreload t ht⟩

omit [Runtime] in
theorem putTodos_eq (owner : String) :
    (s.putTodos owner todos).todos = refiled owner todos s.todos := by
  unfold Ledger.putTodos refiled
  dsimp only

-- ════════════════════════════════════════════════════════════════════════
-- One materialisation
-- ════════════════════════════════════════════════════════════════════════

/-- A materialisation raises before it writes, or it files the todos that were there and those
that are new. -/
theorem sat_materialize {dryRun : Bool} :
    (materializePlanTodos env ref version dryRun).Sat s fun r s' =>
      (∃ e, r = .error e) ∧ s' = s ∨ ∃ task plan before new,
        resolveTask ref false s = .ok task ∧ resolvePlan task.id (some version) s = .ok plan ∧
        loadTodos task.id s = .ok before ∧
        new = newPlanTodos env (before.map TaskTodo.key) (planId plan.planVersion)
          (before.map TaskTodo.id) plan.todos ∧
        (∃ p, r = .ok p ∧ p.taskId = task.id ∧ p.materializedTodos = new.length) ∧
        ((new = [] ∨ dryRun = true) ∧ s' = s ∨ (new ≠ [] ∧ dryRun = false) ∧ s'.plans = s.plans ∧
          s'.todos = refiled task.id (before ++ new) s.todos) := by
  refine Sat.query (fun e _ => .inl ⟨⟨e, rfl⟩, rfl⟩) fun task htask => ?_
  refine Sat.query (fun e _ => .inl ⟨⟨e, rfl⟩, rfl⟩) fun full hfull => ?_
  refine Sat.query (fun e _ => .inl ⟨⟨e, rfl⟩, rfl⟩) fun plan hplan => ?_
  obtain ⟨hid, -, -, -, -, -, hbefore⟩ := taskWithSidecars_eq_ok hfull
  rw [hid] at hplan
  by_cases hwrite : newPlanTodos env (full.todos.map fun t => todoKey t.sourcePlanId t.text)
      (planId plan.planVersion) (full.todos.map TaskTodo.id) plan.todos ≠ [] ∧ dryRun = false
  · refine Sat.bind (P := fun r s' => r = .ok () ∧ s'.plans = s.plans ∧
        s'.todos = refiled task.id (full.todos ++ newPlanTodos env (full.todos.map TaskTodo.key)
          (planId plan.planVersion) (full.todos.map TaskTodo.id) plan.todos) s.todos) ?_ ?_ ?_
    · rw [onlyIf, if_pos hwrite]
      refine Sat.write (Sat.write (sat_lastEventList fun events => ⟨rfl, rfl, ?_⟩))
      rw [← hid]
      exact putTodos_eq _
    · rintro e s' ⟨h, -⟩
      cases h
    · rintro _ s' ⟨-, hplans, htodos⟩
      exact Sat.pure (.inr ⟨task, plan, full.todos, _, htask, hplan, hbefore, rfl,
        ⟨_, rfl, hid, rfl⟩, .inr ⟨hwrite, hplans, htodos⟩⟩)
  · refine Sat.bind (P := fun r s' => r = .ok () ∧ s' = s) ?_ ?_ ?_
    · rw [onlyIf, if_neg hwrite]
      exact ⟨rfl, rfl⟩
    · rintro e s' ⟨h, -⟩
      cases h
    · rintro _ s' ⟨-, hsame⟩
      refine Sat.pure (.inr ⟨task, plan, full.todos, _, htask, hplan, hbefore, rfl,
        ⟨_, rfl, hid, rfl⟩, .inl ⟨?_, hsame⟩⟩)
      rw [not_and_or, not_not, Bool.not_eq_false] at hwrite
      exact hwrite

theorem resolvePlan_congr (h : s'.plans = s.plans) (v : Option Nat) :
    resolvePlan id v s' = resolvePlan id v s := by
  refine Query.bind_congr ?_ fun plans => ?_
  · unfold listPlans
    rw [h]
  · cases plans.getLast? with
    | none => rfl
    | some latest =>
      cases v with
      | none => rfl
      | some n =>
        dsimp only
        cases plans.find? fun p => p.planVersion = n <;> rfl

/-- The todos of a plan that was read read back as they are. -/
theorem reload_planTodos {plan : PlanRecord} (h : resolvePlan id (some version) s = .ok plan) :
    ∀ p ∈ plan.todos, p.reload = .ok p := by
  obtain ⟨plans, -, hplans, -, hmem, -⟩ := resolvePlan_eq_ok h
  obtain ⟨stored, -, hreload⟩ := listed_stored hplans hmem
  intro p hp
  simp only [PlanRecord.reload, bind_eq_ok, pure_eq_ok] at hreload
  obtain ⟨-, -, criteria, -, todos, htodos, rfl⟩ := hreload
  obtain ⟨q, -, hq⟩ := (mem_reloaded_iff htodos).1 hp
  exact TaskTodo.reload_eq_again hq

/-- What a materialisation that returned leaves behind: the todos of the task as they were, in
their order, with one under the key of each todo of the plan. -/
theorem materialized {p : PlanTodoMaterializationPayload}
    (h : ((materializePlanTodos env ref version).runOn s).1 = .ok p) :
    ∃ task plan before after,
      resolveTask ref false s = .ok task ∧ p.taskId = task.id ∧
      resolvePlan task.id (some version) s = .ok plan ∧
      ((materializePlanTodos env ref version).runOn s).2.plans = s.plans ∧
      loadTodos task.id s = .ok before ∧
      loadTodos task.id ((materializePlanTodos env ref version).runOn s).2 = .ok after ∧
      before.Sublist after ∧ (after.map TaskTodo.id).Nodup ∧
      after.length = before.length + p.materializedTodos ∧
      ∀ q ∈ plan.todos, todoKey (some (planId plan.planVersion)) q.text ∈
        after.map TaskTodo.key := by
  have hsat : (materializePlanTodos env ref version).Sat s _ := sat_materialize
  unfold Action.Sat at hsat
  generalize (materializePlanTodos env ref version).runOn s = out at h hsat ⊢
  rcases hsat with ⟨⟨e, he⟩, -⟩ | ⟨task, plan, before, new, htask, hplan, hbefore, hnew,
      ⟨p', hp', hid, hcount⟩, hstate⟩
  · cases h.symm.trans he
  cases h.symm.trans hp'
  have hascending := ascending_loadTodos hbefore
  have hbeforeReload : ∀ t ∈ before, t.reload = .ok t := fun t ht => by
    obtain ⟨f, -, -, hf⟩ := (mem_loadTodos hbefore).1 ht
    exact TaskTodo.reload_eq_again hf
  have hnewReload : ∀ t ∈ new, t.reload = .ok t := by
    rw [hnew]
    exact reload_newPlanTodos (reload_planTodos hplan)
  have hbeforeNodup : (before.map TaskTodo.id).Nodup := hascending.imp ne_of_lt
  have hnodup : ((before ++ new).map TaskTodo.id).Nodup := by
    rw [List.map_append, hnew]
    exact nodup_newPlanTodos hbeforeNodup
  have hrepresented : ∀ q ∈ plan.todos, todoKey (some (planId plan.planVersion)) q.text ∈
      (before ++ new).map TaskTodo.key := by
    intro q hq
    rw [List.map_append, List.mem_append]
    rcases @newPlanTodos_represent _ env _ _ (before.map TaskTodo.id) _ q hq with
      hold | ⟨t, ht, hkey⟩
    · exact .inl hold
    · refine .inr (List.mem_map.2 ⟨t, ?_, hkey⟩)
      rwa [hnew]
  have hloaded : out.2.plans = s.plans ∧ ∃ after, loadTodos task.id out.2 = .ok after ∧
      ∀ t, t ∈ after ↔ t ∈ before ++ new := by
    rcases hstate with ⟨hnothing, hsame⟩ | ⟨-, hplans, htodos⟩
    · rcases hnothing with hnil | hdry
      · rw [hsame]
        exact ⟨rfl, before, hbefore, fun t => by rw [hnil, List.append_nil]⟩
      · cases hdry
    · refine ⟨hplans, loadTodos_written hnodup (fun t ht => ?_) htodos⟩
      exact (List.mem_append.1 ht).elim (hbeforeReload t) (hnewReload t)
  obtain ⟨hplans, after, hafter, hmem⟩ := hloaded
  have hafterAscending := ascending_loadTodos hafter
  have hafterNodup : (after.map TaskTodo.id).Nodup := hafterAscending.imp ne_of_lt
  have hperm : after.Perm (before ++ new) :=
    (List.perm_ext_iff_of_nodup (.of_map _ hafterNodup) (.of_map _ hnodup)).2 hmem
  refine ⟨task, plan, before, after, htask, hid, hplan, hplans, hbefore, hafter, ?_, hafterNodup,
    ?_, fun q hq => ?_⟩
  · exact sublist_of_ascending hascending hafterAscending fun t ht =>
      (hmem t).2 (List.mem_append_left _ ht)
  · rw [hperm.length_eq, List.length_append, hcount]
  · exact (hperm.map TaskTodo.key).mem_iff.2 (hrepresented q hq)

/-- A materialisation that returned keeps every todo of the task in its place and gives each todo
of the plan a todo of the task under a new id; materialising the version again adds nothing. -/
theorem materialized_once {p : PlanTodoMaterializationPayload}
    (h : ((materializePlanTodos env ref version).runOn s).1 = .ok p) :
    (∃ task plan before after,
      resolveTask ref false s = .ok task ∧ resolvePlan task.id (some version) s = .ok plan ∧
      loadTodos task.id s = .ok before ∧
      loadTodos task.id ((materializePlanTodos env ref version).runOn s).2 = .ok after ∧
      before.Sublist after ∧ (after.map TaskTodo.id).Nodup ∧
      after.length = before.length + p.materializedTodos ∧
      ∀ q ∈ plan.todos, ∃ t ∈ after, t.sourcePlanId = some (planId plan.planVersion) ∧
        normalizeTodoText t.text = normalizeTodoText q.text) ∧
    ∀ env' ref' p',
      ((materializePlanTodos env' ref' version).runOn
        ((materializePlanTodos env ref version).runOn s).2).1 = .ok p' →
      p'.taskId = p.taskId →
      p'.materializedTodos = 0 ∧
        ((materializePlanTodos env' ref' version).runOn
          ((materializePlanTodos env ref version).runOn s).2).2 =
          ((materializePlanTodos env ref version).runOn s).2 := by
  obtain ⟨task, plan, before, after, htask, hid, hplan, hplans, hbefore, hafter, hsub, hnodup,
    hlength, hkeys⟩ := materialized h
  refine ⟨⟨task, plan, before, after, htask, hplan, hbefore, hafter, hsub, hnodup, hlength,
    fun q hq => ?_⟩, fun env' ref' p' h' hsame => ?_⟩
  · obtain ⟨t, ht, hkey⟩ := List.mem_map.1 (hkeys q hq)
    obtain ⟨hsource, htext⟩ := Prod.mk.inj hkey
    exact ⟨t, ht, hsource, htext⟩
  · generalize ((materializePlanTodos env ref version).runOn s).2 = s' at *
    have hsat : (materializePlanTodos env' ref' version).Sat s' _ := sat_materialize
    rcases hsat with ⟨⟨e, he⟩, -⟩ | ⟨task', plan', before', new, -, hplan', hbefore', hnew,
        ⟨p'', hp'', hid', hcount⟩, hstate⟩
    · cases h'.symm.trans he
    cases h'.symm.trans hp''
    have htask' : task'.id = task.id := hid'.symm.trans (hsame.trans hid)
    rw [htask'] at hplan' hbefore'
    rw [resolvePlan_congr hplans] at hplan'
    cases hplan.symm.trans hplan'
    cases hafter.symm.trans hbefore'
    have hnil : new = [] := by
      rw [hnew]
      exact newPlanTodos_eq_nil hkeys
    rw [hnil] at hcount hstate
    rcases hstate with ⟨-, hs⟩ | ⟨⟨hne, -⟩, -⟩
    · exact ⟨hcount, hs⟩
    · exact absurd rfl hne

end Materialization

section Evaluation

attribute [local instance] reviewRuntime

theorem materialized_once_reviewed :
    ∃ p task before after,
      ((materializePlanTodos plainEnv "task-0001" 1).runOn (reviewed todoYaml)).1 = .ok p ∧
      p.materializedTodos = 1 ∧ loadTodos task (reviewed todoYaml) = .ok before ∧
      loadTodos task ((materializePlanTodos plainEnv "task-0001" 1).runOn
        (reviewed todoYaml)).2 = .ok after ∧ after.length = before.length + 1 := by
  have hcount : (((materializePlanTodos plainEnv "task-0001" 1).runOn
      (reviewed todoYaml)).1.toOption.map PlanTodoMaterializationPayload.materializedTodos) =
      some 1 := by decide +kernel
  obtain ⟨p, hp, hone⟩ := map_toOption_eq_some.1 hcount
  obtain ⟨⟨task, -, before, after, -, -, hbefore, hafter, -, -, hlength, -⟩, -⟩ :=
    materialized_once hp
  exact ⟨p, task.id, before, after, hp, hone, hbefore, hafter, hone ▸ hlength⟩

end Evaluation

end Taskledger
