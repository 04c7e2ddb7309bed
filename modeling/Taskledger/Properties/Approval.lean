import Taskledger.Lifecycle.Listings
import Taskledger.Lifecycle.Steps

/-!
# Approving

An approval that returns has passed every gate. One that passes its checks writes the
plans and the task before it lists the todos, the links and the records of the ledger;
so what a call that raises leaves behind depends on whether all of these load.
-/

namespace Taskledger

open Library Action Lifecycle

section Approving

variable [Runtime] {s : Ledger} {env : Env} {ref : String} {version : Nat}
  {request : ApprovalRequest} {a : Approval} {task : TaskRecord} {target : PlanRecord}

/-- A gate is waived: its flag is set, and a reason is given. -/
def ApprovalRequest.Waives (request : ApprovalRequest) (flag : Bool) : Prop :=
  flag = true ∧ lacksText request.reason = false

/-- Everything an approval of a plan version asks for. -/
structure Approvable (s : Ledger) (ref : String) (version : Nat) (request : ApprovalRequest)
    (task : TaskRecord) (target : PlanRecord) : Prop where
  found : resolveTask ref false s = .ok task
  visible : isArchivedTask task = false
  stage : task.statusStage = .planReview
  unlocked : s.locks.lookup task.id = none
  idle : ∀ r ∈ s.runs.files, r.taskId = task.id → r.status ≠ .running
  stored : resolvePlan task.id (some version) s = .ok target
  proposed : target.status = .proposed
  answered : (∀ q ∈ s.questions.files, q.taskId = task.id → q.requiredForPlan = true →
    q.status ≠ .open) ∨ request.Waives request.allowOpenQuestions
  fresh : ∃ questions, listQuestions task.id s = .ok questions ∧
    staleAnswerQuestionIds questions target = []
  criteria : target.criteria ≠ [] ∨ request.Waives request.allowEmptyCriteria
  todos : target.todos ≠ [] ∨ request.Waives request.allowEmptyTodos
  lint : lintErrors target = [] ∨ request.Waives request.allowLintErrors
  approver : Text.strip request.actorType = "user" ∧ lacksText request.note = false ∨
    Text.strip request.actorType = "agent" ∧ request.Waives request.allowAgentApproval

-- ════════════════════════════════════════════════════════════════════════
-- The gates
-- ════════════════════════════════════════════════════════════════════════

omit [Runtime] in
/-- A gate that was passed holds, or is waived. -/
theorem waived_of_requireReason {c : Prop} [Decidable c] {flag : Bool} {name : String}
    {reason : Option String} {u : Unit} (hc : ¬ (c ∧ flag = false))
    (h : requireReason flag name reason = .ok u) :
    ¬ c ∨ flag = true ∧ lacksText reason = false := by
  rw [requireReason, raiseIf_eq_ok, not_and, Bool.not_eq_true] at h
  by_cases hcond : c
  · rw [not_and, Bool.not_eq_false] at hc
    exact .inr ⟨hc hcond, h (hc hcond)⟩
  · exact .inl hcond

omit [Runtime] in
theorem approvalActor_eq_ok {actorType : String} {actorName note reason : Option String}
    {allowAgent : Bool} {actor : ActorRef}
    (h : approvalActor env actorType actorName note allowAgent reason = .ok actor) :
    Text.strip actorType = "user" ∧ lacksText note = false ∨
      Text.strip actorType = "agent" ∧ allowAgent = true ∧ lacksText reason = false := by
  unfold approvalActor at h
  split at h
  · rename_i htype
    obtain ⟨_, hnote, -⟩ := bind_eq_ok.1 h
    rw [raiseIf_eq_ok, Bool.not_eq_true] at hnote
    exact .inl ⟨htype, hnote⟩
  · rename_i htype
    obtain ⟨_, hreason, -⟩ := bind_eq_ok.1 h
    rw [raiseIf_eq_ok, not_or, Bool.not_eq_false, Bool.not_eq_true] at hreason
    exact .inr ⟨htype, hreason⟩
  · cases h

omit [Runtime] in
/-- A listing of questions without required open ones has seen every question file. -/
theorem answered_of_listQuestions {id : String} {questions : List QuestionRecord}
    (h : listQuestions id s = .ok questions) (hnone : requiredOpenQuestionIds questions = []) :
    ∀ q ∈ s.questions.files, q.taskId = id → q.requiredForPlan = true → q.status ≠ .open := by
  intro q hq hid hrequired hopen
  obtain ⟨read, hread, h⟩ := bind_eq_ok.1 h
  obtain ⟨q', hq', hreload⟩ :=
    reload_ok_of_mem hread (List.mem_filter.2 ⟨hq, by simpa using hid⟩)
  obtain ⟨-, -, hstatus, hrequired'⟩ := QuestionRecord.of_reload hreload
  rw [← pure_eq_ok.1 h, requiredOpenQuestionIds, List.map_eq_nil_iff, List.filter_eq_nil_iff]
    at hnone
  refine hnone q' (mem_sortedBy.2 hq') ?_
  simp [hstatus, hopen, hrequired', hrequired]

/-- The checks of an approval are its gates. -/
theorem approvable_of_approvalOf (hs : s.Sound) (h : approvalOf env ref version request s = .ok a) :
    Approvable s ref version request a.task a.target := by
  have hchecked := approvalOf_checked h
  have hfound := hchecked.found
  have htarget := hchecked.target
  obtain ⟨questions, hquestions, hopen, hcontent⟩ := hchecked.questions
  obtain ⟨issues, hissues, hlint⟩ := hchecked.lint
  obtain ⟨_, hproposed, hcontent⟩ := bind_eq_ok.1 hcontent
  obtain ⟨_, hstale, hcontent⟩ := bind_eq_ok.1 hcontent
  obtain ⟨_, hcriteria, hcontent⟩ := bind_eq_ok.1 hcontent
  obtain ⟨_, hallowCriteria, hcontent⟩ := bind_eq_ok.1 hcontent
  obtain ⟨_, htodos, hcontent⟩ := bind_eq_ok.1 hcontent
  obtain ⟨_, hallowTodos, -⟩ := bind_eq_ok.1 hcontent
  rw [raiseIf_eq_ok] at hproposed hstale hcriteria htodos
  rw [not_not] at hproposed hstale
  have hopenGate := waived_of_requireReason hopen hchecked.openReason
  have hlintGate := waived_of_requireReason hlint hchecked.lintReason
  rw [not_not] at hopenGate hlintGate
  -- the lint rules have read the task and the plan again
  obtain ⟨again, hagain, hissues⟩ := Query.bind_eq_ok.1 hissues
  cases (resolve_again hs hfound rfl).symm.trans hagain
  obtain ⟨plan, hplan, hissues⟩ := Query.bind_eq_ok.1 hissues
  cases htarget.symm.trans hplan
  cases Query.pure_eq_ok.1 hissues
  refine ⟨hfound, hchecked.visible, hchecked.stage, readLock_none hchecked.unlocked,
    fun r hr hid => ?_, htarget, hproposed,
    hopenGate.imp_left (answered_of_listQuestions hquestions),
    ⟨questions, hquestions, hstale⟩, waived_of_requireReason hcriteria hallowCriteria,
    waived_of_requireReason htodos hallowTodos, hlintGate,
    approvalActor_eq_ok hchecked.actor⟩
  have hview := view_file_run hr
  rw [hid] at hview
  exact view_stopped hchecked.idle _ _ hview

-- ════════════════════════════════════════════════════════════════════════
-- What a call that raises leaves
-- ════════════════════════════════════════════════════════════════════════

/-- The tasks, the plans, the todos and the events are the same in two ledgers. -/
structure Ledger.SamePlanning (s s' : Ledger) : Prop where
  tasks : s'.tasks = s.tasks
  plans : s'.plans = s.plans
  todos : s'.todos = s.todos
  events : s'.events = s.events

/-- What an approval lists after its writes loads. -/
structure Ledger.ListsApproval (s : Ledger) (id : String) (materialize : Bool) : Prop where
  todos : ∃ l, loadTodos id s = .ok l
  links : materialize = true → ∃ l, loadLinks id s = .ok l
  records : ∃ u, rebuildV2Indexes s = .ok u

omit [Runtime] in
/-- The todos of a task after they were written. -/
theorem mem_putTodos {owner : String} {todos : List TaskTodo} {f : Filed TaskTodo}
    (hf : f ∈ (s.putTodos owner todos).todos.files) (howner : f.owner = owner) :
    f.record ∈ todos :=
  record_mem_of_refiled hf howner

/-- The todos that a plan adds load. -/
theorem loads_newPlanTodos {existing : List (Option String × String)} {source : String}
    {ids : List String} {todos : List TaskTodo} (h : ∀ t ∈ todos, ∃ t', t.reload = .ok t') :
    ∀ t ∈ newPlanTodos env existing source ids todos, ∃ t', t.reload = .ok t' := by
  induction todos generalizing ids with
  | nil =>
    intro t ht
    cases ht
  | cons todo rest ih =>
    obtain ⟨htodo, hrest⟩ := List.forall_mem_cons.1 h
    rw [newPlanTodos]
    split
    · exact ih hrest
    · intro t ht
      rcases List.mem_cons.1 ht with rfl | ht
      · obtain ⟨hharness, -, htext⟩ := TaskTodo.loads_iff.1 htodo
        exact TaskTodo.loads_iff.2
          ⟨hharness, (canonical_nextId "todo" ids).ne_empty (by decide), htext⟩
      · exact ih hrest t ht

omit [Runtime] in
theorem reload_again_loadTodos {id : String} {todos : List TaskTodo}
    (h : loadTodos id s = .ok todos) : ∀ t ∈ todos, ∃ t', t.reload = .ok t' := by
  intro t ht
  obtain ⟨read, hread, h⟩ := bind_eq_ok.1 h
  rw [← pure_eq_ok.1 h, mem_sortedBy, mem_reloaded_iff hread] at ht
  obtain ⟨stored, -, hreload⟩ := ht
  exact TaskTodo.reload_again hreload

/-- What a materialisation leaves: the todos load, the task resolves, and the plans and what a
rebuild loads stay. -/
structure Materialized (s : Ledger) (id : String) (s' : Ledger) : Prop where
  plans : s'.plans = s.plans
  rebuilds : s'.Rebuilds ↔ s.Rebuilds
  resolves : ∃ t, resolveTask id false s' = .ok t ∧ t.id = id
  todos : ∃ l, loadTodos id s' = .ok l

theorem Materialized.withEvents {id : String} {s' : Ledger} {events : List TaskEvent}
    (h : Materialized s id s') : Materialized s id (s'.withEvents events) where
  plans := h.plans
  rebuilds := Ledger.rebuilds_withEvents.trans h.rebuilds
  resolves := by
    have hsame : resolveTask id false (s'.withEvents events) = resolveTask id false s' :=
      resolveTask_congr rfl
    rw [hsame]
    exact h.resolves
  todos := h.todos

/-- The writes of a materialisation. -/
theorem sat_writePlanTodos {id source : String} {t u stored : TaskRecord} {todos : List TaskTodo}
    (hcan : Canonical "task" id) (hstored : s.tasks.lookup id = some stored)
    (hreload : stored.reload = .ok t) (hvisible : isArchivedTask t = false)
    (hu : taskWithSidecars t s = .ok u)
    (htodos : ∀ todo ∈ todos, ∃ todo', todo.reload = .ok todo') :
    (writePlanTodos env u source todos).Sat s fun r s' => r = .ok () ∧ Materialized s id s' := by
  obtain ⟨huid, hslug, htitle, harchived, -, -, hread⟩ := taskWithSidecars_eq_ok hu
  have hid : u.id = id :=
    huid.trans ((TaskRecord.of_reload hreload).1.trans (Directory.key_of_lookup hstored))
  let updated : TaskRecord := { u with todos := u.todos ++ todos, updatedAt := utcNow env }
  have hupdated : updated.id = id := hid
  have hloads : ∃ v, updated.reload = .ok v :=
    TaskRecord.loads_congr (TaskRecord.reload_again hreload) huid hslug htitle
  have hvisible' : isArchivedTask updated = false := by
    rw [isArchivedTask, show updated.archivedAt = t.archivedAt from harchived]
    exact hvisible
  have hmaterialized : Materialized s id ((s.putTodos u.id updated.todos).putTask updated) := by
    refine ⟨rfl, ?_, ?_, ?_⟩
    · have hlookup : (s.putTodos u.id updated.todos).tasks.lookup updated.id = some stored := by
        rw [hupdated]
        exact hstored
      exact (Ledger.rebuilds_putTask hlookup ⟨t, hreload⟩ hloads).trans
        (Ledger.Rebuilds.congr rfl rfl rfl rfl)
    · obtain ⟨v, hv⟩ := hloads
      have hlookup : ((s.putTodos u.id updated.todos).putTask updated).tasks.lookup id =
          some updated := by
        rw [← hupdated]
        exact Directory.lookup_save_self _ _
      refine ⟨v, resolveTask_of_file hcan hlookup hv (.inr ?_), ?_⟩
      · rw [isArchivedTask, (TaskRecord.of_reload hv).2.2]
        exact hvisible'
      · exact (TaskRecord.of_reload hv).1.trans hupdated
    · refine loadTodos_loads.2 fun f hf howner => ?_
      rcases List.mem_append.1 (mem_putTodos hf (howner.trans hid.symm)) with ht | ht
      · exact reload_again_loadTodos hread _ ht
      · exact htodos _ ht
  refine Sat.write (Sat.write (sat_lastEventList fun events => ⟨rfl, ?_⟩))
  exact hmaterialized.withEvents

/-- A materialisation of a stored plan returns exactly when the sidecars of the task load. -/
theorem sat_materializePlanTodos {id : String} {t stored : TaskRecord} {plan : PlanRecord}
    (hcan : Canonical "task" id) (hstored : s.tasks.lookup id = some stored)
    (hreload : stored.reload = .ok t) (hvisible : isArchivedTask t = false)
    (hplan : resolvePlan id (some version) s = .ok plan) :
    (materializePlanTodos env id version).Sat s fun r s' =>
      ((∃ p, r = .ok p) ↔ ∃ u, taskWithSidecars t s = .ok u) ∧ s'.plans = s.plans ∧
        ∀ p, r = .ok p → Materialized s id s' := by
  have hid : t.id = id :=
    (TaskRecord.of_reload hreload).1.trans (Directory.key_of_lookup hstored)
  refine sat_known (resolveTask_of_file hcan hstored hreload (.inr hvisible)) ?_
  refine Sat.query (fun e he => ⟨?_, rfl, ?_⟩) fun u hu => ?_
  · refine iff_of_false ?_ ?_
    · rintro ⟨p, hp⟩
      cases hp
    · rintro ⟨u, hu⟩
      cases he.symm.trans hu
  · intro p hp
    cases hp
  obtain ⟨huid, -, -, -, -, -, hread⟩ := taskWithSidecars_eq_ok hu
  rw [← hid, ← huid] at hplan
  refine sat_known hplan ?_
  have hplanTodos : ∀ todo ∈ plan.todos, ∃ todo', todo.reload = .ok todo' := by
    obtain ⟨plans, _, hl, -, hp, -⟩ := resolvePlan_eq_ok hplan
    obtain ⟨q, -, hq⟩ := listed_stored hl hp
    exact (PlanRecord.loads_iff.1 (PlanRecord.loads_of_reload hq).2).2.2
  refine Sat.bind (P := fun r s' => r = .ok () ∧ Materialized s id s') ?_ ?_ ?_
  · unfold Action.onlyIf
    split
    · exact sat_writePlanTodos hcan hstored hreload hvisible hu (loads_newPlanTodos hplanTodos)
    · refine Sat.pure ⟨rfl, rfl, Iff.rfl, ⟨t, ?_, hid⟩, ?_⟩
      · exact resolveTask_of_file hcan hstored hreload (.inr hvisible)
      · rw [hid] at hread
        exact ⟨_, hread⟩
  · rintro e s' ⟨h, -⟩
    cases h
  · rintro _ s' ⟨-, hm⟩
    exact Sat.pure ⟨iff_of_true ⟨_, rfl⟩ ⟨u, hu⟩, hm.plans, fun _ _ => hm⟩

omit [Runtime] in
/-- A loop that rewrites plans saves each of them. -/
theorem sat_overwriteAll {f : PlanRecord → PlanRecord} {l : List PlanRecord} :
    (each l fun p => overwritePlan (f p)).Sat s fun r s' =>
      r = .ok () ∧ s' = { s with plans := (l.map f).foldl Directory.save s.plans } := by
  induction l generalizing s with
  | nil => exact ⟨rfl, rfl⟩
  | cons p rest ih => exact Sat.write ih

/-- A plan version after an approval: what the approval made of the plan listed under it,
or what it was. -/
theorem lookup_approved {id : String} {plans : List PlanRecord} (env : Env) (a : Approval)
    (note : String) (hplans : listPlans id s = .ok plans)
    (key : String × Nat) :
    (∃ p ∈ plans, (id, p.planVersion) = key ∧
      ((plans.map (planAfterApproval env a note)).foldl Directory.save s.plans).lookup key =
        some (planAfterApproval env a note p)) ∨
    (∀ p ∈ plans, (id, p.planVersion) ≠ key) ∧
      ((plans.map (planAfterApproval env a note)).foldl Directory.save s.plans).lookup key =
        s.plans.lookup key := by
  have hkey (p : PlanRecord) (hp : p ∈ plans) :
      ((planAfterApproval env a note p).taskId, (planAfterApproval env a note p).planVersion) =
        (id, p.planVersion) := by
    have hsame : (planAfterApproval env a note p).taskId = p.taskId ∧
        (planAfterApproval env a note p).planVersion = p.planVersion := planAfterApproval_key p
    rw [hsame.1, hsame.2, (view_listed hplans hp).2.2]
  rcases Directory.lookup_saves s.plans (plans.map (planAfterApproval env a note)) key with
    ⟨q, hq, hqkey, hlookup⟩ | ⟨hno, hlookup⟩
  · obtain ⟨p, hp, rfl⟩ := List.mem_map.1 hq
    exact .inl ⟨p, hp, (hkey p hp).symm.trans hqkey, hlookup⟩
  · refine .inr ⟨fun p hp h => ?_, hlookup⟩
    exact hno _ (List.mem_map_of_mem hp) ((hkey p hp).trans h)

/-- The target of an approval in the plans that it has written. -/
theorem lookup_approvedPlans {id : String} {plans : List PlanRecord} (env : Env) (a : Approval)
    (note : String) (hplans : listPlans id s = .ok plans) (htarget : a.target ∈ plans) :
    ∃ p, ((plans.map (planAfterApproval env a note)).foldl Directory.save s.plans).lookup
      (id, a.target.planVersion) = some p ∧ p.status = .accepted ∧ ∃ p', p.reload = .ok p' := by
  rcases lookup_approved env a note hplans (id, a.target.planVersion) with
    ⟨p, hp, hkey, hlookup⟩ | ⟨hno, -⟩
  · refine ⟨_, hlookup, ?_, ?_⟩
    · rw [planAfterApproval, if_pos (congrArg Prod.snd hkey)]
    · refine isSome_toOption.1 ?_
      exact (loads_planAfterApproval p).trans (view_listed hplans hp).2.1
  · exact absurd rfl (hno _ htarget)

/-- Two plans listed under one version are one plan. -/
theorem eq_of_listed {id : String} {plans : List PlanRecord} {p q : PlanRecord}
    (hplans : listPlans id s = .ok plans) (hp : p ∈ plans) (hq : q ∈ plans)
    (hversion : p.planVersion = q.planVersion) : p = q := by
  obtain ⟨stored, hstored, hread⟩ := listed_stored hplans hp
  obtain ⟨stored', hstored', hread'⟩ := listed_stored hplans hq
  rw [hversion, hstored', Option.some.injEq] at hstored
  rw [← hstored, hread', Except.ok.injEq] at hread
  exact hread.symm

/-- A stored plan that loads resolves by its version. -/
theorem resolvePlan_of_lookup {id : String} {p p' : PlanRecord}
    (hlookup : s.plans.lookup (id, version) = some p) (hreload : p.reload = .ok p') :
    ∃ plan, resolvePlan id (some version) s = .ok plan := by
  have hplans : ∃ plans, listPlans id s = .ok plans := ⟨_, rfl⟩
  obtain ⟨plans, hplans⟩ := hplans
  obtain ⟨hmem, hversion⟩ := listed_of_stored hplans hlookup hreload
  have hne : plans ≠ [] := List.ne_nil_of_mem hmem
  cases hfind : plans.find? fun q => q.planVersion = version with
  | none =>
    have hnone := List.find?_eq_none.1 hfind p' hmem
    simp [hversion] at hnone
  | some plan =>
    refine ⟨plan, Query.bind_eq_ok.2 ⟨plans, hplans, ?_⟩⟩
    rw [List.getLast?_eq_some_getLast hne]
    simp only [hfind]
    rfl

theorem sat_materializeApproved {id : String} {updated v : TaskRecord} {plan : PlanRecord}
    (hcan : Canonical "task" id) (hid : updated.id = id)
    (hstored : s.tasks.lookup id = some updated) (hreload : updated.reload = .ok v)
    (hvisible : isArchivedTask v = false) (hplan : resolvePlan id (some version) s = .ok plan) :
    (materializeApproved env updated version).Sat s fun r s' =>
      ((∃ x, r = .ok x) ↔ ∃ u, taskWithSidecars v s = .ok u) ∧ s'.plans = s.plans ∧
        ∀ x, r = .ok x → x.2.id = id ∧ Materialized s id s' := by
  rw [← hid] at hcan hstored hplan ⊢
  refine Sat.bind (sat_materializePlanTodos hcan hstored hreload hvisible hplan) ?_ ?_
  · rintro e s' ⟨hiff, hplans, -⟩
    refine ⟨?_, hplans, fun x hx => by cases hx⟩
    rw [← hiff]
    exact iff_of_false (fun ⟨_, h⟩ => by cases h) (fun ⟨_, h⟩ => by cases h)
  · rintro payload s' ⟨hiff, hplans, hdone⟩
    have hm := hdone _ rfl
    obtain ⟨t, ht, htid⟩ := hm.resolves
    refine sat_known ht (Sat.pure ⟨?_, hplans, ?_⟩)
    · rw [← hiff]
      exact iff_of_true ⟨_, rfl⟩ ⟨_, rfl⟩
    · rintro x ⟨⟩
      exact ⟨htid, hm⟩

/-- What an approval does after its task is written. -/
theorem sat_approvalTail {id event : String} {data : Dict} {f : List TaskTodo → Dict} :
    (appendEvent env id event data >>= fun _ => (liftM rebuildV2Indexes : LedgerAction Unit) >>=
      fun _ => (liftM (loadTodos id) : LedgerAction (List TaskTodo)) >>= fun todos =>
        pure (f todos)).Sat s fun r s' =>
      ((∃ d, r = .ok d) ↔ s.Rebuilds ∧ ∃ l, loadTodos id s = .ok l) ∧ s'.plans = s.plans := by
  refine sat_eventList fun events => ?_
  have hiff : (s.withEvents events).Rebuilds ↔ s.Rebuilds := Ledger.rebuilds_withEvents
  rw [← hiff, ← rebuildV2Indexes_loads]
  refine Sat.query (fun e he => ⟨?_, rfl⟩) fun u hu => Sat.query (fun e he => ⟨?_, rfl⟩)
    fun todos htodos => Sat.pure ⟨iff_of_true ⟨_, rfl⟩ ⟨⟨u, hu⟩, todos, htodos⟩, rfl⟩
  · refine iff_of_false (fun ⟨_, hd⟩ => by cases hd) ?_
    rintro ⟨⟨u, hu⟩, -⟩
    cases he.symm.trans hu
  · refine iff_of_false (fun ⟨_, hd⟩ => by cases hd) ?_
    rintro ⟨-, todos, htodos⟩
    cases he.symm.trans htodos

/-- An approval that passes its checks accepts its target, and returns exactly when what it
lists after its writes loads. -/
theorem sat_approvePlan (hs : s.Sound) (ha : approvalOf env ref version request s = .ok a) :
    (approvePlan env ref version request).Sat s fun r s' =>
      ((∃ d, r = .ok d) ↔ s.ListsApproval a.task.id request.materializeTodos) ∧
        ∃ p, s'.plans.lookup (a.task.id, a.target.planVersion) = some p ∧ p.status = .accepted := by
  have hgates := approvable_of_approvalOf hs ha
  have hcan := canonical_resolved hs hgates.found
  obtain ⟨stored, hstored, hreload⟩ := resolveTask_stored hgates.found
  obtain ⟨plans, latest, hplans, hlatest, htarget, hversion⟩ := resolvePlan_eq_ok hgates.stored
  refine sat_known ha (sat_known hplans (Sat.bind sat_overwriteAll ?_ ?_))
  · rintro e s' ⟨h, -⟩
    cases h
  rintro _ s₁ ⟨-, rfl⟩
  obtain ⟨p, hp, haccepted, p', hp'⟩ :=
    lookup_approvedPlans env a (approvalNote request) hplans htarget
  generalize (plans.map (planAfterApproval env a (approvalNote request))).foldl
    Directory.save s.plans = written at hp
  refine Sat.write ?_
  let updated := approvedTask env a
  let s₂ : Ledger := Ledger.putTask updated { s with plans := written }
  obtain ⟨v, hv⟩ : ∃ v, updated.reload = .ok v :=
    TaskRecord.loads_congr (TaskRecord.reload_again hreload) rfl rfl rfl
  have hlookup : s₂.tasks.lookup a.task.id = some updated := Directory.lookup_save_self _ updated
  have hrebuilds : s₂.Rebuilds ↔ s.Rebuilds := by
    have hold : ({ s with plans := written } : Ledger).tasks.lookup updated.id = some stored :=
      hstored
    exact (Ledger.rebuilds_putTask hold ⟨_, hreload⟩ ⟨v, hv⟩).trans
      (Ledger.Rebuilds.congr rfl rfl rfl rfl)
  have hvisible : isArchivedTask v = false := by
    rw [isArchivedTask, (TaskRecord.of_reload hv).2.2]
    exact hgates.visible
  have hvid : v.id = a.task.id := (TaskRecord.of_reload hv).1
  obtain ⟨plan, hplan⟩ : ∃ plan, resolvePlan a.task.id (some a.target.planVersion) s₂ = .ok plan :=
    resolvePlan_of_lookup hp hp'
  have hsidecars : (∃ u, taskWithSidecars v s₂ = .ok u) ↔
      (∃ l, loadRequirements a.task.id s = .ok l) ∧ (∃ l, loadLinks a.task.id s = .ok l) ∧
        ∃ l, loadTodos a.task.id s = .ok l := by
    rw [taskWithSidecars_loads, hvid]
    rfl
  have hrequirements : s.Rebuilds → ∃ l, loadRequirements a.task.id s = .ok l := fun h => by
    refine loadRequirements_loads.2 fun f hf howner => ?_
    refine h.requirements stored (Directory.mem_of_lookup hstored) f hf (howner.trans ?_)
    exact (Directory.key_of_lookup hstored).symm
  cases hmaterialize : request.materializeTodos with
  | true =>
    rw [if_pos rfl]
    refine Sat.bind (sat_materializeApproved hcan rfl hlookup hv hvisible hplan) ?_ ?_
    · rintro e s' ⟨hiff, hplans', -⟩
      refine ⟨iff_of_false not_error_ok fun hlists => ?_, p, ?_, haccepted⟩
      · obtain ⟨x, hx⟩ := hiff.2 (hsidecars.2
          ⟨hrequirements (rebuildV2Indexes_loads.1 hlists.records), hlists.links rfl, hlists.todos⟩)
        cases hx
      · rw [hplans']
        exact hp
    · rintro ⟨n, current⟩ s' ⟨hiff, hplans', hdone⟩
      obtain ⟨hcurrent, hm⟩ := hdone _ rfl
      obtain ⟨-, hlinks, htodos⟩ := hsidecars.1 (hiff.1 ⟨_, rfl⟩)
      have hcurrent' : current.id = a.task.id := hcurrent
      simp only [hcurrent']
      refine sat_approvalTail.mono ?_
      rintro r s'' ⟨hreturns, hplans''⟩
      refine ⟨hreturns.trans ?_, p, ?_, haccepted⟩
      · rw [hm.rebuilds, hrebuilds, ← rebuildV2Indexes_loads]
        exact ⟨fun h => ⟨htodos, fun _ => hlinks, h.1⟩, fun h => ⟨h.records, hm.todos⟩⟩
      · rw [hplans'', hplans']
        exact hp
  | false =>
    rw [if_neg (by decide)]
    refine Sat.bind (P := fun r s' => r = .ok (0, updated) ∧ s' = s₂) ⟨rfl, rfl⟩ ?_ ?_
    · rintro e s' ⟨h, -⟩
      cases h
    · rintro ⟨n, current⟩ s' ⟨h, rfl⟩
      cases h
      refine sat_approvalTail.mono ?_
      rintro r s'' ⟨hreturns, hplans''⟩
      refine ⟨hreturns.trans ?_, p, ?_, haccepted⟩
      · rw [hrebuilds, ← rebuildV2Indexes_loads]
        exact ⟨fun h => ⟨h.2, fun hfalse => (by cases hfalse), h.1⟩, fun h => ⟨h.records, h.todos⟩⟩
      · rw [hplans'']
        exact hp

/-- What an approval promises: it returns behind its gates only, and where it raises, the
tasks, plans, todos and events stay. -/
structure ApprovalPromise (s : Ledger) (env : Env) (ref : String) (version : Nat)
    (request : ApprovalRequest) : Prop where
  gated : ∀ d, ((approvePlan env ref version request).runOn s).1 = .ok d →
    ∃ task target, Approvable s ref version request task target
  atomic : ∀ e, ((approvePlan env ref version request).runOn s).1 = .error e →
    s.SamePlanning ((approvePlan env ref version request).runOn s).2

/-- An approval keeps its promise exactly when its checks refuse it, or what it lists after
its writes loads. -/
theorem approval_promise_iff (h : s.Reachable) :
    ApprovalPromise s env ref version request ↔
      ∀ a, approvalOf env ref version request s = .ok a →
        s.ListsApproval a.task.id request.materializeTodos := by
  have hs := h.sound
  cases hchecks : approvalOf env ref version request s with
  | error e =>
    have hrun : (approvePlan env ref version request).runOn s = (.error e, s) :=
      runOn_query_error hchecks
    refine iff_of_true ⟨fun d hd => ?_, fun _ _ => ?_⟩ fun a ha => by cases ha
    · rw [hrun] at hd
      cases hd
    · rw [hrun]
      exact ⟨rfl, rfl, rfl, rfl⟩
  | ok a =>
    have hgates := approvable_of_approvalOf hs hchecks
    obtain ⟨hreturns, p, hp, haccepted⟩ := sat_approvePlan hs hchecks
    constructor
    · rintro ⟨-, hatomic⟩ _ ⟨⟩
      rw [← hreturns]
      cases hr : ((approvePlan env ref version request).runOn s).1 with
      | ok d => exact ⟨d, rfl⟩
      | error e =>
        -- the target was proposed, and is accepted now
        obtain ⟨plans, _, hplans, -, htarget, -⟩ := resolvePlan_eq_ok hgates.stored
        obtain ⟨q, hq, hreload⟩ := listed_stored hplans htarget
        rw [(hatomic e hr).plans, hq] at hp
        cases hp
        have hstatus := (PlanRecord.of_reload hreload).2.2.1
        rw [hgates.proposed, haccepted] at hstatus
        cases hstatus
    · intro hlists
      refine ⟨fun _ _ => ⟨a.task, a.target, hgates⟩, fun e he => ?_⟩
      obtain ⟨d, hd⟩ := hreturns.2 (hlists a rfl)
      cases he.symm.trans hd

end Approving

section Evaluation

attribute [local instance] plainRuntime

/-- A task with a proposed plan. -/
def proposedOps : List Op :=
  [.createTask { title := "A", description := "d" }, .startPlanning "task-0001" none none,
    .proposePlan "task-0001" "Do it." ["it works"]]

theorem approval_promise_iff_proposed :
    (afterOps proposedOps).Reachable ∧
      ApprovalPromise (afterOps proposedOps) plainEnv "task-0001" 1 plainApproval := by
  have hreachable : (afterOps proposedOps).Reachable := reachable_afterOps _
  have hid : ((approvalOf plainEnv "task-0001" 1 plainApproval (afterOps proposedOps)).toOption.map
      fun a => a.task.id) = some "task-0001" := by decide +kernel
  have htodos : (loadTodos "task-0001" (afterOps proposedOps)).toOption.isSome = true := by
    decide +kernel
  have hlinks : (loadLinks "task-0001" (afterOps proposedOps)).toOption.isSome = true := by
    decide +kernel
  have hrecords : (rebuildV2Indexes (afterOps proposedOps)).toOption.isSome = true := by
    decide +kernel
  refine ⟨hreachable, (approval_promise_iff hreachable).2 fun a ha => ?_⟩
  rw [ha] at hid
  have haid : a.task.id = "task-0001" := Option.some.inj hid
  rw [haid]
  exact ⟨isSome_toOption.1 htodos, fun _ => isSome_toOption.1 hlinks, isSome_toOption.1 hrecords⟩

/-- A task with a proposed plan and a todo without a text. -/
def emptyTodoOps : List Op :=
  proposedOps ++ [.recorder (.addTodo "task-0001" "" none false)]

/-- The approval raises over the todo, and the plan is accepted all the same. -/
theorem approval_raises_with_plan_accepted :
    (afterOps emptyTodoOps).Reachable ∧
      ¬ ApprovalPromise (afterOps emptyTodoOps) plainEnv "task-0001" 1 plainApproval := by
  refine ⟨reachable_afterOps _, fun h => ?_⟩
  have hraises : ((approvePlan plainEnv "task-0001" 1 plainApproval).runOn
      (afterOps emptyTodoOps)).1.isOk = false := by decide +kernel
  have hwritten : ((approvePlan plainEnv "task-0001" 1 plainApproval).runOn
      (afterOps emptyTodoOps)).2.plans.files ≠ (afterOps emptyTodoOps).plans.files := by
    decide +kernel
  cases hr : ((approvePlan plainEnv "task-0001" 1 plainApproval).runOn
      (afterOps emptyTodoOps)).1 with
  | error e => exact hwritten (congrArg Directory.files (h.atomic e hr).plans)
  | ok d =>
    rw [hr] at hraises
    cases hraises

end Evaluation

end Taskledger
