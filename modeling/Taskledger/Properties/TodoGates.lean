import Taskledger.Lifecycle.Footprints
import Taskledger.Lifecycle.Steps
import Taskledger.Properties.Approval

/-!
# Open todos and the gates

The next todo, the gate of an implementation and the gate of a validation each
say from the todos of a task whether it may finish.
-/

namespace Taskledger

open Library Action

section Gates

-- ════════════════════════════════════════════════════════════════════════
-- Todos that the implementation gate sees
-- ════════════════════════════════════════════════════════════════════════

/-- An unfinished todo is open, and a mandatory one was activated or comes from a plan. -/
structure TaskTodo.Gated (t : TaskTodo) : Prop where
  unfinished : t.done = false → t.status = .open
  mandatory : t.mandatory = true →
    t.activeAt.isSome = true ∨ t.source = some "plan" ∨ t.sourcePlanId.isSome = true

/-- Every todo of the ledger is gated. -/
def GatedTodos (s : Ledger) : Prop := ∀ f ∈ s.todos.files, f.record.Gated

variable {s : Ledger} {t t' : TaskTodo}

/-- A gated mandatory todo that is not done keeps the implementation from finishing. -/
theorem TaskTodo.Gated.blocksFinish (h : t.Gated) (hm : t.mandatory = true)
    (hd : t.done = false) : blocksFinish t = true := by
  have hopen := h.unfinished hd
  unfold Taskledger.blocksFinish
  rcases h.mandatory hm with hactive | hsource | hplan
  · simp [hd, hopen, hactive]
  · simp [hd, hopen, hsource]
  · simp [hd, hopen, hplan]

theorem TaskTodo.Gated.of_reload (h : t.Gated) (hr : t.reload = .ok t') : t'.Gated := by
  simp only [TaskTodo.reload, bind_eq_ok, pure_eq_ok] at hr
  obtain ⟨-, -, -, -, -, -, rfl⟩ := hr
  exact ⟨h.unfinished, h.mandatory⟩

/-- The todos loaded from a ledger of gated todos are gated. -/
theorem GatedTodos.loaded (h : GatedTodos s) {taskId : String} {todos : List TaskTodo}
    (hl : loadTodos taskId s = .ok todos) : ∀ t ∈ todos, t.Gated := by
  obtain ⟨read, hread, hsorted⟩ := bind_eq_ok.1 hl
  cases pure_eq_ok.1 hsorted
  intro t ht
  obtain ⟨stored, hstored, hreload⟩ := (mem_reloaded_iff hread).1 (mem_sortedBy.1 ht)
  obtain ⟨f, hf, rfl⟩ := List.mem_map.1 hstored
  exact (h f (List.mem_filter.1 hf).1).of_reload hreload

theorem GatedTodos.sidecars (h : GatedTodos s) {task full : TaskRecord}
    (hl : WithSidecars s task full) : ∀ t ∈ full.todos, t.Gated :=
  h.loaded hl.todos

/-- Todo files come from the ledger or from the todos that were written. -/
theorem GatedTodos.put (h : GatedTodos s) {owner : String} {todos : List TaskTodo}
    (htodos : ∀ t ∈ todos, t.Gated) : GatedTodos (s.putTodos owner todos) := by
  intro f hf
  by_cases howner : f.owner = owner
  · exact htodos _ (mem_putTodos hf howner)
  · exact h f (mem_of_refiled hf howner)

variable [Runtime] {env : Env}

theorem gated_markedTodo (h : t.Gated) (request : TodoDoneRequest) :
    (markedTodo env request t).Gated := by
  unfold markedTodo
  split
  · exact ⟨fun hd => (by cases hd), h.mandatory⟩
  · exact ⟨fun _ => rfl, h.mandatory⟩

theorem gated_newPlanTodos {existing : List (Option String × String)} {source : String}
    {ids : List String} {todos : List TaskTodo} :
    ∀ t ∈ newPlanTodos env existing source ids todos, t.Gated := by
  induction todos generalizing ids with
  | nil =>
    intro t ht
    cases ht
  | cons todo rest ih =>
    rw [newPlanTodos]
    split
    · exact ih
    · intro t ht
      rcases List.mem_cons.1 ht with rfl | ht
      · exact ⟨fun _ => rfl, fun _ => .inr (.inl rfl)⟩
      · exact ih t ht

-- ════════════════════════════════════════════════════════════════════════
-- What the operations write
-- ════════════════════════════════════════════════════════════════════════

omit [Runtime] in
/-- Writes of other parts keep the todos gated. -/
theorem keeps_gated {α : Type} {m : LedgerAction α} (parts : List Part)
    [h : Within (SameBut parts) m] (hp : .todos ∉ parts) : Keeps GatedTodos m := fun s hs =>
  (h.sat s).mono fun _ s' hmoves => by
    have htodos : s'.todos = s.todos := hmoves .todos hp
    unfold GatedTodos
    rw [htodos]
    exact hs

omit [Runtime] in
theorem keeps_gated_saveTodos {owner : String} {todos : List TaskTodo}
    (h : ∀ t ∈ todos, t.Gated) : Keeps GatedTodos (saveTodos owner todos) :=
  Keeps.write fun _ hs => hs.put h

theorem keeps_gated_materializePlanTodos {ref : String} {version : Nat} {dryRun : Bool} :
    Keeps GatedTodos (materializePlanTodos env ref version dryRun) := by
  refine Keeps.query fun found _ _ _ => Keeps.query fun task s hs htask => ?_
  refine Keeps.query fun plan _ _ _ => Keeps.bind (Keeps.onlyIf fun _ => ?_) fun _ => Keeps.pure
  refine Keeps.bind (keeps_gated_saveTodos fun t ht => ?_) fun _ =>
    keeps_gated [.tasks, .events] (by decide)
  rcases List.mem_append.1 ht with hold | hnew
  · exact hs.sidecars (taskWithSidecars_eq_ok htask) t hold
  · exact gated_newPlanTodos t hnew

theorem keeps_gated_approvePlan {ref : String} {version : Nat} {request : ApprovalRequest} :
    Keeps GatedTodos (approvePlan env ref version request) := by
  refine Keeps.query fun a _ _ _ => Keeps.query fun plans _ _ _ => ?_
  have hrest : ∀ x : Nat × TaskRecord, Keeps GatedTodos (do
      appendEvent env x.2.id "plan.approved"
        [("plan_version", .int a.target.planVersion),
          ("approved_by", .dict a.approvedBy.toDict),
          ("approval_note", .str (approvalNote request)),
          ("approval_source", .str (a.source.getD "unknown")),
          ("approved_plan_hash", .str (approvedPlanContentHash a.target))]
      rebuildV2Indexes
      let todos ← loadTodos x.2.id
      return approvalPayload a x.2 x.1 (todos.filter TaskTodo.mandatory).length) := fun x =>
    keeps_gated [.events] (by decide)
  refine Keeps.bind (keeps_gated [.plans] (by decide)) fun _ =>
    Keeps.bind (keeps_gated [.tasks] (by decide)) fun _ => ?_
  dsimp only
  split
  · refine Keeps.bind ?_ hrest
    exact Keeps.bind keeps_gated_materializePlanTodos fun _ => Keeps.query fun _ _ _ _ => Keeps.pure
  · exact Keeps.bind Keeps.pure hrest

theorem keeps_gated_replaceTodos {task : TaskRecord} {todos : List TaskTodo}
    (h : ∀ t ∈ todos, t.Gated) : Keeps GatedTodos (replaceTodos env task todos) :=
  Keeps.bind (keeps_gated_saveTodos h) fun _ => keeps_gated [.tasks] (by decide)

theorem keeps_gated_setTodoDone {ref todoId : String} {request : TodoDoneRequest} :
    Keeps GatedTodos (setTodoDone env ref todoId request) := by
  refine Keeps.query fun (task, normalizedId) s hs hread => ?_
  obtain ⟨found, -, hfull⟩ := todoToMark_eq_ok hread
  have htask : ∀ t ∈ task.todos, t.Gated := hs.sidecars hfull
  refine Keeps.bind (keeps_gated_replaceTodos fun t ht => ?_) fun _ =>
    keeps_gated [.events] (by decide)
  obtain ⟨old, hold, rfl⟩ := List.mem_map.1 ht
  split
  · exact gated_markedTodo (htask old hold) request
  · exact htask old hold

/-- A mandatory todo is added only while the implementation lock of its task is held. -/
def Step.ActivatesMandatory (s : Ledger) (step : Step) : Prop :=
  ∀ ref text source, step.op = .recorder (.addTodo ref text source true) →
    ∀ task, resolveTask ref false s = .ok task →
      ∀ lock, lockForMutation step.env task.id s = .ok lock →
        lock.any (fun l => l.runType = .implementation) = true

theorem sat_addTodo {ref text : String} {source : Option String} {mandatory : Bool}
    (hs : GatedTodos s)
    (h : Step.ActivatesMandatory s ⟨env, .recorder (.addTodo ref text source mandatory)⟩) :
    (addTodo env ref text source mandatory).Sat s fun _ s' => GatedTodos s' := by
  refine Sat.query (fun _ _ => hs) fun (task, todo) hread => ?_
  have hall : ∀ t ∈ task.todos ++ [todo], t.Gated := by
    obtain ⟨found, lock, hfound, hfull, hlock, hopen, hmandatory, hactive⟩ :=
      newTodoOf_eq_ok hread
    intro t ht
    rcases List.mem_append.1 ht with hold | hnew
    · exact hs.sidecars hfull t hold
    · cases List.mem_singleton.1 hnew
      refine ⟨fun _ => hopen, fun hm => .inl ?_⟩
      rw [hfull.id] at hlock
      cases hmandatory.symm.trans hm
      have hlocked := h ref text source rfl found hfound lock hlock
      simp [hactive, hlocked]
  exact Keeps.bind (keeps_gated_replaceTodos hall) (fun _ => keeps_gated [.events] (by decide)) s hs

/-- A step that activates the mandatory todos it adds keeps every todo gated. -/
theorem Step.keeps_gated (step : Step) (hs : GatedTodos s) (h : step.ActivatesMandatory s) :
    GatedTodos (step.next s) := by
  by_cases hp : .todos ∈ step.op.parts
  · obtain ⟨env, op⟩ := step
    cases op with
    | approvePlan ref version request =>
      exact keeps_dropResult keeps_gated_approvePlan s hs
    | rejectPlan ref reason =>
      exact keeps_dropResult (Taskledger.keeps_gated [.tasks, .plans, .events] (by decide)) s hs
    | recorder r =>
      cases r with
      | addTodo ref text source mandatory =>
        have hsame : Step.next ⟨env, .recorder (.addTodo ref text source mandatory)⟩ s =
            ((addTodo env ref text source mandatory).runOn s).2 := ledger_dropResult _ s
        rw [hsame]
        exact sat_addTodo hs h
      | setTodoDone ref todoId request => exact keeps_dropResult keeps_gated_setTodoDone s hs
      | materializePlanTodos ref version dryRun =>
        exact keeps_dropResult keeps_gated_materializePlanTodos s hs
      | _ => simp [Op.parts, Recorder.parts] at hp
    | _ => simp [Op.parts] at hp
  · unfold GatedTodos
    rw [step.same s hp]
    exact hs

-- ════════════════════════════════════════════════════════════════════════
-- The three gates
-- ════════════════════════════════════════════════════════════════════════

/-- The ledgers of the runs whose steps activate the mandatory todos they add. -/
theorem Reachable.gated (h : services.Reachable (fun s step => step.ActivatesMandatory s) s) :
    GatedTodos s :=
  h.invariant (fun _ hf => by cases hf) fun _ step _ hs hc => step.keeps_gated hs hc

/-- The todo that the next todo names is one that is not done. -/
theorem canFinish_nextTodo {ref : String} {task : TaskRecord} {next : NextTodo}
    {todos : List TaskTodo} (htask : resolveTask ref false s = .ok task)
    (htodos : loadTodos task.id s = .ok todos) (hnext : nextTodo ref s = .ok next) :
    next.canFinish = true ↔ ∀ t ∈ todos, t.done = true := by
  obtain ⟨found, hfound, hnext⟩ := Query.bind_eq_ok.1 hnext
  cases htask.symm.trans hfound
  obtain ⟨full, hfull, hnext⟩ := Query.bind_eq_ok.1 hnext
  cases Query.pure_eq_ok.1 hnext
  cases htodos.symm.trans (taskWithSidecars_eq_ok hfull).todos
  simp only [NextTodo.canFinish, Option.isNone_iff_eq_none, Option.or_eq_none_iff,
    List.find?_eq_none]
  constructor
  · rintro ⟨-, h⟩ t ht
    simpa using h t ht
  · intro h
    exact ⟨fun t ht => by simp [h t ht], fun t ht => by simp [h t ht]⟩

omit [Runtime] in
theorem openTodos_implementation {task : TaskRecord} {report : TodoGateReport}
    {todos : List TaskTodo} (htodos : loadTodos task.id s = .ok todos)
    (hreport : buildTodoGateReport task s = .ok report) :
    report.openTodos = (todos.filter Taskledger.blocksFinish).map TaskTodo.id := by
  obtain ⟨full, hfull, hreport⟩ := Query.bind_eq_ok.1 hreport
  cases Query.pure_eq_ok.1 hreport
  cases htodos.symm.trans (taskWithSidecars_eq_ok hfull).todos
  rfl

theorem openTodos_validation {task : TaskRecord} {run : Option TaskRunRecord} {gate : GateReport}
    {todos : List TaskTodo} (htodos : loadTodos task.id s = .ok todos)
    (hgate : buildValidationGateReport task run s = .ok gate) :
    gate.openTodos = (todos.filter fun t => t.mandatory && !t.done).map TaskTodo.id := by
  obtain ⟨-, -, -, -, -, read, hread, hopen⟩ := buildValidationGateReport_eq_ok hgate
  cases htodos.symm.trans hread
  exact hopen

/-- One of the three gates says that the task may finish. -/
def mayFinish (next : NextTodo) (report : TodoGateReport) (gate : GateReport) : Prop :=
  next.canFinish = true ∨ report.openTodos = [] ∨ gate.openTodos = []

/-- One of the three gates lists a todo. -/
def Lists (next : NextTodo) (report : TodoGateReport) (gate : GateReport) (t : TaskTodo) : Prop :=
  next.todo = some t ∨ t.id ∈ report.openTodos ∨ t.id ∈ gate.openTodos

/-- In the runs whose steps activate the mandatory todos they add, the implementation passes
its todo gate only with every mandatory todo done or skipped, and no gate lets a task finish
while one of them lists an open mandatory todo. -/
theorem todo_gates_agree (h : services.Reachable (fun s step => step.ActivatesMandatory s) s)
    {ref : String} {task : TaskRecord} {todos : List TaskTodo}
    (htask : resolveTask ref false s = .ok task) (htodos : loadTodos task.id s = .ok todos) :
    (requireTodosComplete task s = .ok () →
      ∀ t ∈ todos, t.mandatory = true → t.done = true ∨ t.status = .skipped) ∧
    ∀ run next report gate, nextTodo ref s = .ok next → buildTodoGateReport task s = .ok report →
      buildValidationGateReport task run s = .ok gate → mayFinish next report gate →
      ¬ ∃ t ∈ todos, t.mandatory = true ∧ t.done = false ∧ Lists next report gate t := by
  have hgated := (Reachable.gated h).loaded htodos
  have hblocked {report : TodoGateReport} (hreport : buildTodoGateReport task s = .ok report)
      (hnone : report.openTodos = []) : ∀ t ∈ todos, t.mandatory = true → t.done = true := by
    intro t ht hm
    by_contra hd
    have hblocks := (hgated t ht).blocksFinish hm (by simpa using hd)
    rw [openTodos_implementation htodos hreport, List.map_eq_nil_iff,
      List.filter_eq_nil_iff] at hnone
    exact hnone t ht hblocks
  refine ⟨fun hfinish t ht hm => .inl ?_, ?_⟩
  · obtain ⟨report, hreport, hfinish⟩ := Query.bind_eq_ok.1 hfinish
    have hnone : ¬ report.openTodos ≠ [] := raiseIf_eq_ok.1 hfinish
    exact hblocked hreport (not_not.1 hnone) t ht hm
  · rintro run next report gate hnext hreport hgate hfinish ⟨t, ht, hm, hd, -⟩
    have hdone : t.done = true := by
      rcases hfinish with hfinish | hfinish | hfinish
      · exact (canFinish_nextTodo htask htodos hnext).1 hfinish t ht
      · exact hblocked hreport hfinish t ht hm
      · rw [openTodos_validation htodos hgate, List.map_eq_nil_iff,
          List.filter_eq_nil_iff] at hfinish
        simpa [hm] using hfinish t ht
    rw [hd] at hdone
    cases hdone

end Gates

section Evaluation

attribute [local instance] plainRuntime

theorem activatesMandatory_of_op {op : Op}
    (h : ∀ ref text source, op ≠ .recorder (.addTodo ref text source true)) (s : Ledger) :
    Step.ActivatesMandatory s ⟨plainEnv, op⟩ := fun ref text source hop =>
  absurd hop (h ref text source)

/-- An implementation that has started. -/
def startedImplementation : List Op := approvedOps ++ [.startImplementation "task-0001" none none]

/-- A mandatory todo of the implementation. -/
def addMandatory : Op := .recorder (.addTodo "task-0001" "x" (some "user") true)

theorem activatesMandatory_started :
    Step.ActivatesMandatory (afterOps startedImplementation) ⟨plainEnv, addMandatory⟩ := by
  have hid : (resolveTask "task-0001" false (afterOps startedImplementation)).toOption.map
      TaskRecord.id = some "task-0001" := by decide +kernel
  have hheld : (lockForMutation plainEnv "task-0001" (afterOps startedImplementation)).toOption.map
      (fun lock => lock.any fun l => l.runType = .implementation) = some true := by decide +kernel
  intro ref text source hop task htask lock hlock
  cases hop
  have htaskId : task.id = "task-0001" := by simpa [htask, Except.toOption] using hid
  rw [htaskId] at hlock
  simpa [hlock, Except.toOption] using hheld

/-- The todo is done. -/
def completedTodoOps : List Op :=
  startedImplementation ++ [addMandatory] ++
    [.recorder (.setTodoDone "task-0001" "todo-0001" { done := true, evidence := some "x" })]

theorem reachable_completed : services.Reachable (fun s step => step.ActivatesMandatory s)
    (afterOps completedTodoOps) := by
  have hstarted : services.Reachable (fun s step => step.ActivatesMandatory s)
      (afterOps startedImplementation) := by
    refine reachable_of_ops fun op hop s => activatesMandatory_of_op (fun ref text source h => ?_) s
    subst h
    simp [startedImplementation, approvedOps] at hop
  have hadded : services.Reachable (fun s step => step.ActivatesMandatory s)
      (afterOps (startedImplementation ++ [addMandatory])) :=
    reachable_append hstarted activatesMandatory_started
  exact reachable_append hadded (activatesMandatory_of_op (fun _ _ _ h => by cases h) _)

theorem todo_gates_agree_started :
    ∃ task todos next report gate, resolveTask "task-0001" false (afterOps completedTodoOps) =
        .ok task ∧
      loadTodos task.id (afterOps completedTodoOps) = .ok todos ∧
      todos.map TaskTodo.mandatory = [true] ∧
      requireTodosComplete task (afterOps completedTodoOps) = .ok () ∧
      nextTodo "task-0001" (afterOps completedTodoOps) = .ok next ∧
      buildTodoGateReport task (afterOps completedTodoOps) = .ok report ∧
      buildValidationGateReport task none (afterOps completedTodoOps) = .ok gate ∧
      mayFinish next report gate ∧
      (∀ t ∈ todos, t.mandatory = true → t.done = true ∨ t.status = .skipped) ∧
      ¬ ∃ t ∈ todos, t.mandatory = true ∧ t.done = false ∧ Lists next report gate t := by
  have hread : (resolveTask "task-0001" false (afterOps completedTodoOps)).toOption.map
      (fun task => (task.id,
        ((requireTodosComplete task (afterOps completedTodoOps)).toOption.isSome,
          ((buildTodoGateReport task (afterOps completedTodoOps)).toOption.map
              TodoGateReport.openTodos,
            (buildValidationGateReport task none (afterOps completedTodoOps)).toOption.isSome)))) =
      some ("task-0001", true, some [], true) := by decide +kernel
  have hlist : (loadTodos "task-0001" (afterOps completedTodoOps)).toOption.map
      (fun todos => todos.map TaskTodo.mandatory) = some [true] := by decide +kernel
  have hoffered : (nextTodo "task-0001" (afterOps completedTodoOps)).toOption.isSome = true := by
    decide +kernel
  obtain ⟨task, htask, hreports⟩ := map_toOption_eq_some.1 hread
  simp only [Prod.mk.injEq] at hreports
  obtain ⟨hid, hfinish, hreport, hgate⟩ := hreports
  obtain ⟨todos, htodos, hmandatory⟩ := map_toOption_eq_some.1 hlist
  rw [← hid] at htodos
  obtain ⟨_, hfinish⟩ := isSome_toOption.1 hfinish
  obtain ⟨report, hreport, hopen⟩ := map_toOption_eq_some.1 hreport
  obtain ⟨gate, hgate⟩ := isSome_toOption.1 hgate
  obtain ⟨next, hnext⟩ := isSome_toOption.1 hoffered
  have hmay : mayFinish next report gate := .inr (.inl hopen)
  obtain ⟨hcomplete, hnone⟩ := todo_gates_agree reachable_completed htask htodos
  exact ⟨task, todos, next, report, gate, htask, htodos, hmandatory, hfinish, hnext, hreport, hgate,
    hmay, hcomplete hfinish, hnone none next report gate hnext hreport hgate hmay⟩

/-- An implementation with a mandatory todo that was added before it started. -/
def earlyTodoOps : List Op :=
  approvedOps ++ [addMandatory, .startImplementation "task-0001" none none]

/-- The todo does not gate the implementation, and the validation lists it. -/
theorem early_todo_passes :
    (afterOps earlyTodoOps).Reachable ∧
      ∃ task todos gate, resolveTask "task-0001" false (afterOps earlyTodoOps) = .ok task ∧
        loadTodos task.id (afterOps earlyTodoOps) = .ok todos ∧
        requireTodosComplete task (afterOps earlyTodoOps) = .ok () ∧
        buildValidationGateReport task none (afterOps earlyTodoOps) = .ok gate ∧
        ∃ t ∈ todos, t.mandatory = true ∧ ¬ (t.done = true ∨ t.status = .skipped) ∧
          t.id ∈ gate.openTodos := by
  have hread : (resolveTask "task-0001" false (afterOps earlyTodoOps)).toOption.map (fun task =>
      (task.id, ((requireTodosComplete task (afterOps earlyTodoOps)).toOption.isSome,
        (buildValidationGateReport task none (afterOps earlyTodoOps)).toOption.map
          GateReport.openTodos))) =
      some ("task-0001", true, some ["todo-0001"]) := by decide +kernel
  have hlist : (loadTodos "task-0001" (afterOps earlyTodoOps)).toOption.map
      (fun todos => todos.map fun t => (t.id, t.mandatory, t.done, t.status)) =
      some [("todo-0001", true, false, .open)] := by decide +kernel
  obtain ⟨task, htask, hreports⟩ := map_toOption_eq_some.1 hread
  simp only [Prod.mk.injEq] at hreports
  obtain ⟨hid, hfinish, hgate⟩ := hreports
  obtain ⟨todos, htodos, hopen⟩ := map_toOption_eq_some.1 hlist
  obtain ⟨gate, hgate, hlists⟩ := map_toOption_eq_some.1 hgate
  obtain ⟨_, hfinish⟩ := isSome_toOption.1 hfinish
  have hmem : ("todo-0001", true, false, TodoStatus.open) ∈
      todos.map fun t => (t.id, t.mandatory, t.done, t.status) := by
    rw [hopen]
    exact List.mem_singleton_self _
  obtain ⟨t, ht, hfields⟩ := List.mem_map.1 hmem
  simp only [Prod.mk.injEq] at hfields
  obtain ⟨hname, hm, hd, hstatus⟩ := hfields
  refine ⟨reachable_afterOps _, task, todos, gate, htask, hid ▸ htodos, hfinish, hgate, t, ht, hm,
    by simp [hd, hstatus], ?_⟩
  rw [hlists, hname]
  exact List.mem_singleton_self _

end Evaluation

end Taskledger
