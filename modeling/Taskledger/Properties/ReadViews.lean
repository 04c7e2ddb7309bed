import Taskledger.Properties.Requirements
import Taskledger.Services.ReadViews

/-!
# Read views and the sidecars

The todos, links and requirements of a task have files of their own, and a task file holds none
of them. A view reports what it loads from the sidecars; a section that is taken from the task
file is empty.
-/

namespace Taskledger

open Library Action Lifecycle

section Views

variable [Runtime] {env env' : Env} {s s' : Ledger} {id : String}

-- ════════════════════════════════════════════════════════════════════════
-- Required tasks stay
-- ════════════════════════════════════════════════════════════════════════

/-- The tasks that are there are there after a walk. -/
theorem Walked.keeps_tasks {P : Label → View → Prop} {b : Bool} (h : Walked P s.view id b s')
    {other : String} (ht : (s.view other).task.isSome = true) :
    (s'.view other).task.isSome = true := by
  obtain ⟨w, hw, hv⟩ := h
  rw [hv]
  by_cases hother : other = id
  · subst hother
    rw [Function.update_self]
    exact hw.invariant (I := fun v => v.task.isSome = true)
      (fun _ _ _ hi _ hm => Move.task_isSome hm hi) ht
  · rw [Function.update_of_ne hother]
    exact ht

theorem Step.keeps_tasks (step : Step) (hs : s.Sound) {other : String}
    (ht : (s.view other).task.isSome = true) : ((step.next s).view other).task.isSome = true := by
  obtain ⟨id, hw⟩ := step.walked hs
  exact hw.keeps_tasks ht

/-- The task that a requirement file names is there. -/
def RequiresStored (s : Ledger) : Prop :=
  ∀ f ∈ s.requirements.files, (s.view f.record.requiredTask).task.isSome = true

namespace RequiresStored

/-- The tasks of the requirements that are loaded are there. -/
theorem loaded (hs : RequiresStored s) (hregular : RegularRequirements s)
    {l : List DependencyRequirement} (hl : loadRequirements id s = .ok l) :
    ∀ r ∈ l, (s.view r.taskId).task.isSome = true := by
  intro r hr
  obtain ⟨f, hf, -, hreload⟩ := (mem_loadRequirements hl).1 hr
  rw [((hregular f hf).of_reload hreload).2.1]
  exact hs f hf

/-- A change writes requirements on the tasks that were required and on the one it is about. -/
theorem written (hs : RequiresStored s) (hregular : RegularRequirements s)
    {l : List DependencyRequirement} (hl : loadRequirements id s = .ok l) {required : TaskRecord}
    (hcanonical : Canonical "task" required.id)
    (hrequired : (s.view required.id).task.isSome = true) (c : RequirementChange) :
    ∀ r ∈ c.written env required.id l, (s.view r.requiredTask).task.isSome = true := by
  intro r hr
  have hold : ∀ a ∈ l.map DependencyRequirement.taskId, (s.view a).task.isSome = true := by
    intro a ha
    obtain ⟨r, hr, rfl⟩ := List.mem_map.1 ha
    exact hs.loaded hregular hl r hr
  have hids : ∀ a ∈ c.requiredTasks required.id (l.map DependencyRequirement.taskId),
      (s.view a).task.isSome = true := by
    have hnew : ∀ a ∈ (if required.id ∈ l.map DependencyRequirement.taskId
        then l.map DependencyRequirement.taskId
        else l.map DependencyRequirement.taskId ++ [required.id]),
        (s.view a).task.isSome = true := by
      split
      · exact hold
      · exact List.forall_mem_append.2 ⟨hold, by simpa using hrequired⟩
    cases c with
    | add => exact hnew
    | remove => exact fun a ha => hold a (List.mem_of_mem_filter ha)
    | waive => exact hnew
  rw [(RequirementChange.stands_written c (hregular.loaded hl) hcanonical r hr).2]
  refine hids _ ?_
  have hwritten := List.mem_map_of_mem (f := DependencyRequirement.taskId) hr
  rwa [RequirementChange.map_taskId_written] at hwritten

end RequiresStored

theorem Step.keeps_required (step : Step) (hsound : s.Sound) (hregular : RegularRequirements s)
    (hs : RequiresStored s) : RequiresStored (step.next s) := by
  have hstays (files : List (Filed DependencyRequirement))
      (h : ∀ f ∈ files, (s.view f.record.requiredTask).task.isSome = true) :
      ∀ f ∈ files, ((step.next s).view f.record.requiredTask).task.isSome = true :=
    fun f hf => step.keeps_tasks hsound (h f hf)
  rcases step.keeps_or_changes s with hsame | ⟨c, env, ref, requiredRef, hnext⟩
  · unfold RequiresStored
    rw [hsame]
    exact hstays _ hs
  · refine hstays _ ?_
    have hsat : (c.run env ref requiredRef).Sat s (c.Outcome env ref requiredRef s) := c.sat_run
    rcases hsat with ⟨hsame, -⟩ | ⟨task, required, l, -, hrequired, hl, hwritten, -⟩
    · rw [hnext, hsame]
      exact hs
    · rw [hnext, hwritten]
      intro f hf
      by_cases howner : f.owner = task.id
      · exact hs.written hregular hl (canonical_resolved hsound hrequired)
          (by rw [view_resolved hrequired]; rfl) c _ (record_mem_of_refiled hf howner)
      · exact hs f (mem_of_refiled hf howner)

/-- The tasks that are required in a reachable ledger are there. -/
theorem Ledger.Reachable.requires_stored (h : s.Reachable) : RequiresStored s :=
  System.Reachable.invariant h (fun _ hf => by cases hf) fun _ step hreach hs _ =>
    step.keeps_required (Taskledger.Reachable.sound hreach) (Ledger.Reachable.regular hreach) hs

-- ════════════════════════════════════════════════════════════════════════
-- The sections of the views
-- ════════════════════════════════════════════════════════════════════════

/-- A task file holds no links. -/
theorem TaskRecord.fileLinks_of_reload {t t' : TaskRecord} (h : t.reload = .ok t') :
    t'.fileLinks = [] := by
  simp only [TaskRecord.reload, bind_eq_ok, pure_eq_ok] at h
  obtain ⟨-, -, -, -, -, -, rfl⟩ := h
  rfl

theorem fileLinks_resolved {ref : String} {includeArchived : Bool} {t : TaskRecord}
    (h : resolveTask ref includeArchived s = .ok t) : t.fileLinks = [] := by
  obtain ⟨stored, -, hr⟩ := resolveTask_stored h
  exact TaskRecord.fileLinks_of_reload hr

/-- The active task is a resolved one. -/
theorem resolveActiveTask_eq_ok {t : TaskRecord} (h : resolveActiveTask s = .ok t) :
    ∃ ref, resolveTask ref false s = .ok t := by
  obtain ⟨state, -, h⟩ := Query.bind_eq_ok.1 h
  cases state with
  | none => cases h
  | some state =>
    obtain ⟨found, hfound, h⟩ := Query.bind_eq_ok.1 h
    cases found with
    | none => cases h
    | some task =>
      cases Query.pure_eq_ok.1 h
      refine ⟨state.taskId, ?_⟩
      unfold orNone at hfound
      split at hfound
      · rename_i heq
        rw [heq]
        exact congrArg Except.ok (Option.some.inj (Except.ok.inj hfound))
      · cases hfound
      · cases hfound

variable {guidance : ProjectGuidance} {logged : Except Raised (List TaskEvent)}
  {ref : Option String} {d : DashboardPayload}

/-- The dashboard shows the stored todos, and no file. -/
theorem dashboard_eq_ok (h : dashboard env guidance logged ref s = .ok d) :
    (∃ ref, resolveTask ref false s = .ok d.task) ∧
      (∃ todos, loadTodos d.task.id s = .ok todos ∧ d.todos = todoSection todos) ∧
      d.files = fileSection [] := by
  simp only [dashboard, Query.bind_eq_ok, Query.pure_eq_ok] at h
  obtain ⟨task, htask, lock, -, plans, -, questions, -, runs, -, changes, -, checks, -,
    activeStage, -, actionInfo, -, todos, htodos, validation, -, events, -, rfl⟩ := h
  have hresolved : ∃ ref, resolveTask ref false s = .ok task := by
    cases ref with
    | none => exact resolveActiveTask_eq_ok htask
    | some ref => exact ⟨ref, htask⟩
  refine ⟨hresolved, ⟨todos, htodos, rfl⟩, ?_⟩
  obtain ⟨_, hfound⟩ := hresolved
  show fileSection task.fileLinks = fileSection []
  rw [fileLinks_resolved hfound]

variable {steps : String → Except Raised WorkerStep} {taskRef : String} {args : ContextArguments}
  {workerStepId : Option String} {h : HandoffPayload}

/-- An entry of the dependencies is what the required task says of itself. -/
def RequiredEntry (s : Ledger) (r : DependencyRequirement) (e : DependencyEntry) : Prop :=
  ∃ task, resolveTask r.taskId false s = .ok task ∧ task.id = r.taskId ∧ e = task.dependencyEntry

/-- The handoff payload shows the stored todos, links and requirements. -/
theorem buildHandoffPayload_eq_ok (hs : s.Reachable)
    (hh : buildHandoffPayload env steps taskRef args workerStepId s = .ok h) :
    loadTodos h.task.id s = .ok h.todos ∧ loadLinks h.task.id s = .ok h.fileLinks ∧
      ∃ requirements, loadRequirements h.task.id s = .ok requirements ∧
        List.Forall₂ (RequiredEntry s) requirements h.dependencies := by
  simp only [buildHandoffPayload, Query.bind_eq_ok, Query.pure_eq_ok] at hh
  obtain ⟨workerStep, -, request, -, task, -, introduction, -, plans, -, questions, -, runs, -,
    todos, htodos, changes, -, checks, -, acceptedPlan, -, lock, -, activeStage, -, dependencies,
    hdependencies, focus, -, validationStatus, -, relationships, -, fileLinks, hlinks,
    lockExpired, -, rfl⟩ := hh
  refine ⟨htodos, hlinks, ?_⟩
  obtain ⟨requirements, hl, hentries⟩ := Query.bind_eq_ok.1 hdependencies
  refine ⟨requirements, hl, ?_⟩
  have hstored := hs.requires_stored.loaded hs.regular hl
  refine ((List.forall₂_and_left _ _).2 ⟨hstored, Query.mapM_eq_ok hentries⟩).imp ?_
  rintro r e ⟨hthere, hentry⟩
  obtain ⟨task, htask, hentry⟩ := Query.bind_eq_ok.1 hentry
  obtain ⟨c, hc⟩ := Option.isSome_iff_exists.1 hthere
  exact ⟨task, htask, resolve_own hs.sound hc htask, (Query.pure_eq_ok.1 hentry).symm⟩

/-- The sections of the two views are what the sidecars of the task hold. -/
structure ReportSidecars (s : Ledger) (d : DashboardPayload) (h : HandoffPayload)
    (todos : List TaskTodo) (links : List FileLink) (requirements : List DependencyRequirement) :
    Prop where
  dashboardTodos : d.todos = todoSection todos
  dashboardFiles : d.files = fileSection links
  handoffTodos : h.todos = todos
  handoffLinks : h.fileLinks = links
  dependencies : List.Forall₂ (RequiredEntry s) requirements h.dependencies

/-- In a reachable ledger the dashboard and the handoff payload of a task report its sidecars
exactly when the task has no file link. -/
theorem views_report_sidecars_iff (hs : s.Reachable)
    (hd : dashboard env guidance logged ref s = .ok d)
    (hh : buildHandoffPayload env' steps taskRef args workerStepId s = .ok h)
    (hsame : h.task.id = d.task.id) :
    ∃ todos links requirements, loadTodos d.task.id s = .ok todos ∧
      loadLinks d.task.id s = .ok links ∧ loadRequirements d.task.id s = .ok requirements ∧
      (ReportSidecars s d h todos links requirements ↔ links = []) := by
  obtain ⟨-, ⟨todos, htodos, hdtodos⟩, hfiles⟩ := dashboard_eq_ok hd
  obtain ⟨hhtodos, hlinks, requirements, hrequirements, hentries⟩ :=
    buildHandoffPayload_eq_ok hs hh
  rw [hsame] at hhtodos hlinks hrequirements
  cases Except.ok.inj (htodos.symm.trans hhtodos)
  refine ⟨h.todos, h.fileLinks, requirements, htodos, hlinks, hrequirements, ?_⟩
  constructor
  · intro hreport
    have hnone : fileSection [] = fileSection h.fileLinks := hfiles.symm.trans hreport.dashboardFiles
    exact (congrArg FileSection.links hnone).symm
  · intro hnone
    exact ⟨hdtodos, hnone ▸ hfiles, rfl, rfl, hentries⟩

end Views

section Evaluation

attribute [local instance] plainRuntime

/-- A task with a todo and a requirement. -/
def plannedOps : List Op := requiringOps ++ [.recorder (.addTodo "task-0001" "write" none true)]

/-- No worker pipeline is configured. -/
def noSteps : String → Except Raised WorkerStep := fun _ =>
  .error (launchError "No worker pipeline configured.")

theorem views_report_planned :
    ∃ d h todos links requirements,
      dashboard plainEnv {} (.ok []) (some "task-0001") (afterOps plannedOps) = .ok d ∧
      buildHandoffPayload plainEnv noSteps "task-0001" {} none (afterOps plannedOps) = .ok h ∧
      loadTodos "task-0001" (afterOps plannedOps) = .ok todos ∧
      loadLinks "task-0001" (afterOps plannedOps) = .ok links ∧
      loadRequirements "task-0001" (afterOps plannedOps) = .ok requirements ∧
      todos.map TaskTodo.text = ["write"] ∧
      requirements.map DependencyRequirement.taskId = ["task-0002"] ∧
      ReportSidecars (afterOps plannedOps) d h todos links requirements := by
  have hdash : ((dashboard plainEnv {} (.ok []) (some "task-0001") (afterOps plannedOps)).toOption.map
      fun d => d.task.id) = some "task-0001" := by decide +kernel
  have hhandoff : ((buildHandoffPayload plainEnv noSteps "task-0001" {} none
      (afterOps plannedOps)).toOption.map fun h => h.task.id) = some "task-0001" := by
    decide +kernel
  have hread : ((loadTodos "task-0001" (afterOps plannedOps)).toOption.map
        (List.map TaskTodo.text)) = some ["write"] ∧
      ((loadLinks "task-0001" (afterOps plannedOps)).toOption.map List.length) = some 0 ∧
      ((loadRequirements "task-0001" (afterOps plannedOps)).toOption.map
        (List.map DependencyRequirement.taskId)) = some ["task-0002"] := by
    decide +kernel
  obtain ⟨d, hd, hdid⟩ := map_toOption_eq_some.1 hdash
  obtain ⟨h, hh, hhid⟩ := map_toOption_eq_some.1 hhandoff
  obtain ⟨htexts, hnone, htasks⟩ := hread
  obtain ⟨todos, htodos, htexts⟩ := map_toOption_eq_some.1 htexts
  obtain ⟨links, hlinks, hnone⟩ := map_toOption_eq_some.1 hnone
  obtain ⟨requirements, hrequirements, htasks⟩ := map_toOption_eq_some.1 htasks
  obtain ⟨todos', links', requirements', htodos', hlinks', hrequirements', hiff⟩ :=
    views_report_sidecars_iff (reachable_afterOps plannedOps) hd hh (hhid.trans hdid.symm)
  rw [hdid] at htodos' hlinks' hrequirements'
  cases Except.ok.inj (htodos.symm.trans htodos')
  cases Except.ok.inj (hlinks.symm.trans hlinks')
  cases Except.ok.inj (hrequirements.symm.trans hrequirements')
  exact ⟨d, h, todos, links, requirements, hd, hh, htodos, hlinks, hrequirements, htexts, htasks,
    hiff.2 (List.length_eq_zero_iff.1 hnone)⟩

/-- The task has a file link too. -/
def linkedOps : List Op :=
  plannedOps ++ [.recorder (.addFileLink "task-0001"
    { path := "a.py", kind := "code", target := { exists_ := true, targetType := "file" } })]

/-- The handoff payload lists the link, and the dashboard does not. -/
theorem dashboard_omits_links :
    (afterOps linkedOps).Reachable ∧ ∃ d h todos links requirements,
      dashboard plainEnv {} (.ok []) (some "task-0001") (afterOps linkedOps) = .ok d ∧
      buildHandoffPayload plainEnv noSteps "task-0001" {} none (afterOps linkedOps) = .ok h ∧
      h.task.id = d.task.id ∧
      loadTodos d.task.id (afterOps linkedOps) = .ok todos ∧
      loadLinks d.task.id (afterOps linkedOps) = .ok links ∧
      loadRequirements d.task.id (afterOps linkedOps) = .ok requirements ∧
      ¬ ReportSidecars (afterOps linkedOps) d h todos links requirements := by
  have hdash : ((dashboard plainEnv {} (.ok []) (some "task-0001") (afterOps linkedOps)).toOption.map
      fun d => (d.task.id, d.files.total)) = some ("task-0001", 0) := by decide +kernel
  have hhandoff : ((buildHandoffPayload plainEnv noSteps "task-0001" {} none
      (afterOps linkedOps)).toOption.map fun h => (h.task.id, h.fileLinks.map FileLink.path)) =
      some ("task-0001", ["a.py"]) := by decide +kernel
  have hread : ((loadTodos "task-0001" (afterOps linkedOps)).toOption.isSome = true) ∧
      ((loadLinks "task-0001" (afterOps linkedOps)).toOption.map List.length) = some 1 ∧
      ((loadRequirements "task-0001" (afterOps linkedOps)).toOption.isSome = true) := by
    decide +kernel
  obtain ⟨d, hd, hd'⟩ := map_toOption_eq_some.1 hdash
  obtain ⟨h, hh, hh'⟩ := map_toOption_eq_some.1 hhandoff
  obtain ⟨htodos, hlinks, hrequirements⟩ := hread
  obtain ⟨todos, htodos⟩ := isSome_toOption.1 htodos
  obtain ⟨links, hlinks, hone⟩ := map_toOption_eq_some.1 hlinks
  obtain ⟨requirements, hrequirements⟩ := isSome_toOption.1 hrequirements
  obtain ⟨hdid, hfiles⟩ := Prod.mk.inj hd'
  obtain ⟨hhid, -⟩ := Prod.mk.inj hh'
  rw [← hdid] at htodos hlinks hrequirements
  refine ⟨reachable_afterOps _, d, h, todos, links, requirements, hd, hh, hhid.trans hdid.symm,
    htodos, hlinks, hrequirements, fun hreport => ?_⟩
  rw [hreport.dashboardFiles] at hfiles
  exact absurd (hfiles.symm.trans hone) (by decide)

end Evaluation

end Taskledger
