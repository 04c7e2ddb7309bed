import Taskledger.Library.Ink
import Taskledger.Lifecycle.Footprints
import Taskledger.Lifecycle.Steps
import Taskledger.Lifecycle.SubmittedPlans
import Taskledger.Properties.ApprovedPlans
import Taskledger.Properties.CriterionRefs

/-!
# Contents of plans

What a plan text gives a plan: its criteria, todos and lists have no blanks around them, and
none of them is empty. It holds of every plan that is stored.
-/

namespace Taskledger

open Library Action

-- ════════════════════════════════════════════════════════════════════════
-- Texts of a submitted plan
-- ════════════════════════════════════════════════════════════════════════

/-- A text without blanks around it that is not empty. -/
def Trimmed (s : String) : Prop := Text.strip s = s ∧ s ≠ ""

theorem trimmed_strip {s : String} (h : Text.strip s ≠ "") : Trimmed (Text.strip s) :=
  ⟨Text.strip_strip s, h⟩

theorem Trimmed.not_blank {s : String} (h : Trimmed s) : Text.isBlank s = false := by
  simpa [Text.isBlank, h.1] using h.2

/-- A todo as a plan text gives it. -/
structure TaskTodo.Submitted (t : TaskTodo) : Prop where
  text : Trimmed t.text
  hint : ∀ hint, t.validationHint = some hint → Text.isBlank hint = false
  workerStep : ∀ step, t.workerStepId = some step → Trimmed step

/-- The content of a plan as a plan text gives it. -/
structure PlanRecord.Submitted (p : PlanRecord) : Prop where
  ids : (p.criteria.map AcceptanceCriterion.id).Nodup
  criteria : ∀ c ∈ p.criteria, c.Stripped ∧ c.text ≠ ""
  todos : ∀ t ∈ p.todos, t.Submitted
  goal : ∀ goal, p.goal = some goal → Text.isBlank goal = false
  waiver : ∀ reason, p.todosWaivedReason = some reason → Text.isBlank reason = false
  files : ∀ f ∈ p.files, Trimmed f
  testCommands : ∀ c ∈ p.testCommands, Trimmed c
  expectedOutputs : ∀ o ∈ p.expectedOutputs, Trimmed o
  body : Text.strip p.body = p.body

section Reading

variable [Runtime] {env : Env} {frontMatter : Dict}

omit [Runtime] in
theorem optionalStringValue_eq_some {v : Value} {s : String} :
    optionalStringValue v = some s ↔ v = .str s ∧ Text.isBlank s = false := by
  unfold optionalStringValue
  split
  · rename_i text
    by_cases hblank : Text.isBlank text = true
    · rw [if_pos hblank]
      constructor
      · intro h
        cases h
      · rintro ⟨h, hs⟩
        cases h
        rw [hblank] at hs
        cases hs
    · rw [if_neg hblank]
      constructor
      · intro h
        cases h
        exact ⟨rfl, by simpa using hblank⟩
      · rintro ⟨h, -⟩
        cases h
        rfl
  · rename_i hno
    constructor
    · intro h
      cases h
    · rintro ⟨rfl, -⟩
      exact absurd rfl (hno s)

omit [Runtime] in
theorem submitted_workerStep {item : Dict} {index : Nat} {step : String}
    (h : planTodoWorkerStepId env item index = .ok (some step)) : Trimmed step := by
  unfold planTodoWorkerStepId at h
  split at h
  · cases h
  · split at h
    · cases h
    · rename_i hblank
      split at h
      · cases h
      · split at h
        · cases h
          exact trimmed_strip (by simpa [Text.isBlank] using hblank)
        · cases h
  · cases h

theorem submitted_planTodoOf {index : Nat} {item : Value} {t : TaskTodo}
    (h : planTodoOf env index item = .ok (some t)) : t.Submitted := by
  cases item with
  | str text =>
    simp only [planTodoOf] at h
    split at h
    · cases h
    · rename_i hblank
      cases h
      refine ⟨trimmed_strip (by simpa [Text.isBlank] using hblank), ?_, ?_⟩
      · intro hint hhint
        cases hhint
      · intro step hstep
        cases hstep
  | dict item =>
    obtain ⟨_, htext, h⟩ := bind_eq_ok.1 h
    obtain ⟨workerStep, hstep, h⟩ := bind_eq_ok.1 h
    rw [raiseIf_eq_ok] at htext
    cases pure_eq_ok.1 h
    refine ⟨trimmed_strip htext, fun hint hhint => (optionalStringValue_eq_some.1 hhint).2, ?_⟩
    rintro step rfl
    exact submitted_workerStep hstep
  | null => cases h
  | bool b => cases h
  | int n => cases h
  | scalar text truthy => cases h
  | list items => cases h

theorem submitted_planTodosFromList {index : Nat} {items : List Value} {todos : List TaskTodo}
    (h : planTodosFromList env index items = .ok todos) : ∀ t ∈ todos, t.Submitted := by
  induction items generalizing index todos with
  | nil =>
    cases h
    intro t ht
    cases ht
  | cons item rest ih =>
    obtain ⟨todo, htodo, h⟩ := bind_eq_ok.1 h
    obtain ⟨others, hothers, h⟩ := bind_eq_ok.1 h
    cases pure_eq_ok.1 h
    intro t ht
    rcases List.mem_append.1 ht with ht | ht
    · cases Option.mem_toList.1 ht
      exact submitted_planTodoOf htodo
    · exact ih hothers t ht

theorem submitted_todosFromPlanInput {todos : List TaskTodo}
    (h : todosFromPlanInput env frontMatter = .ok todos) : ∀ t ∈ todos, t.Submitted := by
  unfold todosFromPlanInput at h
  split at h
  · cases h
    intro t ht
    cases ht
  · exact submitted_planTodosFromList h
  · cases h

omit [Runtime] in
theorem trimmed_textItems {key : String} {items : List Value} {texts : List String}
    (h : textItems key items = .ok texts) : ∀ s ∈ texts, Trimmed s := by
  induction items generalizing texts with
  | nil =>
    cases h
    intro s hs
    cases hs
  | cons item rest ih =>
    cases item with
    | str text =>
      unfold textItems at h
      split at h
      · cases h
      · rename_i hblank
        obtain ⟨others, hothers, h⟩ := bind_eq_ok.1 h
        cases pure_eq_ok.1 h
        exact List.forall_mem_cons.2
          ⟨trimmed_strip (by simpa [Text.isBlank] using hblank), ih hothers⟩
    | null => cases h
    | bool b => cases h
    | int n => cases h
    | scalar text truthy => cases h
    | list items => cases h
    | dict entries => cases h

omit [Runtime] in
theorem trimmed_stringTuple {key : String} {texts : List String}
    (h : stringTupleFromFrontMatter frontMatter key = .ok texts) : ∀ s ∈ texts, Trimmed s := by
  unfold stringTupleFromFrontMatter at h
  split at h
  · cases h
    intro s hs
    cases hs
  · exact trimmed_textItems h
  · cases h

omit [Runtime] in
theorem not_blank_or {a b : Option String} {s : String}
    (ha : ∀ t, a = some t → Text.isBlank t = false) (hb : ∀ t, b = some t → Text.isBlank t = false)
    (h : a.or b = some s) : Text.isBlank s = false := by
  rcases Option.or_eq_some_iff.1 h with h | ⟨-, h⟩
  · exact ha s h
  · exact hb s h

/-- What a text gives a plan. -/
theorem submitted_planOfInput {body : String} {criteria : List String} {input : PlanInput}
    (h : planInputOf env frontMatter body criteria = .ok input) (taskId : String) (version : Nat)
    (supersedes : Option Nat) : (planOfInput env input taskId version supersedes).Submitted := by
  obtain ⟨items, hitems, h⟩ := bind_eq_ok.1 h
  obtain ⟨todos, htodos, h⟩ := bind_eq_ok.1 h
  obtain ⟨files, hfiles, h⟩ := bind_eq_ok.1 h
  obtain ⟨testCommands, htests, h⟩ := bind_eq_ok.1 h
  obtain ⟨expectedOutputs, houtputs, h⟩ := bind_eq_ok.1 h
  cases pure_eq_ok.1 h
  obtain ⟨hnodup, hstripped⟩ := criteria_of_planInput hitems
  have hfield (key : String) (t : String) (ht : optionalFrontMatterString frontMatter key = some t) :
      Text.isBlank t = false := (optionalStringValue_eq_some.1 ht).2
  exact
    { ids := hnodup
      criteria := fun c hc => ⟨hstripped c hc, text_of_criteriaFromPlanInput hitems c hc⟩
      todos := submitted_todosFromPlanInput htodos
      goal := hfield "goal"
      waiver := fun reason hreason =>
        not_blank_or (hfield _) (fun _ h => not_blank_or (hfield _) (hfield _) h) hreason
      files := trimmed_stringTuple hfiles
      testCommands := trimmed_stringTuple htests
      expectedOutputs := trimmed_stringTuple houtputs
      body := Text.strip_strip _ }

end Reading

-- ════════════════════════════════════════════════════════════════════════
-- Stored plans
-- ════════════════════════════════════════════════════════════════════════

section Stored

-- an operation on a plan writes several parts
set_option synthInstance.maxSize 2000

variable [Runtime] {s : Ledger} {env : Env} {p q : PlanRecord} {id : String}
  {plans : List PlanRecord}

omit [Runtime] in
theorem TaskTodo.Submitted.of_reload {t t' : TaskTodo} (h : t.Submitted)
    (hr : t.reload = .ok t') : t'.Submitted := by
  simp only [TaskTodo.reload, bind_eq_ok, pure_eq_ok] at hr
  obtain ⟨-, -, -, -, -, -, rfl⟩ := hr
  exact ⟨h.text, h.hint, h.workerStep⟩

omit [Runtime] in
theorem eq_of_reload_criteria {l l' : List AcceptanceCriterion}
    (h : reloadAll AcceptanceCriterion.reload l = .ok l') : l' = l := by
  replace h := reloadAll_eq_ok_iff.1 h
  induction h with
  | nil => rfl
  | cons hab _ ih =>
    simp only [AcceptanceCriterion.reload, bind_eq_ok, pure_eq_ok] at hab
    obtain ⟨-, -, -, -, rfl⟩ := hab
    rw [ih]

/-- A stripped body stays stripped when line ends are unified. -/
theorem strip_fileBody {body : String} (h : Text.strip body = body) :
    Text.strip (fileBody body) = fileBody body := by
  rw [fileBody_eq]
  rcases Text.solid_of_strip_eq h with rfl | ⟨hstart, hend⟩
  · decide
  · rw [hend.rstrip_eq]
    exact (Text.strip_solid hstart.normalizeNewlines hend.normalizeNewlines).2

theorem PlanRecord.Submitted.of_reload (h : p.Submitted) (hr : p.reload = .ok q) :
    q.Submitted := by
  simp only [PlanRecord.reload, bind_eq_ok, pure_eq_ok] at hr
  obtain ⟨_, -, criteria, hcriteria, todos, htodos, rfl⟩ := hr
  cases eq_of_reload_criteria hcriteria
  refine
    { ids := h.ids
      criteria := h.criteria
      todos := fun t ht => ?_
      goal := h.goal
      waiver := h.waiver
      files := h.files
      testCommands := h.testCommands
      expectedOutputs := h.expectedOutputs
      body := strip_fileBody h.body }
  obtain ⟨t', ht', hreload⟩ := (mem_reloaded_iff htodos).1 ht
  exact (h.todos t' ht').of_reload hreload

/-- Another status and approval leave the content. -/
theorem PlanRecord.Submitted.planAfterApproval {a : Approval} {note : String} (h : p.Submitted) :
    (planAfterApproval env a note p).Submitted := by
  unfold Taskledger.planAfterApproval
  split
  · exact ⟨h.ids, h.criteria, h.todos, h.goal, h.waiver, h.files, h.testCommands,
      h.expectedOutputs, h.body⟩
  · split
    · exact h
    · exact ⟨h.ids, h.criteria, h.todos, h.goal, h.waiver, h.files, h.testCommands,
        h.expectedOutputs, h.body⟩

omit [Runtime] in
theorem PlanRecord.Submitted.withStatus {status : PlanStatus} (h : p.Submitted) :
    PlanRecord.Submitted { p with status := status } :=
  ⟨h.ids, h.criteria, h.todos, h.goal, h.waiver, h.files, h.testCommands, h.expectedOutputs, h.body⟩

/-- The plan files of the ledger hold submitted plans. -/
def SubmittedPlans (s : Ledger) : Prop := ∀ p ∈ s.plans.files, p.Submitted

theorem SubmittedPlans.listed (hs : SubmittedPlans s) (h : listPlans id s = .ok plans) :
    ∀ p ∈ plans, p.Submitted := by
  intro p hp
  obtain ⟨stored, hstored, hread⟩ := (mem_listPlans h).1 hp
  exact (hs stored hstored).of_reload hread.2

theorem SubmittedPlans.resolved (hs : SubmittedPlans s) {version : Option Nat}
    (h : resolvePlan id version s = .ok p) : p.Submitted := by
  obtain ⟨plans, _, hl, -, hp, -⟩ := resolvePlan_eq_ok h
  exact hs.listed hl p hp

omit [Runtime] in
theorem SubmittedPlans.put (hs : SubmittedPlans s) (h : p.Submitted) :
    SubmittedPlans (s.putPlan p) := by
  intro q hq
  rcases Directory.mem_files_save.1 hq with rfl | ⟨hq, -⟩
  · exact h
  · exact hs q hq

-- ════════════════════════════════════════════════════════════════════════
-- What the operations write
-- ════════════════════════════════════════════════════════════════════════

variable {ref body reason : String} {criteria : List String} {allowOpenQuestions : Bool}

omit [Runtime] in
/-- Writes of other parts keep the plan files. -/
theorem keeps_submitted {α : Type} {m : LedgerAction α} (parts : List Part)
    [h : Within (SameBut parts) m] (hp : .plans ∉ parts) : Keeps SubmittedPlans m := fun s hs =>
  (h.sat s).mono fun _ s' hmoves => by
    have hplans : s'.plans = s.plans := hmoves .plans hp
    unfold SubmittedPlans
    rw [hplans]
    exact hs

omit [Runtime] in
theorem keeps_submitted_savePlan (h : p.Submitted) : Keeps SubmittedPlans (savePlan p) :=
  fun s hs => sat_savePlan_once.mono fun r s' hsaved => by
    rcases hsaved with ⟨-, rfl⟩ | ⟨-, -, rfl⟩
    · exact hs
    · exact hs.put h

omit [Runtime] in
theorem keeps_submitted_overwritePlan (h : p.Submitted) : Keeps SubmittedPlans (overwritePlan p) :=
  Keeps.write fun _ hs => hs.put h

/-- Two plans with the same content. -/
def PlanRecord.SameContent (p q : PlanRecord) : Prop :=
  p.criteria = q.criteria ∧ p.todos = q.todos ∧ p.goal = q.goal ∧
    p.todosWaivedReason = q.todosWaivedReason ∧ p.files = q.files ∧
    p.testCommands = q.testCommands ∧ p.expectedOutputs = q.expectedOutputs ∧ p.body = q.body

omit [Runtime] in
theorem PlanRecord.Submitted.congr (h : p.Submitted) (hsame : p.SameContent q) : q.Submitted := by
  obtain ⟨hcriteria, htodos, hgoal, hwaiver, hfiles, htests, houtputs, hbody⟩ := hsame
  exact
    { ids := hcriteria ▸ h.ids
      criteria := hcriteria ▸ h.criteria
      todos := htodos ▸ h.todos
      goal := hgoal ▸ h.goal
      waiver := hwaiver ▸ h.waiver
      files := hfiles ▸ h.files
      testCommands := htests ▸ h.testCommands
      expectedOutputs := houtputs ▸ h.expectedOutputs
      body := hbody ▸ h.body }

/-- A plan holds what was read from a text. -/
def PlanRecord.ReadFrom (p : PlanRecord) (env : Env) (body : String) (criteria : List String) :
    Prop :=
  ∃ input taskId version supersedes, readPlanInput env body criteria = .ok input ∧
    (planOfInput env input taskId version supersedes).SameContent p

/-- The plan of a proposal is read from its text. -/
theorem readFrom_of_proposalOf {proposal : Proposal}
    (h : proposalOf env ref body criteria s = .ok proposal) :
    proposal.plan.ReadFrom env body criteria := by
  obtain ⟨frontMatter, planBody, _, plans, input, hparts, -, hinput, hplan⟩ :=
    (proposalOf_eq_ok h).written
  rw [hplan]
  exact ⟨input, proposal.task.id, nextPlanVersion plans.getLast?,
    plans.getLast?.map PlanRecord.planVersion, bind_eq_ok.2 ⟨_, hparts, hinput⟩,
    rfl, rfl, rfl, rfl, rfl, rfl, rfl, rfl⟩

/-- So is the plan of a regeneration, and the previous plan was listed. -/
theorem readFrom_of_regenerationOf {r : Regeneration}
    (h : regenerationOf env ref body criteria allowOpenQuestions s = .ok r) :
    r.plan.ReadFrom env body criteria ∧ ∃ id plans, listPlans id s = .ok plans ∧
      r.previous = plans.getLast? := by
  obtain ⟨-, -, ⟨listed, hlisted, hprevious, -⟩, -, _, plans, input, -, hinput, hplan⟩ :=
    regenerationOf_eq_ok h
  refine ⟨?_, r.task.id, listed, hlisted, hprevious⟩
  rw [hplan]
  exact ⟨input, r.task.id, nextPlanVersion plans.getLast?,
    plans.getLast?.map PlanRecord.planVersion, hinput, rfl, rfl, rfl, rfl, rfl, rfl, rfl, rfl⟩

theorem PlanRecord.ReadFrom.submitted (h : p.ReadFrom env body criteria) : p.Submitted := by
  obtain ⟨input, taskId, version, supersedes, hread, hsame⟩ := h
  obtain ⟨_, -, hread⟩ := bind_eq_ok.1 hread
  exact (submitted_planOfInput hread taskId version supersedes).congr hsame

theorem keeps_submitted_proposePlan : Keeps SubmittedPlans (proposePlan env ref body criteria) :=
  Keeps.query fun _ _ _ h =>
    Keeps.bind (keeps_submitted_savePlan (readFrom_of_proposalOf h).submitted) fun _ =>
      keeps_submitted [.tasks, .runs, .locks, .audits, .events] (by decide)

theorem keeps_submitted_regeneratePlan :
    Keeps SubmittedPlans (regeneratePlanFromAnswers env ref body criteria allowOpenQuestions) := by
  refine Keeps.query fun r s hs hr => ?_
  obtain ⟨hread, id, plans, hplans, hprevious⟩ := readFrom_of_regenerationOf hr
  refine Keeps.bind (keeps_submitted_savePlan hread.submitted) fun _ => ?_
  refine Keeps.bind ?_ fun _ => keeps_submitted [.tasks, .runs, .locks, .audits, .events] (by decide)
  unfold supersedePrevious
  split
  · rename_i p hp
    have hlisted := hs.listed hplans p (List.mem_of_getLast? (hprevious.symm.trans hp))
    exact Keeps.onlyIf fun _ => keeps_submitted_overwritePlan hlisted.withStatus
  · exact Keeps.pure

theorem keeps_submitted_upsertPlan {fromAnswers autoReviseFlag : Bool} :
    Keeps SubmittedPlans
      (upsertPlan env ref body criteria fromAnswers allowOpenQuestions autoReviseFlag) := by
  refine Keeps.query fun (task, regenerates) s _ _ => ?_
  dsimp only
  split
  · exact Keeps.bind keeps_submitted_regeneratePlan fun _ => Keeps.pure
  · unfold upsertProposal
    cases autoReviseFlag with
    | false =>
      exact Keeps.bind Keeps.pure fun _ => Keeps.bind keeps_submitted_proposePlan fun _ => Keeps.pure
    | true =>
      exact Keeps.bind (keeps_submitted [.tasks, .runs, .locks, .audits, .events] (by decide))
        fun _ => Keeps.bind keeps_submitted_proposePlan fun _ => Keeps.pure

theorem keeps_submitted_amendPlan {dropCriteria dropTodos removeFiles : List String} :
    Keeps SubmittedPlans (amendPlan env ref dropCriteria dropTodos removeFiles reason) := by
  refine Keeps.query fun (task, latest) s _ _ => ?_
  refine Keeps.bind (keeps_submitted [.tasks, .runs, .locks, .audits, .events] (by decide))
    fun _ => Keeps.bind keeps_submitted_proposePlan fun _ => ?_
  exact keeps_submitted [.events] (by decide)

theorem keeps_submitted_approvePlan {version : Nat} {request : ApprovalRequest} :
    Keeps SubmittedPlans (approvePlan env ref version request) := by
  refine Keeps.query fun a _ _ _ => Keeps.query fun plans s hs hplans => ?_
  refine Keeps.bind (Keeps.each fun p hp => ?_) fun _ =>
    keeps_submitted [.tasks, .todos, .events] (by decide)
  exact keeps_submitted_overwritePlan (hs.listed hplans p hp).planAfterApproval

theorem keeps_submitted_rejectPlan {note : Option String} :
    Keeps SubmittedPlans (rejectPlan env ref note) := by
  refine Keeps.query fun task _ _ _ => Keeps.except fun _ _ => Keeps.query fun lock _ _ _ =>
    Keeps.except fun _ _ => Keeps.query fun latest s hs hlatest => ?_
  exact Keeps.bind (keeps_submitted_overwritePlan (hs.resolved hlatest).withStatus) fun _ =>
    keeps_submitted [.tasks, .events] (by decide)

/-- A step keeps the plan files of the ledger submitted. -/
theorem Step.keeps_submitted (step : Step) (hs : SubmittedPlans s) :
    SubmittedPlans (step.next s) := by
  have hother (h : Part.plans ∉ step.op.parts) : SubmittedPlans (step.next s) := by
    unfold SubmittedPlans
    rw [step.same s h]
    exact hs
  obtain ⟨env, op⟩ := step
  cases op with
  | proposePlan => exact keeps_dropResult keeps_submitted_proposePlan s hs
  | upsertPlan => exact keeps_dropResult keeps_submitted_upsertPlan s hs
  | regeneratePlan => exact keeps_dropResult keeps_submitted_regeneratePlan s hs
  | amendPlan => exact keeps_dropResult keeps_submitted_amendPlan s hs
  | approvePlan => exact keeps_dropResult keeps_submitted_approvePlan s hs
  | rejectPlan => exact keeps_dropResult keeps_submitted_rejectPlan s hs
  | recorder r => exact hother r.leaves_plans
  | _ => exact hother (by simp [Op.parts])

/-- The plan files of a reachable ledger hold what was read from texts. -/
theorem Ledger.Reachable.submitted (h : s.Reachable) : SubmittedPlans s :=
  System.Reachable.invariant h (fun _ hp => by cases hp) fun _ step _ hs _ =>
    step.keeps_submitted hs

end Stored

end Taskledger
