import Taskledger.Lifecycle.Answers
import Taskledger.Properties.ApprovedPlans

/-!
# The answers a plan was written from

The gate of an approval compares a hash, a list of ids and a reason. All three are
taken from the submitted text and from the answers of that moment, and the text may be
that of an earlier version. The history of a run of the program remembers the answers
that the content of every version was written from; of a text that is not word for word one of
an earlier version only its author can tell what it was taken from, and the history has it from
there.
-/

namespace Taskledger

open Library Action Lifecycle

-- the longest operations have some twenty steps
set_option synthInstance.maxSize 2000

-- ════════════════════════════════════════════════════════════════════════
-- The basis of a plan
-- ════════════════════════════════════════════════════════════════════════

/-- What the gate compares is the same, and every listed question is still listed. -/
structure PlanRecord.SameBasis (p p' : PlanRecord) : Prop where
  reason : p'.generationReason = p.generationReason
  answers : p'.basedOnAnswerHash = p.basedOnAnswerHash
  questions : ∀ id ∈ p.basedOnQuestionIds, id ∈ p'.basedOnQuestionIds

namespace PlanRecord.SameBasis

variable {p p' p'' : PlanRecord}

theorem refl (p : PlanRecord) : p.SameBasis p := ⟨rfl, rfl, fun _ h => h⟩

theorem trans (h : p.SameBasis p') (h' : p'.SameBasis p'') : p.SameBasis p'' :=
  ⟨h'.reason.trans h.reason, h'.answers.trans h.answers,
    fun id hid => h'.questions id (h.questions id hid)⟩

end PlanRecord.SameBasis

/-- Every plan version of `s'` is one of `s` with the same basis, or a new one. -/
def PlansFrom (New : PlanRecord → Prop) (s s' : Ledger) : Prop :=
  ∀ key p', s'.plans.lookup key = some p' →
    (∃ p, s.plans.lookup key = some p ∧ p.SameBasis p') ∨
      s.plans.lookup key = none ∧ New p' ∧ (p'.taskId, p'.planVersion) = key

/-- The plans keep what the gate compares, and none is new. -/
def basisStays : Footprint Ledger where
  Moves s s' := ∀ key p', s'.plans.lookup key = some p' →
    ∃ p, s.plans.lookup key = some p ∧ p.SameBasis p'
  refl _ _ p h := ⟨p, h, .refl p⟩
  trans _ _ _ h h' key p'' hp'' := by
    obtain ⟨p', hp', hbasis'⟩ := h' key p'' hp''
    obtain ⟨p, hp, hbasis⟩ := h key p' hp'
    exact ⟨p, hp, hbasis.trans hbasis'⟩

section Basis

variable {s s' s'' : Ledger} {New New' : PlanRecord → Prop} {p q : PlanRecord}

theorem basisStays_of_same (h : s'.plans = s.plans) : basisStays.Moves s s' := fun key p hp =>
  ⟨p, by rw [← h]; exact hp, .refl p⟩

theorem PlansFrom.of_stays (h : basisStays.Moves s s') : PlansFrom New s s' :=
  fun key p' hp' => .inl (h key p' hp')

/-- Nothing is new after a write of plans that are there. -/
theorem PlansFrom.before (hplans : s'.plans = s.plans) (h : PlansFrom New s' s'') :
    PlansFrom New s s'' := by
  intro key p hp
  rw [← hplans]
  exact h key p hp

theorem PlansFrom.after (h : PlansFrom New s s') (hplans : s''.plans = s'.plans) :
    PlansFrom New s s'' := by
  intro key p hp
  rw [hplans] at hp
  exact h key p hp

theorem PlansFrom.mono (hnew : ∀ p, New p → New' p) (h : PlansFrom New s s') :
    PlansFrom New' s s' := fun key p hp =>
  (h key p hp).imp_right fun ⟨hfree, hp, hkey⟩ => ⟨hfree, hnew p hp, hkey⟩

/-- A new version is written. -/
theorem plansFrom_newPlan (hfree : s.plans.lookup (p.taskId, p.planVersion) = none) (hp : New p) :
    PlansFrom New s (s.putPlan p) := by
  intro key q hq
  by_cases hkey : (p.taskId, p.planVersion) = key
  · subst hkey
    have hself : (s.putPlan p).plans.lookup (p.taskId, p.planVersion) = some p :=
      Directory.lookup_save_self _ _
    cases hself.symm.trans hq
    exact .inr ⟨hfree, hp, rfl⟩
  · rw [lookup_putPlan_of_ne hkey] at hq
    exact .inl ⟨q, hq, .refl q⟩

/-- A plan is written over one with the same basis, beside new ones. -/
theorem PlansFrom.rewrite {stored : PlanRecord} (h : PlansFrom New s s')
    (hstored : s.plans.lookup (q.taskId, q.planVersion) = some stored)
    (hbasis : stored.SameBasis q) : PlansFrom New s (s'.putPlan q) := by
  intro key p hp
  by_cases hkey : (q.taskId, q.planVersion) = key
  · subst hkey
    have hself : (s'.putPlan q).plans.lookup (q.taskId, q.planVersion) = some q :=
      Directory.lookup_save_self _ _
    cases hself.symm.trans hp
    exact .inl ⟨stored, hstored, hbasis⟩
  · rw [lookup_putPlan_of_ne hkey] at hp
    exact h key p hp

theorem PlanRecord.sameBasis_of_reload [Runtime] (h : p.reload = .ok q) : p.SameBasis q := by
  obtain ⟨_, -, h⟩ := bind_eq_ok.1 h
  obtain ⟨criteria, -, h⟩ := bind_eq_ok.1 h
  obtain ⟨todos, -, h⟩ := bind_eq_ok.1 h
  cases pure_eq_ok.1 h
  refine ⟨rfl, rfl, fun id hid => ?_⟩
  have hne : p.basedOnQuestionIds ≠ [] := List.ne_nil_of_mem hid
  simpa [hne] using hid

/-- A listed plan, under its own key, with the basis of its file. -/
theorem basis_of_listed [Runtime] {id : String} {plans : List PlanRecord}
    (hplans : listPlans id s = .ok plans) (hp : p ∈ plans) :
    ∃ stored, s.plans.lookup (p.taskId, p.planVersion) = some stored ∧ stored.SameBasis p ∧
      p.taskId = id := by
  obtain ⟨stored, hstored, hread⟩ := listed_stored hplans hp
  have htask : p.taskId = id := (PlanRecord.of_reload hread).1.trans (key_of_plan hstored).1
  exact ⟨stored, by rw [htask]; exact hstored, PlanRecord.sameBasis_of_reload hread, htask⟩

end Basis

-- ════════════════════════════════════════════════════════════════════════
-- What a step submits
-- ════════════════════════════════════════════════════════════════════════

section Submissions

variable [Runtime] {s : Ledger} {env : Env} {ref body : String} {criteria : List String}
  {allowOpenQuestions : Bool} {p : PlanRecord}

/-- The front matter of a text says that the plan was written from answers. -/
def namesAnswers (text : String) : Bool :=
  match parsePlanFrontMatter text with
  | .ok (frontMatter, _) =>
    optionalFrontMatterString frontMatter "generation_reason" = some "after_questions"
  | .error _ => false

/-- A plan with what a submission takes from the questions. -/
structure Ledger.Reflects (s : Ledger) (p : PlanRecord) : Prop where
  answers : ∃ questions, listQuestions p.taskId s = .ok questions ∧
    p.basedOnAnswerHash = answerSnapshotHash questions ∧
    ∀ q ∈ requiredAnswers questions, q.id ∈ p.basedOnQuestionIds

/-- A plan of a proposed text. -/
structure Ledger.Proposes (s : Ledger) (text : String) (p : PlanRecord) : Prop where
  reflects : s.Reflects p
  reason : p.generationReason = some "after_questions" → namesAnswers text = true

omit [Runtime] in
theorem listQuestions_congr {s' : Ledger} (h : s'.questions = s.questions) (id : String) :
    listQuestions id s' = listQuestions id s := by
  unfold listQuestions
  rw [h]

theorem Ledger.Reflects.congr {s' : Ledger} (h : s'.questions = s.questions)
    (hp : s'.Reflects p) : s.Reflects p := by
  obtain ⟨questions, hq, hhash, hids⟩ := hp.answers
  exact ⟨questions, by rw [← listQuestions_congr h]; exact hq, hhash, hids⟩

theorem proposes_of_proposalOf {r : Proposal} (h : proposalOf env ref body criteria s = .ok r) :
    s.Proposes body r.plan := by
  obtain ⟨frontMatter, planBody, questions, plans, input, hfront, hquestions, -, hplan⟩ :=
    (proposalOf_eq_ok h).written
  rw [hplan]
  refine ⟨⟨questions, hquestions, rfl, fun q hq => ?_⟩, fun hreason => ?_⟩
  · have hmem := List.mem_filter.1 hq
    refine List.mem_map_of_mem (List.mem_filter.2 ⟨hmem.1, ?_⟩)
    exact decide_eq_true (of_decide_eq_true hmem.2).1
  · rw [namesAnswers, hfront]
    refine decide_eq_true ?_
    cases hgiven : optionalFrontMatterString frontMatter "generation_reason" with
    | none =>
      have hdefault : some "initial" ≠ some "after_questions" := by decide
      rw [hgiven] at hreason
      exact absurd hreason hdefault
    | some reason =>
      rw [hgiven] at hreason
      exact hreason

theorem reflects_of_regenerationOf {r : Regeneration}
    (h : regenerationOf env ref body criteria allowOpenQuestions s = .ok r) :
    s.Reflects r.plan := by
  obtain ⟨questions, plans, input, hquestions, -, hplan⟩ := (regenerationOf_eq_ok h).written
  rw [hplan]
  exact ⟨questions, hquestions, rfl, fun q hq => List.mem_map_of_mem hq⟩

-- ════════════════════════════════════════════════════════════════════════
-- What the operations make of the plans
-- ════════════════════════════════════════════════════════════════════════

variable {α : Type} {New : PlanRecord → Prop}

omit [Runtime] in
/-- What follows a step on the plans and writes none. -/
theorem sat_plansAfter {m : LedgerAction α} {s₁ : Ledger} (h : PlansFrom New s s₁)
    (hm : Within (SameBut partsWithoutPlans) m) :
    m.Sat s₁ fun _ s' => PlansFrom New s s' :=
  (hm.sat s₁).mono fun _ s' h' => h.after (h' .plans (by decide))

theorem sat_proposePlan_basis : (proposePlan env ref body criteria).Sat s fun _ s' =>
    PlansFrom (s.Proposes body) s s' := by
  have hsame : PlansFrom (s.Proposes body) s s := .of_stays (basisStays.refl s)
  refine Sat.query (fun _ _ => hsame) fun r hr => ?_
  refine Sat.bind sat_savePlan_once ?_ ?_
  · rintro e s' (⟨-, rfl⟩ | ⟨-, h, -⟩)
    · exact hsame
    · cases h
  rintro _ s' (⟨⟨e, h⟩, -⟩ | ⟨hfree, -, rfl⟩)
  · cases h
  exact sat_plansAfter (plansFrom_newPlan hfree (proposes_of_proposalOf hr)) inferInstance

theorem sat_regeneratePlan_basis :
    (regeneratePlanFromAnswers env ref body criteria allowOpenQuestions).Sat s fun _ s' =>
      PlansFrom s.Reflects s s' := by
  have hsame : PlansFrom s.Reflects s s := .of_stays (basisStays.refl s)
  refine Sat.query (fun _ _ => hsame) fun r hr => ?_
  obtain ⟨-, -, ⟨plans, hplans, hprevious, -⟩, -⟩ := regenerationOf_eq_ok hr
  refine Sat.bind sat_savePlan_once ?_ ?_
  · rintro e s' (⟨-, rfl⟩ | ⟨-, h, -⟩)
    · exact hsame
    · cases h
  rintro _ s' (⟨⟨e, h⟩, -⟩ | ⟨hfree, -, rfl⟩)
  · cases h
  have hnew : PlansFrom s.Reflects s (s.putPlan r.plan) :=
    plansFrom_newPlan hfree (reflects_of_regenerationOf hr)
  have hsuperseded : (supersedePrevious r.previous).Sat (s.putPlan r.plan) fun _ s' =>
      PlansFrom s.Reflects s s' := by
    cases hp : r.previous with
    | none => exact Sat.pure hnew
    | some p =>
      obtain ⟨stored, hstored, hbasis, -⟩ :=
        basis_of_listed hplans (List.mem_of_getLast? (hprevious.symm.trans hp))
      have hrewrite : PlansFrom s.Reflects s
          ((s.putPlan r.plan).putPlan { p with status := .superseded }) :=
        hnew.rewrite hstored ⟨hbasis.reason, hbasis.answers, hbasis.questions⟩
      show (onlyIf (p.status = .proposed)
        (overwritePlan { p with status := .superseded })).Sat _ _
      unfold onlyIf
      split
      · exact hrewrite
      · exact Sat.pure hnew
  exact Sat.bind hsuperseded (fun _ _ h => h) fun _ s' h => sat_plansAfter h inferInstance

theorem sat_rejectPlan_basis {reason : Option String} :
    (rejectPlan env ref reason).Sat s fun _ s' => PlansFrom New s s' := by
  have hsame : PlansFrom New s s := .of_stays (basisStays.refl s)
  refine Sat.query (fun _ _ => hsame) fun task _ => ?_
  refine Sat.except (fun _ _ => hsame) fun _ _ => ?_
  refine Sat.query (fun _ _ => hsame) fun lock _ => ?_
  refine Sat.except (fun _ _ => hsame) fun _ _ => ?_
  refine Sat.query (fun _ _ => hsame) fun latest hlatest => ?_
  obtain ⟨plans, _, hplans, -, hmem, -⟩ := resolvePlan_eq_ok hlatest
  obtain ⟨stored, hstored, hbasis, -⟩ := basis_of_listed hplans hmem
  exact Sat.write (sat_plansAfter (hsame.rewrite (q := { latest with status := .rejected }) hstored
    ⟨hbasis.reason, hbasis.answers, hbasis.questions⟩) inferInstance)

/-- An approval decides on the plans it has listed. -/
theorem sameBasis_planAfterApproval (a : Approval) (note : String) (p : PlanRecord) :
    p.SameBasis (planAfterApproval env a note p) := by
  unfold planAfterApproval
  split
  · exact ⟨rfl, rfl, fun _ h => h⟩
  · split <;> exact ⟨rfl, rfl, fun _ h => h⟩

theorem sat_approvePlan_basis {version : Nat} {request : ApprovalRequest} :
    (approvePlan env ref version request).Sat s fun _ s' => PlansFrom New s s' := by
  have hsame : PlansFrom New s s := .of_stays (basisStays.refl s)
  refine Sat.query (fun _ _ => hsame) fun a _ => ?_
  refine Sat.query (fun _ _ => hsame) fun plans hplans => ?_
  refine Sat.bind sat_overwriteAll ?_ ?_
  · rintro e s' ⟨h, -⟩
    cases h
  rintro _ _ ⟨-, rfl⟩
  refine sat_plansAfter (fun key p' hp' => .inl ?_) inferInstance
  rcases lookup_approved env a (approvalNote request) hplans key with
    ⟨p, hp, hkey, hlookup⟩ | ⟨-, hlookup⟩
  · cases hlookup.symm.trans hp'
    obtain ⟨stored, hstored, hbasis, htask⟩ := basis_of_listed hplans hp
    rw [htask, hkey] at hstored
    exact ⟨stored, hstored, hbasis.trans (sameBasis_planAfterApproval a _ p)⟩
  · exact ⟨p', hlookup.symm.trans hp', .refl p'⟩

-- ════════════════════════════════════════════════════════════════════════
-- Texts of earlier versions
-- ════════════════════════════════════════════════════════════════════════

/-- A text that is submitted as a plan of a task; an amendment makes it of another plan. -/
structure Submission where
  task : TaskRecord
  text : String
  amended : Option PlanRecord := none

/-- The text that an operation submits. -/
def Op.submission : Op → LedgerQuery (Option Submission)
  | .proposePlan ref body _ => do
    let task ← resolveTask ref
    return some { task := task, text := body }
  | .upsertPlan ref body _ fromAnswers allowOpenQuestions _ => do
    let branch ← upsertBranch ref fromAnswers allowOpenQuestions
    return if branch.2 then none else some { task := branch.1, text := body }
  | .amendPlan ref dropCriteria dropTodos removeFiles reason => do
    let (task, latest) ← amendmentOf ref dropCriteria dropTodos reason
    return some {
      task := task
      text := renderEditablePlan (amendedPlan latest dropCriteria dropTodos removeFiles)
      amended := some latest }
  | _ => return none

/-- The text that a step submits. -/
def Step.submits (step : Step) (s : Ledger) : Option Submission :=
  (step.op.submission s).toOption.join

/-- What is read from a plan text: its front matter, and its body without the blanks around. -/
def planContent (text : String) : Option (String × String) :=
  match parsePlanFrontMatter text with
  | .ok (frontMatter, body) => some (Runtime.dumpJson (.dict frontMatter), Text.strip body)
  | .error _ => none

/-- The last of the plans that a text has the content of. -/
def planWithContent (text : String) (plans : List PlanRecord) : Option PlanRecord :=
  plans.reverse.find? fun p =>
    (planContent text).isSome ∧ planContent (renderEditablePlan p) = planContent text

/-- A step, and the version that the author of its text says to have taken it from. -/
structure Authored where
  step : Step
  source : Option Nat := none

/-- What a step submits, and the version of the task that it is taken from. An amendment is taken
from the plan that it amends, and a text with the content of a version from that one; of any other
text nothing but its author tells. -/
def Authored.taken (a : Authored) (s : Ledger) : Option (Submission × Nat) := do
  let submission ← a.step.submits s
  let plans := (listPlans submission.task.id s).toOption.getD []
  let copied := submission.amended.or (planWithContent submission.text plans)
  let version ← (copied.map PlanRecord.planVersion).or a.source
  return (submission, version)

/-- A plan that a step may add. -/
structure Step.Adds (step : Step) (s : Ledger) (p : PlanRecord) : Prop where
  reflects : s.Reflects p
  named : ∀ c, step.submits s = some c → p.generationReason = some "after_questions" →
    namesAnswers c.text = true

theorem submits_eq_some {step : Step} {c : Submission} (h : step.submits s = some c) :
    step.op.submission s = .ok (some c) := by
  unfold Step.submits at h
  cases hq : step.op.submission s with
  | error e =>
    rw [hq] at h
    cases h
  | ok found =>
    rw [hq] at h
    cases found with
    | none => cases h
    | some c' =>
      cases h
      rfl

/-- What is taken from a version is submitted. -/
theorem submits_of_taken {a : Authored} {c : Submission} {version : Nat}
    (h : a.taken s = some (c, version)) : a.step.submits s = some c := by
  obtain ⟨submission, hsubmits, h⟩ := Option.bind_eq_some_iff.1 h
  obtain ⟨v, -, h⟩ := Option.bind_eq_some_iff.1 h
  cases h
  exact hsubmits

/-- A proposal in a ledger with the same plans and questions. -/
theorem sat_proposePlan_in {s₁ : Ledger} (hplans : s₁.plans = s.plans)
    (hquestions : s₁.questions = s.questions) :
    (proposePlan env ref body criteria).Sat s₁ fun _ s' => PlansFrom (s.Proposes body) s s' :=
  sat_proposePlan_basis.mono fun _ _ h =>
    (h.before hplans).mono fun _ hp => ⟨hp.reflects.congr hquestions, hp.reason⟩

/-- The parts a start of planning writes. -/
abbrev startParts : List Part := [.tasks, .runs, .locks, .audits, .events]

theorem sat_upsertProposal_basis {task : TaskRecord} {flag : Bool} :
    (upsertProposal env task body criteria flag).Sat s fun _ s' =>
      PlansFrom (s.Proposes body) s s' := by
  have hpropose {β : Type} {k : Dict → β} {s₁ : Ledger} (hplans : s₁.plans = s.plans)
      (hquestions : s₁.questions = s.questions) :
      (proposePlan env task.id body criteria >>= fun payload => pure (k payload)).Sat s₁
        fun _ s' => PlansFrom (s.Proposes body) s s' :=
    Sat.bind (sat_proposePlan_in hplans hquestions) (fun _ _ h => h) fun _ _ h => Sat.pure h
  cases flag with
  | true =>
    have hrevised : (autoRevise env task).Sat s
        fun _ s₁ => s₁.plans = s.plans ∧ s₁.questions = s.questions :=
      (Within.sat (F := SameBut startParts) inferInstance s).mono fun _ s₁ h =>
        ⟨h .plans (by decide), h .questions (by decide)⟩
    exact Sat.bind hrevised (fun _ _ h => PlansFrom.of_stays (basisStays_of_same h.1))
      fun _ s₁ h => hpropose h.1 h.2
  | false => exact hpropose rfl rfl

/-- An amended plan is proposed as the text of the latest one. -/
theorem adds_amended {dropCriteria dropTodos removeFiles : List String} {reason : String}
    {task : TaskRecord} {latest : PlanRecord}
    (h : amendmentOf ref dropCriteria dropTodos reason s = .ok (task, latest))
    (hp : s.Proposes
      (renderEditablePlan (amendedPlan latest dropCriteria dropTodos removeFiles)) p) :
    Step.Adds ⟨env, .amendPlan ref dropCriteria dropTodos removeFiles reason⟩ s p := by
  refine ⟨hp.reflects, fun c hc => ?_⟩
  obtain ⟨amendment, hamend, hc⟩ := Query.bind_eq_ok.1 (submits_eq_some hc)
  cases hamend.symm.trans h
  cases Query.pure_eq_ok.1 hc
  exact hp.reason

theorem sat_amendPlan_basis {dropCriteria dropTodos removeFiles : List String} {reason : String} :
    (amendPlan env ref dropCriteria dropTodos removeFiles reason).Sat s fun _ s' =>
      PlansFrom (Step.Adds ⟨env, .amendPlan ref dropCriteria dropTodos removeFiles reason⟩ s)
        s s' := by
  refine Sat.query (fun _ _ => .of_stays (basisStays.refl s)) fun amendment hamend => ?_
  obtain ⟨task, latest⟩ := amendment
  have hstarted : (startPlanning env task.id).Sat s
      fun _ s₁ => s₁.plans = s.plans ∧ s₁.questions = s.questions :=
    (Within.sat (F := SameBut startParts) inferInstance s).mono fun _ s₁ h =>
      ⟨h .plans (by decide), h .questions (by decide)⟩
  refine Sat.bind hstarted (fun _ _ h => PlansFrom.of_stays (basisStays_of_same h.1))
    fun revised s₁ h => ?_
  refine Sat.bind (sat_proposePlan_in h.1 h.2) (fun _ s₂ h₂ => ?_) fun proposed s₂ h₂ => ?_
  · exact h₂.mono fun p hp => adds_amended hamend hp
  · exact sat_plansAfter (h₂.mono fun p hp => adds_amended hamend hp) inferInstance

theorem sat_upsertPlan_basis {fromAnswers flag : Bool} :
    (upsertPlan env ref body criteria fromAnswers allowOpenQuestions flag).Sat s fun _ s' =>
      PlansFrom (Step.Adds ⟨env, .upsertPlan ref body criteria fromAnswers allowOpenQuestions flag⟩
        s) s s' := by
  refine Sat.query (fun _ _ => .of_stays (basisStays.refl s)) fun branch hbranch => ?_
  obtain ⟨task, regenerates⟩ := branch
  have hsubmits {c : Submission} (hc : Step.submits ⟨env, .upsertPlan ref body criteria fromAnswers
      allowOpenQuestions flag⟩ s = some c) : regenerates = false ∧ c.text = body := by
    obtain ⟨found, hfound, hc⟩ := Query.bind_eq_ok.1 (submits_eq_some hc)
    cases hfound.symm.trans hbranch
    have hc := Query.pure_eq_ok.1 hc
    cases regenerates with
    | true => cases hc
    | false =>
      cases hc
      exact ⟨rfl, rfl⟩
  cases regenerates with
  | true =>
    refine Sat.bind sat_regeneratePlan_basis (fun _ s' h => ?_) fun _ s' h => Sat.pure ?_
    all_goals
      refine PlansFrom.mono (fun p hp => ⟨hp, fun c hc => ?_⟩) h
      cases (hsubmits hc).1
  | false =>
    refine sat_upsertProposal_basis.mono fun _ s' h => ?_
    refine PlansFrom.mono (fun p hp => ⟨hp.reflects, fun c hc => ?_⟩) h
    rw [(hsubmits hc).2]
    exact hp.reason

/-- The plans after a step: those before it, and one of the kind that it adds. -/
theorem Step.plansFrom (step : Step) : PlansFrom (step.Adds s) s (step.next s) := by
  have hother (hparts : Part.plans ∉ step.op.parts) :
      PlansFrom (step.Adds s) s (step.next s) :=
    .of_stays (basisStays_of_same (step.same s hparts))
  obtain ⟨env, op⟩ := step
  show PlansFrom _ s (runOn _ s).2
  cases op with
  | proposePlan ref body criteria =>
    rw [Op.run, ledger_dropResult]
    refine PlansFrom.mono (fun p hp => ⟨hp.reflects, fun c hc => ?_⟩) sat_proposePlan_basis
    obtain ⟨task, -, hc⟩ := Query.bind_eq_ok.1 (submits_eq_some hc)
    cases Query.pure_eq_ok.1 hc
    exact hp.reason
  | upsertPlan ref body criteria fromAnswers allowOpenQuestions autoReviseFlag =>
    rw [Op.run, ledger_dropResult]
    exact sat_upsertPlan_basis
  | regeneratePlan ref body criteria allowOpenQuestions =>
    rw [Op.run, ledger_dropResult]
    refine PlansFrom.mono (fun p hp => ⟨hp, fun c hc => ?_⟩) sat_regeneratePlan_basis
    cases Query.pure_eq_ok.1 (submits_eq_some hc)
  | amendPlan ref dropCriteria dropTodos removeFiles reason =>
    rw [Op.run, ledger_dropResult]
    exact sat_amendPlan_basis
  | rejectPlan ref reason =>
    rw [Op.run, ledger_dropResult]
    exact sat_rejectPlan_basis
  | approvePlan ref version request =>
    rw [Op.run, ledger_dropResult]
    exact sat_approvePlan_basis
  | recorder r => exact hother r.leaves_plans
  | _ => exact hother (by simp [Op.parts])

end Submissions

-- ════════════════════════════════════════════════════════════════════════
-- The answers a version was written from
-- ════════════════════════════════════════════════════════════════════════

/-- A ledger, and the questions with the answers that the content of each plan version
was written from. -/
structure Sources where
  ledger : Ledger
  origin : String → Nat → Option (List QuestionRecord)

section Sources

variable [Runtime] {s : Ledger} {id : String} {p p' : PlanRecord}
  {questions written : List QuestionRecord}

/-- The sources after a step: a version keeps its own, a text that is taken from a version has those
of that version, and any other one was written now. -/
def Authored.nextOrigin (a : Authored) (h : Sources) (id : String) (version : Nat) :
    Option (List QuestionRecord) :=
  if (h.ledger.plans.lookup (id, version)).isSome then h.origin id version
  else match a.taken h.ledger with
    | some (c, source) =>
      if c.task.id = id then h.origin id source else (listQuestions id h.ledger).toOption
    | none => (listQuestions id h.ledger).toOption

/-- The program with the sources of its plans. The authors of the texts may have taken them from
any version, and so from the one that they did take them from. -/
def sourced : System Sources Authored where
  init := ⟨.empty, fun _ _ => none⟩
  next a h := ⟨a.step.next h.ledger, a.nextOrigin h⟩

/-- A text that is taken from a version and says that it was written from answers is one of a plan
that was, and is submitted while the answers are those of that plan. No answer has the character
that the hash puts between an id and its answer, and the hash of the answers of now is not that of
other answers that a version was written from. -/
structure Authored.KeepsAnswers (a : Authored) (h : Sources) : Prop where
  current : ∀ c source questions, a.taken h.ledger = some (c, source) →
    namesAnswers c.text = true → listQuestions c.task.id h.ledger = .ok questions →
    ∃ plan, h.ledger.plans.lookup (c.task.id, source) = some plan ∧
      plan.generationReason = some "after_questions" ∧
      plan.basedOnAnswerHash = answerSnapshotHash questions
  plain : ∀ q ∈ h.ledger.questions.files, answerMark ∉ (q.answer.getD "").toList
  told : ∀ id version written questions, h.origin id version = some written →
    listQuestions id h.ledger = .ok questions → Told written questions

/-- A plan was written from the answers of a list of questions of its task. -/
structure WrittenFrom (s : Ledger) (id : String) (p : PlanRecord)
    (questions : List QuestionRecord) : Prop where
  answers : p.basedOnAnswerHash = answerSnapshotHash questions
  plain : ∀ r ∈ answersOf questions, PlainAnswer r
  listed : ∀ q ∈ requiredAnswers questions, q.id ∈ p.basedOnQuestionIds
  stored : ∀ q ∈ questions, ∃ stored, s.questions.lookup (id, q.id) = some stored ∧
    stored.requiredForPlan = q.requiredForPlan

theorem WrittenFrom.sameBasis (h : WrittenFrom s id p questions) (hbasis : p.SameBasis p') :
    WrittenFrom s id p' questions :=
  ⟨hbasis.answers.trans h.answers, h.plain, fun q hq => hbasis.questions _ (h.listed q hq),
    h.stored⟩

/-- Questions stay. -/
theorem WrittenFrom.moves {s' : Ledger} (h : WrittenFrom s id p questions)
    (hmoves : questionsStay.Moves s s') : WrittenFrom s' id p questions := by
  refine ⟨h.answers, h.plain, h.listed, fun q hq => ?_⟩
  obtain ⟨stored, hstored, hrequired⟩ := h.stored q hq
  obtain ⟨stored', hstored', hrequired'⟩ := hmoves.1 _ _ hstored
  exact ⟨stored', hstored', hrequired'.trans hrequired⟩

omit [Runtime] in
theorem mem_requiredAnswers {q : QuestionRecord} : q ∈ requiredAnswers questions ↔
    q ∈ questions ∧ q.status = .answered ∧ q.requiredForPlan = true := by
  simp [requiredAnswers]

omit [Runtime] in
theorem mem_answersOf_required {q : QuestionRecord} (h : q ∈ requiredAnswers questions) :
    (q.id, q.answer.getD "") ∈ answersOf questions := by
  obtain ⟨hq, hstatus, -⟩ := mem_requiredAnswers.1 h
  exact mem_answersOf.2 ⟨q, hq, hstatus, rfl, rfl⟩

omit [Runtime] in
theorem answer_of_reload {q q' : QuestionRecord} (h : q.reload = .ok q') :
    q'.answer = q.answer := by
  obtain ⟨_, -, h⟩ := bind_eq_ok.1 h
  obtain ⟨_, -, h⟩ := bind_eq_ok.1 h
  obtain ⟨_, -, h⟩ := bind_eq_ok.1 h
  obtain ⟨harness, -, h⟩ := bind_eq_ok.1 h
  cases pure_eq_ok.1 h
  rfl

/-- The answers of a listing are plain. -/
theorem plain_listed (hformat : ∀ n, Plain '\n' answerMark ((Runtime.formatId "q" n).toList, []))
    (hids : ∀ q ∈ s.questions.files, Canonical "q" q.id)
    (hplain : ∀ q ∈ s.questions.files, answerMark ∉ (q.answer.getD "").toList)
    (h : listQuestions id s = .ok questions) : ∀ r ∈ answersOf questions, PlainAnswer r := by
  intro r hr
  obtain ⟨q, hq, -, hid, hanswer⟩ := mem_answersOf.1 hr
  obtain ⟨stored, hstored, hreload, -⟩ := listed_question h hq
  have hmem := Directory.mem_of_lookup hstored
  obtain ⟨n, hn⟩ := hids stored hmem
  obtain ⟨hsep, hmark, -⟩ := hformat n
  have hkey : r.1 = Runtime.formatId "q" n := by
    rw [← hid, (QuestionRecord.of_reload hreload).1, hn]
  refine ⟨hkey ▸ hsep, hkey ▸ hmark, ?_⟩
  rw [← hanswer, answer_of_reload hreload]
  exact hplain stored hmem

omit [Runtime] in
/-- The questions of a listing are stored. -/
theorem stored_listed (h : listQuestions id s = .ok questions) : ∀ q ∈ questions,
    ∃ stored, s.questions.lookup (id, q.id) = some stored ∧
      stored.requiredForPlan = q.requiredForPlan := by
  intro q hq
  obtain ⟨stored, hstored, hreload, -⟩ := listed_question h hq
  exact ⟨stored, hstored, (QuestionRecord.of_reload hreload).2.2.2.symm⟩

/-- A required answer of one listing is one of the questions another plan was written from,
when the hashes agree. -/
theorem WrittenFrom.answered (htold : Told written questions)
    (h : WrittenFrom s id p written) (hlist : listQuestions id s = .ok questions)
    (hplain : ∀ r ∈ answersOf questions, PlainAnswer r)
    (heq : answerSnapshotHash questions = p.basedOnAnswerHash) :
    ∀ q ∈ requiredAnswers questions, ∃ q' ∈ requiredAnswers written,
      q'.id = q.id ∧ q'.answer.getD "" = q.answer.getD "" := by
  intro q hq
  have hmem := answersOf_subset htold.symm hplain h.plain (heq.trans h.answers)
    (mem_answersOf_required hq)
  obtain ⟨q', hq', hstatus, hid, hanswer⟩ := mem_answersOf.1 hmem
  obtain ⟨hlisted, -, hrequired⟩ := mem_requiredAnswers.1 hq
  obtain ⟨stored, hstored, hsame⟩ := stored_listed hlist q hlisted
  obtain ⟨stored', hstored', hsame'⟩ := h.stored q' hq'
  rw [hid, hstored] at hstored'
  cases hstored'
  exact ⟨q', mem_requiredAnswers.2 ⟨hq', hstatus, hsame'.symm.trans (hsame.trans hrequired)⟩,
    hid, hanswer⟩

/-- Every plan that says so was written from the answers that its version remembers. -/
structure Sources.Remembered (h : Sources) : Prop where
  sound : h.ledger.Sound
  ids : ∀ q ∈ h.ledger.questions.files, Canonical "q" q.id
  written : ∀ id version p, h.ledger.plans.lookup (id, version) = some p →
    p.generationReason = some "after_questions" →
    ∃ questions, h.origin id version = some questions ∧ WrittenFrom h.ledger id p questions

variable {h : Sources} {a : Authored}

/-- A text that was written now reflects the answers of now. -/
theorem WrittenFrom.now (hformat : ∀ n, Plain '\n' answerMark ((Runtime.formatId "q" n).toList, []))
    (hr : h.Remembered) (hc : a.KeepsAnswers h) (hp : h.ledger.Reflects p) :
    ∃ questions, (listQuestions p.taskId h.ledger).toOption = some questions ∧
      WrittenFrom h.ledger p.taskId p questions := by
  obtain ⟨questions, hlist, hanswers, hids⟩ := hp.answers
  refine ⟨questions, by rw [hlist]; rfl, hanswers, ?_, hids, stored_listed hlist⟩
  exact plain_listed hformat hr.ids hc.plain hlist

/-- A text reflects the answers that the version it was taken from was written from. -/
theorem WrittenFrom.copied
    (hformat : ∀ n, Plain '\n' answerMark ((Runtime.formatId "q" n).toList, []))
    (hr : h.Remembered) (hc : a.KeepsAnswers h) {c : Submission} {source : Nat}
    (htaken : a.taken h.ledger = some (c, source)) (htask : c.task.id = p.taskId)
    (hadds : a.step.Adds h.ledger p) (hreason : p.generationReason = some "after_questions") :
    ∃ questions, h.origin p.taskId source = some questions ∧
      WrittenFrom h.ledger p.taskId p questions := by
  obtain ⟨questions, hlist, hanswers, hids⟩ := hadds.reflects.answers
  have hnamed := hadds.named c (submits_of_taken htaken) hreason
  obtain ⟨plan, hplan, htells, hcurrent⟩ := hc.current c source questions htaken hnamed
    (by rw [htask]; exact hlist)
  rw [htask] at hplan
  obtain ⟨written, horigin, hwritten⟩ := hr.written _ _ _ hplan htells
  have hplain := plain_listed hformat hr.ids hc.plain hlist
  have hsame : answerSnapshotHash written = p.basedOnAnswerHash := by
    rw [hanswers, ← hcurrent, hwritten.answers]
  refine ⟨written, horigin, hsame.symm, hwritten.plain, fun q hq => ?_, hwritten.stored⟩
  -- the questions that the plan was taken from are answered the same now
  obtain ⟨hqw, hstatus, hrequired⟩ := mem_requiredAnswers.1 hq
  have hmem := answersOf_subset (hc.told _ _ _ _ horigin hlist) hwritten.plain hplain
    (hsame.trans hanswers) (mem_answersOf_required hq)
  obtain ⟨q', hq', hstatus', hid, -⟩ := mem_answersOf.1 hmem
  obtain ⟨file, hfile, hfiled'⟩ := hwritten.stored q hqw
  obtain ⟨file', hfile', hfiled''⟩ := stored_listed hlist q' hq'
  rw [hid, hfile] at hfile'
  cases hfile'
  rw [← show q'.id = q.id from hid]
  have hrequired' : q'.requiredForPlan = true := hfiled''.symm.trans (hfiled'.trans hrequired)
  exact hids q' (mem_requiredAnswers.2 ⟨hq', hstatus', hrequired'⟩)

/-- A step that keeps the answers keeps what the versions remember. -/
theorem Authored.remembered
    (hformat : ∀ n, Plain '\n' answerMark ((Runtime.formatId "q" n).toList, []))
    (hr : h.Remembered) (hc : a.KeepsAnswers h) :
    Sources.Remembered ⟨a.step.next h.ledger, a.nextOrigin h⟩ := by
  have hstays := a.step.moves_questions h.ledger
  refine ⟨a.step.sound hr.sound, hstays.2 hr.ids, fun id version p hp hreason => ?_⟩
  rcases a.step.plansFrom (id, version) p hp with ⟨q, hq, hbasis⟩ | ⟨hfree, hadds, hkey⟩
  · obtain ⟨questions, horigin, hwritten⟩ :=
      hr.written id version q hq (hbasis.reason.symm.trans hreason)
    refine ⟨questions, ?_, (hwritten.sameBasis hbasis).moves hstays⟩
    show (if _ then _ else _) = some questions
    rw [hq]
    exact horigin
  obtain ⟨rfl, rfl⟩ : p.taskId = id ∧ p.planVersion = version := Prod.mk.injEq .. ▸ hkey
  suffices hnew : ∃ questions, a.nextOrigin h p.taskId p.planVersion = some questions ∧
      WrittenFrom h.ledger p.taskId p questions by
    obtain ⟨questions, horigin, hwritten⟩ := hnew
    exact ⟨questions, horigin, hwritten.moves hstays⟩
  unfold Authored.nextOrigin
  rw [hfree]
  cases htaken : a.taken h.ledger with
  | none => exact WrittenFrom.now hformat hr hc hadds.reflects
  | some taken =>
    obtain ⟨c, source⟩ := taken
    by_cases htask : c.task.id = p.taskId
    · simpa [htask] using WrittenFrom.copied hformat hr hc htaken htask hadds hreason
    · simpa [htask] using WrittenFrom.now hformat hr hc hadds.reflects

theorem Reachable.remembered
    (hformat : ∀ n, Plain '\n' answerMark ((Runtime.formatId "q" n).toList, []))
    (hr : sourced.Reachable (fun h a => a.KeepsAnswers h) h) : h.Remembered := by
  refine hr.invariant (I := Sources.Remembered) ?_ fun h a _ hi hc => a.remembered hformat hi hc
  exact ⟨sound_empty, fun q hq => absurd hq List.not_mem_nil, fun id version p hp => by cases hp⟩

/-- A plan that is approved was written from the current answers: for every required question
that is answered, the plan lists the question and has the hash of the answers, and the
answers its content was written from have that answer. -/
def Step.ApprovesCurrent (step : Step) (h : Sources) : Prop :=
  ∀ ref version request d, step.op = .approvePlan ref version request →
    ((approvePlan step.env ref version request).runOn h.ledger).1 = .ok d →
    ∃ task plan questions, resolveTask ref false h.ledger = .ok task ∧
      resolvePlan task.id (some version) h.ledger = .ok plan ∧
      listQuestions task.id h.ledger = .ok questions ∧
      ∀ q ∈ requiredAnswers questions, q.id ∈ plan.basedOnQuestionIds ∧
        plan.basedOnAnswerHash = answerSnapshotHash questions ∧
        ∃ written, h.origin task.id version = some written ∧
          ∃ q' ∈ requiredAnswers written, q'.id = q.id ∧ q'.answer.getD "" = q.answer.getD ""

/-- In every run whose steps keep the answers, an approved plan was written from the
current ones. -/
theorem approved_on_current_answers
    (hformat : ∀ n, Plain '\n' answerMark ((Runtime.formatId "q" n).toList, []))
    (hr : sourced.Reachable (fun h a => a.KeepsAnswers h) h) (hstep : a.KeepsAnswers h) :
    a.step.ApprovesCurrent h := by
  intro ref version request d _ hd
  have hremembered := Reachable.remembered hformat hr
  cases hchecks : approvalOf a.step.env ref version request h.ledger with
  | error e =>
    have hrun : (approvePlan a.step.env ref version request).runOn h.ledger =
        (.error e, h.ledger) := runOn_query_error hchecks
    rw [hrun] at hd
    cases hd
  | ok approval =>
    have hgates := approvable_of_approvalOf hremembered.sound hchecks
    obtain ⟨questions, hlist, hstale⟩ := hgates.fresh
    refine ⟨approval.task, approval.target, questions, hgates.found, hgates.stored, hlist,
      fun q hq => ?_⟩
    unfold staleAnswerQuestionIds at hstale
    split at hstale
    · rename_i hgate
      obtain ⟨hreason, hanswers⟩ := hgate
      obtain ⟨plans, _, hplans, -, hmem, hversion⟩ := resolvePlan_eq_ok hgates.stored
      obtain ⟨stored, hstored, hbasis, hfiled⟩ := basis_of_listed hplans hmem
      rw [hfiled, hversion] at hstored
      obtain ⟨written, horigin, hwritten⟩ :=
        hremembered.written _ _ _ hstored (hbasis.reason.symm.trans hreason)
      have hplain := plain_listed hformat hremembered.ids hstep.plain hlist
      have hfrom := hwritten.sameBasis hbasis
      obtain ⟨q', hq', hid, hanswer⟩ := hfrom.answered (hstep.told _ _ _ _ horigin hlist) hlist
        hplain hanswers.symm q hq
      exact ⟨hid ▸ hfrom.listed q' hq', hanswers, written, horigin, q', hq', hid, hanswer⟩
    · rw [List.map_eq_nil_iff.1 hstale] at hq
      cases hq

end Sources

section Evaluation

theorem plain_q_id (n : Nat) :
    Plain '\n' answerMark ((PlainRuntime.formatId "q" n).toList, []) := by
  have hnot {c : Char} (hc : c ∉ ("q" ++ "-").toList) (hdigit : c.isDigit = false) :
      c ∉ (PlainRuntime.formatId "q" n).toList := by
    rw [PlainRuntime.toList_formatId, List.mem_append]
    rintro (h | h)
    · exact hc h
    · rw [PlainRuntime.isDigit_of_mem_digits h] at hdigit
      cases hdigit
  exact ⟨hnot (by decide) (by decide), hnot (by decide) (by decide), List.not_mem_nil⟩

/-- A task whose required question is answered. -/
def askedOps : List Op :=
  [.createTask { title := "A", description := "d" }, .startPlanning "task-0001" none none,
    .recorder (.addQuestion "task-0001" "which one" true none none),
    .recorder (.answerQuestion "task-0001" "q-0001" "a" none "explicit_user_chat")]

/-- A plan that was written from the answer. -/
def regeneratedOps : List Op :=
  askedOps ++ [.regeneratePlan "task-0001" "Do it." ["it works"] false]

/-- The answer changes after the plan was written from it, and the plan is amended. -/
def amendedOps : List Op :=
  regeneratedOps ++ [.recorder (.answerQuestion "task-0001" "q-0001" "b" none "explicit_user_chat"),
    .amendPlan "task-0001" [] [] [] "again"]

section Plain

attribute [local instance] plainRuntime

/-- The sources after operations of one process, with texts of its own. -/
def sourcesOf (ops : List Op) : Sources :=
  sourced.run sourced.init (ops.map fun op => ⟨⟨plainEnv, op⟩, none⟩)

/-- The approval of a version. -/
def approving (version : Nat) : Authored :=
  ⟨⟨plainEnv, .approvePlan "task-0001" version plainApproval⟩, none⟩

/-- The operations that may submit a text. -/
def Op.maySubmit : Op → Bool
  | .proposePlan .. | .upsertPlan .. | .amendPlan .. => true
  | _ => false

/-- Another operation, in a ledger with plain answers. -/
def PlainStep (h : Sources) (a : Authored) : Prop :=
  a.step.op.maySubmit = false ∧
    ∀ q ∈ h.ledger.questions.files, answerMark ∉ (q.answer.getD "").toList

instance {h : Sources} {a : Authored} : Decidable (PlainStep h a) :=
  inferInstanceAs (Decidable (_ ∧ _))

theorem PlainStep.keepsAnswers {h : Sources} {a : Authored} (hp : PlainStep h a) :
    a.KeepsAnswers h := by
  refine ⟨fun c source questions htaken => ?_, hp.2, fun _ _ _ _ _ _ hhash => hhash⟩
  have hsubmits := submits_eq_some (submits_of_taken htaken)
  obtain ⟨⟨env, op⟩, source⟩ := a
  cases op with
  | proposePlan | upsertPlan | amendPlan => cases hp.1
  | _ => cases Query.pure_eq_ok.1 hsubmits

theorem approved_on_current_answers_regenerated :
    ((approvePlan plainEnv "task-0001" 1 plainApproval).runOn
      (sourcesOf regeneratedOps).ledger).1.isOk = true ∧
      (approving 1).step.ApprovesCurrent (sourcesOf regeneratedOps) := by
  have hmeets : sourced.Meets PlainStep sourced.init
      (regeneratedOps.map fun op => ⟨⟨plainEnv, op⟩, none⟩) := by
    decide +kernel
  have hreachable : sourced.Reachable (fun h a => a.KeepsAnswers h) (sourcesOf regeneratedOps) :=
    (System.Reachable.run .init hmeets).mono fun _ _ hp => hp.keepsAnswers
  have hplain : PlainStep (sourcesOf regeneratedOps) (approving 1) := by decide +kernel
  exact ⟨by decide +kernel, approved_on_current_answers plain_q_id hreachable hplain.keepsAnswers⟩

end Plain

section Amended

/-- The front matter of the plan that was written from the answer. -/
def answersFrontMatter : Dict :=
  [("generation_reason", .str "after_questions"),
    ("acceptance_criteria",
      .list [.dict [("id", .str "ac-0001"), ("text", .str "it works"), ("mandatory", .bool true)]]),
    ("todos", .list [])]

/-- Its text. -/
def answersYaml : String :=
  ("generation_reason: after_questions\nacceptance_criteria:\n- id: ac-0001\n  text: it works\n" ++
    "  mandatory: true\ntodos: []")

/-- The runtime to evaluate with, and this text with what is read from it. -/
@[reducible]
def yamlRuntime : Runtime :=
  { plainRuntime with
    safeDump := fun d =>
      if PlainRuntime.dumpJson (.dict d) = PlainRuntime.dumpJson (.dict answersFrontMatter) then
        answersYaml ++ "\n"
      else ""
    safeLoad := fun text =>
      if text = answersYaml then .ok (.dict answersFrontMatter) else PlainRuntime.safeLoad text }

attribute [local instance] yamlRuntime

/-- The sources after the amendment. -/
def amendedSources : Sources :=
  sourced.run sourced.init (amendedOps.map fun op => ⟨⟨plainEnv, op⟩, none⟩)

/-- The amended version is approved on the answer `b`, and was written from the answer `a`. -/
theorem amended_plan_is_stale :
    sourced.Reachable (fun _ _ => True) amendedSources ∧
      ((approvePlan plainEnv "task-0001" 2 plainApproval).runOn amendedSources.ledger).1.isOk =
        true ∧
      ¬ Step.ApprovesCurrent ⟨plainEnv, .approvePlan "task-0001" 2 plainApproval⟩
        amendedSources := by
  have hmeets : sourced.Meets (fun _ _ => True) sourced.init
      (amendedOps.map fun op => ⟨⟨plainEnv, op⟩, none⟩) := by
    decide +kernel
  -- One evaluation of the run for all that is read after it.
  obtain ⟨hok, htask, hnow, hthen⟩ :
      ((approvePlan plainEnv "task-0001" 2 plainApproval).runOn amendedSources.ledger).1.isOk =
          true ∧
        (resolveTask "task-0001" false amendedSources.ledger).toOption.map TaskRecord.id =
          some "task-0001" ∧
        (listQuestions "task-0001" amendedSources.ledger).toOption.map
          (fun questions => answersOf (requiredAnswers questions)) = some [("q-0001", "b")] ∧
        (amendedSources.origin "task-0001" 2).map
          (fun questions => answersOf (requiredAnswers questions)) = some [("q-0001", "a")] := by
    decide +kernel
  refine ⟨System.Reachable.run .init hmeets, hok, fun h => ?_⟩
  cases hr : ((approvePlan plainEnv "task-0001" 2 plainApproval).runOn amendedSources.ledger).1 with
  | error e =>
    rw [hr] at hok
    cases hok
  | ok d =>
    obtain ⟨task, plan, questions, hfound, -, hlist, hanswers⟩ := h _ _ _ d rfl hr
    have hid : task.id = "task-0001" := by simpa [hfound, Except.toOption] using htask
    rw [hid] at hlist hanswers
    have hnow' : answersOf (requiredAnswers questions) = [("q-0001", "b")] := by
      simpa [hlist, Except.toOption] using hnow
    obtain ⟨q, hq, -, -, hanswer⟩ := mem_answersOf.1 (by rw [hnow']; exact List.mem_singleton_self _)
    obtain ⟨-, -, written, horigin, q', hq', hid', hanswer'⟩ := hanswers q hq
    have hthen' : answersOf (requiredAnswers written) = [("q-0001", "a")] := by
      simpa [horigin] using hthen
    have hmem : (q'.id, q'.answer.getD "") ∈ answersOf (requiredAnswers written) :=
      mem_answersOf.2 ⟨q', hq', (mem_requiredAnswers.1 hq').2.1, rfl, rfl⟩
    rw [hthen', List.mem_singleton, Prod.mk.injEq, hanswer'] at hmem
    exact absurd (hanswer.symm.trans hmem.2) (by decide)

end Amended

end Evaluation

end Taskledger
