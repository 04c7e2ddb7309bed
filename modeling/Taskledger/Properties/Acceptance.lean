import Taskledger.Lifecycle.Steps

/-!
# The accepted plan

An acceptance is recorded in the task and in the plan. The two records agree in every
run that submits no plan with a criterion without an id: such a plan is written but
not listed, so a rejection would hit the plan before it.
-/

namespace Taskledger

open Library Action Lifecycle

/-- The stages of a task that is past the approval of a plan. -/
def approvedStages : List TaskStatusStage :=
  [.approved, .implementing, .implemented, .failedValidation, .done]

section Invariant

variable [Runtime] {s : Ledger} {id : String} {v w : View}

/-- Every criterion of a plan the step submits has an id. -/
def Step.NamesCriteria (step : Step) (s : Ledger) : Prop :=
  ∀ input, step.Submits s input → ∀ c ∈ input.criteria, c.id ≠ ""

theorem Step.NamesCriteria.listed {step : Step} (h : step.NamesCriteria s) {listed : Bool}
    (hl : step.SubmitsListed s listed) : listed = true := by
  obtain ⟨input, hi, hlisted⟩ := hl
  exact hlisted (h input hi)

/-- What agrees in the plans and the task of a view. -/
structure View.Agrees (v : View) : Prop where
  listed : ∀ n p, v.plans n = some p → p.listed = true
  accepted : ∀ n p, v.plans n = some p → p.status = .accepted →
    p.approved = true ∧ ∃ t, v.task = some t ∧ t.accepted = some n
  stored : ∀ t n, v.task = some t → t.accepted = some n →
    ∃ p, v.plans n = some p ∧ p.status = .accepted
  review : ∀ t n p, v.task = some t → t.stage = .planReview → v.Latest n p → p.status ≠ .accepted
  recorded : ∀ t, v.task = some t → t.taskType = .managed → t.stage ∈ approvedStages →
    t.accepted ≠ none
  planning : ∀ t, v.task = some t → t.taskType = .managed → t.accepted = none →
    ∀ runId r, v.runs runId = some r → r.runType = .planning

namespace View.Agrees

omit [Runtime] in
/-- A new task over the plans and runs of the view: the same type and acceptance. -/
theorem setTask {t u : TaskCore} (h : v.Agrees) (ht : v.task = some t) (htype : u.taskType = t.taskType)
    (haccepted : u.accepted = t.accepted)
    (hreview : u.stage = .planReview → t.stage = .planReview ∨ ∃ n p, v.Latest n p ∧ p.status = .proposed)
    (hstage : u.taskType = .managed → u.stage ∈ approvedStages → u.accepted ≠ none) :
    (v.setTask u).Agrees where
  listed := h.listed
  accepted n p hp hs := by
    obtain ⟨ha, t', ht', hn⟩ := h.accepted n p hp hs
    cases ht.symm.trans ht'
    exact ⟨ha, u, rfl, haccepted.trans hn⟩
  stored u' n hu' hn := by
    cases hu'
    exact h.stored t n ht (haccepted.symm.trans hn)
  review u' n p hu' hs hl := by
    cases hu'
    rcases hreview hs with hs | ⟨m, q, hlatest, hq⟩
    · exact h.review t n p ht hs ⟨hl.stored, hl.listed, hl.largest⟩
    · have hle := hlatest.largest n p hl.stored hl.listed
      have hge := hl.largest m q hlatest.stored hlatest.listed
      obtain rfl := Nat.le_antisymm hle hge
      cases hlatest.stored.symm.trans hl.stored
      rw [hq]
      decide
  recorded u' hu' := by
    cases hu'
    exact hstage
  planning u' hu' htype' hnone := by
    cases hu'
    exact h.planning t ht (htype ▸ htype') (haccepted ▸ hnone)

omit [Runtime] in
/-- A new task of the same stage. -/
theorem setTask_of_stage {t u : TaskCore} (h : v.Agrees) (ht : v.task = some t)
    (htype : u.taskType = t.taskType) (haccepted : u.accepted = t.accepted)
    (hstage : u.stage = t.stage) : (v.setTask u).Agrees := by
  refine h.setTask ht htype haccepted (fun hr => .inl (hstage ▸ hr)) fun hm hs => ?_
  rw [haccepted]
  exact h.recorded t ht (htype ▸ hm) (hstage ▸ hs)

omit [Runtime] in
/-- A new task of a stage past approval, whose plan is accepted when it is managed. -/
theorem setTask_of_accepted {t u : TaskCore} (h : v.Agrees) (ht : v.task = some t)
    (htype : u.taskType = t.taskType) (haccepted : u.accepted = t.accepted)
    (hstage : u.stage ≠ .planReview) (hsome : t.taskType = .managed → t.accepted ≠ none) :
    (v.setTask u).Agrees := by
  refine h.setTask ht htype haccepted (fun hr => absurd hr hstage) fun hm _ => ?_
  rw [haccepted]
  exact hsome (htype ▸ hm)

omit [Runtime] in
/-- A run over the same plans and task. -/
theorem setRun (h : v.Agrees) {t : TaskCore} (ht : v.task = some t) {runId : String} {r : RunCore}
    (hr : t.taskType = .managed → t.accepted = none → r.runType = .planning) :
    (v.setRun runId r).Agrees where
  listed := h.listed
  accepted := h.accepted
  stored := h.stored
  review u n p hu hs hl := h.review u n p hu hs ⟨hl.stored, hl.listed, hl.largest⟩
  recorded := h.recorded
  planning u hu htype hnone i x hx := by
    cases ht.symm.trans hu
    rw [View.setRun_runs] at hx
    by_cases hi : i = runId
    · subst hi
      rw [Function.update_self] at hx
      cases hx
      exact hr htype hnone
    · rw [Function.update_of_ne hi] at hx
      exact h.planning t ht htype hnone i x hx

omit [Runtime] in
/-- A run over the same plans and a task with an accepted plan. -/
theorem setRun_of_accepted (h : v.Agrees) {t : TaskCore} (ht : v.task = some t) {runId : String}
    {r : RunCore} (hsome : t.taskType = .managed → t.accepted ≠ none) :
    (v.setRun runId r).Agrees :=
  h.setRun ht fun hm hnone => absurd hnone (hsome hm)

omit [Runtime] in
theorem setLock (h : v.Agrees) (l : Option LockCore) : (v.setLock l).Agrees where
  listed := h.listed
  accepted := h.accepted
  stored := h.stored
  review u n p hu hs hl := h.review u n p hu hs ⟨hl.stored, hl.listed, hl.largest⟩
  recorded := h.recorded
  planning := h.planning

omit [Runtime] in
/-- A run that has been a work run tells that a plan was accepted. -/
theorem accepted_of_run (h : v.Agrees) {t : TaskCore} (ht : v.task = some t)
    (htype : t.taskType = .managed) {runId : String} {r : RunCore} (hr : v.runs runId = some r)
    (hwork : r.runType ≠ .planning) : t.accepted ≠ none :=
  fun hnone => hwork (h.planning t ht htype hnone runId r hr)

omit [Runtime] in
/-- A proposed plan after all others, and the task in review. -/
theorem addPlan (h : v.Agrees) {t u : TaskCore} (ht : v.task = some t) {n : Nat}
    (hnew : v.NewVersion n) (htype : u.taskType = t.taskType) (haccepted : u.accepted = t.accepted)
    (hstage : u.stage = .planReview) :
    ((v.setPlan n ⟨.proposed, false, true⟩).setTask u).Agrees where
  listed m p hp := by
    rw [View.setTask_plans, View.setPlan_plans] at hp
    by_cases hm : m = n
    · subst hm
      rw [Function.update_self] at hp
      cases hp
      rfl
    · rw [Function.update_of_ne hm] at hp
      exact h.listed m p hp
  accepted m p hp hs := by
    rw [View.setTask_plans, View.setPlan_plans] at hp
    by_cases hm : m = n
    · subst hm
      rw [Function.update_self] at hp
      cases hp
      cases hs
    · rw [Function.update_of_ne hm] at hp
      obtain ⟨ha, t', ht', hn⟩ := h.accepted m p hp hs
      cases ht.symm.trans ht'
      exact ⟨ha, u, rfl, haccepted.trans hn⟩
  stored u' m hu' hm := by
    cases hu'
    obtain ⟨p, hp, hs⟩ := h.stored t m ht (haccepted ▸ hm)
    have hne : m ≠ n := by
      rintro rfl
      rw [hnew.free] at hp
      cases hp
    exact ⟨p, by rwa [View.setTask_plans, View.setPlan_plans, Function.update_of_ne hne], hs⟩
  review u' m p hu' hs hl := by
    have hle : n ≤ m := hl.largest n ⟨.proposed, false, true⟩ (by simp) rfl
    have hp := hl.stored
    rw [View.setTask_plans, View.setPlan_plans] at hp
    by_cases hm : m = n
    · subst hm
      rw [Function.update_self] at hp
      cases hp
      decide
    · rw [Function.update_of_ne hm] at hp
      have hlt := hnew.after m p hp hl.listed
      omega
  recorded u' hu' htype' hs := by
    cases hu'
    rw [hstage] at hs
    simp [approvedStages] at hs
  planning u' hu' htype' hnone := by
    cases hu'
    exact h.planning t ht (htype ▸ htype') (haccepted ▸ hnone)

omit [Runtime] in
/-- A plan that was not accepted changes to another such status. -/
theorem setPlanStatus (h : v.Agrees) {m : Nat} {q : PlanCore} (hq : v.plans m = some q)
    (hne : q.status ≠ .accepted) (status : PlanStatus) (hstatus : status ≠ .accepted) :
    (v.setPlan m { q with status := status }).Agrees := by
  have hplan {n : Nat} {p : PlanCore}
      (hp : (v.setPlan m { q with status := status }).plans n = some p) :
      n = m ∧ p = { q with status := status } ∨ n ≠ m ∧ v.plans n = some p := by
    rw [View.setPlan_plans] at hp
    by_cases hn : n = m
    · subst hn
      rw [Function.update_self] at hp
      exact .inl ⟨rfl, (Option.some.inj hp).symm⟩
    · rw [Function.update_of_ne hn] at hp
      exact .inr ⟨hn, hp⟩
  have hother {n : Nat} (hn : n ≠ m) :
      (v.setPlan m { q with status := status }).plans n = v.plans n := by
    rw [View.setPlan_plans, Function.update_of_ne hn]
  refine ⟨fun n p hp => ?_, fun n p hp hs => ?_, fun t n ht hn => ?_, fun t n p ht hs hl => ?_,
    h.recorded, h.planning⟩
  · rcases hplan hp with ⟨-, rfl⟩ | ⟨-, hp⟩
    · exact h.listed m q hq
    · exact h.listed n p hp
  · rcases hplan hp with ⟨-, rfl⟩ | ⟨-, hp⟩
    · exact absurd hs hstatus
    · exact h.accepted n p hp hs
  · obtain ⟨p, hp, hs⟩ := h.stored t n ht hn
    have hnm : n ≠ m := by
      rintro rfl
      cases hq.symm.trans hp
      exact hne hs
    exact ⟨p, (hother hnm).trans hp, hs⟩
  · rcases hplan hl.stored with ⟨-, rfl⟩ | ⟨hnm, hp⟩
    · exact hstatus
    · refine h.review t n p ht hs ⟨hp, hl.listed, fun k x hx hlisted => ?_⟩
      by_cases hk : k = m
      · subst hk
        exact hl.largest k { q with status := status } (by simp) (h.listed k q hq)
      · exact hl.largest k x ((hother hk).trans hx) hlisted

omit [Runtime] in
/-- The approval of a listed plan. -/
theorem approve (h : v.Agrees) {n : Nat} {p : PlanCore} (hp : v.plans n = some p) {u : TaskCore}
    (hstage : u.stage = .approved) (haccepted : u.accepted = some n) : (v.approve n u).Agrees := by
  have hplan {m : Nat} {q : PlanCore} (hq : (v.approve n u).plans m = some q) :
      q.listed = true ∧ (q.status = .accepted → m = n ∧ q.approved = true) := by
    obtain ⟨x, hx, rfl⟩ := Option.map_eq_some_iff.1 hq
    have hlisted := h.listed m x hx
    have hnot : ¬ x.listed = false := by simp [hlisted]
    unfold View.approvedPlan
    rw [if_neg hnot]
    by_cases hm : m = n
    · rw [if_pos hm]
      exact ⟨hlisted, fun _ => ⟨hm, rfl⟩⟩
    · rw [if_neg hm]
      by_cases hr : x.status = .rejected
      · rw [if_pos hr]
        exact ⟨hlisted, fun hs => by simp [hr] at hs⟩
      · rw [if_neg hr]
        exact ⟨hlisted, fun hs => by cases hs⟩
  refine ⟨fun m q hq => (hplan hq).1, fun m q hq hs => ?_, fun t m ht hm => ?_,
    fun t _ _ ht hs _ => ?_, fun t ht _ _ => ?_, fun t ht _ hnone => ?_⟩
  · obtain ⟨rfl, ha⟩ := (hplan hq).2 hs
    exact ⟨ha, u, rfl, haccepted⟩
  · cases ht
    obtain rfl : n = m := Option.some.inj (haccepted.symm.trans hm)
    refine ⟨View.approvedPlan n n p, by simp [View.approve, hp], ?_⟩
    simp [View.approvedPlan, h.listed n p hp]
  · cases ht
    rw [hstage] at hs
    cases hs
  · cases ht
    simp [haccepted]
  · cases ht
    rw [haccepted] at hnone
    cases hnone

end View.Agrees

omit [Runtime] in
/-- A plan that follows all others replaces the proposed one before it. -/
theorem View.Agrees.regenerate (h : v.Agrees) {t u : TaskCore} (ht : v.task = some t) {n : Nat}
    (hnew : v.NewVersion n) {finish : Option (String × RunCore)} (hfinish : v.ToFinish finish)
    {previous : Option (Nat × PlanCore)}
    (hprevious : ∀ m p, previous = some (m, p) → v.Latest m p) (htype : u.taskType = t.taskType)
    (haccepted : u.accepted = t.accepted) (hstage : u.stage = .planReview) :
    (v.regenerate n ⟨.proposed, false, true⟩ previous finish u).Agrees := by
  -- the run that was planning is finished first
  have hruns : View.Agrees { v with runs := View.finishRun finish v.runs } := by
    rcases finish with - | ⟨runId, r⟩
    · exact h
    · exact h.setRun ht fun _ _ => hfinish.ofType
  have hplan := View.Agrees.addPlan hruns ht (n := n) ⟨hnew.positive, hnew.free, hnew.after⟩ htype
    haccepted hstage
  rcases previous with - | ⟨m, p⟩
  · exact hplan.setLock none
  · by_cases hp : p.status = .proposed
    · have hmn : m ≠ n := by
        rintro rfl
        have hstored := (hprevious _ _ rfl).stored
        rw [hnew.free] at hstored
        cases hstored
      have hq : (({ v with runs := View.finishRun finish v.runs } : View).setPlan n
          ⟨.proposed, false, true⟩ |>.setTask u).plans m = some p := by
        rw [View.setTask_plans, View.setPlan_plans, Function.update_of_ne hmn]
        exact (hprevious _ _ rfl).stored
      have hdemoted := (hplan.setPlanStatus hq (by rw [hp]; decide) .superseded
        (by decide)).setLock none
      simpa [View.regenerate, View.demote, hp, View.setPlan, View.setTask, View.setLock] using hdemoted
    · simpa [View.regenerate, View.demote, hp, View.setPlan, View.setTask, View.setLock] using
        hplan.setLock none

/-- A task without plans and runs of its own. -/
theorem View.Agrees.of_blank (h : v.Sound id) (hfree : v.task = none) {u : TaskCore}
    (haccepted : u.accepted = none) (hreview : u.stage ≠ .planReview)
    (hstage : u.taskType = .managed → u.stage ∉ approvedStages) : (v.setTask u).Agrees := by
  obtain ⟨hruns, hplans, -⟩ := h.blank hfree
  refine ⟨fun n p hp => ?_, fun n p hp => ?_, fun t n ht hn => ?_, fun t _ _ ht hs => ?_,
    fun t ht hm hs => ?_, fun _ _ _ _ i r hr => ?_⟩
  · simp [hplans] at hp
  · simp [hplans] at hp
  · cases ht
    rw [haccepted] at hn
    cases hn
  · cases ht
    exact absurd hs hreview
  · cases ht
    exact absurd hs (hstage hm)
  · simp [hruns] at hr

/-- The moves of steps that submit listed plans keep the agreement. -/
theorem Move.agrees {step : Step} (hc : step.NamesCriteria s) (hs : v.Sound id) (h : v.Agrees)
    {l : Label} (hp : step.permits s id l v) (m : Move id l v w) : w.Agrees := by
  cases m with
  | create hid hfree => exact .of_blank hs hfree rfl (by decide) fun _ => by decide
  | record hid hfree => exact .of_blank hs hfree rfl (by decide) fun hm => by cases hm
  | addFinished ht htype hid hfree hr hw => exact h.setRun ht fun hm => by simp [htype] at hm
  | link ht htype himpl hval => exact h.setTask_of_stage ht rfl rfl rfl
  | startPlanning ht hstage hidle hrun =>
    exact ((h.setRun ht fun _ _ => hrun.ofType).setLock _).setTask_of_stage ht rfl rfl rfl
  | @propose _ t runId r n listed ht hstage hrun hnew =>
    obtain rfl := hc.listed (Step.permits_propose hp)
    have hplan := h.addPlan ht hnew (u := { t with stage := .planReview }) rfl rfl rfl
    exact (hplan.setRun (r := { r with status := .finished }) (View.setTask_task _ _)
      fun _ _ => hrun.ofType).setLock none
  | regenerate ht hfinish hnew hprevious =>
    obtain ⟨-, hlisted, -⟩ := Step.permits_regenerate hp
    obtain rfl := hc.listed hlisted
    exact h.regenerate ht hnew hfinish hprevious rfl rfl rfl
  | approve ht hstage hidle hplan hlisted hproposed => exact h.approve hplan rfl rfl
  | reject ht hstage hlatest =>
    exact h.setPlanStatus hlatest.stored (h.review _ _ _ ht hstage hlatest) _ (by decide)
  | startImplementation ht hstage haccepted hidle hrun hversion =>
    have hsome := haccepted.recorded
    exact ((h.setRun_of_accepted ht fun _ => by simp [hsome]).setLock _).setTask_of_accepted ht
      rfl rfl (by simp) fun _ => by simp [hsome]
  | resume ht hstage haccepted hlock hrun =>
    have hsome := haccepted.recorded
    exact (h.setLock _).setTask_of_accepted ht rfl rfl (by simp) fun _ => by simp [hsome]
  | @finishImplementation _ t runId r ht hlatest hrun =>
    have hsome := fun hm => h.accepted_of_run ht hm hrun.stored (by rw [hrun.ofType]; decide)
    exact ((h.setRun_of_accepted ht hsome).setTask_of_accepted (u := { t with stage := .implemented })
      ht rfl rfl (by simp) hsome).setLock none
  | startValidation ht hstage himpl hfinished hidle hrun hbased =>
    have hsome := fun hm => h.recorded _ ht hm (by simp [hstage, approvedStages])
    exact ((h.setRun_of_accepted ht hsome).setLock _).setTask_of_stage ht rfl rfl rfl
  | @finishValidation _ t runId r result ht hlatest hrun =>
    have hsome := fun hm => h.accepted_of_run ht hm hrun.stored (by rw [hrun.ofType]; decide)
    have hstage : verdictStage result ≠ .planReview := by cases result <;> decide
    exact ((h.setRun_of_accepted ht hsome).setTask_of_accepted
      (u := { t with stage := verdictStage result }) ht rfl rfl hstage hsome).setLock none
  | @cancel _ t ht hstage =>
    exact (h.setTask (u := { t with stage := .cancelled }) ht rfl rfl (fun hr => by cases hr)
      fun _ hs => by simp [approvedStages] at hs).setLock none
  | @uncancel _ t target ht hstage hlock htarget =>
    refine h.setTask ht rfl rfl (fun hr => .inr ?_) fun hm hs => ?_
    · obtain rfl : target = .planReview := hr
      exact htarget
    · cases target with
      | approved =>
        obtain ⟨n, ha⟩ := htarget
        simp [ha.recorded]
      | implemented =>
        obtain ⟨runId, r, -, hr, htype, -⟩ := htarget
        have hsome : t.accepted ≠ none := h.accepted_of_run ht hm hr (by rw [htype]; decide)
        exact hsome
      | failedValidation =>
        obtain ⟨⟨n, ha⟩, -⟩ := htarget
        simp [ha.recorded]
      | draft | planReview => simp [approvedStages] at hs
      | _ => exact htarget.elim
  | archive ht harchived hstage => exact h.setTask_of_stage ht rfl rfl rfl
  | @unarchive _ t reopen ht harchived hstage =>
    by_cases hopen : reopen = true ∧ t.stage = .implemented
    · have hsome := fun hm => h.recorded _ ht hm (by simp [hopen.2, approvedStages])
      exact h.setTask_of_accepted ht rfl rfl (by simp [unarchivedStage, hopen]) hsome
    · exact h.setTask_of_stage ht rfl rfl (if_neg hopen)
  | dropLock => exact h.setLock none
  | repairRun hlock hrun =>
    obtain ⟨t, ht⟩ := hs.task_of_run hrun.stored
    exact h.setRun ht fun _ _ => hrun.ofType

/-- The records of acceptance agree in every run that submits listed plans. -/
theorem Reachable.agrees (h : services.Reachable (fun s step => step.NamesCriteria s) s)
    (id : String) : (s.view id).Agrees := by
  refine h.invariant (I := fun s => ∀ id, (s.view id).Agrees) ?_ ?_ id
  · intro id
    constructor <;> simp [services, Ledger.view, Ledger.empty]
  · intro s step hs ih hc
    have hsound : s.Sound := Reachable.sound hs
    have hboth := (step.evolves hsound).invariant (I := fun id v => v.Sound id ∧ v.Agrees)
      (fun _ _ _ _ hi hp hm => ⟨Move.sound hi.1 hm, Move.agrees hc hi.1 hi.2 hp hm⟩)
      (fun id => ⟨hsound id, ih id⟩)
    exact fun id => (hboth id).2

/-- A managed task past approval has its accepted plan stored as accepted by somebody, and
a plan stored as accepted is the accepted one of its task. -/
theorem acceptance_recorded_twice
    (h : services.Reachable (fun s step => step.NamesCriteria s) s) :
    (∀ t ∈ s.tasks.files, t.taskType = .managed → t.statusStage ∈ approvedStages →
      ∃ p ∈ s.plans.files, p.taskId = t.id ∧ t.acceptedPlanVersion = some p.planVersion ∧
        p.status = .accepted ∧ p.approvedBy.isSome) ∧
    (∀ p ∈ s.plans.files, p.status = .accepted →
      ∃ t ∈ s.tasks.files, t.id = p.taskId ∧ t.acceptedPlanVersion = some p.planVersion) ∧
    ∀ p ∈ s.plans.files, ∀ q ∈ s.plans.files, p.taskId = q.taskId → p.status = .accepted →
      q.status = .accepted → p = q := by
  have hplan {p : PlanRecord} (hp : p ∈ s.plans.files) :
      (s.view p.taskId).plans p.planVersion = some p.core := by
    simp only [Ledger.view]
    rw [Directory.lookup_of_mem hp]
    rfl
  have htask {p : PlanRecord} (hp : p ∈ s.plans.files) (hs : p.status = .accepted) :
      p.core.approved = true ∧
        ∃ t ∈ s.tasks.files, t.id = p.taskId ∧ t.acceptedPlanVersion = some p.planVersion := by
    obtain ⟨happroved, c, hc, hn⟩ := (Reachable.agrees h p.taskId).accepted _ _ (hplan hp) hs
    obtain ⟨t, ht, rfl⟩ := Option.map_eq_some_iff.1 hc
    exact ⟨happroved, t, Directory.mem_of_lookup ht, Directory.key_of_lookup ht, hn⟩
  refine ⟨fun t ht hm hs => ?_, fun p hp hs => (htask hp hs).2, fun p hp q hq hpq hs hs' => ?_⟩
  · have hagrees := Reachable.agrees h t.id
    have hv := view_file_task ht
    obtain ⟨n, hn⟩ := Option.ne_none_iff_exists'.1 (hagrees.recorded _ hv hm hs)
    obtain ⟨c, hc, hstatus⟩ := hagrees.stored _ n hv hn
    obtain ⟨p, hp, rfl⟩ := Option.map_eq_some_iff.1 hc
    have hkey := Directory.key_of_lookup hp
    have hmem := Directory.mem_of_lookup hp
    have hversion : p.planVersion = n := congrArg Prod.snd hkey
    refine ⟨p, hmem, congrArg Prod.fst hkey, hn.trans (by rw [hversion]), hstatus, ?_⟩
    exact (htask hmem hstatus).1
  · obtain ⟨-, t, ht, hid, hn⟩ := htask hp hs
    obtain ⟨-, t', ht', hid', hn'⟩ := htask hq hs'
    have hsame : t = t' := by
      have hlookup := Directory.lookup_of_mem ht
      rw [hid, hpq, ← hid', Directory.lookup_of_mem ht'] at hlookup
      exact (Option.some.inj hlookup).symm
    have hversion : p.planVersion = q.planVersion :=
      Option.some.inj (hn.symm.trans ((congrArg _ hsame).trans hn'))
    have hlookup := Directory.lookup_of_mem hp
    rw [hpq, hversion, Directory.lookup_of_mem hq] at hlookup
    exact (Option.some.inj hlookup).symm

end Invariant

section Evaluation

attribute [local instance] plainRuntime

theorem namesCriteria_approvedOps : ∀ op ∈ approvedOps, ∀ s, Step.NamesCriteria ⟨plainEnv, op⟩ s := by
  have hids : ∀ c ∈ (readPlanInput plainEnv "Do it." ["it works"]).toOption.elim [] PlanInput.criteria,
      c.id ≠ "" := by decide +kernel
  intro op hop s input hinput c hc
  simp only [approvedOps, List.mem_cons, List.not_mem_nil, or_false] at hop
  rcases hop with rfl | rfl | rfl | rfl
  · exact hinput.elim
  · exact hinput.elim
  · have hread : readPlanInput plainEnv "Do it." ["it works"] = .ok input := hinput
    rw [hread] at hids
    exact hids c hc
  · exact hinput.elim

theorem acceptance_recorded_twice_approved :
    ∃ t ∈ (afterOps approvedOps).tasks.files, t.statusStage = .approved ∧
      ∃ p ∈ (afterOps approvedOps).plans.files, p.taskId = t.id ∧
        t.acceptedPlanVersion = some p.planVersion ∧ p.status = .accepted ∧
        p.approvedBy.isSome := by
  have htask : ∃ t ∈ (afterOps approvedOps).tasks.files,
      t.statusStage = .approved ∧ t.taskType = .managed := by decide +kernel
  obtain ⟨t, ht, hstage, htype⟩ := htask
  refine ⟨t, ht, hstage, ?_⟩
  refine (acceptance_recorded_twice (reachable_of_ops namesCriteria_approvedOps)).1 t ht htype ?_
  rw [hstage]
  decide

/-- An implemented task is planned again; the second plan is not listed. -/
def unlistedPlanOps : List Op :=
  approvedOps ++ [.startImplementation "task-0001" none none,
    .finishImplementation "task-0001" "done", .cancelTask "task-0001" none,
    .uncancelTask "task-0001" (some "draft") "again" (some plainUser) true,
    .startPlanning "task-0001" none none,
    .proposePlan "task-0001"
      ("---\n" ++ PlainRuntime.blankCriterionFrontMatter ++ "\n---\nDo it.") [],
    .rejectPlan "task-0001" none, .cancelTask "task-0001" none,
    .uncancelTask "task-0001" none "again" (some plainUser) true]

/-- The rejection hits the accepted plan, and the task is implemented again. -/
theorem unlisted_plan_breaks_acceptance :
    (afterOps unlistedPlanOps).Reachable ∧
      ∃ t ∈ (afterOps unlistedPlanOps).tasks.files, t.taskType = .managed ∧
        t.statusStage = .implemented ∧ t.acceptedPlanVersion = some 1 ∧
        ∀ p ∈ (afterOps unlistedPlanOps).plans.files, p.status ≠ .accepted := by
  refine ⟨reachable_afterOps _, ?_⟩
  decide +kernel

end Evaluation

end Taskledger
