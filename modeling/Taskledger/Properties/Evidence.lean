import Taskledger.Properties.Histories

/-!
# Evidence

A managed task links runs that are stored and of the linked type, each of its implementations is
of a plan version that was approved, and each of its validations is of a finished implementation.
-/

namespace Taskledger

open Library Lifecycle

/-- A stored run of a type. -/
def View.HasRun (v : View) (runId : String) (runType : RunType) : Prop :=
  ∃ r, v.runs runId = some r ∧ r.runType = runType

/-- What a run of a managed task is based on. -/
def RunCore.Based (v : View) (r : RunCore) : Prop :=
  match r.runType with
  | .planning => True
  | .implementation => ∃ n p, r.planVersion = some n ∧ v.plans n = some p ∧ p.approved = true
  | .validation => ∃ impl ri, r.implementationRun = some impl ∧ v.Implemented impl ri

/-- The links of a managed task, and the bases of its runs. -/
structure View.Linked (v : View) (t : TaskCore) : Prop where
  planning : ∀ runId, t.planningRun = some runId → v.HasRun runId .planning
  implementation : ∀ runId, t.implementationRun = some runId → v.HasRun runId .implementation
  validation : ∀ runId, t.validationRun = some runId → v.HasRun runId .validation
  based : ∀ runId r, v.runs runId = some r → r.Based v

/-- The links of a view whose task is managed. -/
def View.Evidence (v : View) : Prop :=
  ∀ t, v.task = some t → t.taskType = .managed → v.Linked t

-- ════════════════════════════════════════════════════════════════════════
-- What goes on from evidence
-- ════════════════════════════════════════════════════════════════════════

section Continuing

variable {v w : View} {t u : TaskCore} {r : RunCore} {runId : String} {runType : RunType}

theorem View.HasRun.continues (h : v.HasRun runId runType) (hw : v.Continues w) :
    w.HasRun runId runType := by
  obtain ⟨r, hr, htype⟩ := h
  obtain ⟨r', hr', hrun⟩ := hw.runs runId r hr
  refine ⟨r', hr', ?_⟩
  rw [hrun.same]
  exact htype

theorem View.Implemented.continues (h : v.Implemented runId r) (hw : v.Continues w) :
    w.Implemented runId r := by
  obtain ⟨hr, htype, hfinished⟩ := h
  obtain ⟨r', hr', hrun⟩ := hw.runs runId r hr
  have hsame : r' = r := hrun.ended (by simp [hfinished])
  rw [hsame] at hr'
  exact ⟨hr', htype, hfinished⟩

theorem RunCore.Based.continues (h : r.Based v) (hw : v.Continues w) : r.Based w := by
  unfold RunCore.Based at h ⊢
  cases htype : r.runType with
  | planning => trivial
  | implementation =>
    rw [htype] at h
    obtain ⟨n, p, hn, hp, happroved⟩ := h
    obtain ⟨p', hp', hplan⟩ := hw.plans n p hp
    exact ⟨n, p', hn, hp', hplan.approved happroved⟩
  | validation =>
    rw [htype] at h
    obtain ⟨impl, ri, himpl, hfinished⟩ := h
    exact ⟨impl, ri, himpl, hfinished.continues hw⟩

/-- Nothing is new: the task has the same links, and each run is one of the earlier ones. -/
theorem View.Linked.keep (h : v.Linked t) (hw : v.Continues w)
    (hp : u.planningRun = t.planningRun) (hi : u.implementationRun = t.implementationRun)
    (hv : u.validationRun = t.validationRun)
    (hruns : ∀ runId r, w.runs runId = some r →
      ∃ r', v.runs runId = some r' ∧ r = { r' with status := r.status }) : w.Linked u where
  planning runId hrun := (h.planning runId (hp ▸ hrun)).continues hw
  implementation runId hrun := (h.implementation runId (hi ▸ hrun)).continues hw
  validation runId hrun := (h.validation runId (hv ▸ hrun)).continues hw
  based runId r hr := by
    obtain ⟨r', hr', hsame⟩ := hruns runId r hr
    have hbased := (h.based runId r' hr').continues hw
    rw [hsame]
    exact hbased

/-- The same runs, each as it was. -/
theorem View.Linked.sameRuns (h : v.Linked t) (hw : v.Continues w)
    (hp : u.planningRun = t.planningRun) (hi : u.implementationRun = t.implementationRun)
    (hv : u.validationRun = t.validationRun) (hruns : w.runs = v.runs) : w.Linked u := by
  refine h.keep hw hp hi hv fun runId r hr => ⟨r, ?_, rfl⟩
  rwa [hruns] at hr

/-- One run ends. -/
theorem View.Linked.endedRun (h : v.Linked t) (hw : v.Continues w)
    (hp : u.planningRun = t.planningRun) (hi : u.implementationRun = t.implementationRun)
    (hv : u.validationRun = t.validationRun) (hr : v.runs runId = some r) {status : RunStatus}
    (hruns : w.runs = Function.update v.runs runId (some { r with status := status })) :
    w.Linked u := by
  refine h.keep hw hp hi hv fun i x hx => ?_
  rw [hruns, Function.update_apply] at hx
  split at hx
  · rename_i hi
    cases hx
    exact ⟨r, hi ▸ hr, rfl⟩
  · exact ⟨x, hx, rfl⟩

/-- One run is new, and based on what is stored; the task links it, or what it linked before. -/
theorem View.Linked.start (h : v.Linked t) (hw : v.Continues w) (hbased : r.Based v)
    (hruns : w.runs = Function.update v.runs runId (some r))
    (hp : u.planningRun = t.planningRun ∨
      u.planningRun = some runId ∧ r.runType = .planning)
    (hi : u.implementationRun = t.implementationRun ∨
      u.implementationRun = some runId ∧ r.runType = .implementation)
    (hv : u.validationRun = t.validationRun ∨
      u.validationRun = some runId ∧ r.runType = .validation) : w.Linked u := by
  have hlinked {old new : Option String} {runType : RunType}
      (hold : ∀ i, old = some i → v.HasRun i runType)
      (hnew : new = old ∨ new = some runId ∧ r.runType = runType) (i : String)
      (hlink : new = some i) : w.HasRun i runType := by
    rcases hnew with hsame | ⟨hrun, htype⟩
    · exact (hold i (hsame ▸ hlink)).continues hw
    · cases hrun.symm.trans hlink
      exact ⟨r, by rw [hruns, Function.update_self], htype⟩
  refine ⟨hlinked h.planning hp, hlinked h.implementation hi, hlinked h.validation hv,
    fun i x hx => ?_⟩
  rw [hruns, Function.update_apply] at hx
  split at hx
  · cases hx
    exact hbased.continues hw
  · exact (h.based i x hx).continues hw

end Continuing

-- ════════════════════════════════════════════════════════════════════════
-- The moves
-- ════════════════════════════════════════════════════════════════════════

section Moves

variable [Runtime] {id : String} {v w : View} {label : Label}

theorem Move.evidence (hs : v.Sound id) (ha : v.Approvals) (h : v.Evidence)
    (m : Move id label v w) : w.Evidence := by
  have hw := Move.continues ha m
  intro u hu hmanaged
  have hold {t : TaskCore} (ht : v.task = some t) (htype : u.taskType = t.taskType) : v.Linked t :=
    h t ht (htype ▸ hmanaged)
  cases m with
  | create hid hfree =>
    cases hu
    refine ⟨nofun, nofun, nofun, fun runId r hr => ?_⟩
    cases ((hs.blank hfree).1 runId).symm.trans hr
  | record hid hfree =>
    cases hu
    cases hmanaged
  | addFinished ht htype hid hfree hr hwaivers =>
    cases ht.symm.trans hu
    cases htype.symm.trans hmanaged
  | link ht htype himpl hval =>
    cases hu
    cases htype.symm.trans hmanaged
  | startPlanning ht hstage hidle hrun =>
    cases hu
    refine (hold ht rfl).start hw ?_ rfl (.inr ⟨rfl, hrun.ofType⟩) (.inl rfl) (.inl rfl)
    rw [RunCore.Based, hrun.ofType]
    trivial
  | propose ht hstage hrun hnew =>
    cases hu
    exact (hold ht rfl).endedRun hw rfl rfl rfl hrun.stored rfl
  | @regenerate _ t finish previous n listed ht hfinish hnew hprevious =>
    cases hu
    cases finish with
    | none => exact (hold ht rfl).sameRuns hw rfl rfl rfl rfl
    | some f => exact (hold ht rfl).endedRun hw rfl rfl rfl hfinish.stored rfl
  | approve ht hstage hidle hplan hlisted hproposed =>
    cases hu
    exact (hold ht rfl).sameRuns hw rfl rfl rfl rfl
  | reject ht hstage hlatest =>
    cases ht.symm.trans hu
    exact (hold ht rfl).sameRuns hw rfl rfl rfl rfl
  | @startImplementation _ t runId r n ht hstage haccepted hidle hrun hversion =>
    cases hu
    refine (hold ht rfl).start hw ?_ rfl (.inl rfl) (.inr ⟨rfl, hrun.ofType⟩) (.inl rfl)
    obtain ⟨p, hp, -, hstatus⟩ := haccepted.stored
    rw [RunCore.Based, hrun.ofType]
    exact ⟨n, p, hversion, hp, (ha.accepted n p hp hstatus).2.1⟩
  | resume ht hstage haccepted hlock hrun =>
    cases hu
    have hlinked := hold ht rfl
    refine ⟨fun i hi => (hlinked.planning i hi).continues hw, fun i hi => ?_,
      fun i hi => (hlinked.validation i hi).continues hw,
      fun i x hx => (hlinked.based i x hx).continues hw⟩
    cases hi
    exact ⟨_, hrun.stored, hrun.ofType⟩
  | finishImplementation ht hlatest hrun =>
    cases hu
    exact (hold ht rfl).endedRun hw rfl rfl rfl hrun.stored rfl
  | @startValidation _ t runId impl r ri ht hstage himpl hfinished hidle hrun hbased =>
    cases hu
    refine (hold ht rfl).start hw ?_ rfl (.inl rfl) (.inl rfl) (.inr ⟨rfl, hrun.ofType⟩)
    rw [RunCore.Based, hrun.ofType]
    exact ⟨impl, ri, hbased, hfinished⟩
  | finishValidation ht hlatest hrun =>
    cases hu
    exact (hold ht rfl).endedRun hw rfl rfl rfl hrun.stored rfl
  | cancel ht hstage =>
    cases hu
    exact (hold ht rfl).sameRuns hw rfl rfl rfl rfl
  | uncancel ht hstage hlock htarget =>
    cases hu
    exact (hold ht rfl).sameRuns hw rfl rfl rfl rfl
  | archive ht harchived hstage =>
    cases hu
    exact (hold ht rfl).sameRuns hw rfl rfl rfl rfl
  | unarchive ht harchived hstage =>
    cases hu
    exact (hold ht rfl).sameRuns hw rfl rfl rfl rfl
  | dropLock => exact (hold hu rfl).sameRuns hw rfl rfl rfl rfl
  | repairRun hlock hrun => exact (hold hu rfl).endedRun hw rfl rfl rfl hrun.stored rfl

end Moves

-- ════════════════════════════════════════════════════════════════════════
-- Runs of the program
-- ════════════════════════════════════════════════════════════════════════

section Runs

variable [Runtime] {s : Ledger}

theorem Step.evidence (step : Step) (hs : s.Sound) (ha : ∀ id, (s.view id).Approvals)
    (h : ∀ id, (s.view id).Evidence) (id : String) : ((step.next s).view id).Evidence := by
  have hkept := (step.evolves hs).invariant
    (I := fun id v => v.Sound id ∧ v.Approvals ∧ v.Evidence)
    (fun _ _ _ _ hv _ m => ⟨Move.sound hv.1 m, Move.approvals hv.1 hv.2.1 m,
      Move.evidence hv.1 hv.2.1 hv.2.2 m⟩)
    fun id => ⟨hs id, ha id, h id⟩
  exact (hkept id).2.2

theorem Ledger.Reachable.evidence (h : s.Reachable) (id : String) : (s.view id).Evidence := by
  have hempty (id : String) : (Ledger.empty.view id).Evidence := by
    intro t ht
    cases ht
  refine System.Reachable.invariant (I := fun s => ∀ id, (s.view id).Evidence) h hempty
    (fun s step hs ih _ => ?_) id
  have hreachable : s.Reachable := hs
  exact step.evidence hreachable.sound hreachable.approvals ih

/-- In every reachable ledger a managed task links stored runs of the linked types; each of its
implementations is of an approved plan version, and each of its validations of an implementation
that is finished. -/
theorem evidence_stays_stored (h : s.Reachable) {id : String} {t : TaskRecord}
    (ht : s.tasks.lookup id = some t) (hmanaged : t.taskType = .managed) :
    (∀ runId, t.latestPlanningRun = some runId →
      ∃ r, s.runs.lookup (id, runId) = some r ∧ r.runType = .planning) ∧
    (∀ runId, t.latestImplementationRun = some runId →
      ∃ r, s.runs.lookup (id, runId) = some r ∧ r.runType = .implementation) ∧
    (∀ runId, t.latestValidationRun = some runId →
      ∃ r, s.runs.lookup (id, runId) = some r ∧ r.runType = .validation) ∧
    (∀ runId r, s.runs.lookup (id, runId) = some r → r.runType = .implementation →
      ∃ n p, r.readPlanVersion = some n ∧ s.plans.lookup (id, n) = some p ∧
        p.approvedBy.isSome = true) ∧
    ∀ runId r, s.runs.lookup (id, runId) = some r → r.runType = .validation →
      ∃ impl ri, r.basedOnImplementationRun = some impl ∧
        s.runs.lookup (id, impl) = some ri ∧ ri.runType = .implementation ∧
        ri.status = .finished := by
  have hcore : (s.view id).task = some t.core := by simp [Ledger.view, ht]
  have hlinked := h.evidence id t.core hcore hmanaged
  have hstored {runId : String} {runType : RunType} (hrun : (s.view id).HasRun runId runType) :
      ∃ r, s.runs.lookup (id, runId) = some r ∧ r.runType = runType := by
    obtain ⟨c, hc, htype⟩ := hrun
    obtain ⟨r, hr, rfl⟩ := view_run_eq hc
    exact ⟨r, hr, htype⟩
  have hbased {runId : String} {r : TaskRunRecord} (hr : s.runs.lookup (id, runId) = some r) :
      r.core.Based (s.view id) :=
    hlinked.based runId r.core (by simp [Ledger.view, hr])
  refine ⟨fun i hi => hstored (hlinked.planning i hi),
    fun i hi => hstored (hlinked.implementation i hi),
    fun i hi => hstored (hlinked.validation i hi), fun i r hr htype => ?_, fun i r hr htype => ?_⟩
  · have hplan := hbased hr
    rw [RunCore.Based, show r.core.runType = .implementation from htype] at hplan
    obtain ⟨n, c, hn, hc, happroved⟩ := hplan
    obtain ⟨p, hp, rfl⟩ := view_plan_eq hc
    exact ⟨n, p, hn, hp, happroved⟩
  · have himpl := hbased hr
    rw [RunCore.Based, show r.core.runType = .validation from htype] at himpl
    obtain ⟨impl, c, hi, hc, hctype, hfinished⟩ := himpl
    obtain ⟨ri, hri, rfl⟩ := view_run_eq hc
    exact ⟨impl, ri, hi, hri, hctype, hfinished⟩

end Runs

section Evaluation

attribute [local instance] plainRuntime

/-- A task whose implementation is validated. -/
def validatingOps : List Op :=
  approvedOps ++ [.startImplementation "task-0001" none none,
    .finishImplementation "task-0001" "done", .startValidation "task-0001" none none]

theorem evidence_stays_stored_validating :
    ∃ t r impl ri, (afterOps validatingOps).tasks.lookup "task-0001" = some t ∧
      t.latestValidationRun = some "run-0003" ∧
      (afterOps validatingOps).runs.lookup ("task-0001", "run-0003") = some r ∧
      r.basedOnImplementationRun = some impl ∧
      (afterOps validatingOps).runs.lookup ("task-0001", impl) = some ri ∧
      ri.status = .finished := by
  have hfiles : ((afterOps validatingOps).tasks.lookup "task-0001").map (fun t =>
      (t.taskType, t.latestValidationRun)) = some (.managed, some "run-0003") := by decide +kernel
  obtain ⟨t, ht, hfields⟩ := Option.map_eq_some_iff.1 hfiles
  obtain ⟨hmanaged, hlatest⟩ := Prod.mk.inj hfields
  obtain ⟨-, -, hval, -, hvalidations⟩ :=
    evidence_stays_stored (reachable_afterOps _) ht hmanaged
  obtain ⟨r, hr, htype⟩ := hval _ hlatest
  obtain ⟨impl, ri, hbased, hri, -, hfinished⟩ := hvalidations _ r hr htype
  exact ⟨t, r, impl, ri, ht, hlatest, hr, hbased, hri, hfinished⟩

end Evaluation

end Taskledger
