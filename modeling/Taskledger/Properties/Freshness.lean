import Taskledger.Properties.Stages

/-!
# The evidence of a done task

A task is done on a validation of its latest implementation, which is one of its
accepted plan and began after the task was last reopened. Two operations do not look
at all of this: an uncancel to `implemented`, and a reopening while a run is running.
The history of a run of the program remembers which runs a reopening found.
-/

namespace Taskledger

open Library Action Lifecycle

-- ════════════════════════════════════════════════════════════════════════
-- Histories
-- ════════════════════════════════════════════════════════════════════════

/-- A ledger, and the runs each task had when it was last reopened. -/
structure History where
  ledger : Ledger
  stale : String → String → Prop

def View.archived (v : View) : Bool := v.task.any TaskCore.archived

/-- The step unarchives for work. -/
def Step.reopens (step : Step) : Prop := ∃ ref reason slug,
  step.op = .unarchiveTask ref reason slug true

section Invariant

variable [Runtime] {s : Ledger} {id : String} {v w : View} {stale : String → Prop}

/-- The step reopens the task with an id. -/
def Step.Reopens (step : Step) (s : Ledger) (id : String) : Prop :=
  step.reopens ∧ (s.view id).archived = true ∧ ((step.next s).view id).archived = false

/-- The runs that are stale after a step: a reopened task's all are. -/
def Step.nextStale (step : Step) (h : History) (id runId : String) : Prop :=
  step.Reopens h.ledger id ∧ (h.ledger.view id).runs runId ≠ none ∨
    ¬ step.Reopens h.ledger id ∧ h.stale id runId

/-- The program with the history of its reopenings. -/
def historied : System History Step where
  init := ⟨.empty, fun _ _ => False⟩
  next step h := ⟨step.next h.ledger, step.nextStale h⟩

-- ════════════════════════════════════════════════════════════════════════
-- Evidence
-- ════════════════════════════════════════════════════════════════════════

omit [Runtime] in
/-- The latest implementation run of a task is a finished one of its accepted plan, and is
not stale. -/
structure View.Fresh (stale : String → Prop) (v : View) (t : TaskCore) (impl : String) : Prop where
  latest : t.implementationRun = some impl
  implemented : ∃ r n, v.Implemented impl r ∧ r.planVersion = some n ∧ t.accepted = some n
  notStale : ¬ stale impl

omit [Runtime] in
/-- The evidence of a task at work: each stage builds on the one before it. -/
structure View.Chained (stale : String → Prop) (v : View) : Prop where
  existing : ∀ runId, stale runId → v.runs runId ≠ none
  implemented : ∀ t, v.task = some t → t.stage = .implemented → ∃ impl, v.Fresh stale t impl
  implementing : ∀ t runId r, v.task = some t → v.Running runId r .implementation →
    (∃ n, r.planVersion = some n ∧ t.accepted = some n) ∧ ¬ stale runId
  validating : ∀ t runId r, v.task = some t → v.Running runId r .validation →
    ∃ impl, r.implementationRun = some impl ∧ v.Fresh stale t impl

/-- An uncancel lands on `implemented` on fresh evidence only, and a task is reopened
while no work run of it is running. -/
structure Step.KeepsFresh (step : Step) (h : History) : Prop where
  uncancels : ∀ task, step.Uncancels h.ledger task .implemented →
    ∃ impl, (h.ledger.view task.id).Fresh (h.stale task.id) task.core impl
  reopens : ∀ task, step.Unarchives h.ledger task true → isArchivedTask task = true →
    ∀ runId r, (h.ledger.view task.id).runs runId = some r → r.status = .running →
      r.runType = .planning

omit [Runtime] in
/-- Evidence stays evidence where its run stays. -/
theorem View.Fresh.mono {t u : TaskCore} {impl : String} (h : v.Fresh stale t impl)
    (ha : u.accepted = t.accepted) (hi : u.implementationRun = t.implementationRun)
    (hrun : ∀ r, v.runs impl = some r → w.runs impl = some r) : w.Fresh stale u impl := by
  obtain ⟨hlatest, ⟨r, n, ⟨hr, htype, hstatus⟩, hn, hacc⟩, hnot⟩ := h
  exact ⟨hi.trans hlatest, ⟨r, n, ⟨hrun r hr, htype, hstatus⟩, hn, ha.trans hacc⟩, hnot⟩

namespace View.Chained

omit [Runtime] in
/-- Without running runs there is not much to be fresh. -/
theorem of_stopped (hex : ∀ runId, stale runId → w.runs runId ≠ none)
    (hstop : ∀ runId r, w.runs runId = some r → r.status ≠ .running)
    (hstage : ∀ t, w.task = some t → t.stage ≠ .implemented) : w.Chained stale where
  existing := hex
  implemented t ht hs := absurd hs (hstage t ht)
  implementing _ runId r _ hr := absurd hr.running (hstop runId r hr.stored)
  validating _ runId r _ hr := absurd hr.running (hstop runId r hr.stored)

omit [Runtime] in
/-- Another task over the same runs, with the same plan and implementation. -/
theorem of_task (h : v.Chained stale) (hruns : w.runs = v.runs)
    (htask : ∀ u, w.task = some u → ∃ t, v.task = some t ∧ u.accepted = t.accepted ∧
      u.implementationRun = t.implementationRun ∧
      (u.stage = .implemented → ∃ impl, v.Fresh stale t impl)) : w.Chained stale := by
  have hfresh {t u : TaskCore} {impl : String} (ha : u.accepted = t.accepted)
      (hi : u.implementationRun = t.implementationRun) (hf : v.Fresh stale t impl) :
      w.Fresh stale u impl := hf.mono ha hi fun r hr => hruns ▸ hr
  have hrunning {runId : String} {r : RunCore} {type : RunType} (hr : w.Running runId r type) :
      v.Running runId r type := ⟨hruns ▸ hr.stored, hr.ofType, hr.running⟩
  refine ⟨fun runId hs => hruns ▸ h.existing runId hs, fun u hu hs => ?_, fun u runId r hu hr => ?_,
    fun u runId r hu hr => ?_⟩
  · obtain ⟨t, ht, ha, hi, hf⟩ := htask u hu
    obtain ⟨impl, hf⟩ := hf hs
    exact ⟨impl, hfresh ha hi hf⟩
  · obtain ⟨t, ht, ha, hi, -⟩ := htask u hu
    rw [ha]
    exact h.implementing t runId r ht (hrunning hr)
  · obtain ⟨t, ht, ha, hi, -⟩ := htask u hu
    obtain ⟨impl, hbased, hf⟩ := h.validating t runId r ht (hrunning hr)
    exact ⟨impl, hbased, hfresh ha hi hf⟩

omit [Runtime] in
/-- Another task of the same stage. -/
theorem setTask (h : v.Chained stale) {t u : TaskCore} (ht : v.task = some t)
    (ha : u.accepted = t.accepted) (hi : u.implementationRun = t.implementationRun)
    (hs : u.stage = .implemented → t.stage = .implemented) : (v.setTask u).Chained stale := by
  refine h.of_task rfl fun u' hu' => ?_
  cases hu'
  exact ⟨t, ht, ha, hi, fun hst => h.implemented t ht (hs hst)⟩

omit [Runtime] in
theorem setLock (h : v.Chained stale) (l : Option LockCore) : (v.setLock l).Chained stale :=
  h.of_task rfl fun u hu => ⟨u, hu, rfl, rfl, h.implemented u hu⟩

omit [Runtime] in
/-- A run under a new id, in a view where no run is running or that is not running
itself. -/
theorem setRun (h : v.Chained stale) {runId : String} {r : RunCore} (hfree : v.runs runId = none)
    (hr : r.status ≠ .running) : (v.setRun runId r).Chained stale := by
  have hkept {i : String} {x : RunCore} (hx : v.runs i = some x) :
      (v.setRun runId r).runs i = some x := by
    have hne : i ≠ runId := by
      rintro rfl
      rw [hfree] at hx
      cases hx
    rw [View.setRun_runs, Function.update_of_ne hne, hx]
  have hrunning {i : String} {x : RunCore} {type : RunType}
      (hx : (v.setRun runId r).Running i x type) : v.Running i x type := by
    obtain ⟨hstored, htype, hrun⟩ := hx
    rw [View.setRun_runs] at hstored
    by_cases hi : i = runId
    · subst hi
      rw [Function.update_self] at hstored
      cases hstored
      exact absurd hrun hr
    · rw [Function.update_of_ne hi] at hstored
      exact ⟨hstored, htype, hrun⟩
  refine ⟨fun i hs => ?_, fun t ht hs => ?_, fun t i x ht hx => h.implementing t i x ht (hrunning hx),
    fun t i x ht hx => ?_⟩
  · obtain ⟨x, hx⟩ := Option.ne_none_iff_exists'.1 (h.existing i hs)
    rw [hkept hx]
    exact Option.some_ne_none x
  · obtain ⟨impl, hf⟩ := h.implemented t ht hs
    exact ⟨impl, hf.mono rfl rfl fun _ => hkept⟩
  · obtain ⟨impl, hb, hf⟩ := h.validating t i x ht (hrunning hx)
    exact ⟨impl, hb, hf.mono rfl rfl fun _ => hkept⟩

omit [Runtime] in
/-- A run is started where none is running. -/
theorem start (h : v.Chained stale) (hidle : v.Idle) {runId : String} {r : RunCore}
    (hfree : v.runs runId = none) {u : TaskCore}
    (himplemented : u.stage = .implemented → ∃ impl, v.Fresh stale u impl)
    (himpl : r.runType = .implementation → ∃ n, r.planVersion = some n ∧ u.accepted = some n)
    (hval : r.runType = .validation →
      ∃ impl, r.implementationRun = some impl ∧ v.Fresh stale u impl) :
    (v.start runId r u).Chained stale := by
  have hkept {i : String} {x : RunCore} (hx : v.runs i = some x) :
      (v.start runId r u).runs i = some x := by
    have hne : i ≠ runId := by
      rintro rfl
      rw [hfree] at hx
      cases hx
    simp [View.start, Function.update_of_ne hne, hx]
  -- the started run is the only running one
  have honly {i : String} {x : RunCore} {type : RunType}
      (hx : (v.start runId r u).Running i x type) : i = runId ∧ x = r := by
    obtain ⟨hstored, -, hrun⟩ := hx
    by_cases hi : i = runId
    · subst hi
      simp only [View.start, View.setTask_runs, View.setLock_runs, View.setRun_runs,
        Function.update_self, Option.some.injEq] at hstored
      exact ⟨rfl, hstored.symm⟩
    · simp only [View.start, View.setTask_runs, View.setLock_runs, View.setRun_runs,
        Function.update_of_ne hi] at hstored
      exact absurd hrun (hidle.stopped i x hstored)
  refine ⟨fun i hs => ?_, fun t ht hs => ?_, fun t i x ht hx => ?_, fun t i x ht hx => ?_⟩
  · obtain ⟨x, hx⟩ := Option.ne_none_iff_exists'.1 (h.existing i hs)
    rw [hkept hx]
    exact Option.some_ne_none x
  · cases ht
    obtain ⟨impl, hf⟩ := himplemented hs
    exact ⟨impl, hf.mono rfl rfl fun _ => hkept⟩
  · cases ht
    obtain ⟨rfl, rfl⟩ := honly hx
    exact ⟨himpl hx.ofType, fun hs => h.existing i hs hfree⟩
  · cases ht
    obtain ⟨rfl, rfl⟩ := honly hx
    obtain ⟨impl, hb, hf⟩ := hval hx.ofType
    exact ⟨impl, hb, hf.mono rfl rfl fun _ => hkept⟩

omit [Runtime] in
/-- A run that is no implementation stops. -/
theorem stopPlanning (h : v.Chained stale) {runId : String} {r : RunCore}
    (hrun : v.Running runId r .planning) (status : RunStatus) (hstatus : status ≠ .running) :
    (v.setRun runId { r with status := status }).Chained stale := by
  have hkept {i : String} (hi : i ≠ runId) :
      (v.setRun runId { r with status := status }).runs i = v.runs i := by
    rw [View.setRun_runs, Function.update_of_ne hi]
  have hfresh {t : TaskCore} {impl : String} (hf : v.Fresh stale t impl) :
      (v.setRun runId { r with status := status }).Fresh stale t impl := by
    have hne : impl ≠ runId := by
      rintro rfl
      obtain ⟨x, n, ⟨hx, htype, -⟩, -⟩ := hf.implemented
      cases hx.symm.trans hrun.stored
      exact absurd (htype.symm.trans hrun.ofType) (by decide)
    exact hf.mono rfl rfl fun x hx => (hkept hne).trans hx
  have hrunning {i : String} {x : RunCore} {type : RunType}
      (hx : (v.setRun runId { r with status := status }).Running i x type) :
      v.Running i x type := by
    obtain ⟨hstored, htype, hrun'⟩ := hx
    have hne : i ≠ runId := by
      rintro rfl
      rw [View.setRun_runs, Function.update_self] at hstored
      cases hstored
      exact hstatus hrun'
    exact ⟨(hkept hne).symm.trans hstored, htype, hrun'⟩
  refine ⟨fun i hs => ?_, fun t ht hs => ?_, fun t i x ht hx => h.implementing t i x ht (hrunning hx),
    fun t i x ht hx => ?_⟩
  · by_cases hi : i = runId
    · subst hi
      simp
    · rw [hkept hi]
      exact h.existing i hs
  · obtain ⟨impl, hf⟩ := h.implemented t ht hs
    exact ⟨impl, hfresh hf⟩
  · obtain ⟨impl, hb, hf⟩ := h.validating t i x ht (hrunning hx)
    exact ⟨impl, hb, hfresh hf⟩

end View.Chained

/-- A task that a step is recording has no work under way. -/
def View.Recorded (v : View) : Prop :=
  (∀ runId r, v.runs runId = some r → r.status ≠ .running) ∧
    ∀ t, v.task = some t → t.stage = .done

/-- The step records a completed task under a free id. -/
def Step.records (step : Step) (s : Ledger) (id : String) : Prop :=
  (∃ request, step.op = .recordCompletedTask request) ∧ (s.view id).task = none

theorem Step.records_of_link {step : Step} (h : step.permits s id .link v) : step.records s id := by
  unfold Step.permits at h
  split at h <;> simp_all [Step.permitsRegenerate, Step.records]

theorem label_of_records {step : Step} (h : step.records s id) {l : Label}
    (hp : step.permits s id l v) : l ∈ [Label.record, .addFinished, .link] := by
  obtain ⟨⟨request, hop⟩, -⟩ := h
  unfold Step.permits at hp
  rw [hop] at hp
  exact hp.1

/-- While a step records a task, no work is under way in it. -/
theorem Move.recorded (h : v.Recorded) {l : Label}
    (hl : l ∈ [Label.record, .addFinished, .link]) (m : Move id l v w) : w.Recorded := by
  cases m with
  | record hid hfree => exact ⟨h.1, fun t ht => by cases ht; rfl⟩
  | @addFinished _ t runId r ht htype hid hfree hr hw =>
    refine ⟨fun i x hx => ?_, h.2⟩
    rw [View.setRun_runs] at hx
    by_cases hi : i = runId
    · subst hi
      rw [Function.update_self] at hx
      cases hx
      simp [hr]
    · rw [Function.update_of_ne hi] at hx
      exact h.1 i x hx
  | link ht htype himpl hval =>
    have hdone := h.2 _ ht
    exact ⟨h.1, fun u hu => by cases hu; exact hdone⟩
  | _ => simp at hl

/-- The moves of steps that keep the evidence fresh. -/
theorem Move.chained {step : Step} {old : String → String → Prop}
    (hc : step.KeepsFresh ⟨s, old⟩) (hsound : s.Sound) (hs : v.Sound id) (h : v.Chained (old id))
    (hrec : step.records s id → v.Recorded) {l : Label} (hp : step.permits s id l v)
    (m : Move id l v w) : w.Chained (old id) := by
  cases m with
  | create hid hfree =>
    obtain ⟨hruns, -⟩ := hs.blank hfree
    exact .of_stopped h.existing (fun i r hr => by simp [hruns] at hr)
      fun t ht => by cases ht; decide
  | record hid hfree =>
    obtain ⟨hruns, -⟩ := hs.blank hfree
    exact .of_stopped h.existing (fun i r hr => by simp [hruns] at hr)
      fun t ht => by cases ht; decide
  | addFinished ht htype hid hfree hr hw => exact h.setRun hfree (by simp [hr])
  | link ht htype himpl hval =>
    obtain ⟨hstopped, hdone⟩ := hrec (Step.records_of_link hp)
    refine .of_stopped h.existing hstopped fun u hu => ?_
    cases hu
    simp [hdone _ ht]
  | startPlanning ht hstage hidle hrun =>
    refine h.start hidle hrun.free (fun hs => ?_) (fun htype => ?_) fun htype => ?_
    · rcases hstage with h | h <;> simp [h] at hs
    · simp [hrun.ofType] at htype
    · simp [hrun.ofType] at htype
  | @propose _ t runId r n listed ht hstage hrun hnew =>
    refine .of_stopped (fun i hi => ?_) (fun i x hx => ?_) fun u hu => by cases hu; simp
    · exact (h.stopPlanning hrun.toRunning .finished (by decide)).existing i hi
    · exact hs.stopped_of_update hrun.toRunning (by decide) hx
  | @regenerate _ t finish previous n listed ht hfinish hnew hprevious =>
    rcases finish with - | ⟨runId, r⟩
    · exact .of_stopped h.existing hfinish fun u hu => by cases hu; simp
    · refine .of_stopped (fun i hi => ?_) (fun i x hx => ?_) fun u hu => by cases hu; simp
      · exact (h.stopPlanning hfinish .finished (by decide)).existing i hi
      · exact hs.stopped_of_update hfinish (by decide) hx
  | approve ht hstage hidle hplan hlisted hproposed =>
    exact .of_stopped h.existing hidle.stopped fun u hu => by cases hu; simp
  | reject ht hstage hlatest =>
    exact h.of_task rfl fun u hu => ⟨u, hu, rfl, rfl, h.implemented u hu⟩
  | startImplementation ht hstage haccepted hidle hrun hversion =>
    refine h.start hidle hrun.free (fun hs => by cases hs)
      (fun _ => ⟨_, hversion, haccepted.recorded⟩) fun htype => ?_
    simp [hrun.ofType] at htype
  | @resume _ t runId r n ht hstage haccepted hlock hrun =>
    refine ⟨h.existing, fun u hu hs => ?_, fun u i x hu hx => ?_, fun u i x hu hx => ?_⟩
    · cases hu
      cases hs
    · cases hu
      exact h.implementing t i x ht ⟨hx.stored, hx.ofType, hx.running⟩
    · have hi := hs.oneRunning _ _ _ _ hx.stored hrun.stored hx.running hrun.running
      subst hi
      cases hx.stored.symm.trans hrun.stored
      exact absurd (hx.ofType.symm.trans hrun.ofType) (by decide)
  | @finishImplementation _ t runId r ht hlatest hrun =>
    obtain ⟨⟨n, hn, hacc⟩, hnot⟩ := h.implementing t runId r ht hrun
    have hstopped {i : String} {x : RunCore}
        (hx : Function.update v.runs runId (some { r with status := .finished }) i = some x) :
        x.status ≠ .running := hs.stopped_of_update hrun (by decide) hx
    refine ⟨fun i hi => ?_, fun u hu _ => ?_, fun u i x hu hx => ?_, fun u i x hu hx => ?_⟩
    · by_cases hir : i = runId
      · subst hir
        simp [View.stop]
      · simpa [View.stop, Function.update_of_ne hir] using h.existing i hi
    · cases hu
      refine ⟨runId, hlatest, ⟨{ r with status := .finished }, n, ⟨?_, hrun.ofType, rfl⟩, hn, hacc⟩,
        hnot⟩
      simp [View.stop]
    · exact absurd hx.running (hstopped hx.stored)
    · exact absurd hx.running (hstopped hx.stored)
  | @startValidation _ t runId impl r ri ht hstage himpl hfinished hidle hrun hbased =>
    obtain ⟨impl', hf⟩ := h.implemented t ht hstage
    obtain rfl : impl = impl' := Option.some.inj (himpl.symm.trans hf.latest)
    have hf' : v.Fresh (old id) { t with validationRun := some runId } impl :=
      hf.mono rfl rfl fun _ hr => hr
    refine h.start hidle hrun.free (fun _ => ⟨impl, hf'⟩) (fun htype => ?_)
      fun _ => ⟨impl, hbased, hf'⟩
    simp [hrun.ofType] at htype
  | @finishValidation _ t runId r result ht hlatest hrun =>
    refine .of_stopped (fun i hi => ?_) (fun i x hx => ?_) fun u hu => ?_
    · by_cases hir : i = runId
      · subst hir
        simp [View.stop]
      · simpa [View.stop, Function.update_of_ne hir] using h.existing i hi
    · exact hs.stopped_of_update hrun (by cases result <;> decide) hx
    · cases hu
      cases result <;> simp [verdictStage]
  | @cancel _ t ht hstage =>
    exact (h.setTask (u := { t with stage := .cancelled }) ht rfl rfl (by simp)).setLock none
  | @uncancel _ t target ht hstage hlock htarget =>
    obtain ⟨rfl, task, hun, rfl⟩ := Step.permits_uncancel hp
    refine h.of_task rfl fun u hu => ?_
    cases hu
    refine ⟨t, ht, rfl, rfl, ?_⟩
    rintro rfl
    obtain ⟨impl, hf⟩ := hc.uncancels task hun
    have htask : (s.view task.id).task = some task.core := by
      unfold Step.Uncancels at hun
      split at hun
      · exact view_resolved (uncancellationOf_eq_ok hsound hun).found
      · exact hun.elim
    cases ht.symm.trans htask
    exact ⟨impl, hf⟩
  | archive ht harchived hstage => exact h.setTask ht rfl rfl fun hst => hst
  | @unarchive _ t reopen ht harchived hstage =>
    refine h.setTask ht rfl rfl fun hst => ?_
    by_cases hopen : reopen = true ∧ t.stage = .implemented
    · exact hopen.2
    · simpa [unarchivedStage, hopen] using hst
  | dropLock => exact h.setLock none
  | repairRun hlock hrun => exact h.stopPlanning hrun _ (by decide)

-- ════════════════════════════════════════════════════════════════════════
-- Reopening
-- ════════════════════════════════════════════════════════════════════════

theorem label_of_reopens {step : Step} (h : step.reopens) {l : Label}
    (hp : step.permits s id l v) :
    ∃ task, l = .unarchive true ∧ v = s.view id ∧ step.Unarchives s task true ∧ task.id = id := by
  obtain ⟨ref, reason, slug, hop⟩ := h
  unfold Step.permits at hp
  rw [hop] at hp
  obtain ⟨task, reopen, rfl, hv, hun, hid⟩ := hp
  have hopen : true = reopen := by
    unfold Step.Unarchives at hun
    rw [hop] at hun
    exact hun.2
  subst hopen
  exact ⟨task, rfl, hv, hun, hid⟩

omit [Runtime] in
/-- A task that is reopened has no work under way, and starts over. -/
theorem View.Chained.reopened {t : TaskCore} (hrunning : ∀ runId r, v.runs runId = some r →
    r.status = .running → r.runType = .planning) :
    (v.setTask { t with archived := false, stage := unarchivedStage true t.stage }).Chained
      fun runId => v.runs runId ≠ none where
  existing _ h := h
  implemented u hu hs := by
    cases hu
    by_cases hst : t.stage = .implemented
    · simp [unarchivedStage, hst] at hs
    · simp [unarchivedStage, hst] at hs
  implementing u runId r _ hr := by
    have htype := hr.ofType
    rw [hrunning runId r hr.stored hr.running] at htype
    cases htype
  validating u runId r _ hr := by
    have htype := hr.ofType
    rw [hrunning runId r hr.stored hr.running] at htype
    cases htype

/-- What a reopening leaves of a task: the task as it was, or reopened. -/
def Step.ReopenedView (step : Step) (s : Ledger) (id : String) (v : View) : Prop :=
  v = s.view id ∨ ∃ t, (s.view id).task = some t ∧ t.archived = true ∧
    v = (s.view id).setTask { t with archived := false, stage := unarchivedStage true t.stage } ∧
    ∃ task, step.Unarchives s task true ∧ task.id = id

theorem Step.reopenedView {step : Step} (hs : s.Sound) (hr : step.reopens) (id : String) :
    step.ReopenedView s id ((step.next s).view id) := by
  refine (step.evolves hs).invariant (I := fun id v => step.ReopenedView s id v) ?_
    (fun _ => .inl rfl) id
  intro id l v w _ hp hm
  obtain ⟨task, rfl, rfl, hun, hid⟩ := label_of_reopens hr hp
  cases hm with
  | unarchive ht harchived hstage => exact .inr ⟨_, ht, harchived, rfl, task, hun, hid⟩

theorem archived_resolved {ref : String} {includeArchived : Bool} {t : TaskRecord} {c : TaskCore}
    (h : resolveTask ref includeArchived s = .ok t) (hc : (s.view t.id).task = some c) :
    isArchivedTask t = c.archived := by
  cases (view_resolved h).symm.trans hc
  rfl

/-- A step that reopens tasks keeps the evidence of those it does not reopen, and starts
over for the one it does. -/
theorem Step.chained_of_reopens {step : Step} {old : String → String → Prop}
    (hc : step.KeepsFresh ⟨s, old⟩) (hs : s.Sound) (h : (s.view id).Chained (old id))
    (hr : step.reopens) : ((step.next s).view id).Chained (step.nextStale ⟨s, old⟩ id) := by
  rcases step.reopenedView hs hr id with hv | ⟨t, ht, harchived, hv, task, hun, rfl⟩
  · have hnot : ¬ step.Reopens s id := by
      rintro ⟨-, hpre, hpost⟩
      rw [hv, hpre] at hpost
      cases hpost
    have hstale : step.nextStale ⟨s, old⟩ id = old id := by
      funext runId
      simp [Step.nextStale, hnot]
    rw [hv, hstale]
    exact h
  · have hreopens : step.Reopens s task.id := by
      refine ⟨hr, ?_, ?_⟩
      · simp [View.archived, ht, harchived]
      · rw [hv]
        rfl
    have hstale : step.nextStale ⟨s, old⟩ task.id = fun runId => (s.view task.id).runs runId ≠ none := by
      funext runId
      simp [Step.nextStale, hreopens]
    have hfound : ∃ ref, resolveTask ref true s = .ok task := by
      unfold Step.Unarchives at hun
      split at hun
      · exact ⟨_, hun.1⟩
      · exact hun.elim
    obtain ⟨ref, hfound⟩ := hfound
    rw [hv, hstale]
    exact View.Chained.reopened
      (hc.reopens task hun ((archived_resolved hfound ht).trans harchived))

/-- Every step that keeps the evidence fresh keeps it chained. -/
theorem Step.chained {step : Step} {old : String → String → Prop}
    (hc : step.KeepsFresh ⟨s, old⟩) (hs : s.Sound) (h : ∀ id, (s.view id).Chained (old id))
    (id : String) : ((step.next s).view id).Chained (step.nextStale ⟨s, old⟩ id) := by
  by_cases hr : step.reopens
  · exact step.chained_of_reopens hc hs (h id) hr
  have hstale (id : String) : step.nextStale ⟨s, old⟩ id = old id := by
    funext runId
    simp [Step.nextStale, Step.Reopens, hr]
  rw [hstale]
  have hall := (step.evolves hs).invariant
    (I := fun id v => v.Sound id ∧ v.Chained (old id) ∧ (step.records s id → v.Recorded))
    (fun id l v w hi hp hm => ⟨Move.sound hi.1 hm, Move.chained hc hs hi.1 hi.2.1 hi.2.2 hp hm,
      fun hrec => Move.recorded (hi.2.2 hrec) (label_of_records hrec hp) hm⟩)
    (fun id => ⟨hs id, h id, fun hrec => ?_⟩)
  · exact (hall id).2.1
  · obtain ⟨hruns, -⟩ := (hs id).blank hrec.2
    exact ⟨fun i r hir => by simp [hruns] at hir, fun t ht => by simp [hrec.2] at ht⟩

theorem Reachable.chained {h : History}
    (hr : historied.Reachable (fun h step => step.KeepsFresh h) h) :
    h.ledger.Sound ∧ ∀ id, (h.ledger.view id).Chained (h.stale id) := by
  refine hr.invariant (I := fun h => h.ledger.Sound ∧
    ∀ id, (h.ledger.view id).Chained (h.stale id)) ?_ ?_
  · refine ⟨sound_empty, fun id => ?_⟩
    constructor <;> simp [historied, Ledger.view, Ledger.empty]
  · intro h step _ hi hc
    exact ⟨step.sound hi.1, fun id => step.chained hc hi.1 hi.2 id⟩

/-- Only the verdict on a running validation makes a task done. -/
theorem Move.verdict_of_done {l : Label} (m : Move id l v w) {a : TaskStatusStage}
    (ha : v.stage = some a) (hne : a ≠ .done) (hdone : w.stage = some .done) :
    (∃ result, l = .finishValidation result ∧ verdictStage result = .done) ∧
      ∃ t runId r, v.task = some t ∧ t.validationRun = some runId ∧
        v.Running runId r .validation := by
  have hbefore {t : TaskCore} (ht : v.task = some t) : t.stage ≠ .done := by
    have hstage : t.stage = a := by simpa [View.stage, ht] using ha
    rw [hstage]
    exact hne
  cases m with
  | record hid hfree => simp [View.stage, hfree] at ha
  | finishValidation ht hlatest hrun =>
    exact ⟨⟨_, rfl, Option.some.inj hdone⟩, _, _, _, ht, hlatest, hrun⟩
  | addFinished | reject | dropLock | repairRun =>
    exact absurd (Option.some.inj (ha.symm.trans hdone)) hne
  | @uncancel _ t target ht hstage hlock htarget =>
    obtain rfl : target = .done := Option.some.inj hdone
    exact htarget.elim
  | link ht htype himpl hval => exact (hbefore ht (Option.some.inj hdone)).elim
  | startPlanning ht hstage hidle hrun => exact (hbefore ht (Option.some.inj hdone)).elim
  | startValidation ht hstage himpl hfinished hidle hrun hbased =>
    exact (hbefore ht (Option.some.inj hdone)).elim
  | archive ht harchived hstage => exact (hbefore ht (Option.some.inj hdone)).elim
  | @unarchive _ t reopen ht harchived hstage =>
    have hst : unarchivedStage reopen t.stage = .done := Option.some.inj hdone
    by_cases hopen : reopen = true ∧ t.stage = .implemented
    · simp [unarchivedStage, hopen] at hst
    · rw [unarchivedStage, if_neg hopen] at hst
      exact absurd hst (hbefore ht)
  | _ => exact absurd (Option.some.inj hdone) (by simp [newCore])

/-- A task comes to be done on a validation of its latest implementation, a finished one
of its accepted plan that did not exist when the task was last reopened. -/
theorem done_on_fresh_evidence {h : History}
    (hr : historied.Reachable (fun h step => step.KeepsFresh h) h) {step : Step}
    {t t' : TaskRecord} (ht : t ∈ h.ledger.tasks.files)
    (ht' : t' ∈ (step.next h.ledger).tasks.files) (hid : t'.id = t.id)
    (hstage : t.statusStage ≠ .done) (hdone : t'.statusStage = .done) :
    ∃ val ∈ h.ledger.runs.files, ∃ impl ∈ h.ledger.runs.files,
      val.taskId = t.id ∧ impl.taskId = t.id ∧ t.latestValidationRun = some val.runId ∧
      val.basedOnImplementationRun = some impl.runId ∧
      t.latestImplementationRun = some impl.runId ∧ impl.runType = .implementation ∧
      impl.status = .finished ∧
      (∃ n, impl.readPlanVersion = some n ∧ t.acceptedPlanVersion = some n) ∧
      ¬ h.stale t.id impl.runId := by
  obtain ⟨hsound, hchained⟩ := Reachable.chained hr
  have hbefore : (h.ledger.view t.id).stage = some t.statusStage := stage_file ht
  have hafter : ((step.next h.ledger).view t.id).stage = some .done := by
    rw [← hid, stage_file ht', hdone]
  have hobs := (step.evolves hsound).observe (I := fun _ _ => True)
    (fun _ _ _ _ _ _ _ => trivial) (fun _ _ _ _ _ hq hm => Move.stage_of_quiet hq hm)
    (fun _ => trivial) t.id
  rcases hobs with hsame | ⟨l, u, x, -, hp, hm, hu, hx⟩
  · exact absurd (Option.some.inj (hbefore.symm.trans (hsame.symm.trans hafter))) hstage
  obtain ⟨⟨result, rfl, -⟩, c, runId, r, hc, hlatest, hrun⟩ :=
    Move.verdict_of_done hm (hu.trans hbefore) hstage (hx.trans hafter)
  obtain ⟨rfl, -⟩ := Step.permits_finishValidation hp
  obtain ⟨impl, hbased, hfresh⟩ := (hchained t.id).validating c runId r hc hrun
  obtain ⟨ri, n, ⟨hri, htype, hstatus⟩, hn, hacc⟩ := hfresh.implemented
  cases (view_file_task ht).symm.trans hc
  obtain ⟨val, hval, rfl⟩ := Option.map_eq_some_iff.1 hrun.stored
  obtain ⟨irun, hirun, rfl⟩ := Option.map_eq_some_iff.1 hri
  have hvkey := Directory.key_of_lookup hval
  have hikey := Directory.key_of_lookup hirun
  have hvid : val.runId = runId := congrArg Prod.snd hvkey
  have hiid : irun.runId = impl := congrArg Prod.snd hikey
  exact ⟨val, Directory.mem_of_lookup hval, irun, Directory.mem_of_lookup hirun,
    congrArg Prod.fst hvkey, congrArg Prod.fst hikey, hvid ▸ hlatest, hiid ▸ hbased,
    hiid ▸ hfresh.latest, htype, hstatus, ⟨n, hn, hacc⟩, hiid ▸ hfresh.notStale⟩

omit [Runtime] in
/-- The operations whose evidence has to be looked at. -/
def Op.skipsEvidence : Op → Bool
  | .uncancelTask _ _ _ _ _ => true
  | .unarchiveTask _ _ _ _ => true
  | _ => false

theorem Step.keepsFresh_of_op {step : Step} (h : step.op.skipsEvidence = false) (x : History) :
    step.KeepsFresh x := by
  obtain ⟨env, op⟩ := step
  cases op with
  | uncancelTask | unarchiveTask => cases h
  | _ => exact ⟨fun _ h => h.elim, fun _ h => h.elim⟩

end Invariant

section Evaluation

attribute [local instance] plainRuntime

/-- The history of operations of one process. -/
def historyOf (ops : List Op) : History := historied.run historied.init (ops.map (Step.mk plainEnv))

theorem reachable_historyOf {ops : List Op} (h : ∀ op ∈ ops, op.skipsEvidence = false) :
    historied.Reachable (fun h step => step.KeepsFresh h) (historyOf ops) := by
  refine System.Reachable.run .init ?_
  generalize historied.init = x
  induction ops generalizing x with
  | nil => trivial
  | cons op rest ih =>
    exact ⟨Step.keepsFresh_of_op (h op (by simp)) x, ih (fun o ho => h o (by simp [ho])) _⟩

/-- A check of the first criterion. -/
def passingCheck : Op := .recorder (.addValidationCheck "task-0001"
  { criterionId := some "ac-0001", status := "pass", evidence := ["ran"] })

/-- A task whose validation may pass. -/
def validatedOps : List Op :=
  approvedOps ++ [.startImplementation "task-0001" none none,
    .finishImplementation "task-0001" "done", .startValidation "task-0001" none none, passingCheck]

/-- The verdict that ends a validation well. -/
def passing : Step := ⟨plainEnv, .finishValidation "task-0001" "passed" "fine" none⟩

theorem done_on_fresh_evidence_validated :
    ∃ t ∈ (historyOf validatedOps).ledger.tasks.files, t.statusStage = .implemented ∧
      ∃ val ∈ (historyOf validatedOps).ledger.runs.files,
        ∃ impl ∈ (historyOf validatedOps).ledger.runs.files,
          t.latestValidationRun = some val.runId ∧
          val.basedOnImplementationRun = some impl.runId ∧ impl.status = .finished := by
  have hops : ∀ op ∈ validatedOps, op.skipsEvidence = false := by decide
  have hstages : ∃ t ∈ (historyOf validatedOps).ledger.tasks.files,
      ∃ t' ∈ (passing.next (historyOf validatedOps).ledger).tasks.files, t'.id = t.id ∧
        t.statusStage = .implemented ∧ t'.statusStage = .done := by decide +kernel
  obtain ⟨t, ht, t', ht', hid, hstage, hdone⟩ := hstages
  have hne : t.statusStage ≠ .done := by
    rw [hstage]
    decide
  obtain ⟨val, hval, impl, himpl, -, -, hlatest, hbased, -, -, hstatus, -⟩ :=
    done_on_fresh_evidence (reachable_historyOf hops) ht ht' hid hne hdone
  exact ⟨t, ht, hstage, val, hval, impl, himpl, hlatest, hbased, hstatus⟩

/-- An implemented task is cancelled, planned and approved again, cancelled and
uncancelled to `implemented`. -/
def supersededOps : List Op :=
  approvedOps ++ [.startImplementation "task-0001" none none,
    .finishImplementation "task-0001" "done", .cancelTask "task-0001" none,
    .uncancelTask "task-0001" (some "draft") "again" (some plainUser) true,
    .startPlanning "task-0001" none none,
    .proposePlan "task-0001" "Do it better." ["it works better"],
    .approvePlan "task-0001" 2 plainApproval, .cancelTask "task-0001" none,
    .uncancelTask "task-0001" none "again" (some plainUser) true,
    .startValidation "task-0001" none none, passingCheck]

/-- The task is done on an implementation of the superseded plan. -/
theorem done_on_superseded_plan :
    (afterOps supersededOps).Reachable ∧
      ∃ t ∈ (afterOps supersededOps).tasks.files,
        ∃ t' ∈ (passing.next (afterOps supersededOps)).tasks.files,
          t'.id = t.id ∧ t.statusStage = .implemented ∧ t'.statusStage = .done ∧
          t.acceptedPlanVersion = some 2 ∧
          ∃ impl ∈ (afterOps supersededOps).runs.files,
            t.latestImplementationRun = some impl.runId ∧ impl.readPlanVersion = some 1 := by
  refine ⟨reachable_afterOps _, ?_⟩
  decide +kernel

end Evaluation

end Taskledger
