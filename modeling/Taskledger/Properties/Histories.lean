import Taskledger.Lifecycle.Steps

/-!
# Histories

What a ledger has recorded of a task is kept in every run that goes on from it: runs that have
ended stay as they ended, plan versions only move on, and no operation takes an approval back.
A managed command is one step of these runs: what happens while its shell command runs, and is
then overwritten, is not among them.
-/

namespace Taskledger

open Library Action Lifecycle

/-- How far a plan has come. -/
def PlanStatus.rank : PlanStatus → Nat
  | .draft => 0
  | .proposed => 1
  | .accepted => 2
  | .superseded => 3
  | .rejected => 4

-- ════════════════════════════════════════════════════════════════════════
-- What goes on from a view
-- ════════════════════════════════════════════════════════════════════════

/-- A later run: only a running one has changed, and only its status. -/
structure RunCore.Continues (r r' : RunCore) : Prop where
  same : r' = { r with status := r'.status }
  ended : r.status ≠ .running → r' = r

/-- A later plan: it is listed as before, and has not gone back. -/
structure PlanCore.Continues (p p' : PlanCore) : Prop where
  listed : p'.listed = p.listed
  approved : p.approved = true → p'.approved = true
  forward : p.status.rank ≤ p'.status.rank

/-- A later task: its type is the same, and what was accepted is followed by a version that is not
smaller. -/
structure TaskCore.Continues (t t' : TaskCore) : Prop where
  ofType : t'.taskType = t.taskType
  accepted : ∀ n, t.accepted = some n → ∃ m, t'.accepted = some m ∧ n ≤ m

/-- A later view of a task. -/
structure View.Continues (v w : View) : Prop where
  task : ∀ t, v.task = some t → ∃ t', w.task = some t' ∧ t.Continues t'
  runs : ∀ runId r, v.runs runId = some r → ∃ r', w.runs runId = some r' ∧ r.Continues r'
  plans : ∀ n p, v.plans n = some p → ∃ p', w.plans n = some p' ∧ p.Continues p'

section Continuing

variable {v w x : View} {t u : TaskCore} {r : RunCore} {p : PlanCore} {runId : String} {n : Nat}

theorem RunCore.Continues.refl (r : RunCore) : r.Continues r := ⟨rfl, fun _ => rfl⟩

theorem RunCore.Continues.trans {r' r'' : RunCore} (h : r.Continues r') (h' : r'.Continues r'') :
    r.Continues r'' := by
  constructor
  · rw [h'.same, h.same]
  · intro hended
    have hsame := h.ended hended
    rw [hsame] at h'
    exact h'.ended hended

/-- A running run may end in any way. -/
theorem RunCore.Continues.of_running (h : r.status = .running) (status : RunStatus) :
    r.Continues { r with status := status } :=
  ⟨rfl, fun hended => absurd h hended⟩

theorem PlanCore.Continues.refl (p : PlanCore) : p.Continues p := ⟨rfl, id, le_rfl⟩

theorem PlanCore.Continues.trans {p' p'' : PlanCore} (h : p.Continues p') (h' : p'.Continues p'') :
    p.Continues p'' :=
  ⟨h'.listed.trans h.listed, h'.approved ∘ h.approved, h.forward.trans h'.forward⟩

theorem TaskCore.Continues.refl (t : TaskCore) : t.Continues t :=
  ⟨rfl, fun n hn => ⟨n, hn, le_rfl⟩⟩

theorem TaskCore.Continues.trans {t' t'' : TaskCore} (h : t.Continues t') (h' : t'.Continues t'') :
    t.Continues t'' := by
  refine ⟨h'.ofType.trans h.ofType, fun n hn => ?_⟩
  obtain ⟨m, hm, hle⟩ := h.accepted n hn
  obtain ⟨k, hk, hle'⟩ := h'.accepted m hm
  exact ⟨k, hk, hle.trans hle'⟩

/-- A task of the same type and acceptance. -/
theorem TaskCore.Continues.of_eq (htype : u.taskType = t.taskType) (ha : u.accepted = t.accepted) :
    t.Continues u :=
  ⟨htype, fun n hn => ⟨n, ha.trans hn, le_rfl⟩⟩

namespace View.Continues

theorem refl (v : View) : v.Continues v where
  task t ht := ⟨t, ht, .refl t⟩
  runs _ r hr := ⟨r, hr, .refl r⟩
  plans _ p hp := ⟨p, hp, .refl p⟩

theorem trans (h : v.Continues w) (h' : w.Continues x) : v.Continues x where
  task t ht := by
    obtain ⟨t', ht', hgo⟩ := h.task t ht
    obtain ⟨t'', ht'', hgo'⟩ := h'.task t' ht'
    exact ⟨t'', ht'', hgo.trans hgo'⟩
  runs runId r hr := by
    obtain ⟨r', hr', hgo⟩ := h.runs runId r hr
    obtain ⟨r'', hr'', hgo'⟩ := h'.runs runId r' hr'
    exact ⟨r'', hr'', hgo.trans hgo'⟩
  plans n p hp := by
    obtain ⟨p', hp', hgo⟩ := h.plans n p hp
    obtain ⟨p'', hp'', hgo'⟩ := h'.plans n p' hp'
    exact ⟨p'', hp'', hgo.trans hgo'⟩

theorem setTask (h : ∀ t, v.task = some t → t.Continues u) : v.Continues (v.setTask u) where
  task t ht := ⟨u, rfl, h t ht⟩
  runs := (refl v).runs
  plans := (refl v).plans

/-- The task is written with another stage, archived flag or link. -/
theorem setTask_of_eq (ht : v.task = some t) (htype : u.taskType = t.taskType)
    (ha : u.accepted = t.accepted) : v.Continues (v.setTask u) := by
  refine setTask fun t' ht' => ?_
  cases ht.symm.trans ht'
  exact .of_eq htype ha

theorem setLock (l : Option LockCore) : v.Continues (v.setLock l) :=
  ⟨(refl v).task, (refl v).runs, (refl v).plans⟩

theorem setRun (h : ∀ r', v.runs runId = some r' → r'.Continues r) :
    v.Continues (v.setRun runId r) where
  task := (refl v).task
  runs i r' hr' := by
    by_cases hi : i = runId
    · subst hi
      exact ⟨r, Function.update_self .., h r' hr'⟩
    · refine ⟨r', ?_, .refl r'⟩
      rwa [setRun_runs, Function.update_of_ne hi]
  plans := (refl v).plans

theorem setNewRun (hfree : v.runs runId = none) : v.Continues (v.setRun runId r) := by
  refine setRun fun r' hr' => ?_
  cases hfree.symm.trans hr'

/-- A running run ends. -/
theorem endRun {runType : RunType} (h : v.Running runId r runType) (status : RunStatus) :
    v.Continues (v.setRun runId { r with status := status }) := by
  refine setRun fun r' hr' => ?_
  cases h.stored.symm.trans hr'
  exact .of_running h.running status

theorem setPlan (h : ∀ p', v.plans n = some p' → p'.Continues p) : v.Continues (v.setPlan n p) where
  task := (refl v).task
  runs := (refl v).runs
  plans m p' hp' := by
    by_cases hm : m = n
    · subst hm
      exact ⟨p, Function.update_self .., h p' hp'⟩
    · refine ⟨p', ?_, .refl p'⟩
      rwa [setPlan_plans, Function.update_of_ne hm]

theorem setNewPlan (hfree : v.plans n = none) : v.Continues (v.setPlan n p) := by
  refine setPlan fun p' hp' => ?_
  cases hfree.symm.trans hp'

/-- A new run under a new lock. -/
theorem start (hfree : v.runs runId = none) (ht : v.task = some t) (htype : u.taskType = t.taskType)
    (ha : u.accepted = t.accepted) : v.Continues (v.start runId r u) :=
  ((setNewRun hfree).trans (setLock _)).trans (setTask_of_eq (t := t) ht htype ha)

/-- A running run ends, and the lock goes. -/
theorem stop {runType : RunType} (h : v.Running runId r runType) (status : RunStatus)
    (ht : v.task = some t) (htype : u.taskType = t.taskType) (ha : u.accepted = t.accepted) :
    v.Continues (v.stop runId r status u) :=
  ((endRun h status).trans (setTask_of_eq (t := t) ht htype ha)).trans (setLock none)

end View.Continues

/-- The approval of a proposed plan, seen from each plan of the task. -/
theorem PlanCore.Continues.approvedPlan
    (hp : ∀ m q, v.plans m = some q → m = n → q.status = .proposed)
    {m : Nat} {q : PlanCore} (hq : v.plans m = some q) : q.Continues (View.approvedPlan n m q) := by
  unfold View.approvedPlan
  split
  · exact .refl q
  · split
    · rename_i hmn
      refine ⟨rfl, fun _ => rfl, ?_⟩
      rw [hp m q hq hmn]
      exact Nat.le_succ 1
    · split
      · exact .refl q
      · rename_i hrejected
        refine ⟨rfl, id, ?_⟩
        cases hs : q.status with
        | rejected => exact absurd hs hrejected
        | _ => exact Nat.le_of_ble_eq_true rfl

/-- The plans of a regeneration: a new one, and the one before it superseded. -/
theorem View.Continues.regenerate {finish : Option (String × RunCore)}
    {previous : Option (Nat × PlanCore)} (hfinish : v.ToFinish finish) (hnew : v.NewVersion n)
    (hprevious : ∀ m p, previous = some (m, p) → v.Latest m p) (ht : v.task = some t)
    (htype : u.taskType = t.taskType) (ha : u.accepted = t.accepted) :
    v.Continues (v.regenerate n p previous finish u) where
  task := ((setTask_of_eq ht htype ha : v.Continues (v.setTask u))).task
  runs := by
    cases finish with
    | none => exact (refl v).runs
    | some f => exact (endRun hfinish .finished).runs
  plans := by
    have hadded : v.Continues (v.setPlan n p) := setNewPlan hnew.free
    cases previous with
    | none => exact hadded.plans
    | some q =>
      obtain ⟨m, q⟩ := q
      have hlatest := hprevious m q rfl
      unfold View.regenerate View.demote
      dsimp only
      split
      · rename_i hproposed
        refine (hadded.trans (setPlan (n := m) (p := { q with status := .superseded })
          fun p' hp' => ?_)).plans
        have hne : m ≠ n := by
          rintro rfl
          cases hnew.free.symm.trans hlatest.stored
        rw [setPlan_plans, Function.update_of_ne hne] at hp'
        cases hlatest.stored.symm.trans hp'
        refine ⟨rfl, id, ?_⟩
        rw [hproposed]
        exact Nat.le_add_right 1 2
      · exact hadded.plans

end Continuing

-- ════════════════════════════════════════════════════════════════════════
-- Approvals
-- ════════════════════════════════════════════════════════════════════════

/-- What is known of the acceptances of a task: an accepted plan was approved, and is the one that
the task has recorded; what is proposed is newer. -/
structure View.Approvals (v : View) : Prop where
  accepted : ∀ n p, v.plans n = some p → p.status = .accepted →
    p.listed = true ∧ p.approved = true ∧ ∃ t, v.task = some t ∧ t.accepted = some n
  recorded : ∀ t n, v.task = some t → t.accepted = some n →
    ∃ p, v.plans n = some p ∧ p.listed = true ∧ p.approved = true
  newer : ∀ t n m p, v.task = some t → t.accepted = some n → v.plans m = some p →
    p.listed = true → p.status = .proposed → n < m

namespace View.Approvals

variable {v w : View} {t u : TaskCore} {n : Nat} {p : PlanCore}

/-- The same plans, and a task with the same acceptance. -/
theorem of_task (h : v.Approvals) (ht : v.task = some t) (hw : w.task = some u)
    (ha : u.accepted = t.accepted) (hplans : w.plans = v.plans) : w.Approvals where
  accepted n p hp hs := by
    rw [hplans] at hp
    obtain ⟨hlisted, happroved, t', ht', hn⟩ := h.accepted n p hp hs
    cases ht.symm.trans ht'
    exact ⟨hlisted, happroved, u, hw, ha.trans hn⟩
  recorded u' n hu' hn := by
    cases hw.symm.trans hu'
    rw [hplans]
    exact h.recorded t n ht (ha.symm.trans hn)
  newer u' n m p hu' hn hp := by
    cases hw.symm.trans hu'
    rw [hplans] at hp
    exact h.newer t n m p ht (ha.symm.trans hn) hp

theorem setTask (h : v.Approvals) (ht : v.task = some t) (ha : u.accepted = t.accepted) :
    (v.setTask u).Approvals :=
  h.of_task ht rfl ha rfl

/-- The same task and plans. -/
theorem of_same (h : v.Approvals) (htask : w.task = v.task) (hplans : w.plans = v.plans) :
    w.Approvals := by
  refine ⟨fun n p hp hs => ?_, fun t n ht hn => ?_, fun t n m p ht hn hp => ?_⟩
  · rw [hplans] at hp
    rw [htask]
    exact h.accepted n p hp hs
  · rw [htask] at ht
    rw [hplans]
    exact h.recorded t n ht hn
  · rw [htask] at ht
    rw [hplans] at hp
    exact h.newer t n m p ht hn hp

/-- A new plan is proposed under a new version. -/
theorem propose (h : v.Approvals) (hnew : v.NewVersion n) (hp : p.status = .proposed)
    (ht : v.task = some t) (hw : w.task = some u) (ha : u.accepted = t.accepted)
    (hplans : w.plans = (v.setPlan n p).plans) : w.Approvals := by
  refine View.Approvals.of_task (v := v.setPlan n p) ?_ (t := t) ht hw ha hplans
  refine ⟨fun m q hq hs => ?_, fun t' m ht' hm => ?_, fun t' m k q ht' hm hq hlisted hs => ?_⟩
  · rw [setPlan_plans, Function.update_apply] at hq
    split at hq
    · cases hq
      cases hp.symm.trans hs
    · exact h.accepted m q hq hs
  · obtain ⟨q, hq, hrest⟩ := h.recorded t' m ht' hm
    have hne : m ≠ n := by
      rintro rfl
      cases hnew.free.symm.trans hq
    exact ⟨q, by rwa [setPlan_plans, Function.update_of_ne hne], hrest⟩
  · rw [setPlan_plans, Function.update_apply] at hq
    split at hq
    · rename_i hk
      obtain ⟨q', hq', hlisted', -⟩ := h.recorded t' m ht' hm
      rw [hk]
      exact hnew.after m q' hq' hlisted'
    · exact h.newer t' m k q ht' hm hq hlisted hs

/-- A listed plan is superseded or rejected. -/
theorem setPlan (h : v.Approvals) {status : PlanStatus} (hp : v.plans n = some p)
    (hstatus : status ≠ .accepted ∧ status ≠ .proposed) :
    (v.setPlan n { p with status := status }).Approvals := by
  refine ⟨fun m q hq hs => ?_, fun t m ht hm => ?_, fun t m k q ht hm hq hlisted hs => ?_⟩
  · rw [setPlan_plans, Function.update_apply] at hq
    split at hq
    · cases hq
      exact absurd hs hstatus.1
    · exact h.accepted m q hq hs
  · obtain ⟨q, hq, hlisted, happroved⟩ := h.recorded t m ht hm
    by_cases hmn : m = n
    · subst hmn
      cases hp.symm.trans hq
      exact ⟨_, Function.update_self .., hlisted, happroved⟩
    · exact ⟨q, by rwa [setPlan_plans, Function.update_of_ne hmn], hlisted, happroved⟩
  · rw [setPlan_plans, Function.update_apply] at hq
    split at hq
    · cases hq
      exact absurd hs hstatus.2
    · exact h.newer t m k q ht hm hq hlisted hs

/-- The approval of a listed plan: no other plan stays accepted or proposed. -/
theorem approve (h : v.Approvals) (hp : v.plans n = some p)
    (hlisted : p.listed = true) (ha : u.accepted = some n) : (v.approve n u).Approvals := by
  have hcase {m : Nat} {q q' : PlanCore} (hq : v.plans m = some q)
      (hq' : View.approvedPlan n m q = q') (hlisted' : q'.listed = true)
      (hs : q'.status = .accepted ∨ q'.status = .proposed) :
      m = n ∧ q' = { q with status := .accepted, approved := true } := by
    unfold View.approvedPlan at hq'
    split at hq'
    · rename_i hno
      rw [← hq', hno] at hlisted'
      cases hlisted'
    · split at hq'
      · rename_i hm
        exact ⟨hm, hq'.symm⟩
      · split at hq' <;> rename_i hrejected <;> rw [← hq'] at hs <;> rcases hs with hs | hs
        · cases hrejected.symm.trans hs
        · cases hrejected.symm.trans hs
        · cases hs
        · cases hs
  refine ⟨fun m q hq hs => ?_, fun u' m hu' hm => ?_, fun u' m k q hu' hm hq hl hs => ?_⟩
  · obtain ⟨q', hq', hq⟩ := Option.map_eq_some_iff.1 hq
    have hlisted' : q.listed = true := by
      cases hl : q'.listed with
      | true =>
        rw [← hq]
        unfold View.approvedPlan
        split
        · exact hl
        · split
          · exact hl
          · split <;> exact hl
      | false =>
        have hsame : q = q' := by
          rw [← hq, View.approvedPlan, if_pos hl]
        rw [hsame] at hs
        cases hl.symm.trans (h.accepted m q' hq' hs).1
    obtain ⟨rfl, rfl⟩ := hcase hq' hq hlisted' (.inl hs)
    exact ⟨hlisted', rfl, u, rfl, ha⟩
  · cases hu'
    cases ha.symm.trans hm
    refine ⟨View.approvedPlan n n p, Option.map_eq_some_iff.2 ⟨p, hp, rfl⟩, ?_, ?_⟩
    · rw [View.approvedPlan, if_neg (by simp [hlisted]), if_pos rfl]
      exact hlisted
    · rw [View.approvedPlan, if_neg (by simp [hlisted]), if_pos rfl]
  · obtain ⟨q', hq', hq⟩ := Option.map_eq_some_iff.1 hq
    obtain ⟨rfl, rfl⟩ := hcase hq' hq hl (.inr hs)
    cases hs

end View.Approvals

-- ════════════════════════════════════════════════════════════════════════
-- The moves
-- ════════════════════════════════════════════════════════════════════════

section Moves

variable [Runtime] {id : String} {v w : View} {label : Label}

theorem Move.approvals (hs : v.Sound id) (h : v.Approvals) (m : Move id label v w) :
    w.Approvals := by
  have hnew (t : TaskCore) (hfree : v.task = none) (ht : t.accepted = none) :
      (v.setTask t).Approvals := by
    have hplans := (hs.blank hfree).2.1
    refine ⟨fun n p hp => ?_, fun u n hu hn => ?_, fun u n m p hu hn => ?_⟩
    · cases (hplans n).symm.trans hp
    · cases hu
      cases ht.symm.trans hn
    · cases hu
      cases ht.symm.trans hn
  cases m with
  | create hid hfree => exact hnew _ hfree rfl
  | record hid hfree => exact hnew _ hfree rfl
  | addFinished ht htype hid hfree hr hw => exact h.of_same rfl rfl
  | link ht htype himpl hval => exact h.setTask ht rfl
  | startPlanning ht hstage hidle hrun => exact h.of_task ht rfl rfl rfl
  | propose ht hstage hrun hnew => exact h.propose hnew rfl ht rfl rfl rfl
  | @regenerate _ t finish previous n listed ht hfinish hnew hprevious =>
    have hproposed : ((v.setPlan n ⟨.proposed, false, listed⟩).setTask
        { t with stage := .planReview }).Approvals := h.propose hnew rfl ht rfl rfl rfl
    cases previous with
    | none => exact hproposed.of_same rfl rfl
    | some q =>
      obtain ⟨m, q⟩ := q
      have hlatest := hprevious m q rfl
      have hne : m ≠ n := by
        rintro rfl
        cases hnew.free.symm.trans hlatest.stored
      have hq : ((v.setPlan n ⟨.proposed, false, listed⟩).setTask
          { t with stage := .planReview }).plans m = some q := by
        rw [View.setTask_plans, View.setPlan_plans, Function.update_of_ne hne]
        exact hlatest.stored
      by_cases hstatus : q.status = .proposed
      · have hsuperseded : View.Approvals <|
            ((v.setPlan n ⟨.proposed, false, listed⟩).setTask
              { t with stage := .planReview }).setPlan m { q with status := .superseded } :=
          hproposed.setPlan hq ⟨nofun, nofun⟩
        refine hsuperseded.of_same rfl ?_
        unfold View.regenerate View.demote
        dsimp only
        rw [if_pos hstatus]
        rfl
      · refine hproposed.of_same rfl ?_
        unfold View.regenerate View.demote
        dsimp only
        rw [if_neg hstatus]
        rfl
  | approve ht hstage hidle hplan hlisted hproposed => exact h.approve hplan hlisted rfl
  | reject ht hstage hlatest => exact h.setPlan hlatest.stored ⟨nofun, nofun⟩
  | startImplementation ht hstage haccepted hidle hrun hversion => exact h.of_task ht rfl rfl rfl
  | resume ht hstage haccepted hlock hrun => exact h.of_task ht rfl rfl rfl
  | finishImplementation ht hlatest hrun => exact h.of_task ht rfl rfl rfl
  | startValidation ht hstage himpl hfinished hidle hrun hbased => exact h.of_task ht rfl rfl rfl
  | finishValidation ht hlatest hrun => exact h.of_task ht rfl rfl rfl
  | cancel ht hstage => exact h.of_task ht rfl rfl rfl
  | uncancel ht hstage hlock htarget => exact h.setTask ht rfl
  | archive ht harchived hstage => exact h.setTask ht rfl
  | unarchive ht harchived hstage => exact h.setTask ht rfl
  | dropLock => exact h.of_same rfl rfl
  | repairRun hlock hrun => exact h.of_same rfl rfl

/-- Every move goes on from the view it is made in. -/
theorem Move.continues (h : v.Approvals) (m : Move id label v w) : v.Continues w := by
  have hnew (t : TaskCore) (hfree : v.task = none) : v.Continues (v.setTask t) := by
    refine View.Continues.setTask fun t' ht' => ?_
    cases hfree.symm.trans ht'
  cases m with
  | create hid hfree => exact hnew _ hfree
  | record hid hfree => exact hnew _ hfree
  | addFinished ht htype hid hfree hr hw => exact .setNewRun hfree
  | link ht htype himpl hval => exact .setTask_of_eq ht rfl rfl
  | startPlanning ht hstage hidle hrun => exact .start hrun.free ht rfl rfl
  | @propose _ t runId r n listed ht hstage hrun hnew =>
    have hplan : v.Continues (v.setPlan n ⟨.proposed, false, listed⟩) := .setNewPlan hnew.free
    have hrunning : (v.setPlan n ⟨.proposed, false, listed⟩).Running runId r .planning :=
      ⟨hrun.stored, hrun.ofType, hrun.running⟩
    exact hplan.trans (.stop (t := t) hrunning _ ht rfl rfl)
  | regenerate ht hfinish hnew hprevious => exact .regenerate hfinish hnew hprevious ht rfl rfl
  | @approve _ t n p ht hstage hidle hplan hlisted hproposed =>
    refine ⟨fun t' ht' => ?_, (View.Continues.refl v).runs, fun m q hq => ?_⟩
    · cases ht.symm.trans ht'
      exact ⟨_, rfl, rfl, fun k hk => ⟨n, rfl, (h.newer t k n p ht hk hplan hlisted hproposed).le⟩⟩
    · refine ⟨_, Option.map_eq_some_iff.2 ⟨q, hq, rfl⟩, .approvedPlan (fun m q hq hm => ?_) hq⟩
      subst hm
      cases hplan.symm.trans hq
      exact hproposed
  | @reject _ t n p ht hstage hlatest =>
    refine .setPlan fun p' hp' => ?_
    cases hlatest.stored.symm.trans hp'
    refine ⟨rfl, fun happroved => happroved, ?_⟩
    cases p.status <;> exact Nat.le_of_ble_eq_true rfl
  | startImplementation ht hstage haccepted hidle hrun hversion =>
    exact .start hrun.free ht rfl rfl
  | @resume _ t runId r n ht hstage haccepted hlock hrun =>
    have hlocked : v.Continues (v.setLock (some ⟨.implementation, runId, true⟩)) := .setLock _
    exact hlocked.trans (.setTask_of_eq (t := t) ht rfl rfl)
  | finishImplementation ht hlatest hrun => exact .stop hrun _ ht rfl rfl
  | startValidation ht hstage himpl hfinished hidle hrun hbased => exact .start hrun.free ht rfl rfl
  | finishValidation ht hlatest hrun => exact .stop hrun _ ht rfl rfl
  | @cancel _ t ht hstage =>
    have htask : v.Continues (v.setTask { t with stage := .cancelled }) := .setTask_of_eq ht rfl rfl
    exact htask.trans (.setLock none)
  | uncancel ht hstage hlock htarget => exact .setTask_of_eq ht rfl rfl
  | archive ht harchived hstage => exact .setTask_of_eq ht rfl rfl
  | unarchive ht harchived hstage => exact .setTask_of_eq ht rfl rfl
  | dropLock => exact .setLock none
  | repairRun hlock hrun => exact .endRun hrun _

end Moves

-- ════════════════════════════════════════════════════════════════════════
-- Runs of the program
-- ════════════════════════════════════════════════════════════════════════

section Runs

variable [Runtime] {s : Ledger}

/-- What an operation finds in a ledger it keeps, for every task. -/
theorem Step.continues (step : Step) (hs : s.Sound) (h : ∀ id, (s.view id).Approvals) :
    ((step.next s).Sound ∧ ∀ id, ((step.next s).view id).Approvals) ∧
      ∀ id, (s.view id).Continues ((step.next s).view id) := by
  have hmoves {id : String} {l : Label} {w x : View} (hw : w.Sound id ∧ w.Approvals)
      (m : Move id l w x) : (x.Sound id ∧ x.Approvals) ∧ w.Continues x :=
    ⟨⟨Move.sound hw.1 m, Move.approvals hw.1 hw.2 m⟩, Move.continues hw.2 m⟩
  have hevolves := step.evolves hs
  have hboth (id : String) : (s.view id).Sound id ∧ (s.view id).Approvals := ⟨hs id, h id⟩
  have hkept := hevolves.invariant (I := fun id v => v.Sound id ∧ v.Approvals)
    (fun _ _ _ _ hw _ m => (hmoves hw m).1) hboth
  refine ⟨⟨fun id => (hkept id).1, fun id => (hkept id).2⟩, fun id => ?_⟩
  exact hevolves.follows (I := fun id v => v.Sound id ∧ v.Approvals) View.Continues.refl
    (fun _ _ _ => View.Continues.trans) (fun _ _ _ _ hw _ m => hmoves hw m) hboth id

theorem approvals_empty (id : String) : (Ledger.empty.view id).Approvals := by
  constructor <;> simp [Ledger.view, Ledger.empty]

theorem Ledger.Reachable.approvals (h : s.Reachable) (id : String) : (s.view id).Approvals := by
  refine (System.Reachable.invariant (I := fun s => s.Sound ∧ ∀ id, (s.view id).Approvals) h
    ⟨sound_empty, approvals_empty⟩ fun s step _ ih _ => ?_).2 id
  exact (step.continues ih.1 ih.2).1

/-- Every run from a reachable ledger goes on from what it has recorded of each task. -/
theorem Ledger.Reachable.continues (h : s.Reachable) (steps : List Step) (id : String) :
    (s.view id).Continues ((services.run s steps).view id) := by
  refine System.run_follows (I := fun s : Ledger => s.Sound ∧ ∀ id, (s.view id).Approvals)
    (R := fun s s' : Ledger => ∀ id, (s.view id).Continues (s'.view id)) (fun s id => .refl _)
    (fun _ _ _ hst htu id => (hst id).trans (htu id)) (fun s step hs => ?_)
    ⟨h.sound, h.approvals⟩ steps id
  exact step.continues hs.1 hs.2

theorem Ledger.Reachable.run (h : s.Reachable) (steps : List Step) :
    (services.run s steps).Reachable := by
  induction steps generalizing s with
  | nil => exact h
  | cons step rest ih => exact ih (.step step h trivial)

theorem view_task_eq {id : String} {c : TaskCore} (h : (s.view id).task = some c) :
    ∃ t, s.tasks.lookup id = some t ∧ t.core = c :=
  Option.map_eq_some_iff.1 h

theorem view_run_eq {id runId : String} {c : RunCore} (h : (s.view id).runs runId = some c) :
    ∃ r, s.runs.lookup (id, runId) = some r ∧ r.core = c :=
  Option.map_eq_some_iff.1 h

theorem view_plan_eq {id : String} {n : Nat} {c : PlanCore} (h : (s.view id).plans n = some c) :
    ∃ p, s.plans.lookup (id, n) = some p ∧ p.core = c :=
  Option.map_eq_some_iff.1 h

/-- A run stays stored, with its type and what it is based on, and once it has ended no step
changes its status. -/
theorem run_stays_ended (h : s.Reachable) (steps : List Step) {id runId : String}
    {r : TaskRunRecord} (hr : s.runs.lookup (id, runId) = some r) :
    ∃ r', (services.run s steps).runs.lookup (id, runId) = some r' ∧ r'.runType = r.runType ∧
      r'.readPlanVersion = r.readPlanVersion ∧
      r'.basedOnImplementationRun = r.basedOnImplementationRun ∧
      (r.status ≠ .running → r'.status = r.status) := by
  have hcore : (s.view id).runs runId = some r.core := by simp [Ledger.view, hr]
  obtain ⟨c, hc, hcontinues⟩ := (h.continues steps id).runs runId r.core hcore
  obtain ⟨r', hr', rfl⟩ := view_run_eq hc
  have hsame := hcontinues.same
  refine ⟨r', hr', congrArg RunCore.runType hsame, congrArg RunCore.planVersion hsame,
    congrArg RunCore.implementationRun hsame, fun hended => ?_⟩
  exact congrArg RunCore.status (hcontinues.ended hended)

/-- A plan stays stored and only moves on, and an approval stays on it. -/
theorem plan_only_moves_on (h : s.Reachable) (steps : List Step) {id : String} {n : Nat}
    {p : PlanRecord} (hp : s.plans.lookup (id, n) = some p) :
    ∃ p', (services.run s steps).plans.lookup (id, n) = some p' ∧
      p.status.rank ≤ p'.status.rank ∧
      (p.approvedBy.isSome = true → p'.approvedBy.isSome = true) := by
  have hcore : (s.view id).plans n = some p.core := by simp [Ledger.view, hp]
  obtain ⟨c, hc, hcontinues⟩ := (h.continues steps id).plans n p.core hcore
  obtain ⟨p', hp', rfl⟩ := view_plan_eq hc
  exact ⟨p', hp', hcontinues.forward, hcontinues.approved⟩

/-- A task keeps an acceptance, or has accepted a newer plan; what it has accepted is stored with
its approval, and the plans proposed since then are newer. -/
theorem acceptance_only_moves_on (h : s.Reachable) (steps : List Step) {id : String}
    {t : TaskRecord} {n : Nat} (ht : s.tasks.lookup id = some t)
    (hn : t.acceptedPlanVersion = some n) :
    ∃ t' m p, (services.run s steps).tasks.lookup id = some t' ∧
      t'.acceptedPlanVersion = some m ∧ n ≤ m ∧
      (services.run s steps).plans.lookup (id, m) = some p ∧ p.approvedBy.isSome = true ∧
      ∀ k q, (services.run s steps).plans.lookup (id, k) = some q → q.loads = true →
        q.status = .proposed → m < k := by
  have hcore : (s.view id).task = some t.core := by simp [Ledger.view, ht]
  obtain ⟨c, hc, hcontinues⟩ := (h.continues steps id).task t.core hcore
  obtain ⟨t', ht', rfl⟩ := view_task_eq hc
  obtain ⟨m, hm, hle⟩ := hcontinues.accepted n hn
  have happrovals := (h.run steps).approvals id
  obtain ⟨cp, hcp, -, happroved⟩ := happrovals.recorded _ m hc hm
  obtain ⟨p, hp, rfl⟩ := view_plan_eq hcp
  refine ⟨t', m, p, ht', hm, hle, hp, happroved, fun k q hq hloads hproposed => ?_⟩
  have hqcore : ((services.run s steps).view id).plans k = some q.core := by
    simp [Ledger.view, hq]
  exact happrovals.newer _ m k _ hc hm hqcore hloads hproposed

end Runs

section Evaluation

attribute [local instance] plainRuntime

/-- An approved plan is implemented, the task is given up and planned anew. -/
def replannedSteps : List Step :=
  [.startImplementation "task-0001" none none, .finishImplementation "task-0001" "done",
    .cancelTask "task-0001" none,
    .uncancelTask "task-0001" (some "draft") "again" (some plainUser) true,
    .startPlanning "task-0001" none none, .proposePlan "task-0001" "Do more." ["it works"],
    .approvePlan "task-0001" 2 plainApproval].map (Step.mk plainEnv)

theorem approved_files :
    (∃ r, (afterOps approvedOps).runs.lookup ("task-0001", "run-0001") = some r ∧
      r.status = .finished) ∧
    (∃ p, (afterOps approvedOps).plans.lookup ("task-0001", 1) = some p ∧
      p.approvedBy.isSome = true) ∧
    ∃ t, (afterOps approvedOps).tasks.lookup "task-0001" = some t ∧
      t.acceptedPlanVersion = some 1 := by
  have hfiles : (((afterOps approvedOps).runs.lookup ("task-0001", "run-0001")).map
        TaskRunRecord.status = some .finished ∧
      ((afterOps approvedOps).plans.lookup ("task-0001", 1)).map (fun p => p.approvedBy.isSome) =
        some true) ∧
      ((afterOps approvedOps).tasks.lookup "task-0001").map TaskRecord.acceptedPlanVersion =
        some (some 1) := by decide +kernel
  obtain ⟨⟨hrun, hplan⟩, htask⟩ := hfiles
  exact ⟨Option.map_eq_some_iff.1 hrun, Option.map_eq_some_iff.1 hplan,
    Option.map_eq_some_iff.1 htask⟩

theorem run_stays_ended_replanned :
    ∃ r', (services.run (afterOps approvedOps) replannedSteps).runs.lookup
      ("task-0001", "run-0001") = some r' ∧ r'.status = .finished := by
  obtain ⟨⟨r, hr, hstatus⟩, -, -⟩ := approved_files
  obtain ⟨r', hr', -, -, -, hended⟩ := run_stays_ended (reachable_afterOps _) replannedSteps hr
  refine ⟨r', hr', (hended ?_).trans hstatus⟩
  rw [hstatus]
  decide

theorem plan_only_moves_on_replanned :
    ∃ p', (services.run (afterOps approvedOps) replannedSteps).plans.lookup ("task-0001", 1) =
      some p' ∧ p'.approvedBy.isSome = true := by
  obtain ⟨-, ⟨p, hp, happroved⟩, -⟩ := approved_files
  obtain ⟨p', hp', -, hkept⟩ := plan_only_moves_on (reachable_afterOps _) replannedSteps hp
  exact ⟨p', hp', hkept happroved⟩

theorem acceptance_only_moves_on_replanned :
    ∃ t' m, (services.run (afterOps approvedOps) replannedSteps).tasks.lookup "task-0001" =
      some t' ∧ t'.acceptedPlanVersion = some m ∧ 1 ≤ m := by
  obtain ⟨-, -, t, ht, hn⟩ := approved_files
  obtain ⟨t', m, p, ht', hm, hle, -⟩ :=
    acceptance_only_moves_on (reachable_afterOps _) replannedSteps ht hn
  exact ⟨t', m, ht', hm, hle⟩

end Evaluation

end Taskledger
