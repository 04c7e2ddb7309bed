import Taskledger.Lifecycle.Footprints
import Taskledger.Lifecycle.Steps
import Taskledger.Properties.RunsAndLocks

/-!
# Handoffs

A handoff is claimed while it is open, and never opens again. What its claim does to
the lock is what its lock policy says, but for a released lock, whose file stays.
-/

namespace Taskledger

open Library Action

-- the longest operations have some twenty steps
set_option synthInstance.maxSize 2000

-- ════════════════════════════════════════════════════════════════════════
-- The status of a handoff
-- ════════════════════════════════════════════════════════════════════════

/-- Where the status of a handoff may move. -/
def HandoffMove : HandoffStatus → HandoffStatus → Prop
  | .open, _ => True
  | .claimed, b => b = .claimed ∨ b = .closed
  | .closed, b => b = .closed
  | .cancelled, b => b = .cancelled

theorem HandoffMove.refl (a : HandoffStatus) : HandoffMove a a := by
  cases a <;> simp [HandoffMove]

theorem HandoffMove.trans {a b c : HandoffStatus} (hab : HandoffMove a b)
    (hbc : HandoffMove b c) : HandoffMove a c := by
  cases a <;> cases b <;> simp_all [HandoffMove]

/-- Every handoff stays, and its status moves as it may. -/
def handoffsMove : Footprint Ledger where
  Moves s s' := ∀ key h, s.handoffs.lookup key = some h →
    ∃ h', s'.handoffs.lookup key = some h' ∧ HandoffMove h.status h'.status
  refl _ _ h hh := ⟨h, hh, .refl _⟩
  trans _ _ _ hm hm' key h hh := by
    obtain ⟨h₁, hh₁, hmove₁⟩ := hm key h hh
    obtain ⟨h₂, hh₂, hmove₂⟩ := hm' key h₁ hh₁
    exact ⟨h₂, hh₂, hmove₁.trans hmove₂⟩

section Moves

variable [Runtime] {s s' : Ledger} {env : Env} {taskId handoffId : String}
  {h updated : TaskHandoffRecord}

omit [Runtime] in
theorem moves_of_handoffs (hsame : s'.handoffs = s.handoffs) : handoffsMove.Moves s s' := by
  intro key h hh
  exact ⟨h, by rw [hsame]; exact hh, .refl _⟩

omit [Runtime] in
/-- A handoff is written, over the one of its name when there is one. -/
theorem moves_putHandoff (hmove : ∀ stored,
    s.handoffs.lookup (updated.taskId, updated.handoffId) = some stored →
      HandoffMove stored.status updated.status) :
    handoffsMove.Moves s (s.putHandoff updated) := by
  intro key h hh
  by_cases hkey : (updated.taskId, updated.handoffId) = key
  · subst hkey
    exact ⟨updated, Directory.lookup_save_self _ _, hmove h hh⟩
  · have hother : (s.putHandoff updated).handoffs.lookup key = s.handoffs.lookup key :=
      Directory.lookup_save_of_ne s.handoffs hkey
    exact ⟨h, hother.trans hh, .refl _⟩

omit [Runtime] in
theorem TaskHandoffRecord.of_reload {h h' : TaskHandoffRecord} {body : String}
    (hr : h.reloadWith body = .ok h') :
    h'.taskId = h.taskId ∧ h'.handoffId = h.handoffId ∧ h'.status = h.status := by
  simp only [TaskHandoffRecord.reloadWith, bind_eq_ok, pure_eq_ok] at hr
  obtain ⟨-, -, -, -, -, -, -, -, rfl⟩ := hr
  exact ⟨rfl, rfl, rfl⟩

/-- A handoff that was found is the stored one, read back. -/
theorem resolveHandoff_eq_ok (hr : resolveHandoff taskId handoffId s = .ok h) :
    ∃ stored, s.handoffs.lookup (h.taskId, h.handoffId) = some stored ∧ h.taskId = taskId ∧
      h.status = stored.status := by
  obtain ⟨id, -, hr⟩ := Query.bind_eq_ok.1 hr
  obtain ⟨s', hs', hr⟩ := Query.bind_eq_ok.1 hr
  cases hs'
  cases hl : s.handoffs.lookup (taskId, id) with
  | none =>
    rw [hl] at hr
    cases hr
  | some stored =>
    rw [hl] at hr
    obtain ⟨htask, hid, hstatus⟩ := TaskHandoffRecord.of_reload hr
    have hkey := Directory.key_of_lookup hl
    rw [Prod.mk.injEq] at hkey
    refine ⟨stored, ?_, htask.trans hkey.1, hstatus⟩
    rw [htask, hid, hkey.1, hkey.2]
    exact hl

/-- A new handoff has a new name. -/
theorem newHandoff_free {ref : String} {request : HandoffRequest}
    (hnew : newHandoffOf env ref request s = .ok h) :
    s.handoffs.lookup (h.taskId, h.handoffId) = none := by
  obtain ⟨task, -, hnew⟩ := Query.bind_eq_ok.1 hnew
  obtain ⟨_, -, hnew⟩ := Query.bind_eq_ok.1 hnew
  obtain ⟨context, -, hnew⟩ := Query.bind_eq_ok.1 hnew
  obtain ⟨known, hknown, hnew⟩ := Query.bind_eq_ok.1 hnew
  obtain ⟨intended, -, hnew⟩ := Query.bind_eq_ok.1 hnew
  cases Query.pure_eq_ok.1 hnew
  rw [Directory.lookup_eq_none_iff]
  intro stored hstored hkey
  obtain ⟨htask, hid⟩ := Prod.mk.inj hkey
  obtain ⟨read, hread, hsort⟩ := bind_eq_ok.1 hknown
  obtain ⟨r, hr, hreload⟩ := reload_ok_of_mem hread
    (List.mem_filter.2 ⟨hstored, decide_eq_true htask⟩)
  refine Runtime.nextId_fresh "handoff" (known.map TaskHandoffRecord.handoffId)
    (List.mem_map.2 ⟨r, ?_, (TaskHandoffRecord.of_reload hreload).2.1.trans hid⟩)
  rw [← pure_eq_ok.1 hsort, mem_sortedBy]
  exact hr

instance {α : Type} {m : LedgerAction α} [hm : Within (SameBut
    [.tasks, .plans, .questions, .runs, .locks, .changes, .checks, .reviews, .todos, .links,
      .requirements, .introductions, .releases, .audits, .events, .activeTask, .counter]) m] :
    Within handoffsMove m where
  moves s := moves_of_handoffs (hm.moves s .handoffs (by decide))

instance {ref : String} {request : HandoffRequest} :
    Within handoffsMove (createHandoff env ref request) where
  moves s := by
    have hsat : (createHandoff env ref request).Sat s fun _ s' => handoffsMove.Moves s s' := by
      refine Sat.query (fun _ _ => handoffsMove.refl s) fun handoff hnew => Sat.write (Sat.pure ?_)
      refine moves_putHandoff fun stored hstored => ?_
      cases hstored.symm.trans (newHandoff_free hnew)
    exact hsat

/-- A handoff that was found is written again with another status. -/
theorem moves_found (hr : resolveHandoff taskId handoffId s = .ok h)
    (hkey : (updated.taskId, updated.handoffId) = (h.taskId, h.handoffId))
    (hmove : HandoffMove h.status updated.status) : handoffsMove.Moves s (s.putHandoff updated) := by
  refine moves_putHandoff fun stored hstored => ?_
  obtain ⟨found, hfound, -, hstatus⟩ := resolveHandoff_eq_ok hr
  rw [hkey, hfound] at hstored
  cases hstored
  rw [← hstatus]
  exact hmove

theorem within_endHandoff {verb : String} {from_ : List HandoffStatus} {status : HandoffStatus}
    {reason : Option String} (hfrom : ∀ a ∈ from_, HandoffMove a status) :
    Within handoffsMove (endHandoff taskId handoffId verb from_ status reason) where
  moves s := by
    have hsat : (endHandoff taskId handoffId verb from_ status reason).Sat s
        fun _ s' => handoffsMove.Moves s s' := by
      refine Sat.query (fun _ _ => handoffsMove.refl s) fun h hr => ?_
      refine Sat.guard (fun _ => handoffsMove.refl s) fun hstatus => Sat.write (Sat.pure ?_)
      exact moves_found hr rfl (hfrom _ (not_not.1 hstatus))
    exact hsat

instance {reason : Option String} :
    Within handoffsMove (closeHandoff taskId handoffId reason) :=
  within_endHandoff (by simp [HandoffMove])

instance {reason : Option String} :
    Within handoffsMove (cancelHandoff taskId handoffId reason) :=
  within_endHandoff (by simp [HandoffMove])

end Moves

-- ════════════════════════════════════════════════════════════════════════
-- Claims
-- ════════════════════════════════════════════════════════════════════════

section Claims

variable [Runtime] {s s' : Ledger} {env : Env} {taskId handoffId : String}
  {h : TaskHandoffRecord} {actor : Option ActorRef} {harness : Option NamedHarness}
  {runId : Option String}

/-- The lock a claim finds to hand over: the one of the run the handoff names. -/
theorem lockToHandOver_eq_ok {lock : Option TaskLock} (hl : lockToHandOver taskId h s = .ok lock)
    (l : TaskLock) : lock = some l ↔ touchesLock h.lockPolicy = true ∧
      h.sourceRunId = some l.runId ∧
      ∃ task, resolveTask taskId false s = .ok task ∧ readLock task.id s = .ok (some l) := by
  unfold lockToHandOver at hl
  cases hsource : h.sourceRunId.filter fun run =>
      decide (touchesLock h.lockPolicy = true ∧ run ≠ "") with
  | none =>
    rw [hsource] at hl
    cases Query.pure_eq_ok.1 hl
    refine iff_of_false (by simp) ?_
    rintro ⟨htouches, hrun, task, -, hlock⟩
    rw [hrun] at hsource
    simp [Option.filter_some, htouches, (readLock_filed hlock).2] at hsource
  | some source =>
    rw [hsource] at hl
    obtain ⟨hsource, htouches⟩ := Option.filter_eq_some_iff.1 hsource
    obtain ⟨task, htask, hl⟩ := Query.bind_eq_ok.1 hl
    obtain ⟨found, hfound, hl⟩ := Query.bind_eq_ok.1 hl
    cases Query.pure_eq_ok.1 hl
    rw [Option.filter_eq_some_iff]
    constructor
    · rintro ⟨rfl, hrun⟩
      exact ⟨(of_decide_eq_true htouches).1, by rw [hsource, of_decide_eq_true hrun], task, htask,
        hfound⟩
    · rintro ⟨-, hrun, task', htask', hlock⟩
      cases htask.symm.trans htask'
      cases hfound.symm.trans hlock
      rw [hsource, Option.some.injEq] at hrun
      exact ⟨rfl, by simp [hrun]⟩

/-- The ledger when a claim has handed a lock over. -/
def Ledger.handOver (s : Ledger) (env : Env) (policy : LockPolicy) (actor : ActorRef)
    (harness : NamedHarness) : Option TaskLock → Ledger
  | none => s
  | some lock => s.putLock (claimedLock env policy actor harness lock)

@[simp] theorem Ledger.handOver_handoffs {policy : LockPolicy} {actor : ActorRef}
    {harness : NamedHarness} {lock : Option TaskLock} :
    (s.handOver env policy actor harness lock).handoffs = s.handoffs := by
  cases lock <;> rfl

/-- What a claim leaves behind. -/
theorem sat_claimHandoff (hr : resolveHandoff taskId handoffId s = .ok h) :
    (claimHandoff env taskId handoffId actor harness runId).Sat s fun r s' =>
      (∃ e, r = .error e) ∧ s' = s ∨ h.status = .open ∧
        ∃ lock, lockToHandOver taskId h s = .ok lock ∧
          s' = (s.handOver env h.lockPolicy (actor.getD env.resolvedActor)
              (harness.getD env.resolvedHarness) lock).putHandoff
            (claimedHandoff env h (actor.getD env.resolvedActor)
              (harness.getD env.resolvedHarness).toHarnessRef runId lock) := by
  refine sat_known hr (Sat.guard (fun _ => .inl ⟨⟨_, rfl⟩, rfl⟩) fun hopen => ?_)
  refine Sat.except (fun _ _ => .inl ⟨⟨_, rfl⟩, rfl⟩) fun _ _ => ?_
  refine Sat.query (fun _ _ => .inl ⟨⟨_, rfl⟩, rfl⟩) fun lock hlock => ?_
  cases lock with
  | none =>
    refine Sat.bind (P := fun r s' => r = .ok () ∧ s' = s) ⟨rfl, rfl⟩ (fun _ _ h => by cases h.1)
      fun _ s' hs => Sat.write (Sat.pure (.inr ⟨not_not.1 hopen, none, hlock, ?_⟩))
    rw [hs.2]
    rfl
  | some l => exact Sat.write (Sat.write (Sat.pure (.inr ⟨not_not.1 hopen, some l, hlock, rfl⟩)))

theorem claimHandoff_unresolved {e : Raised} (hr : resolveHandoff taskId handoffId s = .error e) :
    (claimHandoff env taskId handoffId actor harness runId).runOn s = (.error e, s) :=
  runOn_query_error hr

instance : Within handoffsMove (claimHandoff env taskId handoffId actor harness runId) where
  moves s := by
    cases hr : resolveHandoff taskId handoffId s with
    | error e =>
      rw [claimHandoff_unresolved hr]
      exact handoffsMove.refl s
    | ok h =>
      have hsat : (claimHandoff env taskId handoffId actor harness runId).Sat s
          fun _ s' => handoffsMove.Moves s s' := by
        refine (sat_claimHandoff hr).mono fun r s' hclaim => ?_
        rcases hclaim with ⟨-, rfl⟩ | ⟨hopen, lock, -, rfl⟩
        · exact handoffsMove.refl _
        · refine handoffsMove.trans _ _ _ (moves_of_handoffs (Ledger.handOver_handoffs))
            (moves_putHandoff fun stored hstored => ?_)
          obtain ⟨found, hfound, -, hstatus⟩ := resolveHandoff_eq_ok hr
          rw [Ledger.handOver_handoffs] at hstored
          cases hfound.symm.trans hstored
          rw [← hstatus, hopen]
          exact trivial
      exact hsat

theorem Recorder.moves_handoffs (r : Recorder) : Within handoffsMove (r.run env) := by
  cases r <;> simp only [Recorder.run] <;> infer_instance

/-- A step moves the statuses of the handoffs as they may. -/
theorem Step.moves_handoffs (step : Step) (s : Ledger) : handoffsMove.Moves s (step.next s) := by
  have hother (hparts : Part.handoffs ∉ step.op.parts) : handoffsMove.Moves s (step.next s) :=
    moves_of_handoffs (step.same s hparts)
  obtain ⟨env, op⟩ := step
  cases op with
  | recorder r => exact r.moves_handoffs.moves s
  | _ => exact hother (by simp [Op.parts])

end Claims

-- ════════════════════════════════════════════════════════════════════════
-- The lock after a claim
-- ════════════════════════════════════════════════════════════════════════

section Locks

variable [Runtime] {s : Ledger} {step : Step} {taskId : String} {h : TaskHandoffRecord}
  {claimer : ActorRef} {key : String × String}

/-- The step claims a handoff, and returns. -/
def Step.Claims (step : Step) (s : Ledger) (taskId : String) (h : TaskHandoffRecord)
    (claimer : ActorRef) : Prop :=
  ∃ handoffId actor harness runId,
    step.op = .recorder (.claimHandoff taskId handoffId actor harness runId) ∧
    resolveHandoff taskId handoffId s = .ok h ∧
    claimer = actor.getD step.env.resolvedActor ∧ step.outcome s = .ok ()

/-- The lock of the task that a reference leads to. -/
def Ledger.LockFor (s : Ledger) (taskId : String) (l : TaskLock) : Prop :=
  ∃ task, resolveTask taskId false s = .ok task ∧ readLock task.id s = .ok (some l)

/-- The lock is held by the claimer, for the same run, stage and time, and its history has
the old holder. -/
def Ledger.Transferred (s : Ledger) (l : TaskLock) (claimer : ActorRef) : Prop :=
  ∃ kept, s.locks.lookup l.taskId = some kept ∧ kept.holder = claimer ∧ kept.runId = l.runId ∧
    kept.stage = l.stage ∧ kept.expiresAt = l.expiresAt ∧
    kept.transferHistory =
      l.transferHistory ++ [(l.lockId, actorText l.holder, actorText claimer)]

/-- The lock is no longer in the way of a start of other work. -/
def Ledger.Unblocked (s : Ledger) (l : TaskLock) : Prop :=
  ∃ kept, readLock l.taskId s = .ok kept ∧
    ∀ env task, task.id = l.taskId → refuseLock env task kept = .ok ()

/-- After the step the lock of the task is as the policy of the claimed handoff says. -/
def Step.LockAsPolicy (step : Step) (s : Ledger) : Prop :=
  ∀ taskId h claimer, step.Claims s taskId h claimer →
    match h.lockPolicy with
    | .transfer => ∀ l, s.LockFor taskId l → (step.next s).Transferred l claimer
    | .release => ∀ l, s.LockFor taskId l → (step.next s).Unblocked l
    | .retain | .none => (step.next s).locks = s.locks

/-- The step claims a handoff of a task that is locked, to release the lock, or to transfer
it when it is not the lock of the run the handoff names. -/
def Step.MissesLock (step : Step) (s : Ledger) : Prop :=
  ∃ taskId h claimer l, step.Claims s taskId h claimer ∧ s.LockFor taskId l ∧
    (h.lockPolicy = .release ∨ h.lockPolicy = .transfer ∧ h.sourceRunId ≠ some l.runId)

/-- What a claim that returned has left behind. -/
theorem Step.Claims.written (hc : step.Claims s taskId h claimer) :
    h.status = .open ∧ ∃ lock harness runId, lockToHandOver taskId h s = .ok lock ∧
      step.next s = (s.handOver step.env h.lockPolicy claimer harness lock).putHandoff
        (claimedHandoff step.env h claimer harness.toHarnessRef runId lock) := by
  obtain ⟨handoffId, actor, harness, runId, hop, hr, rfl, hok⟩ := hc
  obtain ⟨env, op⟩ := step
  cases hop
  obtain ⟨_, hok⟩ := (outcome_dropResult _ s).1 hok
  have hnext : Step.next ⟨env, .recorder (.claimHandoff taskId handoffId actor harness runId)⟩ s =
      ((claimHandoff env taskId handoffId actor harness runId).runOn s).2 := ledger_dropResult _ s
  rcases sat_claimHandoff hr with ⟨⟨e, he⟩, -⟩ | ⟨hopen, lock, hlock, hwritten⟩
  · cases hok.symm.trans he
  · exact ⟨hopen, lock, _, runId, hlock, hnext.trans hwritten⟩

omit [Runtime] in
theorem readLock_history {l stored : TaskLock} (hl : readLock taskId s = .ok (some l))
    (hstored : s.locks.lookup taskId = some stored) : stored.transferHistory = l.transferHistory := by
  obtain ⟨found, hfound, hreload⟩ := readLock_some hl
  cases hstored.symm.trans hfound
  simp only [TaskLock.reload, bind_eq_ok, pure_eq_ok] at hreload
  obtain ⟨-, -, -, -, -, -, -, -, -, -, -, -, rfl⟩ := hreload
  rfl

/-- A lock that stays where it is, is not transferred. -/
theorem not_transferred {s' : Ledger} {l : TaskLock} (hlock : s.LockFor taskId l)
    (hsame : s'.locks = s.locks) : ¬ s'.Transferred l claimer := by
  rintro ⟨kept, hkept, -, -, -, -, hhistory⟩
  obtain ⟨task, -, hl⟩ := hlock
  rw [hsame, (readLock_filed hl).1] at hkept
  rw [readLock_history hl hkept] at hhistory
  simpa using congrArg List.length hhistory

/-- While there is a lock file, there is a lock in the way. -/
theorem not_unblocked {s' : Ledger} {l stored : TaskLock} (env : Env)
    (hlock : s.LockFor taskId l) (hstored : s'.locks.lookup l.taskId = some stored) :
    ¬ s'.Unblocked l := by
  rintro ⟨kept, hkept, hfree⟩
  obtain ⟨task, -, hl⟩ := hlock
  cases refuseLock_eq_ok (hfree env task (readLock_filed hl).1.symm)
  have hnone := readLock_none hkept
  rw [hstored] at hnone
  cases hnone

/-- The file of a lock that is found. -/
theorem lookup_of_lockFor {l : TaskLock} (hlock : s.LockFor taskId l) :
    ∃ stored, s.locks.lookup l.taskId = some stored := by
  obtain ⟨task, -, hl⟩ := hlock
  obtain ⟨stored, hstored, -⟩ := readLock_some hl
  rw [(readLock_filed hl).1]
  exact ⟨stored, hstored⟩

theorem lookup_handOver {env : Env} {policy : LockPolicy} {harness : NamedHarness} (l : TaskLock) :
    (s.handOver env policy claimer harness (some l)).locks.lookup l.taskId =
      some (claimedLock env policy claimer harness l) := by
  have hid : (claimedLock env policy claimer harness l).taskId = l.taskId := by
    unfold claimedLock
    split <;> rfl
  have hlookup := Directory.lookup_save_self s.locks (claimedLock env policy claimer harness l)
  rw [← hid]
  exact hlookup

/-- A claim hands over the lock of the task, when it is the one of the source run. -/
theorem handed_over {lock : Option TaskLock} {l : TaskLock}
    (hfound : lockToHandOver taskId h s = .ok lock) (hlock : s.LockFor taskId l) :
    lock = some l ∧ h.sourceRunId = some l.runId ∨
      lock = none ∧ (touchesLock h.lockPolicy = true → h.sourceRunId ≠ some l.runId) := by
  have hiff := lockToHandOver_eq_ok hfound
  cases lock with
  | none =>
    refine .inr ⟨rfl, fun htouches hrun => ?_⟩
    cases (hiff l).2 ⟨htouches, hrun, hlock⟩
  | some found =>
    obtain ⟨-, hrun, task, htask, hl⟩ := (hiff found).1 rfl
    obtain ⟨task', htask', hl'⟩ := hlock
    cases htask.symm.trans htask'
    cases hl.symm.trans hl'
    exact .inl ⟨rfl, hrun⟩

/-- The lock is as the policy says, but for a claim that misses it. -/
theorem Step.lockAsPolicy_iff (step : Step) (s : Ledger) :
    step.LockAsPolicy s ↔ ¬ step.MissesLock s := by
  constructor
  · rintro hpolicy ⟨taskId, h, claimer, l, hc, hlock, hmisses⟩
    obtain ⟨-, lock, harness, runId, hfound, hwritten⟩ := hc.written
    have hlocks := congrArg Ledger.locks hwritten
    have hp := hpolicy taskId h claimer hc
    rcases hmisses with hrelease | ⟨htransfer, hrun⟩
    · rw [hrelease] at hp
      obtain ⟨stored, hstored⟩ : ∃ stored, (step.next s).locks.lookup l.taskId = some stored := by
        rcases handed_over hfound hlock with ⟨rfl, -⟩ | ⟨rfl, -⟩
        · exact ⟨claimedLock step.env h.lockPolicy claimer harness l, by
            rw [hlocks]
            exact lookup_handOver l⟩
        · have hsame : (step.next s).locks = s.locks := hlocks
          rw [hsame]
          exact lookup_of_lockFor hlock
      exact not_unblocked step.env hlock hstored (hp l hlock)
    · rw [htransfer] at hp
      rcases handed_over hfound hlock with ⟨-, hsource⟩ | ⟨rfl, -⟩
      · exact hrun hsource
      · exact not_transferred hlock hlocks (hp l hlock)
  · intro hmeets taskId h claimer hc
    obtain ⟨-, lock, harness, runId, hfound, hwritten⟩ := hc.written
    have hlocks := congrArg Ledger.locks hwritten
    have hkept (htouches : touchesLock h.lockPolicy = false) : (step.next s).locks = s.locks := by
      rw [hlocks]
      cases lock with
      | none => rfl
      | some l =>
        obtain ⟨htrue, -⟩ := (lockToHandOver_eq_ok hfound l).1 rfl
        cases htouches.symm.trans htrue
    cases hpolicy : h.lockPolicy with
    | none => exact hkept (by rw [hpolicy]; rfl)
    | retain => exact hkept (by rw [hpolicy]; rfl)
    | release => exact fun l hlock => absurd ⟨_, _, _, l, hc, hlock, .inl hpolicy⟩ hmeets
    | transfer =>
      intro l hlock
      rcases handed_over hfound hlock with ⟨rfl, -⟩ | ⟨-, hrun⟩
      · refine ⟨_, (congrArg (Directory.lookup · l.taskId) hlocks).trans (lookup_handOver l), ?_⟩
        rw [claimedLock, if_pos hpolicy]
        exact ⟨rfl, rfl, rfl, rfl, rfl⟩
      · exact absurd ⟨_, _, _, l, hc, hlock, .inr ⟨hpolicy, hrun (by rw [hpolicy]; rfl)⟩⟩ hmeets

end Locks

-- ════════════════════════════════════════════════════════════════════════
-- Runs
-- ════════════════════════════════════════════════════════════════════════

section Runs

variable [Runtime] {s : Ledger} {key : String × String}

/-- The step claims the handoff with a key. -/
def Step.ClaimsKey (step : Step) (s : Ledger) (key : String × String) : Prop :=
  ∃ taskId h claimer, step.Claims s taskId h claimer ∧ (h.taskId, h.handoffId) = key

/-- No step of a run claims the handoff with a key after another one has. -/
def ClaimedOnce (key : String × String) : Ledger → List Step → Prop
  | _, [] => True
  | s, step :: rest =>
    (step.ClaimsKey s key →
      services.Meets (fun s step => ¬ step.ClaimsKey s key) (step.next s) rest) ∧
    ClaimedOnce key (step.next s) rest

/-- What a run does with the handoffs. -/
structure HandoffRun (s : Ledger) (steps : List Step) : Prop where
  moves : services.Meets (fun s step => handoffsMove.Moves s (step.next s)) s steps
  once : ∀ key, ClaimedOnce key s steps
  policy : services.Meets (fun s step => step.LockAsPolicy s) s steps

/-- The handoff with a key is no longer open. -/
def Ledger.Taken (s : Ledger) (key : String × String) : Prop :=
  ∃ h, s.handoffs.lookup key = some h ∧ h.status ≠ .open

/-- A claimed handoff was open. -/
theorem Step.ClaimsKey.open {step : Step} (hc : step.ClaimsKey s key) : ¬ s.Taken key := by
  rintro ⟨stored, hstored, htaken⟩
  obtain ⟨taskId, h, claimer, hclaim, rfl⟩ := hc
  obtain ⟨hopen, -⟩ := hclaim.written
  obtain ⟨handoffId, actor, harness, runId, -, hr, -⟩ := hclaim
  obtain ⟨found, hfound, -, hstatus⟩ := resolveHandoff_eq_ok hr
  cases hfound.symm.trans hstored
  exact htaken (hstatus.symm.trans hopen)

/-- A claimed handoff is taken. -/
theorem Step.ClaimsKey.taken {step : Step} (hc : step.ClaimsKey s key) :
    (step.next s).Taken key := by
  obtain ⟨taskId, h, claimer, hclaim, rfl⟩ := hc
  obtain ⟨-, lock, harness, runId, -, hwritten⟩ := hclaim.written
  refine ⟨claimedHandoff step.env h claimer harness.toHarnessRef runId lock, ?_, by
    simp [claimedHandoff]⟩
  rw [hwritten]
  exact Directory.lookup_save_self _ _

/-- A taken handoff stays taken. -/
theorem Step.keeps_taken (step : Step) (htaken : s.Taken key) : (step.next s).Taken key := by
  obtain ⟨h, hh, hne⟩ := htaken
  obtain ⟨h', hh', hmove⟩ := step.moves_handoffs s key h hh
  refine ⟨h', hh', fun hopen => ?_⟩
  rw [hopen] at hmove
  cases hstatus : h.status <;> simp_all [HandoffMove]

/-- Nobody claims a taken handoff. -/
theorem never_claimed (htaken : s.Taken key) (steps : List Step) :
    services.Meets (fun s step => ¬ step.ClaimsKey s key) s steps := by
  induction steps generalizing s with
  | nil => trivial
  | cons step rest ih => exact ⟨fun hc => hc.open htaken, ih (step.keeps_taken htaken)⟩

theorem claimed_once (s : Ledger) (steps : List Step) : ClaimedOnce key s steps := by
  induction steps generalizing s with
  | nil => trivial
  | cons step rest ih => exact ⟨fun hc => never_claimed hc.taken rest, ih _⟩

theorem moves_handoffs_run (s : Ledger) (steps : List Step) :
    services.Meets (fun s step => handoffsMove.Moves s (step.next s)) s steps := by
  induction steps generalizing s with
  | nil => trivial
  | cons step rest ih => exact ⟨step.moves_handoffs s, ih _⟩

/-- In every run from every ledger the handoffs move as they may and are claimed once, and
their claims leave the lock as their policies say, unless a claim misses the lock. -/
theorem handoff_run_iff (s : Ledger) (steps : List Step) :
    HandoffRun s steps ↔ services.Meets (fun s step => ¬ step.MissesLock s) s steps := by
  have hpolicy : (fun (s : Ledger) (step : Step) => step.LockAsPolicy s) =
      fun s step => ¬ step.MissesLock s := by
    funext s step
    exact propext (step.lockAsPolicy_iff s)
  rw [← hpolicy]
  exact ⟨HandoffRun.policy, fun h => ⟨moves_handoffs_run s steps, fun _ => claimed_once s steps, h⟩⟩

end Runs

section Evaluation

attribute [local instance] plainRuntime

/-- A handoff of the planning run, which an import has written. -/
def releasingHandoff : TaskHandoffRecord where
  handoffId := "handoff-0001"
  taskId := "task-0001"
  mode := .planning
  status := .open
  lockPolicy := .release
  sourceRunId := some "run-0001"
  createdAt := ""

def claimRelease : Step :=
  ⟨plainEnv, .recorder (.claimHandoff "task-0001" "handoff-0001" none none none)⟩

/-- The planning run has the lock, and the handoff is open. -/
def releasingLedger : Ledger := (afterOps planningOps).putHandoff releasingHandoff

/-- The claim of the handoff returns, and the released lock stays in the way. -/
theorem released_lock_blocks : ¬ HandoffRun releasingLedger [claimRelease] := by
  intro hrun
  have hhandoff : (resolveHandoff "task-0001" "handoff-0001" releasingLedger).toOption.map
      TaskHandoffRecord.lockPolicy = some .release := by decide
  have htask : (resolveTask "task-0001" false releasingLedger).toOption.map TaskRecord.id =
      some "task-0001" := by decide
  have hlock : ((readLock "task-0001" releasingLedger).toOption.bind id).map TaskLock.runId =
      some "run-0001" := by decide
  have hreturns : (claimRelease.outcome releasingLedger).toOption = some () := by decide
  have hok : claimRelease.outcome releasingLedger = .ok () := by
    cases hc : claimRelease.outcome releasingLedger with
    | error e => simp [hc, Except.toOption] at hreturns
    | ok u => rfl
  refine (claimRelease.lockAsPolicy_iff releasingLedger).1 hrun.policy.1 ?_
  cases hr : resolveHandoff "task-0001" "handoff-0001" releasingLedger with
  | error e => simp [hr, Except.toOption] at hhandoff
  | ok h =>
    cases ht : resolveTask "task-0001" false releasingLedger with
    | error e => simp [ht, Except.toOption] at htask
    | ok task =>
      cases hl : readLock "task-0001" releasingLedger with
      | error e => simp [hl, Except.toOption] at hlock
      | ok lock =>
        cases lock with
        | none => simp [hl, Except.toOption] at hlock
        | some l =>
          simp only [hr, ht, Except.toOption, Option.map_some, Option.some.injEq] at hhandoff htask
          exact ⟨"task-0001", h, _, l, ⟨_, _, _, _, rfl, hr, rfl, hok⟩, ⟨task, ht, htask ▸ hl⟩,
            .inl hhandoff⟩

end Evaluation

end Taskledger
