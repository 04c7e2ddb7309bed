import Taskledger.Lifecycle.Footprints
import Taskledger.Lifecycle.Steps
import Taskledger.Library.Delimited

/-!
# Lock ids

A lock id is the second in which the lock was acquired, and a number that counts the locks
of that second which are still there.
-/

namespace Taskledger

open Library Action

-- the longest operations have some twenty steps
set_option synthInstance.maxSize 2000

section LockIds

-- ════════════════════════════════════════════════════════════════════════
-- What an operation does to the locks
-- ════════════════════════════════════════════════════════════════════════

/-- The same acquisition: a claimed handoff changes the holder only. -/
def TaskLock.SameLock (l l' : TaskLock) : Prop :=
  l.taskId = l'.taskId ∧ l.lockId = l'.lockId ∧ l.createdAt = l'.createdAt

instance (l l' : TaskLock) : Decidable (l.SameLock l') :=
  inferInstanceAs (Decidable (_ ∧ _ ∧ _))

theorem TaskLock.SameLock.refl (l : TaskLock) : l.SameLock l := ⟨rfl, rfl, rfl⟩

theorem TaskLock.SameLock.symm {a b : TaskLock} (h : a.SameLock b) : b.SameLock a :=
  ⟨h.1.symm, h.2.1.symm, h.2.2.symm⟩

theorem TaskLock.SameLock.trans {a b c : TaskLock} (h : a.SameLock b) (h' : b.SameLock c) :
    a.SameLock c :=
  ⟨h.1.trans h'.1, h.2.1.trans h'.2.1, h.2.2.trans h'.2.2⟩

/-- No lock was acquired, and no audit was written. -/
def Holding : Footprint Ledger where
  Moves s s' := s'.audits = s.audits ∧
    ∀ l ∈ s'.locks.files, ∃ old ∈ s.locks.files, l.SameLock old
  refl s := ⟨rfl, fun l hl => ⟨l, hl, .refl l⟩⟩
  trans s s' s'' h h' := by
    refine ⟨h'.1.trans h.1, fun l hl => ?_⟩
    obtain ⟨old, hold, hsame⟩ := h'.2 l hl
    obtain ⟨older, holder, hsame'⟩ := h.2 old hold
    exact ⟨older, holder, hsame.trans hsame'⟩

/-- The parts besides the locks and their audits. -/
abbrev besideLocks : List Part :=
  [.tasks, .plans, .questions, .runs, .changes, .checks, .reviews, .handoffs, .todos, .links,
    .requirements, .introductions, .releases, .events, .activeTask, .counter]

/-- The locks and audits of two ledgers are the same. -/
def SameLocks (s s' : Ledger) : Prop := s'.locks = s.locks ∧ s'.audits = s.audits

section Holds

variable {s s' : Ledger} {α : Type} {m : LedgerAction α}

theorem SameLocks.holding (h : SameLocks s s') : Holding.Moves s s' := by
  refine ⟨h.2, fun l hl => ⟨l, ?_, .refl l⟩⟩
  rwa [h.1] at hl

theorem sameLocks_of_within [h : Within (SameBut besideLocks) m] (s : Ledger) :
    SameLocks s (m.runOn s).2 :=
  ⟨h.moves s .locks (by decide), h.moves s .audits (by decide)⟩

instance (priority := low) within_holding [Within (SameBut besideLocks) m] :
    Within Holding m where
  moves s := (sameLocks_of_within s).holding

instance {taskId : String} : Within Holding (removeLock taskId) :=
  within_write fun _ => ⟨rfl, fun l hl => ⟨l, (Directory.mem_files_removeWhere.1 hl).1, .refl l⟩⟩

end Holds

variable [Runtime] {env : Env} {s s' s'' : Ledger}

section Releases

instance {task : TaskRecord} {runType : RunType} {runId event : String} {extraData : Dict} :
    Within Holding (deleteLock env task runType runId event extraData) := by
  unfold deleteLock
  infer_instance

instance {task : TaskRecord} {runType : RunType} {runId event : String}
    {target : TaskStatusStage} {extraData : Dict} :
    Within Holding (releaseLock env task runType runId target event extraData) := by
  unfold releaseLock
  infer_instance

instance {task : TaskRecord} {ref : String} {reason : Option String} {lock : Option TaskLock} :
    Within Holding (releaseForCancel env task ref reason lock) := by
  unfold releaseForCancel
  split <;> infer_instance

instance {ref : String} {reason : Option String} : Within Holding (cancelTask env ref reason) := by
  unfold cancelTask
  infer_instance

instance {ref summary : String} : Within Holding (finishImplementation env ref summary) := by
  unfold finishImplementation
  infer_instance

instance {ref result summary : String} {recommendation : Option String} :
    Within Holding (finishValidation env ref result summary recommendation) := by
  unfold finishValidation
  infer_instance

instance {task : TaskRecord} {finish : RunToFinish} {version : Nat} :
    Within Holding (releasePlanningRun env task finish version) := by
  unfold releasePlanningRun
  split <;> infer_instance

instance {ref body : String} {criteria : List String} :
    Within Holding (proposePlan env ref body criteria) := by
  unfold proposePlan
  infer_instance

instance {ref body : String} {criteria : List String} {allowOpenQuestions : Bool} :
    Within Holding (regeneratePlanFromAnswers env ref body criteria allowOpenQuestions) := by
  unfold regeneratePlanFromAnswers
  infer_instance

instance {task : TaskRecord} {body : String} {criteria : List String}
    {allowOpenQuestions : Bool} :
    Within Holding (upsertRegeneration env task body criteria allowOpenQuestions) := by
  unfold upsertRegeneration
  infer_instance

end Releases

-- ════════════════════════════════════════════════════════════════════════
-- Acquiring and breaking
-- ════════════════════════════════════════════════════════════════════════

/-- The ledger in which a lock is acquired: as it was, or without an expired lock that was
filed among the audits. -/
def Cleared (env : Env) (clears : String → Prop) (s s₁ : Ledger) : Prop :=
  SameLocks s s₁ ∨ ∃ old ∈ s.locks.files, lockIsExpired env old = .ok true ∧
    clears old.taskId ∧ s₁.locks = s.locks.remove old.taskId ∧ ∃ a : LockAudit,
      a.taskId = old.taskId ∧ a.stamp = auditStamp (utcNow env) ∧ s₁.audits = s.audits.save a

/-- What the locks and audits can do in one step; `clears` says whose locks it may break. -/
inductive LockStep (env : Env) (clears : String → Prop) (s s' : Ledger) : Prop
  | holds (h : Holding.Moves s s')
  | breaks (a : LockAudit) (hclears : clears a.taskId)
      (hstamp : a.stamp = auditStamp (utcNow env)) (haudits : s'.audits = s.audits.save a)
      (hlocks : ∀ l ∈ s'.locks.files, ∃ old ∈ s.locks.files, l.SameLock old)
  | acquires (s₁ : Ledger) (hcleared : Cleared env clears s s₁) (lock : TaskLock)
      (hid : nextLockId env s₁ = .ok lock.lockId) (haudits : s'.audits = s₁.audits)
      (hlocks : ∀ l ∈ s'.locks.files, l.SameLock lock ∨ ∃ old ∈ s₁.locks.files, l.SameLock old)

variable {clears : String → Prop}

theorem LockStep.then (h : LockStep env clears s s') (h' : Holding.Moves s' s'') :
    LockStep env clears s s'' := by
  obtain ⟨haudits', hlocks'⟩ := h'
  cases h with
  | holds h => exact .holds (Holding.trans _ _ _ h ⟨haudits', hlocks'⟩)
  | breaks a hclears hstamp haudits hlocks =>
    refine .breaks a hclears hstamp (haudits'.trans haudits) fun l hl => ?_
    obtain ⟨old, hold, hsame⟩ := hlocks' l hl
    obtain ⟨older, holder, hsame'⟩ := hlocks old hold
    exact ⟨older, holder, hsame.trans hsame'⟩
  | acquires s₁ hcleared lock hid haudits hlocks =>
    refine .acquires s₁ hcleared lock hid (haudits'.trans haudits) fun l hl => ?_
    obtain ⟨old, hold, hsame⟩ := hlocks' l hl
    rcases hlocks old hold with hnew | ⟨older, holder, hsame'⟩
    · exact .inl (hsame.trans hnew)
    · exact .inr ⟨older, holder, hsame.trans hsame'⟩

/-- What follows an operation's step on the locks holds them. -/
theorem lockStep_bind {α β : Type} {m : LedgerAction α} {k : α → LedgerAction β}
    [hk : ∀ a, Within Holding (k a)] (h : m.Sat s fun _ s' => LockStep env clears s'' s') :
    (m >>= k).Sat s fun _ s' => LockStep env clears s'' s' :=
  Sat.bind h (fun _ _ h => h) fun a s' h => ((hk a).sat s').mono fun _ _ h' => h.then h'

theorem lockStep_writeLock {s₁ : Ledger} {lock : TaskLock} (hcleared : Cleared env clears s s₁)
    (hstay : LockStep env clears s s₁) (hid : nextLockId env s₁ = .ok lock.lockId) :
    (writeLock lock).Sat s₁ fun _ s' => LockStep env clears s s' := by
  unfold Sat writeLock runOn
  beta_reduce
  split
  · exact hstay
  · refine .acquires s₁ hcleared lock hid rfl fun l hl => ?_
    rcases Directory.mem_files_save.1 hl with rfl | ⟨hold, -⟩
    · exact .inl (.refl l)
    · exact .inr ⟨l, hold, .refl l⟩

theorem lockStep_createLock {s₁ : Ledger} {task : TaskRecord} {run : TaskRunRecord}
    {runType : RunType} {reason : String} {actor : ActorRef} {harness : Option NamedHarness}
    (hcleared : Cleared env clears s s₁) (hstay : LockStep env clears s s₁) :
    (createLock env task run runType reason actor harness).Sat s₁
      fun _ s' => LockStep env clears s s' :=
  Sat.query (fun _ _ => hstay) fun _ hid => lockStep_bind (lockStep_writeLock hcleared hstay hid)

theorem lockStep_acquireLock {s₁ : Ledger} {task : TaskRecord} {run : TaskRunRecord}
    {runType : RunType} {reason : String} {actor : ActorRef} {harness : Option NamedHarness}
    (hcleared : Cleared env clears s s₁) (hstay : LockStep env clears s s₁) :
    (acquireLock env task run runType reason actor harness).Sat s₁
      fun _ s' => LockStep env clears s s' := by
  refine Sat.query (fun _ _ => hstay) fun existing _ => ?_
  cases existing with
  | none => exact lockStep_createLock hcleared hstay
  | some lock =>
    exact ((inferInstance : Within Holding (keepLock env task run lock)).sat s₁).mono
      fun _ _ h => hstay.then h

/-- A started run acquires its lock, and leaves the other locks alone. -/
theorem lockStep_startRun {task : TaskRecord} {runType : RunType} {actor : Option ActorRef}
    {harness : Option NamedHarness} :
    (startRun env task runType actor harness).Sat s fun _ s' => LockStep env clears s s' := by
  have hstay : LockStep env clears s s := .holds (Holding.refl s)
  refine Sat.query (fun _ _ => hstay) fun existingLock _ => ?_
  refine Sat.except (fun _ _ => hstay) fun _ _ => Sat.query (fun _ _ => hstay) fun running _ => ?_
  refine Sat.except (fun _ _ => hstay) fun _ _ => Sat.query (fun _ _ => hstay) fun runs _ => ?_
  have hsame : ∀ run : TaskRunRecord, SameLocks s (s.putRun run) := fun _ => ⟨rfl, rfl⟩
  exact Sat.write (lockStep_bind (lockStep_acquireLock (.inl (hsame _)) (.holds (hsame _).holding)))

theorem lockStep_startPlanning {ref : String} {actor : Option ActorRef}
    {harness : Option NamedHarness} :
    (startPlanning env ref actor harness).Sat s fun _ s' => LockStep env clears s s' := by
  have hstay : LockStep env clears s s := .holds (Holding.refl s)
  exact Sat.query (fun _ _ => hstay) fun task _ => Sat.except (fun _ _ => hstay) fun _ _ =>
    Sat.guard (fun _ => hstay) fun _ => lockStep_bind lockStep_startRun

theorem lockStep_revisePlan {ref : String} :
    (revisePlan env ref).Sat s fun _ s' => LockStep env clears s s' := by
  have hstay : LockStep env clears s s := .holds (Holding.refl s)
  exact Sat.query (fun _ _ => hstay) fun _ _ => Sat.except (fun _ _ => hstay) fun _ _ =>
    Sat.query (fun _ _ => hstay) fun _ _ => Sat.except (fun _ _ => hstay) fun _ _ =>
      lockStep_startPlanning

theorem lockStep_startImplementation {ref : String} {actor : Option ActorRef}
    {harness : Option NamedHarness} :
    (startImplementation env ref actor harness).Sat s fun _ s' => LockStep env clears s s' :=
  Sat.query (fun _ _ => .holds (Holding.refl s)) fun _ _ => lockStep_bind lockStep_startRun

theorem lockStep_restartImplementation {ref summary : String} {actor : Option ActorRef}
    {harness : Option NamedHarness} :
    (restartImplementation env ref summary actor harness).Sat s
      fun _ s' => LockStep env clears s s' :=
  Sat.query (fun _ _ => .holds (Holding.refl s)) fun _ _ => lockStep_bind lockStep_startRun

theorem lockStep_startValidation {ref : String} {actor : Option ActorRef}
    {harness : Option NamedHarness} :
    (startValidation env ref actor harness).Sat s fun _ s' => LockStep env clears s s' :=
  Sat.query (fun _ _ => .holds (Holding.refl s)) fun _ _ => lockStep_bind lockStep_startRun

theorem lockStep_autoRevise {task : TaskRecord} :
    (autoRevise env task).Sat s fun _ s' => LockStep env clears s s' := by
  have hstay : LockStep env clears s s := .holds (Holding.refl s)
  refine Sat.query (fun _ _ => hstay) fun lock _ => ?_
  split
  · exact lockStep_bind lockStep_startPlanning
  · exact Sat.pure hstay

omit [Runtime] in
/-- A lock that is read is the one that is filed. -/
theorem sameLock_of_readLock {taskId : String} {lock : TaskLock}
    (h : readLock taskId s = .ok (some lock)) :
    ∃ stored ∈ s.locks.files, lock.SameLock stored ∧ stored.taskId = taskId ∧
      lock.expiresAt = stored.expiresAt := by
  obtain ⟨stored, hstored, hreload⟩ := readLock_some h
  simp only [TaskLock.reload, bind_eq_ok, pure_eq_ok] at hreload
  obtain ⟨-, -, -, -, -, -, -, -, -, -, -, -, rfl⟩ := hreload
  exact ⟨stored, Directory.mem_of_lookup hstored, ⟨rfl, rfl, rfl⟩, Directory.key_of_lookup hstored,
    rfl⟩

theorem sameLock_of_lockToHandOver {ref : String} {handoff : TaskHandoffRecord} {lock : TaskLock}
    (h : lockToHandOver ref handoff s = .ok (some lock)) :
    ∃ stored ∈ s.locks.files, lock.SameLock stored := by
  unfold lockToHandOver at h
  generalize Option.filter _ handoff.sourceRunId = source at h
  cases source with
  | none => cases Query.pure_eq_ok.1 h
  | some sourceRun =>
    obtain ⟨task, -, h⟩ := Query.bind_eq_ok.1 h
    obtain ⟨read, hread, h⟩ := Query.bind_eq_ok.1 h
    obtain ⟨rfl, -⟩ := Option.filter_eq_some_iff.1 (Query.pure_eq_ok.1 h)
    obtain ⟨stored, hstored, hsame, -⟩ := sameLock_of_readLock hread
    exact ⟨stored, hstored, hsame⟩

/-- A claimed handoff changes the holder of a lock. -/
theorem holding_claimHandoff {taskId handoffId : String} {actor : Option ActorRef}
    {harness : Option NamedHarness} {newRunId : Option String} :
    (claimHandoff env taskId handoffId actor harness newRunId).Sat s
      fun _ s' => Holding.Moves s s' := by
  have hstay : Holding.Moves s s := Holding.refl s
  refine Sat.query (fun _ _ => hstay) fun handoff _ => Sat.guard (fun _ => hstay) fun _ => ?_
  refine Sat.except (fun _ _ => hstay) fun _ _ => Sat.query (fun _ _ => hstay) fun lock hlock => ?_
  have hover : ∀ policy actor harness,
      (handOverLock env policy actor harness lock).Sat s fun _ s' => Holding.Moves s s' := by
    intro policy actor harness
    cases lock with
    | none => exact Sat.pure hstay
    | some lock =>
      refine ⟨rfl, fun l hl => ?_⟩
      rcases Directory.mem_files_save.1 hl with rfl | ⟨hold, -⟩
      · obtain ⟨stored, hstored, hsame⟩ := sameLock_of_lockToHandOver hlock
        refine ⟨stored, hstored, ?_⟩
        unfold claimedLock
        split <;> exact hsame
      · exact ⟨l, hold, .refl l⟩
  exact Sat.bind (hover _ _ _) (fun _ _ h => h) fun _ s' h =>
    ((inferInstance : Within Holding _).sat s').mono fun _ _ h' => Holding.trans _ _ _ h h'

theorem writeBrokenLockAudit_eq {taskId : String} {lock : TaskLock}
    (h : lock.brokenAt = some (utcNow env)) :
    ∃ a : LockAudit, a.taskId = taskId ∧ a.stamp = auditStamp (utcNow env) ∧
      writeBrokenLockAudit env taskId lock = .write (Ledger.putAudit a) := by
  refine ⟨⟨taskId, auditStamp (utcNow env), lock⟩, rfl, rfl, ?_⟩
  unfold writeBrokenLockAudit
  rw [h, Option.getD_some, Text.orElse, ite_self]

omit [Runtime] in
theorem sat_sameLocks {α : Type} {m : LedgerAction α} [Within (SameBut besideLocks) m]
    {P : Ledger → Prop} (h : ∀ s', SameLocks s s' → P s') : m.Sat s fun _ s' => P s' :=
  h _ (sameLocks_of_within s)

omit [Runtime] in
theorem sat_holding {α : Type} {m : LedgerAction α} [h : Within Holding m] {P : Ledger → Prop}
    (hP : ∀ s', Holding.Moves s s' → P s') : m.Sat s fun _ s' => P s' :=
  hP _ (h.moves s)

/-- The expiry of a lock is the one of its file. -/
theorem expired_stored {lock stored : TaskLock} (h : lock.expiresAt = stored.expiresAt)
    (hexpired : lockIsExpired env lock = .ok true) : lockIsExpired env stored = .ok true := by
  unfold lockIsExpired at hexpired ⊢
  rw [← h]
  cases hat : lock.expiresAt with
  | none => simp [hat] at hexpired
  | some text =>
    cases htext : Runtime.fromisoformat text with
    | none => simp [hat, htext] at hexpired
    | some instant => simpa [hat, htext] using hexpired

/-- An expired lock is released into the audits. -/
theorem cleared_releaseExpiredLock {taskId reason : String} {lock : TaskLock}
    (hread : readLock taskId s = .ok (some lock)) (hexpired : lockIsExpired env lock = .ok true)
    (hclears : clears taskId) :
    (releaseExpiredLock env taskId lock reason).Sat s
      fun _ s' => Cleared env clears s s' ∧ LockStep env clears s s' := by
  obtain ⟨stored, hstored, hsame, rfl, hexpires⟩ := sameLock_of_readLock hread
  obtain ⟨a, ha, hstamp, hwrite⟩ := @writeBrokenLockAudit_eq _ env stored.taskId
    { lock with brokenAt := some (utcNow env), brokenReason := some reason } rfl
  unfold releaseExpiredLock
  rw [hwrite]
  refine Sat.write (Sat.write (sat_sameLocks fun s' hsame' => ?_))
  have hlocks : s'.locks = s.locks.remove stored.taskId := hsame'.1
  have haudits : s'.audits = s.audits.save a := hsame'.2
  refine ⟨.inr ⟨stored, hstored, expired_stored hexpires hexpired, hclears, hlocks, a, ha, hstamp,
    haudits⟩, .breaks a (ha ▸ hclears) hstamp haudits fun l hl => ?_⟩
  rw [hlocks] at hl
  exact ⟨l, (Directory.mem_files_removeWhere.1 hl).1, .refl l⟩

theorem cleared_clearResumeLock {task : TaskRecord} {run : TaskRunRecord} {repair : Bool}
    {reason : String} (hclears : ∀ lock, readLock task.id s = .ok (some lock) →
      lockIsExpired env lock = .ok true → repair = true →
        lock.runId = run.runId ∧ lock.runType = .implementation → clears task.id) :
    (clearResumeLock env task run repair reason).Sat s
      fun _ s' => Cleared env clears s s' ∧ LockStep env clears s s' := by
  have hstay : Cleared env clears s s ∧ LockStep env clears s s :=
    ⟨.inl ⟨rfl, rfl⟩, .holds (Holding.refl s)⟩
  refine Sat.query (fun _ _ => hstay) fun existing hread => ?_
  cases existing with
  | none => exact Sat.pure hstay
  | some lock =>
    refine Sat.except (fun _ _ => hstay) fun expired hexpired => ?_
    cases expired with
    | false =>
      simp only [Bool.and_false, Bool.false_eq_true, if_false]
      exact Sat.throw hstay
    | true =>
      cases repair with
      | false => exact Sat.throw hstay
      | true =>
        refine Sat.guard (fun _ => hstay) fun hfits => ?_
        rw [not_or, not_ne_iff, not_ne_iff] at hfits
        exact cleared_releaseExpiredLock hread hexpired (hclears lock hread hexpired rfl hfits)

/-- A resumption may release an expired lock of its run before it acquires a new one. -/
theorem lockStep_resumeImplementation {ref : String} {runId : Option String} {reason : String}
    {actor : Option ActorRef} {harness : Option NamedHarness} {repair : Bool}
    (hclears : ∀ task run lock, resumptionOf ref runId reason s = .ok (task, run) →
      readLock task.id s = .ok (some lock) → lockIsExpired env lock = .ok true → repair = true →
        lock.runId = run.runId ∧ lock.runType = .implementation → clears task.id) :
    (resumeImplementation env ref runId reason actor harness repair).Sat s
      fun _ s' => LockStep env clears s s' := by
  refine Sat.query (fun _ _ => .holds (Holding.refl s)) fun (task, run) hread => ?_
  refine Sat.bind (cleared_clearResumeLock fun lock => hclears task run lock hread)
    (fun _ _ h => h.2) fun _ s₁ h => ?_
  exact Sat.query (fun _ _ => h.2) fun _ _ => lockStep_bind (lockStep_acquireLock h.1 h.2)

/-- A broken lock is filed among the audits. -/
theorem lockStep_breakLock {ref reason : String}
    (hclears : ∀ task lock, resolveTask ref false s = .ok task →
      readLock task.id s = .ok (some lock) → clears task.id) :
    (breakLock env ref reason).Sat s fun _ s' => LockStep env clears s s' := by
  have hstay : LockStep env clears s s := .holds (Holding.refl s)
  refine Sat.query (fun _ _ => hstay) fun task htask => ?_
  refine Sat.query (fun _ _ => hstay) fun lock hlock => ?_
  cases lock with
  | none => exact Sat.throw hstay
  | some lock =>
    obtain ⟨a, ha, hstamp, hwrite⟩ :=
      @writeBrokenLockAudit_eq _ env task.id (brokenLock env lock reason) rfl
    show (writeBrokenLock env task reason lock).Sat s _
    unfold writeBrokenLock
    rw [hwrite]
    refine Sat.write (sat_holding fun s' h => ?_)
    exact .breaks a (ha ▸ hclears task lock htask hlock) hstamp h.1 h.2

-- ════════════════════════════════════════════════════════════════════════
-- Steps
-- ════════════════════════════════════════════════════════════════════════

/-- A resumption that was asked to repair releases the lock: an expired one of the run. -/
def releasable (env : Env) (run : TaskRunRecord) (lock : TaskLock) : Bool :=
  (lockIsExpired env lock).toOption = some true ∧ lock.runId = run.runId ∧
    lock.runType = .implementation

/-- The step files the lock of the task among the audits. -/
def Step.breaks (step : Step) (s : Ledger) (taskId : String) : Bool :=
  match step.op with
  | .breakLock ref _ =>
    (resolveTask ref false s).toOption.any fun task =>
      task.id = taskId && (readLock task.id s).toOption.join.isSome
  | .resumeImplementation ref runId reason _ _ repair =>
    (resumptionOf ref runId reason s).toOption.any fun (task, run) =>
      task.id = taskId && repair &&
        (readLock task.id s).toOption.join.any (releasable step.env run)
  | _ => false

/-- The ledger after the planning that an operation starts before it submits a plan. -/
def Step.midway (step : Step) (s : Ledger) : Ledger :=
  match step.op with
  | .amendPlan ref dropCriteria dropTodos _ reason =>
    match amendmentOf ref dropCriteria dropTodos reason s with
    | .ok (task, _) => ((startPlanning step.env task.id).runOn s).2
    | .error _ => s
  | .upsertPlan ref _ _ fromAnswers allowOpenQuestions autoReviseFlag =>
    match upsertBranch ref fromAnswers allowOpenQuestions s with
    | .ok (task, false) =>
      if autoReviseFlag then ((autoRevise step.env task).runOn s).2 else s
    | _ => s
  | _ => s

theorem lockStep_dropResult {α : Type} {m : LedgerAction α}
    (h : m.Sat s fun _ s' => LockStep env clears s s') :
    LockStep env clears s ((dropResult m).runOn s).2 := by
  rw [ledger_dropResult]
  exact h

omit [Runtime] in
theorem holding_dropResult {α : Type} {m : LedgerAction α} [h : Within Holding m] :
    Holding.Moves s ((dropResult m).runOn s).2 := by
  rw [ledger_dropResult]
  exact h.moves s

omit [Runtime] in
/-- What follows an action moves from where the action left the ledger. -/
theorem holding_after {α β : Type} {m : LedgerAction α} {k : α → LedgerAction β}
    [hk : ∀ a, Within Holding (k a)] : Holding.Moves (m.runOn s).2 ((m >>= k).runOn s).2 := by
  have hsat : (m >>= k).Sat s fun _ s' => Holding.Moves (m.runOn s).2 s' := by
    refine Sat.bind (P := fun _ s' => s' = (m.runOn s).2) rfl (fun _ s' h => ?_) fun a s' h => ?_
    · rw [h]
      exact Holding.refl _
    · rw [← h]
      exact (hk a).sat s'
  exact hsat

/-- A plan is amended by a planning of its own. -/
theorem locking_amendPlan {ref : String} {dropCriteria dropTodos removeFiles : List String}
    {reason : String} :
    LockStep env (fun _ => False) s
        (Step.midway ⟨env, .amendPlan ref dropCriteria dropTodos removeFiles reason⟩ s) ∧
      Holding.Moves (Step.midway ⟨env, .amendPlan ref dropCriteria dropTodos removeFiles reason⟩ s)
        ((amendPlan env ref dropCriteria dropTodos removeFiles reason).runOn s).2 := by
  simp only [Step.midway]
  cases hread : amendmentOf ref dropCriteria dropTodos reason s with
  | error e =>
    refine ⟨.holds (Holding.refl s), ?_⟩
    unfold amendPlan
    rw [runOn_query_error hread]
    exact Holding.refl s
  | ok read =>
    refine ⟨lockStep_startPlanning, ?_⟩
    unfold amendPlan
    rw [runOn_query hread]
    exact holding_after

theorem locking_upsertPlan {ref body : String} {criteria : List String}
    {fromAnswers allowOpenQuestions autoReviseFlag : Bool} :
    LockStep env (fun _ => False) s (Step.midway
        ⟨env, .upsertPlan ref body criteria fromAnswers allowOpenQuestions autoReviseFlag⟩ s) ∧
      Holding.Moves (Step.midway
          ⟨env, .upsertPlan ref body criteria fromAnswers allowOpenQuestions autoReviseFlag⟩ s)
        ((upsertPlan env ref body criteria fromAnswers allowOpenQuestions autoReviseFlag).runOn s).2 := by
  have hstay : LockStep env (fun _ => False) s s := .holds (Holding.refl s)
  simp only [Step.midway]
  cases hread : upsertBranch ref fromAnswers allowOpenQuestions s with
  | error e =>
    refine ⟨hstay, ?_⟩
    unfold upsertPlan
    rw [runOn_query_error hread]
    exact Holding.refl s
  | ok read =>
    obtain ⟨task, regenerates⟩ := read
    unfold upsertPlan
    rw [runOn_query hread]
    cases regenerates with
    | true =>
      exact ⟨hstay, (inferInstance : Within Holding
        (upsertRegeneration env task body criteria allowOpenQuestions)).moves s⟩
    | false =>
      cases autoReviseFlag with
      | true => exact ⟨lockStep_autoRevise, holding_after⟩
      | false => exact ⟨hstay, holding_after⟩

instance {ref : String} {request : HandoffRequest} :
    Within Holding (createHandoff env ref request) := by
  unfold createHandoff
  infer_instance

instance {taskId handoffId verb : String} {from_ : List HandoffStatus} {status : HandoffStatus}
    {reason : Option String} :
    Within Holding (endHandoff taskId handoffId verb from_ status reason) := by
  unfold endHandoff
  infer_instance

instance {taskId handoffId : String} {reason : Option String} :
    Within Holding (closeHandoff taskId handoffId reason) := by
  unfold closeHandoff
  infer_instance

instance {taskId handoffId : String} {reason : Option String} :
    Within Holding (cancelHandoff taskId handoffId reason) := by
  unfold cancelHandoff
  infer_instance

theorem holding_recorder (r : Recorder) : Holding.Moves s ((r.run env).runOn s).2 := by
  have hsame (hl : .locks ∉ r.parts) (ha : .audits ∉ r.parts) :
      Holding.Moves s ((r.run env).runOn s).2 :=
    SameLocks.holding ⟨r.within.moves s .locks hl, r.within.moves s .audits ha⟩
  cases r with
  | createHandoff ref request =>
    exact holding_dropResult
  | claimHandoff taskId handoffId actor harness newRunId =>
    rw [Recorder.run, ledger_dropResult]
    exact holding_claimHandoff
  | closeHandoff taskId handoffId reason =>
    exact holding_dropResult
  | cancelHandoff taskId handoffId reason =>
    exact holding_dropResult
  | _ => exact hsame (by simp [Recorder.parts]) (by simp [Recorder.parts])

/-- A step acquires a lock halfway and holds the locks after that, or takes one step on
the locks. -/
theorem Step.locking (step : Step) (s : Ledger) :
    LockStep step.env (fun _ => False) s (step.midway s) ∧
        Holding.Moves (step.midway s) (step.next s) ∨
      step.midway s = s ∧ LockStep step.env (fun taskId => step.breaks s taskId = true) s
        (step.next s) := by
  obtain ⟨env, op⟩ := step
  have hsame (hl : .locks ∉ op.parts) (ha : .audits ∉ op.parts) :
      Holding.Moves s (Step.next ⟨env, op⟩ s) := by
    have hlocks : s.Same (Step.next ⟨env, op⟩ s) .locks := Step.same ⟨env, op⟩ s hl
    have haudits : s.Same (Step.next ⟨env, op⟩ s) .audits := Step.same ⟨env, op⟩ s ha
    exact SameLocks.holding ⟨hlocks, haudits⟩
  cases op with
  | amendPlan ref dropCriteria dropTodos removeFiles reason =>
    left
    simp only [Step.next, Op.run, ledger_dropResult]
    exact locking_amendPlan
  | upsertPlan ref body criteria fromAnswers allowOpenQuestions autoReviseFlag =>
    left
    simp only [Step.next, Op.run, ledger_dropResult]
    exact locking_upsertPlan
  | breakLock ref reason =>
    refine .inr ⟨rfl, lockStep_dropResult (lockStep_breakLock fun task lock htask hlock => ?_)⟩
    simp [Step.breaks, htask, hlock, Except.toOption]
  | resumeImplementation ref runId reason actor harness repair =>
    refine .inr ⟨rfl, lockStep_dropResult (lockStep_resumeImplementation
      fun task run lock hread hlock hexpired hrepair hfits => ?_)⟩
    simp [Step.breaks, releasable, hread, hlock, hexpired, hrepair, hfits, Except.toOption]
  | startPlanning ref actor harness =>
    exact .inr ⟨rfl, lockStep_dropResult lockStep_startPlanning⟩
  | revisePlan ref => exact .inr ⟨rfl, lockStep_dropResult lockStep_revisePlan⟩
  | startImplementation ref actor harness =>
    exact .inr ⟨rfl, lockStep_dropResult lockStep_startImplementation⟩
  | restartImplementation ref summary actor harness =>
    exact .inr ⟨rfl, lockStep_dropResult lockStep_restartImplementation⟩
  | startValidation ref actor harness =>
    exact .inr ⟨rfl, lockStep_dropResult lockStep_startValidation⟩
  | recorder r => exact .inr ⟨rfl, .holds (holding_recorder r)⟩
  | proposePlan ref body criteria => exact .inr ⟨rfl, .holds holding_dropResult⟩
  | regeneratePlan ref body criteria allowOpenQuestions =>
    exact .inr ⟨rfl, .holds holding_dropResult⟩
  | finishImplementation ref summary => exact .inr ⟨rfl, .holds holding_dropResult⟩
  | finishValidation ref result summary recommendation =>
    exact .inr ⟨rfl, .holds holding_dropResult⟩
  | cancelTask ref reason => exact .inr ⟨rfl, .holds holding_dropResult⟩
  | _ =>
    exact .inr ⟨rfl, .holds (hsame (by simp [Op.parts]) (by simp [Op.parts]))⟩

/-- The parts besides the audits. -/
abbrev besideAudits : List Part := .locks :: besideLocks

/-- An audit of the task at this instant is filed. -/
def Audited (env : Env) (taskId : String) (s : Ledger) : Prop :=
  ∃ a ∈ s.audits.files, a.taskId = taskId ∧ a.stamp = auditStamp (utcNow env)

/-- An audit is filed, and what follows leaves the audits alone. -/
theorem audited_after {α : Type} {taskId : String} {lock : TaskLock} {m : LedgerAction α}
    [h : Within (SameBut besideAudits) m] (hbroken : lock.brokenAt = some (utcNow env)) :
    (writeBrokenLockAudit env taskId lock >>= fun _ => m).Sat s
      fun _ s' => Audited env taskId s' := by
  obtain ⟨a, ha, hstamp, hwrite⟩ := @writeBrokenLockAudit_eq _ env taskId lock hbroken
  rw [hwrite]
  refine Sat.write ⟨a, ?_, ha, hstamp⟩
  have hsame : (m.runOn (s.putAudit a)).2.audits = (s.putAudit a).audits :=
    h.moves (s.putAudit a) .audits (by decide)
  rw [hsame]
  exact Directory.mem_files_save.2 (.inl rfl)

theorem Audited.kept {α : Type} {taskId : String} {m : LedgerAction α}
    [hm : Within (SameBut besideAudits) m] (h : Audited env taskId s) :
    m.Sat s fun _ s' => Audited env taskId s' := by
  have hsame : (m.runOn s).2.audits = s.audits := hm.moves s .audits (by decide)
  show Audited env taskId (m.runOn s).2
  unfold Audited
  rw [hsame]
  exact h

theorem audited_clearResumeLock {task : TaskRecord} {run : TaskRunRecord} {reason : String}
    {lock : TaskLock} (hlock : readLock task.id s = .ok (some lock))
    (hreleasable : releasable env run lock = true) :
    (clearResumeLock env task run true reason).Sat s fun _ s' => Audited env task.id s' := by
  simp only [releasable, decide_eq_true_eq, toOption_eq_some] at hreleasable
  obtain ⟨hexpired, hrun, htype⟩ := hreleasable
  unfold Sat clearResumeLock
  rw [runOn_query hlock]
  show (repairResumeLock env task run true reason lock).Sat s fun _ s' => Audited env task.id s'
  refine Sat.except (fun e he => by cases he.symm.trans hexpired) fun expired he => ?_
  cases he.symm.trans hexpired
  refine Sat.guard (fun hother => ?_) fun _ => audited_after rfl
  rcases hother with hother | hother
  · exact absurd hrun hother
  · exact absurd htype hother

/-- The steps that break a lock are those that file it. -/
theorem Step.audited_of_breaks {step : Step} {taskId : String}
    (h : step.breaks s taskId = true) : Audited step.env taskId (step.next s) := by
  obtain ⟨env, op⟩ := step
  cases op with
  | breakLock ref reason =>
    simp only [Step.breaks, Option.any_eq_true, Bool.and_eq_true, decide_eq_true_eq,
      toOption_eq_some, Option.isSome_iff_exists, Option.join_eq_some_iff] at h
    obtain ⟨task, htask, rfl, lock, hlock⟩ := h
    simp only [Step.next, Op.run, ledger_dropResult, breakLock]
    rw [runOn_query htask, runOn_query hlock]
    exact audited_after rfl
  | resumeImplementation ref runId reason actor harness repair =>
    simp only [Step.breaks, Option.any_eq_true, Bool.and_eq_true, decide_eq_true_eq,
      toOption_eq_some, Option.join_eq_some_iff] at h
    obtain ⟨⟨task, run⟩, hread, ⟨rfl, rfl⟩, lock, hlock, hreleasable⟩ := h
    simp only [Step.next, Op.run, ledger_dropResult, resumeImplementation]
    rw [runOn_query hread]
    exact Sat.bind (audited_clearResumeLock hlock hreleasable) (fun _ _ h => h)
      fun _ s' h => h.kept
  | _ => cases h

-- ════════════════════════════════════════════════════════════════════════
-- Numbers
-- ════════════════════════════════════════════════════════════════════════

omit [Runtime] in
theorem toList_fourDigits (n : Nat) : (Text.fourDigits n).toList = PlainRuntime.digits n := by
  have hlength : n.repr.length = (Nat.toDigits 10 n).length := by
    rw [← String.length_toList, Nat.toList_repr]
  simp [Text.fourDigits, PlainRuntime.digits, hlength]

omit [Runtime] in
/-- The text of an id tells its stamp and its number. -/
theorem stamp_inj {stamp stamp' : String} {n n' : Nat}
    (h : stamp ++ "-" ++ Text.fourDigits n = stamp' ++ "-" ++ Text.fourDigits n') :
    stamp = stamp' ∧ n = n' := by
  have hdash (n : Nat) : '-' ∉ PlainRuntime.digits n := fun hmem =>
    absurd (PlainRuntime.isDigit_of_mem_digits hmem) (by decide)
  have hlists := congrArg String.toList h
  simp only [String.toList_append, toList_fourDigits, List.append_assoc] at hlists
  obtain ⟨hstamp, hdigits⟩ := cut_at_last (hdash n) (hdash n') hlists
  refine ⟨String.toList_injective hstamp, ?_⟩
  rw [← PlainRuntime.ofDigitChars_digits n, hdigits, PlainRuntime.ofDigitChars_digits]

/-- The ids that start with a stamp. -/
def stamped (stamp : String) (ids : List String) : List String :=
  ids.filter fun id => Text.startsWith id stamp

/-- The ids of the audits, as `_next_lock_id` counts them. -/
def auditIds (s : Ledger) : List String := s.audits.files.map fun a => "lock-" ++ a.stamp

/-- The ids of the lock files. -/
def heldIds (s : Ledger) : List String := s.locks.files.map TaskLock.lockId

theorem nextLockId_eq_ok {lockId : String} (h : nextLockId env s = .ok lockId) :
    lockId = Runtime.lockStamp env.now ++ "-" ++ Text.fourDigits
      ((stamped (Runtime.lockStamp env.now) (heldIds s)).length +
        (stamped (Runtime.lockStamp env.now) (auditIds s)).length + 1) := by
  obtain ⟨active, hactive, h⟩ := Query.bind_eq_ok.1 h
  obtain ⟨_, hs, h⟩ := Query.bind_eq_ok.1 h
  cases hs
  have hids : (active.map TaskLock.lockId).Perm (heldIds s) := by
    rw [map_key_reloaded hactive fun a b hr => by
      simp only [TaskLock.reload, bind_eq_ok, pure_eq_ok] at hr
      obtain ⟨-, -, -, -, -, -, -, -, -, -, -, -, rfl⟩ := hr
      rfl]
    exact (List.perm_insertionSort _ _).map _
  rw [← Query.pure_eq_ok.1 h]
  simp only [List.filter_append, List.length_append, stamped, auditIds,
    (hids.filter _).length_eq]

omit [Runtime] in
theorem stamped_auditIds_le {stamp : String} {a : LockAudit}
    (h : s'.audits = s.audits.save a) :
    (stamped stamp (auditIds s)).length ≤ (stamped stamp (auditIds s')).length := by
  unfold stamped auditIds
  rw [h]
  refine (List.Sublist.filter _ (Directory.sublist_map_place fun b c hkey => ?_)).length_le
  have hstamp : b.stamp = c.stamp := congrArg Prod.snd hkey
  rw [hstamp]

-- ════════════════════════════════════════════════════════════════════════
-- The locks ever acquired
-- ════════════════════════════════════════════════════════════════════════

omit [Runtime] in
/-- The locks of a ledger that were acquired since another. -/
def newLocks (s s' : Ledger) : List TaskLock :=
  s'.locks.files.filter fun l => s.locks.files.all fun old => ¬ l.SameLock old

/-- The locks that a step acquires. -/
def Step.acquired (step : Step) (s : Ledger) : List TaskLock :=
  newLocks s (step.midway s) ++ newLocks (step.midway s) (step.next s)

/-- A ledger with the locks that were ever acquired in it. -/
structure LockHistory where
  ledger : Ledger
  acquired : List TaskLock

/-- The program with the history of its locks. -/
def locked : System LockHistory Step where
  init := ⟨.empty, []⟩
  next step h := ⟨step.next h.ledger, h.acquired ++ step.acquired h.ledger⟩

/-- While a step acquires a lock, the locks acquired before in the same second are held and
have not expired; a step breaks no lock of a task that has an audit of the same instant. -/
structure Step.KeepsLockIds (h : LockHistory) (step : Step) : Prop where
  acquires : step.acquired h.ledger ≠ [] → ∀ l ∈ h.acquired,
    Text.startsWith l.lockId (Runtime.lockStamp step.env.now) = true →
      ∃ held ∈ h.ledger.locks.files, held.SameLock l ∧ lockIsExpired step.env held = .ok false
  breaks : ∀ a ∈ h.ledger.audits.files, step.breaks h.ledger a.taskId = true →
    a.stamp ≠ auditStamp (utcNow step.env)

omit [Runtime] in
/-- The locks that were acquired have ids of their own: the number of an id is at most the
count of the ids of its second and of the audits. -/
structure Distinct (s : Ledger) (acquired : List TaskLock) : Prop where
  nodup : (acquired.map TaskLock.lockId).Nodup
  held : ∀ l ∈ s.locks.files, ∃ old ∈ acquired, l.SameLock old
  numbered : ∀ l ∈ acquired, ∃ stamp n, l.lockId = stamp ++ "-" ++ Text.fourDigits n ∧
    n ≤ (stamped stamp (acquired.map TaskLock.lockId)).length +
      (stamped stamp (auditIds s)).length

variable {acquired : List TaskLock}

omit [Runtime] in
theorem mem_newLocks {l : TaskLock} :
    l ∈ newLocks s s' ↔ l ∈ s'.locks.files ∧ ∀ old ∈ s.locks.files, ¬ l.SameLock old := by
  simp [newLocks]

omit [Runtime] in
/-- Held locks are not new. -/
theorem newLocks_eq_nil (h : ∀ l ∈ s'.locks.files, ∃ old ∈ s.locks.files, l.SameLock old) :
    newLocks s s' = [] := by
  refine List.eq_nil_iff_forall_not_mem.2 fun l hl => ?_
  obtain ⟨hfile, hnew⟩ := mem_newLocks.1 hl
  obtain ⟨old, hold, hsame⟩ := h l hfile
  exact hnew old hold hsame

omit [Runtime] in
/-- A ledger whose locks were held before and whose audits are at least the same. -/
theorem Distinct.holds (hd : Distinct s acquired)
    (hlocks : ∀ l ∈ s'.locks.files, ∃ old ∈ s.locks.files, l.SameLock old)
    (haudits : ∀ stamp, (stamped stamp (auditIds s)).length ≤
      (stamped stamp (auditIds s')).length) : Distinct s' acquired where
  nodup := hd.nodup
  held l hl := by
    obtain ⟨old, hold, hsame⟩ := hlocks l hl
    obtain ⟨older, holder, hsame'⟩ := hd.held old hold
    exact ⟨older, holder, hsame.trans hsame'⟩
  numbered l hl := by
    obtain ⟨stamp, n, hid, hn⟩ := hd.numbered l hl
    exact ⟨stamp, n, hid, hn.trans (Nat.add_le_add_left (haudits stamp) _)⟩

omit [Runtime] in
/-- The lock files have ids of their own, too. -/
theorem Distinct.nodup_heldIds (hd : Distinct s acquired) : (heldIds s).Nodup := by
  have hfiles : s.locks.files.Nodup := List.Nodup.of_map _ s.locks.nodup
  refine hfiles.map_on fun a ha b hb hab => ?_
  obtain ⟨x, hx, hax⟩ := hd.held a ha
  obtain ⟨y, hy, hby⟩ := hd.held b hb
  have hxy : x = y := List.inj_on_of_nodup_map hd.nodup hx hy
    (hax.2.1.symm.trans (hab.trans hby.2.1))
  have htask : a.taskId = b.taskId := hax.1.trans ((congrArg TaskLock.taskId hxy).trans hby.1.symm)
  exact List.inj_on_of_nodup_map s.locks.nodup ha hb htask

/-- The ledger in which a lock is acquired has no other locks, and the audits. -/
theorem Cleared.stays {s₁ : Ledger} (h : Cleared env clears s s₁) :
    (∀ l ∈ s₁.locks.files, l ∈ s.locks.files) ∧
      (∀ l ∈ s.locks.files, lockIsExpired env l = .ok false → l ∈ s₁.locks.files) ∧
      ∀ stamp, (stamped stamp (auditIds s)).length ≤ (stamped stamp (auditIds s₁)).length := by
  rcases h with ⟨hlocks, haudits⟩ | ⟨old, hold, hexpired, -, hlocks, a, -, -, haudits⟩
  · refine ⟨fun l hl => ?_, fun l hl _ => ?_, fun stamp => ?_⟩
    · rwa [hlocks] at hl
    · rwa [hlocks]
    · rw [auditIds, auditIds, haudits]
  · refine ⟨fun l hl => ?_, fun l hl hfresh => ?_, fun stamp => stamped_auditIds_le haudits⟩
    · rw [hlocks] at hl
      exact (Directory.mem_files_removeWhere.1 hl).1
    · rw [hlocks]
      refine Directory.mem_files_removeWhere.2 ⟨hl, ?_⟩
      have hne : l.taskId ≠ old.taskId := by
        intro htask
        rw [List.inj_on_of_nodup_map s.locks.nodup hl hold htask, hexpired] at hfresh
        cases hfresh
      simpa using hne

omit [Runtime] in
theorem mem_stamped {stamp id : String} {ids : List String} :
    id ∈ stamped stamp ids ↔ id ∈ ids ∧ Text.startsWith id stamp = true := List.mem_filter

omit [Runtime] in
/-- While the locks of its second are held, the number of a new lock is one more than theirs and
the audits' together. -/
theorem Distinct.length_held (hd : Distinct s acquired) {stamp : String}
    (hkept : ∀ l ∈ acquired, Text.startsWith l.lockId stamp = true →
      ∃ held ∈ s.locks.files, held.SameLock l) :
    (stamped stamp (heldIds s)).length = (stamped stamp (acquired.map TaskLock.lockId)).length := by
  have hle : (stamped stamp (heldIds s)).length ≤
      (stamped stamp (acquired.map TaskLock.lockId)).length := by
    refine (List.subperm_of_subset (hd.nodup_heldIds.filter _) fun id hmem => ?_).length_le
    obtain ⟨hmem, hstart⟩ := mem_stamped.1 hmem
    obtain ⟨l, hl, rfl⟩ := List.mem_map.1 hmem
    obtain ⟨old, hold, hsame⟩ := hd.held l hl
    exact mem_stamped.2 ⟨List.mem_map.2 ⟨old, hold, hsame.2.1.symm⟩, hstart⟩
  have hge : (stamped stamp (acquired.map TaskLock.lockId)).length ≤
      (stamped stamp (heldIds s)).length := by
    refine (List.subperm_of_subset (hd.nodup.filter _) fun id hmem => ?_).length_le
    obtain ⟨hmem, hstart⟩ := mem_stamped.1 hmem
    obtain ⟨l, hl, rfl⟩ := List.mem_map.1 hmem
    obtain ⟨held, hheld, hsame⟩ := hkept l hl hstart
    exact mem_stamped.2 ⟨List.mem_map.2 ⟨held, hheld, hsame.2.1⟩, hstart⟩
  exact Nat.le_antisymm hle hge

omit [Runtime] in
theorem startsWith_stamp (stamp : String) (n : Nat) :
    Text.startsWith (stamp ++ "-" ++ Text.fourDigits n) stamp = true := by
  rw [Text.startsWith, String.toList_append, String.toList_append, List.append_assoc,
    List.isPrefixOf_iff_prefix]
  exact List.prefix_append _ _

/-- An acquired lock has an id of its own. -/
theorem Distinct.acquire {lock : TaskLock} (hd : Distinct s acquired)
    (hid : nextLockId env s = .ok lock.lockId)
    (hkept : ∀ l ∈ acquired, Text.startsWith l.lockId (Runtime.lockStamp env.now) = true →
      ∃ held ∈ s.locks.files, held.SameLock l)
    (haudits : s'.audits = s.audits)
    (hlocks : ∀ l ∈ s'.locks.files, l.SameLock lock ∨ ∃ old ∈ acquired, l.SameLock old) :
    Distinct s' (acquired ++ [lock]) := by
  have hcount := hd.length_held hkept
  have htext := nextLockId_eq_ok hid
  rw [hcount] at htext
  have hsaudits : auditIds s' = auditIds s := by rw [auditIds, auditIds, haudits]
  have hfresh : ∀ l ∈ acquired, l.lockId ≠ lock.lockId := by
    intro l hl hsame
    obtain ⟨stamp, n, hnamed, hn⟩ := hd.numbered l hl
    obtain ⟨rfl, rfl⟩ := stamp_inj (hnamed.symm.trans (hsame.trans htext))
    omega
  refine ⟨?_, fun l hl => ?_, fun l hl => ?_⟩
  · rw [List.map_append, List.nodup_append]
    refine ⟨hd.nodup, by simp, fun id hmem id' hmem' => ?_⟩
    obtain ⟨l, hl, rfl⟩ := List.mem_map.1 hmem
    cases List.mem_singleton.1 hmem'
    exact hfresh l hl
  · rcases hlocks l hl with hsame | ⟨old, hold, hsame⟩
    · exact ⟨lock, by simp, hsame⟩
    · exact ⟨old, List.mem_append_left _ hold, hsame⟩
  · rw [hsaudits]
    have hgrow (stamp : String) :
        stamped stamp ((acquired ++ [lock]).map TaskLock.lockId) =
          stamped stamp (acquired.map TaskLock.lockId) ++ stamped stamp [lock.lockId] := by
      simp [stamped]
    rcases List.mem_append.1 hl with hl | hl
    · obtain ⟨stamp, n, hnamed, hn⟩ := hd.numbered l hl
      refine ⟨stamp, n, hnamed, ?_⟩
      rw [hgrow, List.length_append]
      omega
    · cases List.mem_singleton.1 hl
      refine ⟨_, _, htext, ?_⟩
      have hone : stamped (Runtime.lockStamp env.now) [lock.lockId] = [lock.lockId] := by
        rw [stamped, htext, List.filter_singleton, startsWith_stamp]
        rfl
      rw [hgrow, List.length_append, hone, List.length_singleton]
      omega

/-- One step on the locks keeps the ids of the acquired locks apart. -/
theorem Distinct.step (hd : Distinct s acquired) (hstep : LockStep env clears s s')
    (hkept : newLocks s s' ≠ [] → ∀ l ∈ acquired,
      Text.startsWith l.lockId (Runtime.lockStamp env.now) = true →
        ∃ held ∈ s.locks.files, held.SameLock l ∧ lockIsExpired env held = .ok false) :
    Distinct s' (acquired ++ newLocks s s') := by
  cases hstep with
  | holds h =>
    obtain ⟨haudits, hlocks⟩ := h
    rw [newLocks_eq_nil hlocks, List.append_nil]
    refine hd.holds hlocks fun stamp => ?_
    rw [auditIds, auditIds, haudits]
  | breaks a _ _ haudits hlocks =>
    rw [newLocks_eq_nil hlocks, List.append_nil]
    exact hd.holds hlocks fun _ => stamped_auditIds_le haudits
  | acquires s₁ hcleared lock hid haudits hlocks =>
    obtain ⟨hsub, hstay, hgrow⟩ := hcleared.stays
    have hd₁ : Distinct s₁ acquired := hd.holds (fun l hl => ⟨l, hsub l hl, .refl l⟩) hgrow
    have hnew {l : TaskLock} (hl : l ∈ newLocks s s') : l.SameLock lock := by
      obtain ⟨hfile, hnone⟩ := mem_newLocks.1 hl
      rcases hlocks l hfile with hsame | ⟨old, hold, hsame⟩
      · exact hsame
      · exact absurd hsame (hnone old (hsub old hold))
    by_cases hnone : newLocks s s' = []
    · rw [hnone, List.append_nil]
      refine hd.holds (fun l hl => ?_) fun stamp => ?_
      · by_contra hall
        have hmem : l ∈ newLocks s s' :=
          mem_newLocks.2 ⟨hl, fun old hold hsame => hall ⟨old, hold, hsame⟩⟩
        rw [hnone] at hmem
        cases hmem
      · rw [show auditIds s' = auditIds s₁ by rw [auditIds, auditIds, haudits]]
        exact hgrow stamp
    · obtain ⟨l₀, hl₀⟩ := List.exists_mem_of_ne_nil _ hnone
      have hsame₀ := hnew hl₀
      have hfiles : s'.locks.files.Nodup := List.Nodup.of_map _ s'.locks.nodup
      have hone : newLocks s s' = [l₀] := by
        refine List.perm_singleton.1 ((List.perm_ext_iff_of_nodup (hfiles.filter _)
          (List.nodup_singleton l₀)).2 fun l => ?_)
        refine ⟨fun hl => List.mem_singleton.2 ?_, fun hl => List.mem_singleton.1 hl ▸ hl₀⟩
        exact List.inj_on_of_nodup_map s'.locks.nodup (mem_newLocks.1 hl).1 (mem_newLocks.1 hl₀).1
          ((hnew hl).1.trans hsame₀.1.symm)
      rw [hone]
      refine hd₁.acquire (hsame₀.2.1 ▸ hid) (fun l hl hstart => ?_) haudits fun l hl => ?_
      · obtain ⟨held, hheld, hsame, hfresh⟩ := hkept hnone l hl hstart
        exact ⟨held, hstay held hheld hfresh, hsame⟩
      · rcases hlocks l hl with hsame | ⟨old, hold, hsame⟩
        · exact .inl (hsame.trans hsame₀.symm)
        · obtain ⟨older, holder, hsame'⟩ := hd₁.held old hold
          exact .inr ⟨older, holder, hsame.trans hsame'⟩

theorem Distinct.next {step : Step} (hd : Distinct s acquired)
    (hkept : step.acquired s ≠ [] → ∀ l ∈ acquired,
      Text.startsWith l.lockId (Runtime.lockStamp step.env.now) = true →
        ∃ held ∈ s.locks.files, held.SameLock l ∧ lockIsExpired step.env held = .ok false) :
    Distinct (step.next s) (acquired ++ step.acquired s) := by
  unfold Step.acquired at hkept ⊢
  rcases step.locking s with ⟨hmid, haudits, hlocks⟩ | ⟨hmid, hstep⟩
  · rw [newLocks_eq_nil hlocks, List.append_nil] at hkept ⊢
    refine (hd.step hmid hkept).holds hlocks fun stamp => ?_
    rw [auditIds, auditIds, haudits]
  · have hself : newLocks s s = [] := newLocks_eq_nil fun l hl => ⟨l, hl, .refl l⟩
    rw [hmid, hself, List.nil_append] at hkept ⊢
    exact hd.step hstep hkept

/-- In the runs whose steps keep the lock ids, the locks ever acquired have ids of their own. -/
theorem Reachable.distinct {h : LockHistory}
    (hr : locked.Reachable (fun h step => step.KeepsLockIds h) h) :
    Distinct h.ledger h.acquired := by
  refine hr.invariant (I := fun h => Distinct h.ledger h.acquired) ?_ ?_
  · refine ⟨List.nodup_nil, fun l hl => ?_, fun l hl => ?_⟩ <;> cases hl
  · intro h step _ hd hc
    exact hd.next hc.acquires

/-- The audits of a ledger stay when no audit of the broken lock has the same name. -/
theorem audits_stay {step : Step} {a : LockAudit} (ha : a ∈ s.audits.files)
    (hc : ∀ a ∈ s.audits.files, step.breaks s a.taskId = true →
      a.stamp ≠ auditStamp (utcNow step.env)) : a ∈ (step.next s).audits.files := by
  have hsave {b : LockAudit} (hb : step.breaks s b.taskId = true)
      (hstamp : b.stamp = auditStamp (utcNow step.env)) : a ∈ (s.audits.save b).files := by
    refine Directory.mem_files_save.2 (.inr ⟨ha, fun hkey => ?_⟩)
    have htask : a.taskId = b.taskId := congrArg Prod.fst hkey
    exact hc a ha (htask ▸ hb) ((congrArg Prod.snd hkey).trans hstamp)
  have hstep {mid : Ledger} {clears : String → Prop} (hclears : ∀ id, clears id → step.breaks s id = true)
      (h : LockStep step.env clears s mid) : a ∈ mid.audits.files := by
    cases h with
    | holds h => rwa [h.1]
    | breaks b hb hstamp haudits _ =>
      rw [haudits]
      exact hsave (hclears _ hb) hstamp
    | acquires s₁ hcleared lock hid haudits _ =>
      rw [haudits]
      rcases hcleared with ⟨-, hsame⟩ | ⟨old, -, -, hb, -, b, hkey, hstamp, hsaved⟩
      · rwa [hsame]
      · rw [hsaved]
        exact hsave (hkey ▸ hclears _ hb) hstamp
  rcases step.locking s with ⟨hmid, haudits, -⟩ | ⟨-, h⟩
  · rw [haudits]
    exact hstep (fun _ hf => hf.elim) hmid
  · exact hstep (fun _ hb => hb) h

/-- In the runs whose steps keep the lock ids, no two locks that were ever acquired share an
id, and no audit of a broken lock overwrites another. -/
theorem lock_ids_identify {h : LockHistory}
    (hr : locked.Reachable (fun h step => step.KeepsLockIds h) h) :
    (h.acquired.map TaskLock.lockId).Nodup ∧
      ∀ step : Step, step.KeepsLockIds h → ∀ a ∈ h.ledger.audits.files,
        a ∈ (step.next h.ledger).audits.files :=
  ⟨(Reachable.distinct hr).nodup, fun _ hc _ ha => audits_stay ha hc.breaks⟩

instance (env : Env) (l : TaskLock) : Decidable (lockIsExpired env l = .ok false) :=
  match lockIsExpired env l with
  | .ok false => .isTrue rfl
  | .ok true => .isFalse (by simp)
  | .error _ => .isFalse (by simp)

instance (h : LockHistory) (step : Step) : Decidable (step.KeepsLockIds h) :=
  decidable_of_iff
    ((step.acquired h.ledger ≠ [] → ∀ l ∈ h.acquired,
      Text.startsWith l.lockId (Runtime.lockStamp step.env.now) = true →
        ∃ held ∈ h.ledger.locks.files, held.SameLock l ∧ lockIsExpired step.env held = .ok false) ∧
      ∀ a ∈ h.ledger.audits.files, step.breaks h.ledger a.taskId = true →
        a.stamp ≠ auditStamp (utcNow step.env))
    ⟨fun hc => ⟨hc.1, hc.2⟩, fun hc => ⟨hc.acquires, hc.breaks⟩⟩

end LockIds

section Evaluation

attribute [local instance] plainRuntime

/-- The history after operations of one second. -/
def historyOfLocks (ops : List Op) : LockHistory :=
  locked.run locked.init (ops.map (Step.mk plainEnv))

/-- Two tasks that are planned in one second. -/
def twoPlanningsOps : List Op :=
  [.createTask { title := "A", description := "d" }, .createTask { title := "B", description := "d" },
    .startPlanning "task-0001" none none, .startPlanning "task-0002" none none]

theorem lock_ids_identify_two_plannings :
    (historyOfLocks twoPlanningsOps).acquired.map TaskLock.lockId =
        ["lock-19700101T000000Z-0001", "lock-19700101T000000Z-0002"] ∧
      ((historyOfLocks twoPlanningsOps).acquired.map TaskLock.lockId).Nodup := by
  have hmeets : locked.Meets (fun h step => step.KeepsLockIds h) locked.init
      (twoPlanningsOps.map (Step.mk plainEnv)) := by decide +kernel
  have hids : (historyOfLocks twoPlanningsOps).acquired.map TaskLock.lockId =
      ["lock-19700101T000000Z-0001", "lock-19700101T000000Z-0002"] := by decide +kernel
  exact ⟨hids, (lock_ids_identify (System.Reachable.run .init hmeets)).1⟩

/-- A task that is planned, approved and taken up in one second. -/
def hurriedOps : List Op := approvedOps ++ [.startImplementation "task-0001" none none]

/-- The lock of a planning is released, and the implementation of the same second gets its id. -/
theorem lock_id_is_reused :
    locked.Reachable (fun _ _ => True) (historyOfLocks hurriedOps) ∧
      ¬ ((historyOfLocks hurriedOps).acquired.map TaskLock.lockId).Nodup := by
  have hmeets : locked.Meets (fun _ _ => True) locked.init
      (hurriedOps.map (Step.mk plainEnv)) := by decide +kernel
  exact ⟨System.Reachable.run .init hmeets, by decide +kernel⟩

end Evaluation

end Taskledger
