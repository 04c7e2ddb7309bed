import Taskledger.Concurrency.StorageSteps
import Taskledger.PlainRuntime

/-!
# Concurrent creation

The number of a new task is read from the configuration and written back in two steps,
and the task file is written without a look at what is there.
-/

namespace Taskledger

open Library Process

section Creation

variable [Runtime] {ι : Type} [DecidableEq ι] {env : Env}

/-- The counter of the configuration. -/
def readCounter : LedgerQuery Nat := fun s => .ok s.nextTaskNumber

/-- The write of the counter, when it changes. -/
def advanceCounter (number newNext : Nat) : Call Unit :=
  if newNext ≠ number then perform (.putCounter newNext) else pure ()

/-- `create_task` in its storage steps. -/
def createTaskCall (env : Env) (request : TaskRequest) : Call TaskRecord := do
  let all ← listTasks
  let visible ← listVisibleTasks
  let taskSlug := uniqueSlug (visible.map TaskRecord.slug)
    ((orOption request.slug (some request.title)).getD request.title)
  let number ← readCounter
  let allocated := allocateLedgerTaskId (all.map TaskRecord.id) number
  advanceCounter number allocated.2
  let task := newTask env allocated.1 taskSlug request
  perform (.newTask task)
  perform (.event env task.id "task.created"
    [("slug", .str task.slug), ("title", .str task.title)])
  rebuildV2Indexes
  return task

/-- Allocation reads the counter and writes it back. -/
theorem allocateTaskIdAndAdvance_eq (ids : List String) : allocateTaskIdAndAdvance ids = do
    let number ← readCounter
    (advanceCounter number (allocateLedgerTaskId ids number).2).alone
    return (allocateLedgerTaskId ids number).1 := by
  funext s
  have hread : ((liftM readCounter : LedgerAction Nat) >>= fun number =>
      (advanceCounter number (allocateLedgerTaskId ids number).2).alone >>= fun _ =>
        pure (allocateLedgerTaskId ids number).1) s = _ :=
    Action.runOn_query (q := readCounter) (s := s) rfl
  refine Eq.trans ?_ hread.symm
  unfold allocateTaskIdAndAdvance advanceCounter Action.runOn
  by_cases h : (allocateLedgerTaskId ids s.nextTaskNumber).2 ≠ s.nextTaskNumber
  · simp only [if_pos h]
    rfl
  · simp only [if_neg h]
    rfl

/-- Alone, the steps are those of the operation. -/
theorem createTaskCall_alone (request : TaskRequest) :
    (createTaskCall env request).alone = createTask env request := by
  unfold createTaskCall createTask newTaskIdentity
  simp only [allocateTaskIdAndAdvance_eq, Call.alone_bind, Call.alone_query, Call.alone_event,
    Call.alone_pure, bind_assoc, pure_bind]
  rfl

-- ════════════════════════════════════════════════════════════════════════
-- Phases of a creation
-- ════════════════════════════════════════════════════════════════════════

/-- How far a creation has come: nothing written, a number taken, the task written. -/
inductive CreationPhase where
  | reading
  | reserved (number : Nat)
  | saved (number : Nat) (task : TaskRecord)

/-- The number a creation has taken. -/
def CreationPhase.number? : CreationPhase → Option Nat
  | reading => none
  | reserved number => some number
  | saved number _ => some number

/-- The steps of a creation. -/
inductive CreationMove : CreationPhase → StorageStep → Ledger → CreationPhase → Prop
  | read {g : CreationPhase} {s : Ledger} : CreationMove g .read s g
  | event {g : CreationPhase} {s : Ledger} {host : Env} {taskId name : String} {data : Dict} :
    CreationMove g (.event host taskId name data) s g
  | reserve {s : Ledger} {number : Nat} :
    CreationMove .reading (.putCounter (number + 1)) s (.reserved number)
  | save {s : Ledger} {number : Nat} {task : TaskRecord}
    (hid : task.id = Runtime.formatId "task" number) :
    CreationMove (.reserved number) (.newTask task) s (.saved number task)

/-- A creation returns the task it has written. -/
def creation : Discipline StorageStep Ledger Raised TaskRecord CreationPhase where
  knows _ _ := True
  move := CreationMove
  ends
    | .saved _ task, .ok result => result = task
    | _, .ok _ => False
    | _, .error _ => True

/-- A write of the counter raises it: no other call has taken the number since the counter
was read. -/
def RaisesCounter : StorageStep → Ledger → Prop
  | .putCounter number, s => s.nextTaskNumber < number
  | _, _ => True

instance (l : StorageStep) (s : Ledger) : Decidable (RaisesCounter l s) := by
  cases l <;> unfold RaisesCounter <;> infer_instance

theorem createTaskCall_obeys (request : TaskRequest) :
    (createTaskCall env request).Obeys creation RaisesCounter .reading := by
  have herr {g : CreationPhase} {e : Raised} : creation.ends g (.error e) := by cases g <;> trivial
  refine Obeys.read (fun _ _ => CreationMove.read) (fun _ _ _ _ => herr) fun _ all _ _ => ?_
  refine Obeys.read (fun _ _ => CreationMove.read) (fun _ _ _ _ => herr) fun _ visible _ _ => ?_
  refine Obeys.read (fun _ _ => CreationMove.read) (fun _ _ _ _ => herr) fun _ number _ _ => ?_
  have hraised : (allocateLedgerTaskId (all.map TaskRecord.id) number).2 ≠ number := by
    simp only [allocateLedgerTaskId]
    omega
  have hadvance : advanceCounter number (allocateLedgerTaskId (all.map TaskRecord.id) number).2 =
      perform (.putCounter (max number (maxTaskNumber (all.map TaskRecord.id) + 1) + 1)) :=
    if_pos hraised
  simp only [hadvance]
  refine Obeys.step fun _ _ _ => ⟨.reserved _, .reserve, ?_⟩
  refine Obeys.step fun _ _ _ => ⟨.saved _ _, .save rfl, ?_⟩
  refine Obeys.step fun _ _ _ => ⟨_, .event, ?_⟩
  refine Obeys.read (fun _ _ => CreationMove.read) (fun _ _ _ _ => herr) fun _ _ _ _ => ?_
  exact rfl

/-- The numbers taken are below the counter and taken once, and the written tasks are there. -/
structure Numbered (s : Ledger) (g : ι → CreationPhase) : Prop where
  below : ∀ i number, (g i).number? = some number → number < s.nextTaskNumber
  once : ∀ i j number, (g i).number? = some number → (g j).number? = some number → i = j
  stored : ∀ i number task, g i = .saved number task →
    task.id = Runtime.formatId "task" number ∧ s.tasks.lookup task.id = some task

theorem formatId_injective {m n : Nat}
    (h : Runtime.formatId "task" m = Runtime.formatId "task" n) : m = n := by
  have htask : "task" ∈ idKinds := by decide
  have hm := Runtime.parseNumber_formatId "task" htask m
  rw [h, Runtime.parseNumber_formatId "task" htask] at hm
  exact (Option.some.inj hm).symm

omit [DecidableEq ι] in
/-- A step that leaves the tasks and the counter, and takes no number. -/
theorem Numbered.quiet {s s' : Ledger} {g : ι → CreationPhase} (h : Numbered s g)
    (htasks : s'.tasks = s.tasks) (hcounter : s'.nextTaskNumber = s.nextTaskNumber) :
    Numbered s' g where
  below i number hi := hcounter ▸ h.below i number hi
  once := h.once
  stored i number task hi := htasks ▸ h.stored i number task hi

theorem Numbered.move {s : Ledger} {g : ι → CreationPhase} {i : ι} {l : StorageStep}
    {g' : CreationPhase} (h : Numbered s g) (hC : RaisesCounter l s)
    (hm : CreationMove (g i) l s g') :
    Numbered (l.effect s) (Function.update g i g') := by
  generalize hgi : g i = gi at hm
  cases hm with
  | read =>
    rw [← hgi, Function.update_eq_self]
    exact h
  | event =>
    rw [← hgi, Function.update_eq_self]
    simp only [StorageStep.effect, Action.runOn, appendEvent, Action.write]
    split
    · exact h.quiet rfl rfl
    · exact h
  | @reserve _ number =>
    have hbelow : s.nextTaskNumber < number + 1 := hC
    constructor
    · intro j m hj
      by_cases hji : j = i
      · subst hji
        rw [Function.update_self] at hj
        cases hj
        exact Nat.lt_succ_self _
      · rw [Function.update_of_ne hji] at hj
        exact (h.below j m hj).trans hbelow
    · intro j k m hj hk
      by_cases hji : j = i <;> by_cases hki : k = i
      · rw [hji, hki]
      · subst hji
        rw [Function.update_self] at hj
        rw [Function.update_of_ne hki] at hk
        cases hj
        have := h.below k _ hk
        omega
      · subst hki
        rw [Function.update_self] at hk
        rw [Function.update_of_ne hji] at hj
        cases hk
        have := h.below j _ hj
        omega
      · rw [Function.update_of_ne hji] at hj
        rw [Function.update_of_ne hki] at hk
        exact h.once j k m hj hk
    · intro j m task hj
      by_cases hji : j = i
      · subst hji
        rw [Function.update_self] at hj
        cases hj
      · rw [Function.update_of_ne hji] at hj
        exact h.stored j m task hj
  | @save _ number task hid =>
    have hnumber : (g i).number? = some number := by rw [hgi]; rfl
    have hsame (j : ι) : (Function.update g i (.saved number task) j).number? = (g j).number? := by
      by_cases hji : j = i
      · rw [hji, Function.update_self, hnumber]
        rfl
      · rw [Function.update_of_ne hji]
    constructor
    · intro j m hj
      rw [hsame] at hj
      exact h.below j m hj
    · intro j k m hj hk
      rw [hsame] at hj hk
      exact h.once j k m hj hk
    · intro j m task' hj
      by_cases hji : j = i
      · subst hji
        rw [Function.update_self] at hj
        cases hj
        exact ⟨hid, Directory.lookup_save_self _ _⟩
      · rw [Function.update_of_ne hji] at hj
        obtain ⟨hid', hlookup⟩ := h.stored j m task' hj
        refine ⟨hid', (Directory.lookup_save_of_ne _ ?_).trans hlookup⟩
        rw [hid, hid']
        intro heq
        rw [formatId_injective heq] at hnumber
        exact hji (h.once j i m (by rw [hj]; rfl) hnumber)

/-- Concurrent creations on a ledger. -/
def creations (s : Ledger) (env : ι → Env) (requests : ι → TaskRequest) :
    System (Sharing ι StorageStep Ledger Raised TaskRecord) ι :=
  interleaved StorageStep.effect s fun i => createTaskCall (env i) (requests i)

/-- While every write of the counter raises it, the creations that return have written
tasks of different ids, and each of these tasks is there as it was written. -/
theorem created_tasks_kept {s : Ledger} {env : ι → Env} {requests : ι → TaskRequest}
    {c : Sharing ι StorageStep Ledger Raised TaskRecord}
    (h : (creations s env requests).Reachable (Sharing.Meets RaisesCounter) c) :
    (∀ i task, c.result i = some (.ok task) → c.store.tasks.lookup task.id = some task) ∧
      ∀ i j task task', c.result i = some (.ok task) → c.result j = some (.ok task') →
        i ≠ j → task.id ≠ task'.id := by
  obtain ⟨g, hobeys, hnumbered⟩ := Obeys.invariant (J := fun s _ g => Numbered s g)
    (fun _ _ _ _ _ => trivial) (fun _ _ _ _ _ _ hn hC hm => hn.move hC hm)
    (g := fun _ => .reading) (fun i => createTaskCall_obeys (requests i))
    ⟨fun _ _ h => (by cases h), fun _ _ _ h => (by cases h), fun _ _ _ h => (by cases h)⟩ h
  have hsaved {i : ι} {task : TaskRecord} (hi : c.result i = some (.ok task)) :
      ∃ number, g i = .saved number task := by
    have hends := hobeys i
    rw [Sharing.calls_of_result hi] at hends
    cases hg : g i with
    | reading | reserved => simp [Obeys, creation, hg] at hends
    | saved number task' =>
      rw [hg] at hends
      obtain rfl : task = task' := hends
      exact ⟨number, rfl⟩
  refine ⟨fun i task hi => ?_, fun i j task task' hi hj hne heq => ?_⟩
  · obtain ⟨number, hg⟩ := hsaved hi
    exact (hnumbered.stored i number task hg).2
  · obtain ⟨m, hm⟩ := hsaved hi
    obtain ⟨n, hn⟩ := hsaved hj
    have hids := (hnumbered.stored i m task hm).1.symm.trans
      (heq.trans (hnumbered.stored j n task' hn).1)
    refine hne (hnumbered.once i j m (by rw [hm]; rfl) ?_)
    rw [hn, formatId_injective hids]
    rfl

end Creation

section Evaluation

attribute [local instance] plainRuntime

/-- Two creations on an empty ledger. -/
def twoCreations : System (Sharing Bool StorageStep Ledger Raised TaskRecord) Bool :=
  creations .empty (fun _ => plainEnv) fun first =>
    { title := if first then "A" else "B", description := "d" }

/-- The two creations after some of their steps. -/
def created (schedule : List Bool) : Sharing Bool StorageStep Ledger Raised TaskRecord :=
  twoCreations.run twoCreations.init schedule

/-- The id a creation has returned. -/
def createdId (schedule : List Bool) (first : Bool) : Option String :=
  ((created schedule).result first).bind fun r => r.toOption.map TaskRecord.id

theorem result_of_createdId {schedule : List Bool} {first : Bool} {id : String}
    (h : createdId schedule first = some id) :
    ∃ t, (created schedule).result first = some (.ok t) ∧ t.id = id := by
  unfold createdId at h
  cases hr : (created schedule).result first with
  | none => simp [hr] at h
  | some r =>
    cases r with
    | error e => simp [hr, Except.toOption] at h
    | ok t => exact ⟨t, rfl, by simpa [hr, Except.toOption] using h⟩

/-- One creation after the other. -/
def inTurn : List Bool := List.replicate 8 true ++ List.replicate 8 false

theorem created_tasks_kept_in_turn : ∃ t t',
    (created inTurn).result true = some (.ok t) ∧ (created inTurn).result false = some (.ok t') ∧
      (created inTurn).store.tasks.lookup t.id = some t ∧ t.id ≠ t'.id := by
  have hmeets : twoCreations.Meets (Sharing.Meets RaisesCounter) twoCreations.init inTurn := by
    decide
  have hkept := created_tasks_kept (.run .init hmeets)
  have hfirst : createdId inTurn true = some "task-0001" := by decide
  have hsecond : createdId inTurn false = some "task-0002" := by decide
  obtain ⟨t, ht, -⟩ := result_of_createdId hfirst
  obtain ⟨t', ht', -⟩ := result_of_createdId hsecond
  exact ⟨t, t', ht, ht', hkept.1 true t ht, hkept.2 true false t t' ht ht' (by decide)⟩

/-- The two creations, step by step at the same time. -/
def inStep : List Bool := (List.replicate 8 [true, false]).flatten

/-- Both return the same id, and one task is left. -/
theorem created_task_lost :
    createdId inStep true = some "task-0001" ∧ createdId inStep false = some "task-0001" ∧
      (created inStep).store.tasks.files.map TaskRecord.title = ["B"] := by
  decide

end Evaluation

end Taskledger
