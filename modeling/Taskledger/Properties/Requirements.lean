import Mathlib.Data.List.TakeWhile
import Taskledger.Lifecycle.Footprints
import Taskledger.Lifecycle.Listings
import Taskledger.Lifecycle.Steps
import Taskledger.Properties.ApprovedPlans
import Taskledger.Properties.RoundTrips

/-!
# Requirements

The requirements of a task are written anew by each of the operations on them. What
they say about the other tasks stays when the requirements are written from those that
were read, and is lost with its waiver when they are written from the ids alone.
-/

namespace Taskledger

open Library Action

-- ════════════════════════════════════════════════════════════════════════
-- What a requirement says
-- ════════════════════════════════════════════════════════════════════════

/-- The part of a requirement that decides: its id, the task, the status and the waiver. -/
structure RequirementEntry where
  id : Option String
  taskId : String
  requiredStatus : String
  waiver : Option Waiver
  deriving DecidableEq

def DependencyRequirement.entry (r : DependencyRequirement) : RequirementEntry where
  id := r.id
  taskId := r.taskId
  requiredStatus := r.requiredStatus
  waiver := r.waiver

/-- The entries on other tasks, in their order. -/
def entriesBut (taskId : String) (l : List DependencyRequirement) : List RequirementEntry :=
  (l.filter fun r => r.taskId ≠ taskId).map DependencyRequirement.entry

theorem mem_entriesBut {taskId : String} {l : List DependencyRequirement} {e : RequirementEntry} :
    e ∈ entriesBut taskId l ↔ ∃ r ∈ l, r.taskId ≠ taskId ∧ r.entry = e := by
  simp [entriesBut, and_assoc]

theorem Waiver.reload?_again {w w' : Option Waiver} (h : Waiver.reload? w = .ok w') :
    Waiver.reload? w' = .ok w' := by
  cases w with
  | none => exact Except.ok.inj h ▸ rfl
  | some w =>
    obtain ⟨read, hread, h⟩ := bind_eq_ok.1 h
    cases pure_eq_ok.1 h
    simp only [Waiver.reload, bind_eq_ok, pure_eq_ok] at hread
    obtain ⟨_, hreason, rfl⟩ := hread
    simp only [Waiver.reload?, Waiver.reload, hreason, ActorRef.reload_reload]
    rfl

section Regular

variable [Runtime] {s s' : Ledger} {env : Env} {id : String} {r r' : DependencyRequirement}
  {l l' : List DependencyRequirement}

/-- A requirement that a task is done, filed under the id that goes with the task. -/
structure DependencyRequirement.Regular (r : DependencyRequirement) : Prop where
  canonical : Canonical "task" r.requiredTask
  named : r.id = some (requirementIdFromTask r.requiredTask)
  done : r.requiredStatus = "done"

namespace DependencyRequirement.Regular

theorem reload_eq (h : r.Regular) (hr : r.reload = .ok r') :
    ∃ waiver, Waiver.reload? r.waiver = .ok waiver ∧
      r' = { r with
        taskId := r.requiredTask
        requiredTaskId := some r.requiredTask
        waiver := waiver } := by
  simp only [DependencyRequirement.reload, bind_eq_ok, pure_eq_ok] at hr
  obtain ⟨waiver, hw, rfl⟩ := hr
  refine ⟨waiver, hw, ?_⟩
  have hstatus : Text.orElse r.requiredStatus "done" = r.requiredStatus :=
    (orElse_eq_self (by decide)).2 (by simp [h.done])
  rw [hstatus]

/-- A regular requirement reads back as a regular one on the same task. -/
theorem of_reload (h : r.Regular) (hr : r.reload = .ok r') :
    r'.Regular ∧ r'.taskId = r.requiredTask ∧ r'.requiredTask = r'.taskId := by
  obtain ⟨waiver, -, rfl⟩ := h.reload_eq hr
  have htask : DependencyRequirement.requiredTask { r with
      taskId := r.requiredTask
      requiredTaskId := some r.requiredTask
      waiver := waiver } = r.requiredTask := by
    conv_lhs => rw [DependencyRequirement.requiredTask]
    rw [orOption_some (h.canonical.ne_empty (by decide))]
    rfl
  exact ⟨⟨htask.symm ▸ h.canonical, htask.symm ▸ h.named, h.done⟩, rfl, htask⟩

/-- A requirement that was read reads back with the same entry. -/
theorem entry_again (h : r.Regular) (hr : r.reload = .ok r') {again : DependencyRequirement}
    (hagain : r'.reload = .ok again) : again.entry = r'.entry := by
  obtain ⟨hregular, -, htask⟩ := h.of_reload hr
  obtain ⟨w, hw, rfl⟩ := h.reload_eq hr
  obtain ⟨w', hw', rfl⟩ := hregular.reload_eq hagain
  cases (Waiver.reload?_again hw).symm.trans hw'
  unfold DependencyRequirement.entry
  rw [htask]

end DependencyRequirement.Regular

/-- The requirement files of the ledger are regular. -/
def RegularRequirements (s : Ledger) : Prop := ∀ f ∈ s.requirements.files, f.record.Regular

-- ════════════════════════════════════════════════════════════════════════
-- Readings
-- ════════════════════════════════════════════════════════════════════════

omit [Runtime] in
theorem mem_loadRequirements (h : loadRequirements id s = .ok l) :
    r ∈ l ↔ ∃ f ∈ s.requirements.files, f.owner = id ∧ f.record.reload = .ok r := by
  obtain ⟨read, hread, h⟩ := bind_eq_ok.1 h
  rw [← pure_eq_ok.1 h, mem_sortedBy, mem_reloaded_iff hread]
  simp [filedUnder, and_assoc]

namespace RegularRequirements

theorem loaded (hs : RegularRequirements s) (h : loadRequirements id s = .ok l) :
    ∀ r ∈ l, r.Regular ∧ r.requiredTask = r.taskId := by
  intro r hr
  obtain ⟨f, hf, -, hreload⟩ := (mem_loadRequirements h).1 hr
  obtain ⟨hregular, -, htask⟩ := (hs f hf).of_reload hreload
  exact ⟨hregular, htask⟩

/-- The requirements of a task are read in the order of their ids, none of them twice. -/
theorem ascending (hs : RegularRequirements s) (h : loadRequirements id s = .ok l) :
    (l.map fun r => r.id.getD "").Pairwise (· < ·) := by
  obtain ⟨read, hread, h⟩ := bind_eq_ok.1 h
  cases pure_eq_ok.1 h
  refine ascending_sortedBy ?_
  have hids : (read.map DependencyRequirement.id).Nodup := by
    rw [map_key_reloaded hread fun a b hab => ?_]
    · unfold filedUnder
      rw [List.map_map]
      have hkeys := List.pairwise_map.1 s.requirements.nodup
      refine List.pairwise_map.2 ((hkeys.filter _).imp_of_mem fun {a b} ha hb hne heq => hne ?_)
      have howner : a.owner = b.owner := by
        rw [of_decide_eq_true (List.mem_filter.1 ha).2, of_decide_eq_true (List.mem_filter.1 hb).2]
      exact Prod.ext howner heq
    · simp only [DependencyRequirement.reload, bind_eq_ok, pure_eq_ok] at hab
      obtain ⟨_, -, rfl⟩ := hab
      rfl
  have hsome : ∀ a ∈ read.map DependencyRequirement.id, a.isSome = true := by
    intro a ha
    obtain ⟨r, hr, rfl⟩ := List.mem_map.1 ha
    obtain ⟨stored, hstored, hreload⟩ := (mem_reloaded_iff hread).1 hr
    obtain ⟨f, hf, rfl⟩ := List.mem_map.1 hstored
    rw [((hs f (List.mem_filter.1 hf).1).of_reload hreload).1.named]
    rfl
  have hmap : (read.map fun r => r.id.getD "") =
      (read.map DependencyRequirement.id).map fun a => a.getD "" := by
    rw [List.map_map]
    rfl
  rw [hmap]
  refine hids.map_on fun a ha b hb heq => ?_
  obtain ⟨a, rfl⟩ := Option.isSome_iff_exists.1 (hsome a ha)
  obtain ⟨b, rfl⟩ := Option.isSome_iff_exists.1 (hsome b hb)
  exact congrArg some heq

end RegularRequirements

omit [Runtime] in
/-- Regular requirements on different tasks have entries in the order of their ids, so equal
sets of entries are equal lists. -/
theorem entriesBut_ext {taskId : String} (hasc : (l.map fun r => r.id.getD "").Pairwise (· < ·))
    (hasc' : (l'.map fun r => r.id.getD "").Pairwise (· < ·))
    (h : ∀ e, e ∈ entriesBut taskId l ↔ e ∈ entriesBut taskId l') :
    entriesBut taskId l = entriesBut taskId l' := by
  have hentries : ∀ l : List DependencyRequirement,
      (l.map fun r => r.id.getD "").Pairwise (· < ·) →
        (entriesBut taskId l).Pairwise fun a b => a.id.getD "" < b.id.getD "" := fun l hl =>
    List.pairwise_map.2 ((List.pairwise_map.1 hl).filter _)
  have hirrefl : Std.Irrefl fun a b : RequirementEntry => a.id.getD "" < b.id.getD "" :=
    ⟨fun _ => lt_irrefl _⟩
  have hasymm : Std.Asymm fun a b : RequirementEntry => a.id.getD "" < b.id.getD "" :=
    ⟨fun _ _ => lt_asymm⟩
  exact (hentries l hasc).eq_of_mem_iff (hentries l' hasc') h

-- ════════════════════════════════════════════════════════════════════════
-- Ids of requirements
-- ════════════════════════════════════════════════════════════════════════

/-- Formatted task ids are `task-` and digits. -/
def FormatsDigits : Prop :=
  ∀ n, ∃ digits : List Char, digits ≠ [] ∧ (∀ c ∈ digits, c.isDigit = true) ∧
    Runtime.formatId "task" n = "task-" ++ String.ofList digits

omit [Runtime] in
theorem requirementIdFromTask_digits {digits : List Char} (hne : digits ≠ [])
    (hdigits : ∀ c ∈ digits, c.isDigit = true) :
    requirementIdFromTask ("task-" ++ String.ofList digits) = "req-" ++ String.ofList digits := by
  have hstart : Text.startsWith ("task-" ++ String.ofList digits) "task-" = true := by
    simp [Text.startsWith]
  have hdrop : (Text.dropStart ("task-" ++ String.ofList digits) "task-").toList = digits := by
    have hlength : "task-".length = 5 := rfl
    rw [Text.dropStart, if_pos hstart, hlength]
    simp
  have htake : digits.takeWhile Char.isDigit = digits := List.takeWhile_eq_self_iff.2 hdigits
  simp [requirementIdFromTask, hstart, hdrop, htake, hne]

/-- Requirements on different tasks are filed under different ids. -/
theorem requirementIdFromTask_inj (hids : FormatsDigits) {a b : String}
    (ha : Canonical "task" a) (hb : Canonical "task" b)
    (h : requirementIdFromTask a = requirementIdFromTask b) : a = b := by
  obtain ⟨m, rfl⟩ := ha
  obtain ⟨n, rfl⟩ := hb
  obtain ⟨digits, hne, hdigits, hm⟩ := hids m
  obtain ⟨digits', hne', hdigits', hn⟩ := hids n
  rw [hm, hn, requirementIdFromTask_digits hne hdigits,
    requirementIdFromTask_digits hne' hdigits'] at h
  rw [hm, hn, (String.append_right_inj _).1 h]

omit [Runtime] in
theorem requirementIdFromTask_ne (taskId : String) : requirementIdFromTask taskId ≠ "" := by
  intro h
  have hite (digits : List Char) : ∃ rest, (if digits.isEmpty then "req-" ++ taskId
      else "req-" ++ String.ofList digits) = "req-" ++ rest := by
    split
    · exact ⟨_, rfl⟩
    · exact ⟨_, rfl⟩
  have hstart : ∃ rest, requirementIdFromTask taskId = "req-" ++ rest := hite _
  obtain ⟨rest, hrest⟩ := hstart
  rw [hrest] at h
  simp [String.append_eq_empty_iff] at h

-- ════════════════════════════════════════════════════════════════════════
-- What the operations write
-- ════════════════════════════════════════════════════════════════════════

/-- An operation on the requirement of a task on another one. -/
inductive RequirementChange where
  | add
  | remove
  | waive (actorType reason : String)

namespace RequirementChange

def run (env : Env) (ref requiredRef : String) : RequirementChange → LedgerAction TaskRecord
  | .add => addRequirement env ref requiredRef
  | .remove => removeRequirement env ref requiredRef
  | .waive actorType reason => waiveRequirement env ref requiredRef actorType reason

/-- A requirement as it is filed when it was not filed before. -/
def filedAnew (env : Env) (waiver : Option Waiver) (taskId : String) : DependencyRequirement :=
  { newRequirement env taskId waiver with id := some (requirementIdFromTask taskId) }

/-- The requirements that are filed, from those that were read. -/
def written (env : Env) (taskId : String) (l : List DependencyRequirement) :
    RequirementChange → List DependencyRequirement
  | .add =>
    let ids := l.map DependencyRequirement.taskId
    (if taskId ∈ ids then ids else ids ++ [taskId]).map (filedAnew env none)
  | .remove =>
    ((l.map DependencyRequirement.taskId).filter (· ≠ taskId)).map (filedAnew env none)
  | .waive _ reason => (waiveIn env taskId (userWaiver env reason) l).map fun r =>
    { r with id := orOption r.id (some (requirementIdFromTask r.taskId)) }

/-- What a change leaves behind: the requirements of the task are written, or it raised. -/
def Outcome (c : RequirementChange) (env : Env) (ref requiredRef : String) (s : Ledger)
    (result : Except Raised TaskRecord) (s' : Ledger) : Prop :=
  (s'.requirements = s.requirements ∧ ∃ e, result = .error e) ∨
    ∃ task required l, resolveTask ref false s = .ok task ∧
      resolveTask requiredRef false s = .ok required ∧ loadRequirements task.id s = .ok l ∧
      s'.requirements = refiled task.id (c.written env required.id l) s.requirements ∧
      ∀ u, result = .ok u → ∃ l', loadRequirements task.id s' = .ok l'

theorem sat_rebuild {t : TaskRecord} (ht : t ∈ s.tasks.files) {u : TaskRecord}
    {P : Except Raised TaskRecord → Prop} (hP : ∀ r, (∀ u, r = .ok u →
      ∃ l, loadRequirements t.id s = .ok l) → P r) :
    ((liftM rebuildV2Indexes : LedgerAction Unit) >>= fun _ => pure u).Sat s
      fun r s' => s' = s ∧ P r := by
  refine Sat.query (fun e _ => ⟨rfl, hP _ fun u hu => by cases hu⟩) fun _ h => Sat.pure ⟨rfl, ?_⟩
  have hrebuilds := rebuildV2Indexes_loads.1 ⟨_, h⟩
  exact hP _ fun _ _ => loadRequirements_loads.2 (hrebuilds.requirements t ht)

omit [Runtime] in
theorem mem_putTask (s : Ledger) (t : TaskRecord) : t ∈ (s.putTask t).tasks.files :=
  Directory.mem_files_save.2 (.inl rfl)

omit [Runtime] in
theorem mem_putTask_withEvents (s : Ledger) (t : TaskRecord) (events : List TaskEvent) :
    t ∈ ((s.putTask t).withEvents events).tasks.files :=
  mem_putTask s t

omit [Runtime] in
theorem putRequirements_eq (owner : String) (l : List DependencyRequirement) :
    (s.putRequirements owner l).requirements = refiled owner l s.requirements := by
  unfold Ledger.putRequirements refiled
  dsimp only
  congr 1
  funext f
  exact decide_eq_decide.2 Iff.rfl

theorem saveRequirements_anew (owner : String) (ids : List String) :
    saveRequirements owner (ids.map fun id => newRequirement env id none) =
      .write (Ledger.putRequirements owner (ids.map (filedAnew env none))) := by
  unfold saveRequirements
  rw [List.map_map]
  rfl

variable {ref requiredRef : String}

/-- The requirements are written without waivers. -/
theorem sat_replaceRequirements {c : RequirementChange} {task required : TaskRecord}
    {operation : String} {ids : List String}
    (hread : requirementTasks ref requiredRef operation s = .ok (task, required))
    (hids : ∀ l, task.requirements = l.map DependencyRequirement.taskId →
      c.written env required.id l = ids.map (filedAnew env none)) :
    (replaceRequirements env task ids).Sat s (c.Outcome env ref requiredRef s) := by
  obtain ⟨found, hfound, hfull, hrequired⟩ := requirementTasks_eq_ok hread
  obtain ⟨l, hl, htask⟩ := hfull.requirements
  have hid : found.id = task.id := hfull.id.symm
  unfold replaceRequirements
  dsimp only
  rw [saveRequirements_anew]
  refine Sat.write (Sat.write ((sat_rebuild (mem_putTask _ _) fun _ h => h).mono ?_))
  rintro r _ ⟨rfl, hloads⟩
  refine .inr ⟨found, required, l, hfound, hrequired, hl, ?_, fun u hu => hid ▸ hloads u hu⟩
  rw [hids l htask, hid]
  exact putRequirements_eq _ _

theorem sat_waiveRequirement {actorType reason : String} :
    (waiveRequirement env ref requiredRef actorType reason).Sat s
      ((waive actorType reason).Outcome env ref requiredRef s) := by
  refine Sat.guard (fun _ => .inl ⟨rfl, _, rfl⟩) fun _ => ?_
  refine Sat.guard (fun _ => .inl ⟨rfl, _, rfl⟩) fun _ => ?_
  refine Sat.query (fun _ _ => .inl ⟨rfl, _, rfl⟩) fun (task, required) hread => ?_
  refine Sat.query (fun _ _ => .inl ⟨rfl, _, rfl⟩) fun known hknown => ?_
  obtain ⟨found, hfound, hfull, hrequired⟩ := requirementTasks_eq_ok hread
  obtain ⟨l, hl, htask⟩ := hfull.requirements
  have hid : found.id = task.id := hfull.id.symm
  rw [← hid] at hknown
  cases Except.ok.inj (hknown.symm.trans hl)
  refine Sat.write (Sat.write (sat_eventList fun events => ?_))
  refine (sat_rebuild (mem_putTask_withEvents _ _ _) fun _ h => h).mono ?_
  rintro r _ ⟨rfl, hloads⟩
  refine .inr ⟨found, required, known, hfound, hrequired, hl, ?_, fun u hu => hid ▸ hloads u hu⟩
  rw [hid]
  exact putRequirements_eq _ _

theorem sat_run (c : RequirementChange) :
    (c.run env ref requiredRef).Sat s (c.Outcome env ref requiredRef s) := by
  cases c with
  | add =>
    refine Sat.query (fun _ _ => .inl ⟨rfl, _, rfl⟩) fun (task, required) hread => ?_
    refine sat_replaceRequirements hread fun l hl => ?_
    rw [hl]
    rfl
  | remove =>
    refine Sat.query (fun _ _ => .inl ⟨rfl, _, rfl⟩) fun (task, required) hread => ?_
    refine sat_replaceRequirements hread fun l hl => ?_
    rw [hl]
    rfl
  | waive actorType reason => exact sat_waiveRequirement

-- ════════════════════════════════════════════════════════════════════════
-- The requirements that are written
-- ════════════════════════════════════════════════════════════════════════

/-- A requirement that stands as it is filed. -/
def Stands (r : DependencyRequirement) : Prop := r.Regular ∧ r.requiredTask = r.taskId

theorem stands_filedAnew {waiver : Option Waiver} {taskId : String} (h : Canonical "task" taskId) :
    Stands (filedAnew env waiver taskId) := ⟨⟨h, rfl, rfl⟩, rfl⟩

/-- A filed requirement keeps its id. -/
theorem refiled_id (h : Stands r) :
    { r with id := orOption r.id (some (requirementIdFromTask r.taskId)) } = r := by
  rw [h.1.named, orOption_some (requirementIdFromTask_ne _), ← h.1.named]

theorem forall_waiveIn {P : DependencyRequirement → Prop} {taskId : String} {waiver : Waiver}
    (hl : ∀ r ∈ l, P r) (hwaived : ∀ r ∈ l, P { r with waiver := some waiver })
    (hnew : P (newRequirement env taskId (some waiver))) :
    ∀ r ∈ waiveIn env taskId waiver l, P r := by
  induction l with
  | nil => simpa [waiveIn] using hnew
  | cons a rest ih =>
    rw [List.forall_mem_cons] at hl hwaived
    rw [waiveIn]
    split
    · exact List.forall_mem_cons.2 ⟨hwaived.1, hl.2⟩
    · exact List.forall_mem_cons.2 ⟨hl.1, ih hl.2 hwaived.2⟩

theorem map_taskId_waiveIn (taskId : String) (waiver : Waiver) :
    (waiveIn env taskId waiver l).map DependencyRequirement.taskId =
      if taskId ∈ l.map DependencyRequirement.taskId then l.map DependencyRequirement.taskId
      else l.map DependencyRequirement.taskId ++ [taskId] := by
  induction l with
  | nil => rfl
  | cons a rest ih =>
    rw [waiveIn]
    by_cases ha : a.taskId = taskId
    · simp [ha]
    · have hne : taskId ≠ a.taskId := Ne.symm ha
      rw [if_neg ha, List.map_cons, ih, List.map_cons]
      by_cases hrest : taskId ∈ rest.map DependencyRequirement.taskId
      · rw [if_pos hrest, if_pos (List.mem_cons_of_mem _ hrest)]
      · rw [if_neg hrest, if_neg (by simpa [hne] using hrest)]
        rfl

/-- A waiver leaves the requirements on other tasks. -/
theorem filter_waiveIn (taskId : String) (waiver : Waiver) :
    (waiveIn env taskId waiver l).filter (fun r => r.taskId ≠ taskId) =
      l.filter fun r => r.taskId ≠ taskId := by
  induction l with
  | nil => simp [waiveIn, newRequirement]
  | cons a rest ih =>
    rw [waiveIn]
    by_cases ha : a.taskId = taskId
    · simp [ha]
    · rw [if_neg ha, List.filter_cons, List.filter_cons, ih]

/-- The tasks that are required after a change. -/
def requiredTasks (taskId : String) (ids : List String) : RequirementChange → List String
  | .remove => ids.filter (· ≠ taskId)
  | _ => if taskId ∈ ids then ids else ids ++ [taskId]

theorem map_filedAnew (waiver : Option Waiver) (ids : List String) :
    (ids.map (filedAnew env waiver)).map DependencyRequirement.taskId = ids := by
  rw [List.map_map]
  exact List.map_id _

theorem map_taskId_written (c : RequirementChange) (taskId : String) :
    (c.written env taskId l).map DependencyRequirement.taskId =
      c.requiredTasks taskId (l.map DependencyRequirement.taskId) := by
  cases c with
  | add => exact map_filedAnew _ _
  | remove => exact map_filedAnew _ _
  | waive actorType reason =>
    have hids : (waiveIn env taskId (userWaiver env reason) l).map DependencyRequirement.taskId =
        requiredTasks taskId (l.map DependencyRequirement.taskId) (waive actorType reason) :=
      map_taskId_waiveIn _ _
    rw [← hids, written, List.map_map]
    rfl

theorem stands_written (c : RequirementChange) {taskId : String} (hl : ∀ r ∈ l, Stands r)
    (htask : Canonical "task" taskId) : ∀ r ∈ c.written env taskId l, Stands r := by
  have hids : ∀ id ∈ c.requiredTasks taskId (l.map DependencyRequirement.taskId),
      Canonical "task" id := by
    have hold : ∀ id ∈ l.map DependencyRequirement.taskId, Canonical "task" id := by
      intro id hid
      obtain ⟨r, hr, rfl⟩ := List.mem_map.1 hid
      exact (hl r hr).2 ▸ (hl r hr).1.canonical
    have hnew : ∀ id ∈ (if taskId ∈ l.map DependencyRequirement.taskId
        then l.map DependencyRequirement.taskId
        else l.map DependencyRequirement.taskId ++ [taskId]), Canonical "task" id := by
      split
      · exact hold
      · exact List.forall_mem_append.2 ⟨hold, by simpa using htask⟩
    cases c with
    | add => exact hnew
    | remove => exact fun id hid => hold id (List.mem_filter.1 hid).1
    | waive => exact hnew
  cases c with
  | waive actorType reason =>
    refine List.forall_mem_map.2 (forall_waiveIn (fun r hr => ?_) (fun r hr => ?_) ?_)
    · rw [refiled_id (hl r hr)]
      exact hl r hr
    · have hwaived : Stands { r with waiver := some (userWaiver env reason) } :=
        ⟨⟨(hl r hr).1.canonical, (hl r hr).1.named, (hl r hr).1.done⟩, (hl r hr).2⟩
      rw [refiled_id hwaived]
      exact hwaived
    · exact stands_filedAnew htask
  | add => exact List.forall_mem_map.2 fun id hid => stands_filedAnew (hids id hid)
  | remove => exact List.forall_mem_map.2 fun id hid => stands_filedAnew (hids id hid)

/-- A change files each of its requirements under an id of its own. -/
theorem nodup_written (hids : FormatsDigits) (c : RequirementChange) {taskId : String}
    (hl : ∀ r ∈ l, Stands r) (hnodup : (l.map DependencyRequirement.taskId).Nodup)
    (htask : Canonical "task" taskId) :
    ((c.written env taskId l).map DependencyRequirement.id).Nodup := by
  have hfiled : ∀ r ∈ c.written env taskId l, Stands r := stands_written c hl htask
  have htasks : ((c.written env taskId l).map DependencyRequirement.taskId).Nodup := by
    rw [map_taskId_written]
    have hnew : (if taskId ∈ l.map DependencyRequirement.taskId
        then l.map DependencyRequirement.taskId
        else l.map DependencyRequirement.taskId ++ [taskId]).Nodup := by
      split
      · exact hnodup
      · rename_i hnot
        exact hnodup.append (List.nodup_singleton _) (by simpa using hnot)
    cases c with
    | add => exact hnew
    | remove => exact hnodup.filter _
    | waive => exact hnew
  rw [List.nodup_iff_pairwise_ne, List.pairwise_map] at htasks ⊢
  refine htasks.imp_of_mem fun {a b} ha hb hne heq => hne ?_
  rw [(hfiled a ha).1.named, (hfiled b hb).1.named, Option.some_inj] at heq
  rw [← (hfiled a ha).2, ← (hfiled b hb).2]
  exact requirementIdFromTask_inj hids (hfiled a ha).1.canonical (hfiled b hb).1.canonical heq

/-- A change keeps the requirements of the ledger regular. -/
theorem Outcome.regular {c : RequirementChange} {result : Except Raised TaskRecord}
    (hsound : s.Sound) (hs : RegularRequirements s)
    (h : c.Outcome env ref requiredRef s result s') : RegularRequirements s' := by
  rcases h with ⟨hsame, -⟩ | ⟨task, required, l, -, hrequired, hl, hwritten, -⟩
  · unfold RegularRequirements
    rw [hsame]
    exact hs
  · intro f hf
    rw [hwritten] at hf
    by_cases howner : f.owner = task.id
    · exact (stands_written c (hs.loaded hl) (canonical_resolved hsound hrequired) _
        (record_mem_of_refiled hf howner)).1
    · exact hs f (mem_of_refiled hf howner)

/-- The requirements of a task are on different tasks. -/
theorem nodup_taskIds (hs : RegularRequirements s) (hl : loadRequirements id s = .ok l) :
    (l.map DependencyRequirement.taskId).Nodup := by
  have hasc := List.pairwise_map.1 (hs.ascending hl)
  refine List.pairwise_map.2 (hasc.imp_of_mem fun {a b} ha hb hlt heq => ?_)
  obtain ⟨hfa, hta⟩ := hs.loaded hl a ha
  obtain ⟨hfb, htb⟩ := hs.loaded hl b hb
  rw [hfa.named, hfb.named, hta, htb, heq] at hlt
  exact lt_irrefl _ hlt

/-- The requirements that are read after a change are those that it has written. -/
theorem mem_loaded_written (hids : FormatsDigits) {c : RequirementChange} {taskId : String}
    (hs : RegularRequirements s) (hl : loadRequirements id s = .ok l)
    (htask : Canonical "task" taskId)
    (hwritten : s'.requirements = refiled id (c.written env taskId l) s.requirements)
    (hl' : loadRequirements id s' = .ok l') :
    (∀ r' ∈ l', ∃ r ∈ c.written env taskId l, r.reload = .ok r') ∧
      ∀ r ∈ c.written env taskId l, ∃ r' ∈ l', r.reload = .ok r' := by
  have hnodup : ((c.written env taskId l).map DependencyRequirement.id).Nodup :=
    nodup_written hids c (hs.loaded hl) (nodup_taskIds hs hl) htask
  constructor
  · intro r' hr'
    obtain ⟨f, hf, howner, hreload⟩ := (mem_loadRequirements hl').1 hr'
    rw [hwritten] at hf
    exact ⟨f.record, record_mem_of_refiled hf howner, hreload⟩
  · intro r hr
    have hf : (⟨id, r⟩ : Filed DependencyRequirement) ∈ s'.requirements.files := by
      rw [hwritten]
      exact mem_refiled hnodup hr
    obtain ⟨r', hreload⟩ := loadRequirements_loads.1 ⟨l', hl'⟩ _ hf rfl
    exact ⟨r', (mem_loadRequirements hl').2 ⟨_, hf, rfl, hreload⟩, hreload⟩

/-- The entry of a requirement on a task, without a waiver. -/
def plainEntry (taskId : String) : RequirementEntry where
  id := some (requirementIdFromTask taskId)
  taskId := taskId
  requiredStatus := "done"
  waiver := none

theorem Stands.entry_eq (h : Stands r) : r.entry = { plainEntry r.taskId with waiver := r.waiver } := by
  unfold DependencyRequirement.entry plainEntry
  rw [h.1.named, h.1.done, h.2]

theorem entry_filedAnew {taskId : String} (h : Canonical "task" taskId)
    (hr : (filedAnew env none taskId).reload = .ok r) : r.entry = plainEntry taskId := by
  obtain ⟨waiver, hw, rfl⟩ := (stands_filedAnew h).1.reload_eq hr
  cases Except.ok.inj hw
  rfl

/-- Requirements that were written anew have plain entries. -/
theorem mem_entriesBut_anew (hids : FormatsDigits) {c : RequirementChange} {taskId : String}
    (hs : RegularRequirements s) (hl : loadRequirements id s = .ok l)
    (htask : Canonical "task" taskId) {ids : List String}
    (hanew : c.written env taskId l = ids.map (filedAnew env none))
    (hwritten : s'.requirements = refiled id (c.written env taskId l) s.requirements)
    (hl' : loadRequirements id s' = .ok l') {other : String} {e : RequirementEntry} :
    e ∈ entriesBut other l' ↔ ∃ a ∈ ids, a ≠ other ∧ plainEntry a = e := by
  obtain ⟨hfrom, hto⟩ := mem_loaded_written hids hs hl htask hwritten hl'
  have hstands : ∀ r ∈ c.written env taskId l, Stands r := stands_written c (hs.loaded hl) htask
  rw [hanew] at hfrom hto hstands
  rw [mem_entriesBut]
  constructor
  · rintro ⟨r', hr', hne, rfl⟩
    obtain ⟨r, hr, hreload⟩ := hfrom r' hr'
    obtain ⟨a, ha, rfl⟩ := List.mem_map.1 hr
    have hentry := entry_filedAnew (hstands _ hr).1.canonical hreload
    refine ⟨a, ha, ?_, hentry.symm⟩
    have htaskId : r'.taskId = a := congrArg RequirementEntry.taskId hentry
    exact htaskId ▸ hne
  · rintro ⟨a, ha, hne, rfl⟩
    have hr : filedAnew env none a ∈ ids.map (filedAnew env none) := List.mem_map_of_mem ha
    obtain ⟨r', hr', hreload⟩ := hto _ hr
    have hentry := entry_filedAnew (hstands _ hr).1.canonical hreload
    have htaskId : r'.taskId = a := congrArg RequirementEntry.taskId hentry
    exact ⟨r', hr', htaskId ▸ hne, hentry⟩

/-- Plain entries are those of the requirements exactly when none of them is waived. -/
theorem entries_plain_iff {other : String} {ids : List String} (hl : ∀ r ∈ l, Stands r)
    (hids : ∀ a, a ≠ other → (a ∈ ids ↔ a ∈ l.map DependencyRequirement.taskId)) :
    (∀ e, e ∈ entriesBut other l ↔ ∃ a ∈ ids, a ≠ other ∧ plainEntry a = e) ↔
      ∀ r ∈ l, r.taskId ≠ other → r.waiver = none := by
  constructor
  · intro h r hr hne
    obtain ⟨a, -, -, hentry⟩ := (h r.entry).1 (mem_entriesBut.2 ⟨r, hr, hne, rfl⟩)
    exact (congrArg RequirementEntry.waiver hentry).symm
  · intro h e
    rw [mem_entriesBut]
    constructor
    · rintro ⟨r, hr, hne, rfl⟩
      refine ⟨r.taskId, (hids _ hne).2 (List.mem_map_of_mem hr), hne, ?_⟩
      rw [(hl r hr).entry_eq, h r hr hne]
      rfl
    · rintro ⟨a, ha, hne, rfl⟩
      obtain ⟨r, hr, rfl⟩ := List.mem_map.1 ((hids a hne).1 ha)
      refine ⟨r, hr, hne, ?_⟩
      rw [(hl r hr).entry_eq, h r hr hne]
      rfl

/-- A waiver keeps the entries on the other tasks. -/
theorem mem_entriesBut_waive (hids : FormatsDigits) {actorType reason taskId : String}
    (hs : RegularRequirements s) (hl : loadRequirements id s = .ok l)
    (htask : Canonical "task" taskId)
    (hwritten : s'.requirements =
      refiled id ((waive actorType reason).written env taskId l) s.requirements)
    (hl' : loadRequirements id s' = .ok l') {e : RequirementEntry} :
    e ∈ entriesBut taskId l' ↔ e ∈ entriesBut taskId l := by
  obtain ⟨hfrom, hto⟩ := mem_loaded_written hids hs hl htask hwritten hl'
  have hkept : ∀ r, r.taskId ≠ taskId →
      (r ∈ (waive actorType reason).written env taskId l ↔ r ∈ l) := by
    intro r hne
    have hmem (x : DependencyRequirement) (hx : x.taskId ≠ taskId) :
        x ∈ waiveIn env taskId (userWaiver env reason) l ↔ x ∈ l := by
      have hfilter : (waiveIn env taskId (userWaiver env reason) l).filter
          (fun r => r.taskId ≠ taskId) = l.filter fun r => r.taskId ≠ taskId := filter_waiveIn _ _
      have hiff := congrArg (x ∈ ·) hfilter
      simpa [hx] using hiff
    constructor
    · intro hr
      obtain ⟨x, hx, rfl⟩ := List.mem_map.1 hr
      have hxl := (hmem x hne).1 hx
      rw [refiled_id (hs.loaded hl x hxl)]
      exact hxl
    · intro hr
      refine List.mem_map.2 ⟨r, (hmem r hne).2 hr, refiled_id (hs.loaded hl r hr)⟩
  have hagain : ∀ r ∈ l, ∀ r', r.reload = .ok r' → r'.entry = r.entry := by
    intro r hr r' hreload
    obtain ⟨f, hf, -, hread⟩ := (mem_loadRequirements hl).1 hr
    exact (hs f hf).entry_again hread hreload
  rw [mem_entriesBut, mem_entriesBut]
  constructor
  · rintro ⟨r', hr', hne, rfl⟩
    obtain ⟨r, hr, hreload⟩ := hfrom r' hr'
    have hstands : Stands r := stands_written _ (hs.loaded hl) htask r hr
    have htaskId : r'.taskId = r.taskId := (hstands.1.of_reload hreload).2.1.trans hstands.2
    rw [htaskId] at hne
    have hrl := (hkept r hne).1 hr
    exact ⟨r, hrl, hne, (hagain r hrl r' hreload).symm⟩
  · rintro ⟨r, hr, hne, rfl⟩
    obtain ⟨r', hr', hreload⟩ := hto r ((hkept r hne).2 hr)
    have hentry := hagain r hr r' hreload
    have htaskId : r'.taskId = r.taskId := congrArg RequirementEntry.taskId hentry
    exact ⟨r', hr', htaskId ▸ hne, hentry⟩

end RequirementChange

/-- A step keeps the requirement files, or is a change of the requirements of a task. -/
theorem Step.keeps_or_changes (step : Step) (s : Ledger) :
    (step.next s).requirements = s.requirements ∨
      ∃ (c : RequirementChange) (env : Env) (ref requiredRef : String),
        step.next s = ((c.run env ref requiredRef).runOn s).2 := by
  by_cases hp : .requirements ∈ step.op.parts
  · right
    obtain ⟨env, op⟩ := step
    cases op with
    | recorder r =>
      cases r with
      | addRequirement ref requiredRef =>
        exact ⟨.add, env, ref, requiredRef, ledger_dropResult _ s⟩
      | removeRequirement ref requiredRef =>
        exact ⟨.remove, env, ref, requiredRef, ledger_dropResult _ s⟩
      | waiveRequirement ref requiredRef actorType reason =>
        exact ⟨.waive actorType reason, env, ref, requiredRef, ledger_dropResult _ s⟩
      | _ => simp [Op.parts, Recorder.parts] at hp
    | _ => simp [Op.parts] at hp
  · exact .inl (step.same s hp)

theorem Step.keeps_regular (step : Step) (hsound : s.Sound) (hs : RegularRequirements s) :
    RegularRequirements (step.next s) := by
  rcases step.keeps_or_changes s with hsame | ⟨c, env, ref, requiredRef, hnext⟩
  · unfold RegularRequirements
    rw [hsame]
    exact hs
  · have hsat : (c.run env ref requiredRef).Sat s (c.Outcome env ref requiredRef s) := c.sat_run
    rw [hnext]
    exact hsat.regular hsound hs

/-- The requirements of a reachable ledger are regular. -/
theorem Ledger.Reachable.regular (h : s.Reachable) : RegularRequirements s :=
  System.Reachable.invariant h (fun _ hf => by cases hf) fun _ step hreach hs _ =>
    step.keeps_regular (Taskledger.Reachable.sound hreach) hs

-- ════════════════════════════════════════════════════════════════════════
-- The requirements on other tasks
-- ════════════════════════════════════════════════════════════════════════

section Changes

open RequirementChange

variable {c : RequirementChange} {ref requiredRef : String} {task required u : TaskRecord}

/-- What a change that returned has read and written. -/
theorem RequirementChange.returned (hsound : s.Sound) (hs : RegularRequirements s)
    (hfound : resolveTask ref false s = .ok task)
    (hrequired : resolveTask requiredRef false s = .ok required)
    (hrun : (c.run env ref requiredRef).runOn s = (.ok u, s')) :
    RegularRequirements s' ∧ ∃ before after, loadRequirements task.id s = .ok before ∧
      loadRequirements task.id s' = .ok after ∧
      s'.requirements = refiled task.id (c.written env required.id before) s.requirements := by
  have hsat : (c.run env ref requiredRef).Sat s (c.Outcome env ref requiredRef s) := c.sat_run
  unfold Sat at hsat
  rw [hrun] at hsat
  refine ⟨hsat.regular hsound hs, ?_⟩
  rcases hsat with ⟨-, e, he⟩ | ⟨_, _, l, hfound', hrequired', hl, hwritten, hloads⟩
  · cases he
  · cases hfound.symm.trans hfound'
    cases hrequired.symm.trans hrequired'
    obtain ⟨l', hl'⟩ := hloads u rfl
    exact ⟨l, l', hl, hl', hwritten⟩

omit [Runtime] in
theorem loadRequirements_congr {owner other : String} {written : List DependencyRequirement}
    (h : s'.requirements = refiled owner written s.requirements) (hne : other ≠ owner) :
    loadRequirements other s' = loadRequirements other s := by
  unfold loadRequirements
  rw [h, filedUnder_refiled hne]

/-- Entries on the other tasks that were written anew stay when none of them is waived. -/
theorem entriesBut_anew_iff (hids : FormatsDigits) {taskId other : String} {ids : List String}
    (hs : RegularRequirements s) (hs' : RegularRequirements s')
    (hl : loadRequirements id s = .ok l) (htask : Canonical "task" taskId)
    (hanew : c.written env taskId l = ids.map (filedAnew env none))
    (hwritten : s'.requirements = refiled id (c.written env taskId l) s.requirements)
    (hl' : loadRequirements id s' = .ok l') {first : List DependencyRequirement}
    (hfirst : ∀ r ∈ first, Stands r) (hasc : (first.map fun r => r.id.getD "").Pairwise (· < ·))
    (hsame : ∀ a, a ≠ other → (a ∈ ids ↔ a ∈ first.map DependencyRequirement.taskId)) :
    entriesBut other l' = entriesBut other first ↔
      ∀ r ∈ first, r.taskId ≠ other → r.waiver = none := by
  have hplain : ∀ e, e ∈ entriesBut other l' ↔ ∃ a ∈ ids, a ≠ other ∧ plainEntry a = e := fun e =>
    mem_entriesBut_anew hids hs hl htask hanew hwritten hl'
  rw [← entries_plain_iff hfirst hsame]
  constructor
  · intro h e
    rw [← h]
    exact hplain e
  · intro h
    exact entriesBut_ext (hs'.ascending hl') hasc fun e => (hplain e).trans (h e).symm

/-- A change that returned keeps the entries on the other tasks exactly when it is a waiver or
none of them is waived. -/
theorem entriesBut_change_iff (hids : FormatsDigits) (hsound : s.Sound)
    (hs : RegularRequirements s) (hfound : resolveTask ref false s = .ok task)
    (hrequired : resolveTask requiredRef false s = .ok required)
    (hrun : (c.run env ref requiredRef).runOn s = (.ok u, s')) :
    ∃ before after, loadRequirements task.id s = .ok before ∧
      loadRequirements task.id s' = .ok after ∧
      (entriesBut required.id after = entriesBut required.id before ↔
        (∃ actorType reason, c = .waive actorType reason) ∨
          ∀ r ∈ before, r.taskId ≠ required.id → r.waiver = none) := by
  obtain ⟨hs', before, after, hl, hl', hwritten⟩ := returned hsound hs hfound hrequired hrun
  have htask := canonical_resolved hsound hrequired
  refine ⟨before, after, hl, hl', ?_⟩
  have hstands := hs.loaded hl
  have hasc := hs.ascending hl
  cases c with
  | waive actorType reason =>
    refine iff_of_true ?_ (.inl ⟨actorType, reason, rfl⟩)
    exact entriesBut_ext (hs'.ascending hl') hasc fun e =>
      mem_entriesBut_waive hids hs hl htask hwritten hl'
  | add =>
    rw [entriesBut_anew_iff hids hs hs' hl htask rfl hwritten hl' hstands hasc fun a ha => ?_]
    · simp
    · split
      · rfl
      · simp [ha]
  | remove =>
    rw [entriesBut_anew_iff hids hs hs' hl htask rfl hwritten hl' hstands hasc fun a ha => ?_]
    · simp
    · simp [ha]

/-- The tasks required after a change. -/
theorem mem_taskIds_after (hids : FormatsDigits) (hs : RegularRequirements s) {taskId : String}
    {before after : List DependencyRequirement} (hl : loadRequirements id s = .ok before)
    (htask : Canonical "task" taskId)
    (hwritten : s'.requirements = refiled id (c.written env taskId before) s.requirements)
    (hl' : loadRequirements id s' = .ok after) {a : String} :
    a ∈ after.map DependencyRequirement.taskId ↔
      a ∈ c.requiredTasks taskId (before.map DependencyRequirement.taskId) := by
  obtain ⟨hfrom, hto⟩ := mem_loaded_written hids hs hl htask hwritten hl'
  have hstands : ∀ r ∈ c.written env taskId before, Stands r :=
    stands_written c (hs.loaded hl) htask
  have hsame : ∀ r ∈ c.written env taskId before, ∀ r', r.reload = .ok r' →
      r'.taskId = r.taskId := fun r hr r' hreload =>
    ((hstands r hr).1.of_reload hreload).2.1.trans (hstands r hr).2
  have hmap : (c.written env taskId before).map DependencyRequirement.taskId =
      c.requiredTasks taskId (before.map DependencyRequirement.taskId) := map_taskId_written c taskId
  rw [← hmap]
  constructor
  · intro ha
    obtain ⟨r', hr', rfl⟩ := List.mem_map.1 ha
    obtain ⟨r, hr, hreload⟩ := hfrom r' hr'
    rw [hsame r hr r' hreload]
    exact List.mem_map_of_mem hr
  · intro ha
    obtain ⟨r, hr, rfl⟩ := List.mem_map.1 ha
    obtain ⟨r', hr', hreload⟩ := hto r hr
    rw [← hsame r hr r' hreload]
    exact List.mem_map_of_mem hr'

omit [Runtime] in
/-- A list without a requirement on the task is its entries on the others. -/
theorem entriesBut_eq_map {taskId : String} {l : List DependencyRequirement}
    (h : taskId ∉ l.map DependencyRequirement.taskId) :
    entriesBut taskId l = l.map DependencyRequirement.entry := by
  unfold entriesBut
  rw [List.filter_eq_self.2 fun r hr => ?_]
  simp only [decide_eq_true_eq]
  rintro rfl
  exact h (List.mem_map_of_mem hr)

/-- Adding and then removing a requirement restores the list exactly when it was not there and
no other one is waived. -/
theorem entries_restored_iff (hids : FormatsDigits) (hsound : s.Sound)
    (hs : RegularRequirements s) (hfound : resolveTask ref false s = .ok task)
    (hrequired : resolveTask requiredRef false s = .ok required)
    (hadd : (addRequirement env ref requiredRef).runOn s = (.ok u, s'))
    {env' : Env} {ref' requiredRef' : String} {s'' : Ledger} {u' : TaskRecord} (hsound' : s'.Sound)
    (hfound' : resolveTask ref' false s' = .ok task')
    (hrequired' : resolveTask requiredRef' false s' = .ok required')
    (htask : task'.id = task.id) (hsame : required'.id = required.id)
    (hremove : (removeRequirement env' ref' requiredRef').runOn s' = (.ok u', s'')) :
    ∃ before after, loadRequirements task.id s = .ok before ∧
      loadRequirements task.id s'' = .ok after ∧
      (after.map DependencyRequirement.entry = before.map DependencyRequirement.entry ↔
        required.id ∉ before.map DependencyRequirement.taskId ∧
          ∀ r ∈ before, r.waiver = none) := by
  obtain ⟨hs', before, mid, hl, hl', hwritten⟩ :=
    returned (c := .add) hsound hs hfound hrequired hadd
  obtain ⟨hs'', mid', after, hm, hl'', hwritten'⟩ :=
    returned (c := .remove) hsound' hs' hfound' hrequired' hremove
  have hcan := canonical_resolved hsound hrequired
  rw [htask] at hm hl'' hwritten'
  rw [hsame] at hwritten'
  cases Except.ok.inj (hl'.symm.trans hm)
  refine ⟨before, after, hl, hl'', ?_⟩
  have hmid : ∀ a, a ∈ mid.map DependencyRequirement.taskId ↔
      a ∈ (if required.id ∈ before.map DependencyRequirement.taskId
        then before.map DependencyRequirement.taskId
        else before.map DependencyRequirement.taskId ++ [required.id]) :=
    fun a => mem_taskIds_after (c := .add) hids hs hl hcan hwritten hl'
  have hgone : required.id ∉ after.map DependencyRequirement.taskId := by
    rw [mem_taskIds_after (c := .remove) hids hs' hl' hcan hwritten' hl'']
    simp [requiredTasks]
  have hkept : entriesBut required.id after = entriesBut required.id before ↔
      ∀ r ∈ before, r.taskId ≠ required.id → r.waiver = none := by
    refine entriesBut_anew_iff hids hs' hs'' hl' hcan rfl hwritten' hl'' (hs.loaded hl)
      (hs.ascending hl) fun a ha => ?_
    rw [List.mem_filter, hmid]
    split
    · simp [ha]
    · simp [ha]
  rw [entriesBut_eq_map hgone] at hkept
  constructor
  · intro h
    have hids' := congrArg (List.map RequirementEntry.taskId) h
    rw [List.map_map, List.map_map] at hids'
    have hnot : required.id ∉ before.map DependencyRequirement.taskId := by
      intro hmem
      have hafter : required.id ∈ after.map DependencyRequirement.taskId := by
        have hmap : after.map DependencyRequirement.taskId =
            before.map DependencyRequirement.taskId := hids'
        rw [hmap]
        exact hmem
      exact hgone hafter
    rw [entriesBut_eq_map hnot] at hkept
    refine ⟨hnot, fun r hr => hkept.1 h r hr fun heq => hnot ?_⟩
    exact heq ▸ List.mem_map_of_mem hr
  · rintro ⟨hnot, hplain⟩
    rw [entriesBut_eq_map hnot] at hkept
    exact hkept.2 fun r hr _ => hplain r hr

/-- In every reachable ledger an addition, a removal or a waiver of a requirement that returns
leaves the requirements of the other tasks, and those of the task on others exactly when it is a
waiver or none of them is waived; and adding and then removing a requirement restores the list
exactly when it was not there and no other one is waived. -/
theorem requirement_changes_kept_iff (hids : FormatsDigits) (hs : s.Reachable) :
    (∀ env c ref requiredRef task required u s', resolveTask ref false s = .ok task →
      resolveTask requiredRef false s = .ok required →
      (RequirementChange.run env ref requiredRef c).runOn s = (.ok u, s') →
      (∀ id, id ≠ task.id → loadRequirements id s' = loadRequirements id s) ∧
      ∃ before after, loadRequirements task.id s = .ok before ∧
        loadRequirements task.id s' = .ok after ∧
        (entriesBut required.id after = entriesBut required.id before ↔
          (∃ actorType reason, c = .waive actorType reason) ∨
            ∀ r ∈ before, r.taskId ≠ required.id → r.waiver = none)) ∧
    (∀ env ref requiredRef task required u s' env' ref' requiredRef' task' required' u' s'',
      resolveTask ref false s = .ok task → resolveTask requiredRef false s = .ok required →
      (addRequirement env ref requiredRef).runOn s = (.ok u, s') →
      resolveTask ref' false s' = .ok task' → resolveTask requiredRef' false s' = .ok required' →
      task'.id = task.id → required'.id = required.id →
      (removeRequirement env' ref' requiredRef').runOn s' = (.ok u', s'') →
      ∃ before after, loadRequirements task.id s = .ok before ∧
        loadRequirements task.id s'' = .ok after ∧
        (after.map DependencyRequirement.entry = before.map DependencyRequirement.entry ↔
          required.id ∉ before.map DependencyRequirement.taskId ∧
            ∀ r ∈ before, r.waiver = none)) := by
  constructor
  · intro env c ref requiredRef task required u s' hfound hrequired hrun
    obtain ⟨-, _, _, -, -, hwritten⟩ := returned hs.sound hs.regular hfound hrequired hrun
    exact ⟨fun id hne => loadRequirements_congr hwritten hne,
      entriesBut_change_iff hids hs.sound hs.regular hfound hrequired hrun⟩
  · intro env ref requiredRef task required u s' env' ref' requiredRef' task' required' u' s''
      hfound hrequired hadd hfound' hrequired' htask hsame hremove
    have hnext : Step.next ⟨env, .recorder (.addRequirement ref requiredRef)⟩ s = s' :=
      (ledger_dropResult _ s).trans (congrArg Prod.snd hadd)
    have hreach : s'.Reachable := hnext ▸ .step _ hs trivial
    exact entries_restored_iff hids hs.sound hs.regular hfound hrequired hadd hreach.sound hfound'
      hrequired' htask hsame hremove

end Changes

end Regular

-- ════════════════════════════════════════════════════════════════════════
-- Runs
-- ════════════════════════════════════════════════════════════════════════

section Evaluation

attribute [local instance] plainRuntime

theorem formatsDigits_plain : FormatsDigits := fun n =>
  ⟨PlainRuntime.digits n, List.ne_nil_of_length_pos
    (Nat.lt_of_lt_of_le (by decide) (PlainRuntime.length_digits n)),
    fun _ hc => PlainRuntime.isDigit_of_mem_digits hc, rfl⟩

/-- Three tasks, the first of which requires the second. -/
def requiringOps : List Op :=
  [.createTask { title := "A", description := "d" }, .createTask { title := "B", description := "d" },
    .createTask { title := "C", description := "d" },
    .recorder (.addRequirement "task-0001" "task-0002")]

/-- The ledger after the third task was added to the requirements of the first. -/
def withThird (s : Ledger) : Ledger :=
  ((addRequirement plainEnv "task-0001" "task-0003").runOn s).2

theorem requirement_changes_kept_plain :
    ∃ before after, loadRequirements "task-0001" (afterOps requiringOps) = .ok before ∧
      loadRequirements "task-0001" (withThird (afterOps requiringOps)) = .ok after ∧
      before.map DependencyRequirement.taskId = ["task-0002"] ∧
      entriesBut "task-0003" after = entriesBut "task-0003" before := by
  have hfound : (resolveTask "task-0001" false (afterOps requiringOps)).toOption.map TaskRecord.id =
      some "task-0001" := by decide
  have hrequired : (resolveTask "task-0003" false (afterOps requiringOps)).toOption.map
      TaskRecord.id = some "task-0003" := by decide
  have hrun : ((addRequirement plainEnv "task-0001" "task-0003").runOn
      (afterOps requiringOps)).1.toOption.isSome = true := by decide
  have hread : (loadRequirements "task-0001" (afterOps requiringOps)).toOption.map
      (fun l => l.map fun r => (r.taskId, r.waiver)) = some [("task-0002", none)] := by
    decide
  obtain ⟨task, hfound, hid⟩ := map_toOption_eq_some.1 hfound
  obtain ⟨required, hrequired, hrid⟩ := map_toOption_eq_some.1 hrequired
  obtain ⟨u, hrun⟩ := isSome_toOption.1 hrun
  obtain ⟨l, hl, hentries⟩ := map_toOption_eq_some.1 hread
  obtain ⟨hkept, -⟩ := requirement_changes_kept_iff formatsDigits_plain
    (reachable_afterOps requiringOps)
  obtain ⟨-, before, after, hbefore, hafter, hiff⟩ :=
    hkept plainEnv .add "task-0001" "task-0003" task required u _ hfound hrequired
      (Prod.ext hrun rfl)
  rw [hid] at hbefore hafter
  rw [hrid] at hiff
  cases Except.ok.inj (hl.symm.trans hbefore)
  refine ⟨l, after, hl, hafter, ?_, hiff.2 (.inr fun r hr _ => ?_)⟩
  · have htasks := congrArg (List.map Prod.fst) hentries
    rw [List.map_map] at htasks
    exact htasks
  · have hmem := List.mem_map_of_mem (f := fun r : DependencyRequirement => (r.taskId, r.waiver)) hr
    rw [hentries] at hmem
    exact congrArg Prod.snd (List.mem_singleton.1 hmem)

/-- The user has waived the requirement. -/
def waivedOps : List Op :=
  requiringOps ++ [.recorder (.waiveRequirement "task-0001" "task-0002" "user" "not needed")]

/-- Another requirement is added after the first one was waived. -/
theorem added_requirement_drops_waiver :
    (afterOps waivedOps).Reachable ∧
    (∃ u, ((addRequirement plainEnv "task-0001" "task-0003").runOn (afterOps waivedOps)).1 = .ok u) ∧
    ∃ before after, loadRequirements "task-0001" (afterOps waivedOps) = .ok before ∧
      loadRequirements "task-0001" (withThird (afterOps waivedOps)) = .ok after ∧
      entriesBut "task-0003" after ≠ entriesBut "task-0003" before := by
  have hrun : ((addRequirement plainEnv "task-0001" "task-0003").runOn
      (afterOps waivedOps)).1.toOption.isSome = true := by decide
  have hboth : ((loadRequirements "task-0001" (afterOps waivedOps)).toOption.map
        fun l => (entriesBut "task-0003" l).map fun e => e.waiver.isSome) = some [true] ∧
      ((loadRequirements "task-0001" (withThird (afterOps waivedOps))).toOption.map
        fun l => (entriesBut "task-0003" l).map fun e => e.waiver.isSome) = some [false] := by
    decide
  obtain ⟨before, hbefore, hwaived⟩ := map_toOption_eq_some.1 hboth.1
  obtain ⟨after, hafter, hplain⟩ := map_toOption_eq_some.1 hboth.2
  refine ⟨reachable_afterOps _, isSome_toOption.1 hrun, before, after, hbefore, hafter, fun h => ?_⟩
  rw [h, hwaived] at hplain
  cases hplain

end Evaluation

end Taskledger
