import Taskledger.Domain.ModelUtils
import Taskledger.Properties.ReadOnly

/-!
# The repair of misfiled command changes

The repair moves the summaries of command changes into the worklogs of their planning runs. The
file of a moved change is looked for under a name that change files do not have, and each move
writes the task as it was read before the loop.
-/

namespace Taskledger

open Library Action

section Repair

variable [Runtime] {s s' : Ledger} {env : Env} {task : TaskRecord} {ref reason : String}

/-- The ids a report of the repair lists. -/
def Repaired (report : Dict) (ids : List String) : Prop :=
  report.get? "repaired_changes" = some (.ofStrings ids)

/-- The records of the ids are gone from the task, nothing else is, and there is nothing left to
repair. -/
structure RecordsRemoved (ref : String) (task : TaskRecord) (ids : List String) (s s' : Ledger) :
    Prop where
  refs : ∃ after, resolveTask ref false s' = .ok after ∧
    after.codeChangeLogRefs = task.codeChangeLogRefs.filter (· ∉ ids)
  files : ∃ listed, listChanges task.id s' = .ok listed ∧ ∀ change ∈ listed, change.changeId ∉ ids
  changes : ∀ key, (∀ id ∈ ids, key ≠ (task.id, id)) →
    s'.changes.lookup key = s.changes.lookup key
  tasks : ∀ id, id ≠ task.id → s'.tasks.lookup id = s.tasks.lookup id
  again : ∀ (env : Env) (reason : String),
    (repairPlanningCommandChanges env ref reason false).Sat s' fun r _ =>
      ∀ report, r = .ok report → Repaired report []

/-- A repair that returns has removed exactly the records it reports. -/
def RemovesExactly (env : Env) (ref reason : String) (s : Ledger) : Prop :=
  (repairPlanningCommandChanges env ref reason false).Sat s fun r s' =>
    ∀ report task, r = .ok report → resolveTask ref false s = .ok task →
      ∃ ids, Repaired report ids ∧ RecordsRemoved ref task ids s s'

omit [Runtime] in
theorem Repaired.unique {report : Dict} {ids ids' : List String} (h : Repaired report ids)
    (h' : Repaired report ids') : ids = ids' := by
  have hvalues := Option.some.inj (h.symm.trans h')
  rw [← stringTuple_ofStrings ids, hvalues, stringTuple_ofStrings]

/-- What a repair returns and leaves. -/
theorem sat_repairPlanningCommandChanges (env : Env) {changes : List CodeChangeRecord}
    (hreason : Text.isBlank reason = false) (hfound : resolveTask ref false s = .ok task)
    (hlist : listChanges task.id s = .ok changes) (hloads : s.Rebuilds) :
    (repairPlanningCommandChanges env ref reason false).Sat s fun r s' => ∃ report moved,
      r = .ok report ∧ Repaired report (moved.map fun m => m.1.changeId) ∧
        (∀ m ∈ moved, m.1 ∈ changes) ∧ CommandsMoved env task moved s s' ∧
          (moved = [] ↔ ∀ change ∈ changes, ¬ movable task change s) := by
  obtain ⟨stored, hstored, hreload⟩ := resolveTask_stored hfound
  refine Sat.guard (fun hno => absurd hno (by simp [hreason])) fun _ => ?_
  refine sat_known hfound (sat_known hlist ?_)
  refine Sat.bind (sat_repairCommandChanges env (Text.strip reason) changes hstored ⟨task, hreload⟩
    (TaskRecord.reload_again hreload)) ?_ ?_
  · rintro e s₁ ⟨_, h, -⟩
    cases h
  rintro _ s₁ ⟨moved, hreturned, hmem, hmoved, hnone⟩
  cases hreturned
  obtain ⟨u, hu⟩ := rebuildV2Indexes_loads.2 (hmoved.rebuilds.2 hloads)
  exact sat_known (q := rebuildUnlessDry false) hu
    (Sat.pure ⟨_, _, rfl, rfl, hmem, hmoved, hnone⟩)

/-- A repair of a task without such changes reports none and leaves everything as it was. -/
theorem sat_repair_nothing (env : Env) (reason : String)
    (hfound : resolveTask ref false s = .ok task)
    (hnone : ∀ changes, listChanges task.id s = .ok changes → s.Rebuilds →
      ∀ change ∈ changes, ¬ movable task change s) :
    (repairPlanningCommandChanges env ref reason false).Sat s fun r s' =>
      ∀ report, r = .ok report →
        Repaired report [] ∧ s' = s ∧ ∃ changes, listChanges task.id s = .ok changes := by
  obtain ⟨stored, hstored, hreload⟩ := resolveTask_stored hfound
  refine Sat.guard (fun _ report h => by cases h) fun _ => sat_known hfound ?_
  refine Sat.query (fun _ _ report h => by cases h) fun changes hlist => ?_
  refine Sat.bind (sat_repairCommandChanges env (Text.strip reason) changes hstored ⟨task, hreload⟩
    (TaskRecord.reload_again hreload)) (fun _ _ _ report h => by cases h) ?_
  rintro _ s₁ ⟨moved, hreturned, -, hmoved, hempty⟩
  cases hreturned
  refine Sat.query (fun _ _ report h => by cases h) fun u hu => Sat.pure ?_
  have hloads : s.Rebuilds := hmoved.rebuilds.1 (rebuildV2Indexes_loads.1 ⟨u, hu⟩)
  have hmoved_nil := hempty.2 (hnone changes hlist hloads)
  cases hmoved.nothing hmoved_nil
  subst hmoved_nil
  rintro report h
  cases h
  exact ⟨rfl, rfl, changes, hlist⟩

/-- A repair that returns has removed exactly the misfiled records when there are none: of the
ones it moves, it leaves every file where it was. -/
theorem removes_exactly_iff (env : Env) (ref reason : String) (s : Ledger) :
    RemovesExactly env ref reason s ↔ ∀ task changes, Text.isBlank reason = false →
      resolveTask ref false s = .ok task → listChanges task.id s = .ok changes → s.Rebuilds →
        ∀ change ∈ changes, ¬ movable task change s := by
  constructor
  · intro hexact task changes hreason hfound hlist hloads change hchange hmovable
    have hsat := sat_repairPlanningCommandChanges env hreason hfound hlist hloads
    unfold RemovesExactly Sat at hexact
    unfold Sat at hsat
    obtain ⟨report, moved, hreturns, hreport, hmem, hmoved, hnone⟩ := hsat
    obtain ⟨ids, hids, hremoved⟩ := hexact report task hreturns hfound
    cases hids.unique hreport
    cases moved with
    | nil => exact hnone.1 rfl change hchange hmovable
    | cons first rest =>
      obtain ⟨listed, hlisted, hgone⟩ := hremoved.files
      -- No file was removed, so the moved change is still listed.
      have hsame : listed = changes := by
        unfold listChanges at hlist hlisted
        rw [hmoved.changes, hlist] at hlisted
        exact (Except.ok.inj hlisted).symm
      refine hgone first.1 ?_ (by simp)
      rw [hsame]
      exact hmem first List.mem_cons_self
  · intro hnone
    unfold RemovesExactly Sat
    intro report task hreturns hfound
    have hreason : Text.isBlank reason = false := by
      by_contra hblank
      have hraises : (repairPlanningCommandChanges env ref reason false).Sat s fun r _ =>
          ∃ e, r = .error e :=
        Sat.guard (fun _ => ⟨_, rfl⟩) fun hno => absurd (by simpa using hblank) hno
      obtain ⟨e, he⟩ := hraises
      rw [hreturns] at he
      cases he
    have hrest := hnone task
    obtain ⟨hreport, hsame, changes, hlist⟩ := sat_repair_nothing env reason
      hfound (fun changes => hrest changes hreason hfound) report hreturns
    rw [hsame]
    refine ⟨[], hreport, ⟨task, hfound, by simp⟩, ⟨changes, hlist, by simp⟩, fun _ _ => rfl,
      fun _ _ => rfl, fun env' reason' => ?_⟩
    refine (sat_repair_nothing env' reason' hfound fun changes => hrest changes hreason hfound).mono ?_
    exact fun r s' h report hr => (h report hr).1

end Repair

section Evaluation

attribute [local instance] plainRuntime

/-- A command that was filed as a change of the planning run. -/
def misfiledChange (changeId : String) : CodeChangeRecord where
  changeId := changeId
  taskId := "task-0001"
  implementationRun := "run-0001"
  timestamp := utcNow plainEnv
  kind := "command"
  path := "."
  summary := "ls"

/-- A task in planning with two misfiled changes. -/
def misfiledLedger : Ledger :=
  let s := afterOps [.createTask { title := "A", description := "d" },
    .startPlanning "task-0001" none none]
  let s := (s.putChange (misfiledChange "change-0001")).putChange (misfiledChange "change-0002")
  match s.tasks.lookup "task-0001" with
  | some task => s.putTask { task with codeChangeLogRefs := ["change-0001", "change-0002"] }
  | none => s

/-- Both changes are reported as moved; their files stay, and so does the first reference. -/
theorem moved_changes_are_listed :
    ¬ RemovesExactly plainEnv "task-0001" "filed by mistake" misfiledLedger := by
  intro hexact
  have hreport : ((repairPlanningCommandChanges plainEnv "task-0001" "filed by mistake" false).runOn
      misfiledLedger).1.toOption.map (fun report =>
        (report.get? "repaired_changes").map stringTuple) =
          some (some ["change-0001", "change-0002"]) := by decide +kernel
  have hlisted : (listChanges "task-0001" ((repairPlanningCommandChanges plainEnv "task-0001"
      "filed by mistake" false).runOn misfiledLedger).2).toOption.map
        (List.map CodeChangeRecord.changeId) = some ["change-0001", "change-0002"] := by
    decide +kernel
  have hid : (resolveTask "task-0001" false misfiledLedger).toOption.map TaskRecord.id =
      some "task-0001" := by decide +kernel
  obtain ⟨report, hreturns, hreport⟩ := Option.map_eq_some_iff.1 hreport
  obtain ⟨task, hfound, hid⟩ := Option.map_eq_some_iff.1 hid
  obtain ⟨ids, hids, hremoved⟩ :=
    hexact report task (toOption_eq_some.1 hreturns) (toOption_eq_some.1 hfound)
  rw [hids, Option.map_some, stringTuple_ofStrings, Option.some.injEq] at hreport
  obtain ⟨changes, hchanges, hgone⟩ := hremoved.files
  rw [hid] at hchanges
  rw [hchanges] at hlisted
  have hmem : "change-0001" ∈ changes.map CodeChangeRecord.changeId := by
    rw [Option.some.inj hlisted]
    decide
  obtain ⟨change, hchange, hname⟩ := List.mem_map.1 hmem
  exact hgone change hchange (by simp [hname, hreport])

end Evaluation

end Taskledger
