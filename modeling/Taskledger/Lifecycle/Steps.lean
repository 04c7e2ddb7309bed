import Taskledger.PlainRuntime
import Taskledger.Lifecycle.Permits
import Taskledger.Lifecycle.PlanningMoves
import Taskledger.Lifecycle.WorkMoves
import Taskledger.Lifecycle.TaskMoves

/-!
# Steps of the program

Whether it returns or raises, an operation makes moves of the lifecycle machine of
one task, which it is permitted to make, and at most one of them is seen.
-/

namespace Taskledger

open Library Action Lifecycle

section Runs

variable [Runtime] {s : Ledger}

/-- The runs of the program on an empty ledger. -/
def services : System Ledger Step where
  init := .empty
  next := Step.next

/-- A reference leads to one task at most. -/
theorem exists_resolved (ref : String) (includeArchived : Bool) (s : Ledger) :
    ∃ id, ∀ t, resolveTask ref includeArchived s = .ok t → t.id = id := by
  cases h : resolveTask ref includeArchived s with
  | error e => exact ⟨"", fun _ hok => by simp at hok⟩
  | ok t => exact ⟨t.id, fun u hok => by rw [Except.ok.inj hok]⟩

theorem Step.walked (step : Step) (hs : s.Sound) :
    ∃ id, Walked (step.permits s id) s.view id true (step.next s) := by
  have hfound (ref : String) := exists_resolved ref false s
  obtain ⟨env, op⟩ := step
  cases op with
  | createTask request =>
    exact exists_walked_dropResult (P := Step.permits ⟨env, .createTask request⟩ s)
      (walked_createTask fun _ _ => rfl)
  | createFollowUpTask ref request =>
    exact exists_walked_dropResult (P := Step.permits ⟨env, .createFollowUpTask ref request⟩ s)
      (walked_createFollowUpTask fun _ _ => rfl)
  | recordCompletedTask request =>
    exact exists_walked_dropResult (P := Step.permits ⟨env, .recordCompletedTask request⟩ s)
      (walked_recordCompletedTask fun _ _ _ hfree hl => ⟨hl, hfree⟩)
  | startPlanning ref actor harness =>
    obtain ⟨id, hid⟩ := hfound ref
    exact ⟨id, walked_dropResult ((walked_startPlanning hs hid fun _ => rfl).mono
      fun _ _ h => h.weaken)⟩
  | revisePlan ref =>
    obtain ⟨id, hid⟩ := hfound ref
    exact ⟨id, walked_dropResult ((walked_revisePlan hs hid fun _ => rfl).mono
      fun _ _ h => h.weaken)⟩
  | proposePlan ref body criteria =>
    obtain ⟨id, hid⟩ := hfound ref
    exact ⟨id, walked_dropResult (walked_proposePlan hs hid fun input _ listed hread hlisted =>
      ⟨listed, rfl, input, hread, hlisted⟩)⟩
  | upsertPlan ref body criteria fromAnswers allowOpenQuestions autoRevise =>
    obtain ⟨id, hid⟩ := hfound ref
    exact ⟨id, walked_dropResult (walked_upsertPlan hs hid (fun _ => .inl rfl)
      (fun input _ listed hread hlisted => .inr (.inl ⟨listed, rfl, input, hread, hlisted⟩))
      fun task r input listed hbranch hr hrid hread hlisted =>
        .inr (.inr ⟨listed, rfl, rfl, ⟨input, hread, hlisted⟩, r, ⟨task, hbranch, hr⟩, hrid⟩))⟩
  | regeneratePlan ref body criteria allowOpenQuestions =>
    obtain ⟨id, hid⟩ := hfound ref
    exact ⟨id, walked_dropResult (walked_regeneratePlan hs hid
      fun r input listed hr hrid hread hlisted =>
        ⟨listed, rfl, rfl, ⟨input, hread, hlisted⟩, r, hr, hrid⟩)⟩
  | amendPlan ref dropCriteria dropTodos removeFiles reason =>
    obtain ⟨id, hid⟩ := hfound ref
    exact ⟨id, walked_dropResult (walked_amendPlan hs hid (fun _ => .inl rfl)
      fun task latest input _ listed hamend hread hlisted =>
        .inr ⟨listed, rfl, input, ⟨task, latest, hamend, hread⟩, hlisted⟩)⟩
  | approvePlan ref version request =>
    obtain ⟨id, hid⟩ := hfound ref
    exact ⟨id, walked_dropResult (walked_approvePlan hid fun _ => rfl)⟩
  | rejectPlan ref reason =>
    obtain ⟨id, hid⟩ := hfound ref
    exact ⟨id, walked_dropResult (walked_rejectPlan hid fun _ => rfl)⟩
  | startImplementation ref actor harness =>
    obtain ⟨id, hid⟩ := hfound ref
    exact ⟨id, walked_dropResult (walked_startImplementation hs hid fun _ => rfl)⟩
  | restartImplementation ref summary actor harness =>
    obtain ⟨id, hid⟩ := hfound ref
    exact ⟨id, walked_dropResult (walked_restartImplementation hs hid fun _ => rfl)⟩
  | resumeImplementation ref runId reason actor harness repairExpiredLock =>
    obtain ⟨id, hid⟩ := hfound ref
    exact ⟨id, walked_dropResult (walked_resumeImplementation hs hid (fun _ => by simp [permits])
      fun _ => by simp [permits])⟩
  | finishImplementation ref summary =>
    obtain ⟨id, hid⟩ := hfound ref
    exact ⟨id, walked_dropResult (walked_finishImplementation hs hid fun f hf hfid =>
      ⟨rfl, rfl, f, hf, hfid⟩)⟩
  | startValidation ref actor harness =>
    obtain ⟨id, hid⟩ := hfound ref
    exact ⟨id, walked_dropResult (walked_startValidation hs hid fun _ => rfl)⟩
  | finishValidation ref result summary recommendation =>
    obtain ⟨id, hid⟩ := hfound ref
    exact ⟨id, walked_dropResult (walked_finishValidation hs hid fun f hf hfid =>
      ⟨f, rfl, rfl, hf, hfid⟩)⟩
  | cancelTask ref reason =>
    obtain ⟨id, hid⟩ := hfound ref
    exact ⟨id, walked_dropResult (walked_cancelTask hs hid fun _ => rfl)⟩
  | uncancelTask ref target reason actor allowAgent =>
    obtain ⟨id, hid⟩ := hfound ref
    exact ⟨id, walked_dropResult (walked_uncancelTask hs hid fun task target h hid =>
      ⟨task, target, rfl, rfl, h, hid⟩)⟩
  | archiveTask ref reason force =>
    obtain ⟨id, hid⟩ := hfound ref
    exact ⟨id, walked_dropResult (walked_archiveTask hid fun _ => rfl)⟩
  | unarchiveTask ref reason slug reopen =>
    obtain ⟨id, hid⟩ := exists_resolved ref true s
    exact ⟨id, walked_dropResult (walked_unarchiveTask hid fun task h hid =>
      ⟨task, reopen, rfl, rfl, ⟨h, rfl⟩, hid⟩)⟩
  | breakLock ref reason =>
    obtain ⟨id, hid⟩ := hfound ref
    exact ⟨id, walked_dropResult (walked_breakLock hid fun _ => rfl)⟩
  | repairOrphanedPlanningRun ref runId reason =>
    obtain ⟨id, hid⟩ := hfound ref
    exact ⟨id, walked_dropResult (walked_repairOrphanedPlanningRun hid fun _ => rfl)⟩
  | recorder r =>
    exact ⟨"", (Walked.stay (s := s)).of_view (r.keeps_views s rfl)⟩

/-- A step makes permitted moves of one task, and at most one that is seen. -/
theorem Step.evolves (step : Step) (hs : s.Sound) :
    Evolves machine (step.permits s) s.view (step.next s).view := by
  obtain ⟨id, w, hw, hview⟩ := step.walked hs
  rw [hview]
  exact .of_update hw

theorem Step.sound (step : Step) (hs : s.Sound) : (step.next s).Sound := by
  obtain ⟨id, h⟩ := step.walked hs
  exact h.sound hs

theorem sound_empty : Ledger.empty.Sound := fun id => by
  constructor <;> simp [Ledger.view, Ledger.empty]

/-- Every reachable ledger is sound. -/
theorem Reachable.sound {C : Ledger → Step → Prop} (h : services.Reachable C s) : s.Sound :=
  h.invariant sound_empty fun _ step _ hs _ => step.sound hs

/-- The ledger of some run of the program. -/
def Ledger.Reachable (s : Ledger) : Prop := services.Reachable (fun _ _ => True) s

theorem reachable_run (steps : List Step) : (services.run .empty steps).Reachable := by
  refine System.Reachable.run .init ?_
  generalize services.init = s
  induction steps generalizing s with
  | nil => trivial
  | cons step rest ih => exact ⟨trivial, ih _⟩

theorem Ledger.Reachable.sound (h : s.Reachable) : s.Sound := Taskledger.Reachable.sound h

end Runs

-- ════════════════════════════════════════════════════════════════════════
-- Runs to evaluate
-- ════════════════════════════════════════════════════════════════════════

section Evaluation

attribute [local instance] plainRuntime

/-- The ledger after operations of one process. -/
def afterOps (ops : List Op) : Ledger := services.run .empty (ops.map (Step.mk plainEnv))

/-- Operations that meet `C` in every ledger are a run whose steps meet it. -/
theorem reachable_of_ops {C : Ledger → Step → Prop} {ops : List Op}
    (h : ∀ op ∈ ops, ∀ s, C s ⟨plainEnv, op⟩) : services.Reachable C (afterOps ops) := by
  refine System.Reachable.run .init ?_
  generalize services.init = s
  induction ops generalizing s with
  | nil => trivial
  | cons op rest ih =>
    exact ⟨h op (by simp) s, ih (fun o ho => h o (by simp [ho])) _⟩

theorem reachable_append {C : Ledger → Step → Prop} {ops : List Op} {op : Op}
    (h : services.Reachable C (afterOps ops)) (hop : C (afterOps ops) ⟨plainEnv, op⟩) :
    services.Reachable C (afterOps (ops ++ [op])) := by
  unfold afterOps
  rw [List.map_append, System.run_append]
  exact .step _ h hop

theorem reachable_afterOps (ops : List Op) : (afterOps ops).Reachable := reachable_run _

end Evaluation

end Taskledger
