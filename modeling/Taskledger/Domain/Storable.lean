import Taskledger.Domain.FromDict

/-!
# Nested records and their mappings

When an actor, a harness or a sidecar reads back from its own mapping as it was
written.
-/

namespace Taskledger

open Library

-- ════════════════════════════════════════════════════════════════════════
-- Members of enumerations
-- ════════════════════════════════════════════════════════════════════════

theorem map_value_bind {α : Type} [Enumeration α] (member : Option α) :
    (member.map value).bind Enumeration.ofValue? = member := by
  cases member <;> simp

theorem runResult_value (result : Option ValidationResult) :
    runResult (.ofOption (result.map value)) = .ok result := by
  cases result with
  | none => rfl
  | some r =>
    simp only [runResult, optionalString_ofOption, Option.map_some, normalizeValidationResult,
      normalizeWith_value]
    rfl

theorem normalizeFileLinkKind_value (kind : FileLinkKind) :
    normalizeFileLinkKind (value kind) = .ok kind := by
  have hname : value kind ≠ "directory" := by cases kind <;> decide
  rw [normalizeFileLinkKind, if_neg hname]
  exact normalizeWith_value _ _ kind

theorem normalizeValidationCheckStatus_value (status : ValidationCheckStatus) :
    normalizeValidationCheckStatus (value status) = .ok status := by
  have hname : value status ≠ "skip" := by cases status <;> decide
  rw [normalizeValidationCheckStatus, if_neg hname]
  exact normalizeWith_value _ _ status

theorem normalizeTodoStatus_value (status : TodoStatus) :
    normalizeTodoStatus (value status) = .ok status :=
  normalizeWith_value _ _ status

variable [Runtime] {now : String}

theorem normalizeContextFor_value (role : ContextFor) :
    normalizeContextFor (value role) = .ok role := by
  cases role <;> rfl

-- ════════════════════════════════════════════════════════════════════════
-- Actors and harnesses
-- ════════════════════════════════════════════════════════════════════════

/-- The actor has a name. -/
def ActorRef.Storable (a : ActorRef) : Prop := a.actorName ≠ ""

theorem ActorRef.fromDict_toDict (a : ActorRef) :
    ActorRef.fromDict (.dict a.toDict) = .ok a ↔ a.Storable := by
  have htype : ∀ t : ActorType,
      memberOr normalizeActorType "agent" (.str (value t)) = .ok t :=
    memberOr_value (fun t => normalizeWith_value _ (Runtime.repr (value t)) t) (by decide)
  have hrole : ∀ r : Option ActorRole,
      memberUnlessEmpty normalizeActorRole (.ofOption (r.map value)) = .ok r :=
    memberUnlessEmpty_value (fun r => normalizeWith_value _ (Runtime.repr (value r)) r) (by decide)
  cases a
  simp [ActorRef.fromDict, ActorRef.toDict, Dict.get_cons, bind_eq_ok, htype, hrole,
    map_value_bind, orOption_getD, orElse_eq_self, ActorRef.Storable]

/-- The harness has an id, a name and a time. -/
def HarnessRef.Storable (h : HarnessRef) : Prop :=
  h.harnessId ≠ "" ∧ h.name ≠ "" ∧ h.createdAt ≠ ""

theorem HarnessRef.fromDict_toDict (hnow : now ≠ "") (h : HarnessRef) :
    HarnessRef.fromDict now (.dict h.toDict) = .ok h ↔ h.Storable := by
  have hkind : ∀ k : HarnessKind,
      memberOr normalizeHarnessKind "unknown" (.str (value k)) = .ok k :=
    memberOr_value (fun k => normalizeWith_value _ (Runtime.repr (value k)) k) (by decide)
  cases h
  simp [HarnessRef.fromDict, HarnessRef.toDict, Dict.get_cons, Dict.get?_cons, bind_eq_ok, hkind,
    requireContract, raiseIf_eq_ok, taskledgerSchemaVersion, Value.asInt?, stringValue,
    requireString, stampValue, orOption_getD, orElse_eq_self hnow, HarnessRef.Storable]

section Optional

variable {a : Option ActorRef} {h : Option HarnessRef}

theorem unlessNone_actor : unlessNone ActorRef.fromDict (.ofDict? (a.map ActorRef.toDict)) = .ok a ↔
    ∀ x ∈ a, x.Storable := by
  simp only [unlessNone_ofDict?, ActorRef.fromDict_toDict]

theorem unlessEmpty_actor :
    unlessEmpty ActorRef.fromDict (.ofDict? (a.map ActorRef.toDict)) = .ok a ↔
      ∀ x ∈ a, x.Storable := by
  rw [unlessEmpty_ofDict? fun x => by simp [ActorRef.toDict]]
  simp only [ActorRef.fromDict_toDict]

theorem unlessNone_harness (hnow : now ≠ "") :
    unlessNone (HarnessRef.fromDict now) (.ofDict? (h.map HarnessRef.toDict)) = .ok h ↔
      ∀ x ∈ h, x.Storable := by
  simp only [unlessNone_ofDict?, HarnessRef.fromDict_toDict hnow]

theorem unlessEmpty_harness (hnow : now ≠ "") :
    unlessEmpty (HarnessRef.fromDict now) (.ofDict? (h.map HarnessRef.toDict)) = .ok h ↔
      ∀ x ∈ h, x.Storable := by
  rw [unlessEmpty_ofDict? fun x => by simp [HarnessRef.toDict]]
  simp only [HarnessRef.fromDict_toDict hnow]

end Optional

-- ════════════════════════════════════════════════════════════════════════
-- Waivers, criteria, checks and todos
-- ════════════════════════════════════════════════════════════════════════

/-- The waiver has a reason and a time, and its actor a name. -/
def Waiver.Storable (w : Waiver) : Prop :=
  w.actor.Storable ∧ w.reason ≠ "" ∧ w.createdAt ≠ ""

theorem Waiver.fromDict_ofDict? {kind : String} (hnow : now ≠ "") (w : Option Waiver) :
    Waiver.fromDict kind now (.ofDict? (w.map Waiver.toDict)) = .ok w ↔ ∀ x ∈ w, x.Storable := by
  rw [Waiver.fromDict, unlessNone_ofDict?]
  refine forall₂_congr fun x _ => ?_
  cases x
  simp [Waiver.toDict, Dict.get_cons, bind_eq_ok, map_eq_ok, stringValue, requireString, raiseIf_eq_ok,
    stampValue, orOption_getD, orElse_eq_self hnow, ActorRef.fromDict_toDict, Waiver.Storable]

/-- The criterion has an id and a text. -/
def AcceptanceCriterion.Storable (c : AcceptanceCriterion) : Prop := c.id ≠ "" ∧ c.text ≠ ""

omit [Runtime] in
theorem AcceptanceCriterion.fromDict_toDict (c : AcceptanceCriterion) :
    AcceptanceCriterion.fromDict (.dict c.toDict) = .ok c ↔ c.Storable := by
  cases c
  simp [AcceptanceCriterion.fromDict, AcceptanceCriterion.toDict, Dict.get_cons, Dict.get?_cons,
    bind_eq_ok, map_eq_ok, stringValue, requireString, raiseIf_eq_ok, Value.truthy,
    AcceptanceCriterion.Storable]

/-- The criterion of a check is not empty, is there when the check was run, and only there when
the check has an id. (A check that was run may also have two empty texts for them.) -/
def ValidationCheck.Identified (id criterionId : Option String) (status : ValidationCheckStatus) :
    Prop :=
  if id = some "" then criterionId = some "" ∧ status ≠ .notRun
  else criterionId ≠ some "" ∧ (status ≠ .notRun → criterionId ≠ none) ∧
    (id = none → criterionId = none)

omit [Runtime] in
theorem ValidationCheck.identified_iff (id criterionId : Option String)
    (status : ValidationCheckStatus) :
    ((status ≠ .notRun →
        orOption criterionId (if status = .notRun then none else orOption id criterionId) ≠ none) ∧
      orOption id criterionId = id ∧
      orOption criterionId (if status = .notRun then none else orOption id criterionId) =
        criterionId) ↔ ValidationCheck.Identified id criterionId status := by
  by_cases hrun : status = .notRun <;> cases id <;> cases criterionId <;>
    simp [ValidationCheck.Identified, orOption, hrun] <;> grind

/-- The check has a name, what it checks is told apart, and its waiver is storable. -/
def ValidationCheck.Storable (c : ValidationCheck) : Prop :=
  c.name ≠ "" ∧ ValidationCheck.Identified c.id c.criterionId c.status ∧ ∀ w ∈ c.waiver, w.Storable

theorem ValidationCheck.fromDict_toDict (hnow : now ≠ "") (c : ValidationCheck) :
    ValidationCheck.fromDict now (.dict c.toDict) = .ok c ↔ c.Storable := by
  have hstatus : ∀ s : ValidationCheckStatus, value s ≠ "" := value_ne (by decide)
  have hids := ValidationCheck.identified_iff c.id c.criterionId c.status
  cases c
  simp [ValidationCheck.fromDict, ValidationCheck.toDict, Dict.get_cons, bind_eq_ok, map_eq_ok,
    stringValue, requireString, raiseIf_eq_ok, normalizeValidationCheckStatus_value, hstatus,
    Waiver.fromDict_ofDict? hnow, ValidationCheck.Storable] at hids ⊢
  tauto

/-- The todo has an id, a text and its times, and who closed it is storable. -/
def TaskTodo.Storable (t : TaskTodo) : Prop :=
  t.id ≠ "" ∧ t.text ≠ "" ∧ t.createdAt ≠ "" ∧ t.updatedAt ≠ "" ∧
    (∀ a ∈ t.completedBy, a.Storable) ∧ (∀ h ∈ t.completedInHarness, h.Storable) ∧
    ∀ a ∈ t.skippedBy, a.Storable

theorem TaskTodo.fromDict_toDict (hnow : now ≠ "") (t : TaskTodo) :
    TaskTodo.fromDict now (.dict t.toDict) = .ok t ↔ t.Storable := by
  obtain ⟨⟩ := t
  rename_i workerStepId
  cases workerStepId <;>
  · simp [TaskTodo.fromDict, TaskTodo.toDict, Dict.get_cons, bind_eq_ok, map_eq_ok, stringValue,
      requireString, raiseIf_eq_ok, requireSidecarContract, todoStatus, Value.asInt?,
      normalizeTodoStatus_value, refsUnder, stampValue, orOption_getD, orElse_eq_self hnow,
      unlessEmpty_actor, unlessEmpty_harness hnow, eq_comm (a := ([] : List String)),
      TaskTodo.Storable]
    tauto

end Taskledger
