import Taskledger.Library.Lines
import Taskledger.PlainRuntime
import Taskledger.Services.ValidationFlow

/-!
# References to criteria

A reference names a criterion exactly, by the id it is normalised to, or loosely by its
kind and number. The first criterion it matches in any of these ways is taken, so a
reference is resolved to the one it denotes when no earlier criterion matches it.
-/

namespace Taskledger

open Library

section Parsed

variable [Runtime] {frontMatter : Dict} {given : List String} {c : AcceptanceCriterion}
  {criteria : List AcceptanceCriterion}

-- ════════════════════════════════════════════════════════════════════════
-- Ids of parsed criteria
-- ════════════════════════════════════════════════════════════════════════

omit [Runtime] in
theorem strip_criterionId (index : Nat) : Text.strip (criterionId index) = criterionId index := by
  have hstart : Text.StartsSolid "ac-" := ⟨'a', ['c', '-'], rfl, by decide⟩
  exact (Text.strip_solid hstart.append (Text.endsSolid_fourDigits index).append).2

/-- The id and the text of the criterion have no blanks around them. -/
def AcceptanceCriterion.Stripped (c : AcceptanceCriterion) : Prop :=
  Text.strip c.id = c.id ∧ Text.strip c.text = c.text

omit [Runtime] in
theorem stripped_fromTexts (index : Nat) (texts : List String) :
    ∀ c ∈ criteriaFromTexts index texts, c.Stripped := by
  induction texts generalizing index with
  | nil =>
    intro c hc
    cases hc
  | cons text rest ih =>
    rw [criteriaFromTexts]
    split
    · exact ih (index + 1)
    · exact List.forall_mem_cons.2
        ⟨⟨strip_criterionId index, Text.strip_strip text⟩, ih (index + 1)⟩

theorem stripped_criterionOf {index : Nat} {item : Value}
    (h : criterionOf index item = .ok (some c)) : c.Stripped := by
  unfold criterionOf at h
  split at h
  · split at h
    · cases h
    · cases h
      exact ⟨strip_criterionId index, Text.strip_strip _⟩
  · dsimp only at h
    split at h
    · obtain ⟨c', hc', hsome⟩ := map_eq_ok.1 h
      cases hsome
      unfold shorthandCriterion at hc'
      split at hc'
      · dsimp only at hc'
        split at hc'
        · cases hc'
        · cases hc'
          exact ⟨Text.strip_strip _, Text.strip_strip _⟩
      · cases hc'
    · cases h
      exact ⟨Text.strip_strip _, Text.strip_strip _⟩
  · cases h

theorem stripped_fromList {index : Nat} {items : List Value}
    (h : criteriaFromList index items = .ok criteria) : ∀ c ∈ criteria, c.Stripped := by
  induction items generalizing index criteria with
  | nil =>
    cases h
    intro c hc
    cases hc
  | cons item rest ih =>
    obtain ⟨criterion, hcriterion, h⟩ := bind_eq_ok.1 h
    obtain ⟨others, hothers, h⟩ := bind_eq_ok.1 h
    cases pure_eq_ok.1 h
    intro c hc
    rcases List.mem_append.1 hc with hc | hc
    · cases Option.mem_toList.1 hc
      exact stripped_criterionOf hcriterion
    · exact ih hothers c hc

/-- Criteria that pass the parser have different ids, and no blanks around ids and texts. -/
theorem criteria_of_planInput (h : criteriaFromPlanInput frontMatter given = .ok criteria) :
    (criteria.map AcceptanceCriterion.id).Nodup ∧ ∀ c ∈ criteria, c.Stripped := by
  obtain ⟨items, hitems, h⟩ := bind_eq_ok.1 h
  obtain ⟨_, hnodup, h⟩ := bind_eq_ok.1 h
  cases pure_eq_ok.1 h
  refine ⟨not_not.1 (raiseIf_eq_ok.1 hnodup), ?_⟩
  unfold rawCriteria at hitems
  split at hitems
  · cases hitems
    exact stripped_fromTexts _ _
  · exact stripped_fromList hitems
  · cases hitems

-- ════════════════════════════════════════════════════════════════════════
-- What a reference denotes
-- ════════════════════════════════════════════════════════════════════════

variable {ref id : String} {plan : PlanRecord}

/-- The form a reference is compared in: without blanks around it, in lower case, and the local
id when it is a reference to a criterion of the project. -/
def criterionForm (ref : String) : String :=
  match localIdFromRef (Runtime.lower (Text.strip ref)) "ac" with
  | .ok localId => localId
  | .error _ => Runtime.lower (Text.strip ref)

/-- The reference is the id of the criterion, in any letter case. -/
def Spells (ref : String) (c : AcceptanceCriterion) : Prop :=
  Runtime.lower (Text.strip ref) = Runtime.lower c.id

/-- The reference is normalised to the id of the criterion. -/
def Names (ref : String) (c : AcceptanceCriterion) : Prop :=
  criterionForm ref = Runtime.lower c.id

omit [Runtime] in
/-- The kind and the number of an id are the texts around its only hyphen. -/
def HasParts (id kind number : String) : Prop :=
  id = kind ++ "-" ++ number ∧ '-' ∉ kind.toList ∧ '-' ∉ number.toList

/-- Two texts are the same number. -/
def SameValue (a b : String) : Prop :=
  ∃ n, Runtime.parseInt a = some n ∧ Runtime.parseInt b = some n

/-- What a text can denote among the ids in lower case: the id itself, an id of its kind whose
number has the same value, or an id whose number it gives without the kind. -/
inductive Denotes (text id : String) : Prop
  | named (h : text = id)
  | numbered {kind number textNumber : String} (hid : HasParts id kind number)
      (htext : HasParts text kind textNumber) (hvalue : SameValue textNumber number)
  | bare {kind number : String} (hid : HasParts id kind number)
      (hnumber : text = number ∨ SameValue text number)

/-- The reference can denote the criterion. -/
def MayDenote (ref : String) (c : AcceptanceCriterion) : Prop :=
  Denotes (criterionForm ref) (Runtime.lower c.id)

omit [Runtime] in
theorem hasParts_iff {id kind number : String} :
    Text.splitOn '-' id = [kind, number] ↔ HasParts id kind number := Text.splitOn_eq_pair

theorem sameNumber_iff {a b : String} : sameNumber a b = true ↔ SameValue a b := by
  unfold sameNumber SameValue
  cases Runtime.parseInt a with
  | none => simp
  | some m =>
    cases Runtime.parseInt b with
    | none => simp
    | some n => simp [eq_comm]

/-- The comparison of the resolver: a text matches the ids that it can denote. -/
theorem criterionMatches_iff {text : String} :
    criterionMatches text id = true ↔ Denotes text id := by
  unfold criterionMatches
  rw [Bool.or_eq_true, decide_eq_true_eq]
  constructor
  · rintro (hid | h)
    · exact .named hid.symm
    · split at h
      · rename_i kind number hid
        rw [Bool.or_eq_true, Bool.or_eq_true, decide_eq_true_eq, sameNumber_iff, or_assoc] at h
        rcases h with h | hnumber
        · split at h
          · rename_i textKind textNumber htext
            rw [Bool.and_eq_true, decide_eq_true_eq, sameNumber_iff] at h
            obtain ⟨rfl, hvalue⟩ := h
            exact .numbered (hasParts_iff.1 hid) (hasParts_iff.1 htext) hvalue
          · cases h
        · exact .bare (hasParts_iff.1 hid) hnumber
      · cases h
  · intro h
    cases h with
    | named h => exact .inl h.symm
    | numbered hid htext hvalue =>
      right
      simp [hasParts_iff.2 hid, hasParts_iff.2 htext, sameNumber_iff.2 hvalue]
    | bare hid hnumber =>
      right
      rw [hasParts_iff.2 hid]
      dsimp only
      rw [Bool.or_eq_true, Bool.or_eq_true, decide_eq_true_eq, sameNumber_iff, or_assoc]
      exact .inr hnumber

instance : Decidable (Spells ref c) := inferInstanceAs (Decidable (_ = _))
instance : Decidable (Names ref c) := inferInstanceAs (Decidable (_ = _))
instance : Decidable (MayDenote ref c) := decidable_of_iff _ criterionMatches_iff

/-- The criteria that a reference denotes: those it spells; or else those it names; or else all
that it can denote. -/
def denoted (criteria : List AcceptanceCriterion) (ref : String) : List AcceptanceCriterion :=
  if criteria.filter (Spells ref ·) ≠ [] then criteria.filter (Spells ref ·)
  else if criteria.filter (Names ref ·) ≠ [] then criteria.filter (Names ref ·)
  else criteria.filter (MayDenote ref ·)

/-- An exact id leads to its criterion, and what a reference leads to is all it denotes. -/
structure ResolvesFaithfully (plan : PlanRecord) (ref : String) : Prop where
  exact_id : ∀ c ∈ plan.criteria, Spells ref c → resolveCriterionRef plan ref = .ok c.id
  only_one : ∀ id, resolveCriterionRef plan ref = .ok id →
    ∃ c, denoted plan.criteria ref = [c] ∧ c.id = id

/-- A criterion is listed before every other one that the reference can denote. -/
def DenotedFirst (criteria : List AcceptanceCriterion) (ref : String) (c : AcceptanceCriterion) :
    Prop :=
  MayDenote ref c ∧ ∃ earlier later, criteria = earlier ++ c :: later ∧
    ∀ c' ∈ earlier, ¬ MayDenote ref c'

theorem Names.mayDenote (h : Names ref c) : MayDenote ref c := .named h

theorem spells_own_id (h : criteriaFromPlanInput frontMatter given = .ok criteria)
    (hc : c ∈ criteria) : Spells c.id c := by
  unfold Spells
  rw [((criteria_of_planInput h).2 c hc).1]

theorem denoted_of_spells (hc : c ∈ criteria) (h : Spells ref c) :
    denoted criteria ref = criteria.filter (Spells ref ·) := by
  have hmem : c ∈ criteria.filter (Spells ref ·) := by simp [hc, h]
  rw [denoted, if_pos (List.ne_nil_of_mem hmem)]

/-- A reference without an exact id denotes only criteria that it can denote. -/
theorem mayDenote_of_denoted (hnone : ∀ c ∈ criteria, ¬ Spells ref c) (hc : c ∈ denoted criteria ref) :
    c ∈ criteria ∧ MayDenote ref c := by
  have hspells : criteria.filter (Spells ref ·) = [] := by simpa using hnone
  unfold denoted at hc
  rw [if_neg (not_not.2 hspells)] at hc
  split at hc
  · rw [List.mem_filter, decide_eq_true_eq] at hc
    exact ⟨hc.1, hc.2.mayDenote⟩
  · rwa [List.mem_filter, decide_eq_true_eq] at hc

/-- A reference that can denote a criterion denotes something. -/
theorem denoted_ne_nil (hc : c ∈ criteria) (h : MayDenote ref c) : denoted criteria ref ≠ [] := by
  unfold denoted
  split
  · assumption
  · split
    · assumption
    · exact List.ne_nil_of_mem (List.mem_filter.2 ⟨hc, by simpa using h⟩)

-- ════════════════════════════════════════════════════════════════════════
-- The first criterion
-- ════════════════════════════════════════════════════════════════════════

theorem resolveCriterionRef_eq_ok : resolveCriterionRef plan ref = .ok id ↔
    ∃ c, DenotedFirst plan.criteria ref c ∧ c.id = id := by
  have hfind (c : AcceptanceCriterion) :
      (plan.criteria.find? fun c => criterionMatches (criterionForm ref) (Runtime.lower c.id)) =
        some c ↔ DenotedFirst plan.criteria ref c := by
    rw [List.find?_eq_some_iff_append]
    simp [DenotedFirst, MayDenote, ← criterionMatches_iff]
  unfold resolveCriterionRef
  split
  · rename_i hnil
    refine iff_of_false (by simp) ?_
    rintro ⟨c, ⟨-, earlier, later, hsplit, -⟩, -⟩
    rw [hnil] at hsplit
    simp at hsplit
  · dsimp only
    split
    · rename_i found hf
      have hfirst : DenotedFirst plan.criteria ref found := (hfind found).1 hf
      constructor
      · intro h
        exact ⟨found, hfirst, Except.ok.inj h⟩
      · rintro ⟨c, hc, rfl⟩
        cases hf.symm.trans ((hfind c).2 hc)
        rfl
    · rename_i hf
      refine iff_of_false (by simp) ?_
      rintro ⟨c, hc, -⟩
      cases hf.symm.trans ((hfind c).2 hc)

theorem DenotedFirst.mem (h : DenotedFirst criteria ref c) : c ∈ criteria := by
  obtain ⟨-, earlier, later, rfl, -⟩ := h
  simp

theorem DenotedFirst.find? (h : DenotedFirst criteria ref c) :
    criteria.find? (MayDenote ref ·) = some c := by
  rw [List.find?_eq_some_iff_append]
  simpa [DenotedFirst] using h

theorem DenotedFirst.unique {d : AcceptanceCriterion} (hc : DenotedFirst criteria ref c)
    (hd : DenotedFirst criteria ref d) : c = d :=
  Option.some.inj (hc.find?.symm.trans hd.find?)

theorem exists_denotedFirst (hc : c ∈ criteria) (h : MayDenote ref c) :
    ∃ d, DenotedFirst criteria ref d := by
  have hsome : (criteria.find? (MayDenote ref ·)).isSome = true := by
    rw [List.find?_isSome]
    exact ⟨c, hc, by simpa using h⟩
  obtain ⟨d, hd⟩ := Option.isSome_iff_exists.1 hsome
  rw [List.find?_eq_some_iff_append] at hd
  exact ⟨d, by simpa [DenotedFirst] using hd⟩

/-- In a plan whose criteria passed the parser a reference is resolved faithfully exactly when it
denotes at most one criterion, and that one is the first it can denote. -/
theorem resolves_faithfully_iff
    (h : criteriaFromPlanInput frontMatter given = .ok plan.criteria) :
    (∀ c ∈ plan.criteria, Spells c.id c) ∧
    ∀ ref, ResolvesFaithfully plan ref ↔ ∀ c ∈ denoted plan.criteria ref,
      denoted plan.criteria ref = [c] ∧ DenotedFirst plan.criteria ref c := by
  refine ⟨fun c hc => spells_own_id h hc, fun ref => ⟨fun hfaithful c hc => ?_, fun hfirst => ?_⟩⟩
  · by_cases hspelled : ∃ c ∈ plan.criteria, Spells ref c
    · obtain ⟨d, hd, hspells⟩ := hspelled
      have hmem := hc
      rw [denoted_of_spells hd hspells, List.mem_filter, decide_eq_true_eq] at hmem
      have hok := hfaithful.exact_id c hmem.1 hmem.2
      obtain ⟨e, he, heid⟩ := hfaithful.only_one _ hok
      obtain ⟨f, hf, hfid⟩ := resolveCriterionRef_eq_ok.1 hok
      have hce : c = e := by simpa [he] using hc
      cases List.inj_on_of_nodup_map (criteria_of_planInput h).1 hf.mem hmem.1 hfid
      exact ⟨hce ▸ he, hf⟩
    · have hnone : ∀ c ∈ plan.criteria, ¬ Spells ref c := fun c hc h => hspelled ⟨c, hc, h⟩
      obtain ⟨hmem, hmay⟩ := mayDenote_of_denoted hnone hc
      obtain ⟨f, hf⟩ := exists_denotedFirst hmem hmay
      obtain ⟨e, he, heid⟩ := hfaithful.only_one _ (resolveCriterionRef_eq_ok.2 ⟨f, hf, rfl⟩)
      have hce : c = e := by simpa [he] using hc
      subst hce
      cases List.inj_on_of_nodup_map (criteria_of_planInput h).1 hf.mem hmem heid.symm
      exact ⟨he, hf⟩
  · constructor
    · intro c hc hspells
      have hmem : c ∈ denoted plan.criteria ref := by
        rw [denoted_of_spells hc hspells]
        simp [hc, hspells]
      exact resolveCriterionRef_eq_ok.2 ⟨c, (hfirst c hmem).2, rfl⟩
    · intro id hok
      obtain ⟨f, hf, rfl⟩ := resolveCriterionRef_eq_ok.1 hok
      obtain ⟨c, hc⟩ := List.exists_mem_of_ne_nil _ (denoted_ne_nil hf.mem hf.1)
      obtain ⟨honly, hcfirst⟩ := hfirst c hc
      exact ⟨c, honly, congrArg AcceptanceCriterion.id (hcfirst.unique hf)⟩

end Parsed

-- ════════════════════════════════════════════════════════════════════════
-- References to evaluate
-- ════════════════════════════════════════════════════════════════════════

section Evaluation

/-- The runtime to evaluate with, and numbers read digit by digit. -/
@[reducible]
def numberRuntime : Runtime :=
  { plainRuntime with parseInt := fun text => (digits? text.toList).map Int.ofNat }

attribute [local instance] numberRuntime

/-- A front matter that gives criteria with these ids. -/
def idsFrontMatter (ids : List String) : Dict :=
  [("acceptance_criteria",
    .list (ids.map fun id => .dict [("id", .str id), ("text", .str "it works")]))]

/-- A plan with criteria of these ids. -/
def planOfIds (ids : List String) : PlanRecord where
  taskId := "task-0001"
  planVersion := 1
  body := ""
  createdAt := ""
  criteria := ids.map fun id => { id := id, text := "it works" }

theorem resolves_faithfully_plain :
    ResolvesFaithfully (planOfIds ["ac-0001", "ac-0002"]) " AC-2" := by
  have hparsed : criteriaFromPlanInput (idsFrontMatter ["ac-0001", "ac-0002"]) [] =
      .ok (planOfIds ["ac-0001", "ac-0002"]).criteria := toOption_eq_some.1 (by decide)
  have hdenoted : denoted (planOfIds ["ac-0001", "ac-0002"]).criteria " AC-2" =
      [{ id := "ac-0002", text := "it works" }] := by decide
  refine ((resolves_faithfully_iff hparsed).2 " AC-2").2 fun c hc => ?_
  rw [hdenoted, List.mem_singleton] at hc
  subst hc
  exact ⟨hdenoted, by decide, [{ id := "ac-0001", text := "it works" }], [], rfl,
    by decide⟩

/-- Ids of which two have one kind and number, and the third has the number. -/
def collidingIds : List String := ["ac-1", "ac-0001", "risk-1"]

/-- The id of the second criterion, and the number, lead to the first one. -/
theorem exact_id_is_shadowed :
    criteriaFromPlanInput (idsFrontMatter collidingIds) [] = .ok (planOfIds collidingIds).criteria ∧
      resolveCriterionRef (planOfIds collidingIds) "ac-0001" = .ok "ac-1" ∧
      resolveCriterionRef (planOfIds collidingIds) "1" = .ok "ac-1" ∧
      ¬ ResolvesFaithfully (planOfIds collidingIds) "ac-0001" ∧
      ¬ ResolvesFaithfully (planOfIds collidingIds) "1" := by
  have hparsed : criteriaFromPlanInput (idsFrontMatter collidingIds) [] =
      .ok (planOfIds collidingIds).criteria := toOption_eq_some.1 (by decide)
  have hexact : resolveCriterionRef (planOfIds collidingIds) "ac-0001" = .ok "ac-1" :=
    toOption_eq_some.1 (by decide)
  have hnumber : resolveCriterionRef (planOfIds collidingIds) "1" = .ok "ac-1" :=
    toOption_eq_some.1 (by decide)
  refine ⟨hparsed, hexact, hnumber, fun h => ?_, fun h => ?_⟩
  · have hown := h.exact_id { id := "ac-0001", text := "it works" } (by decide)
      (by decide)
    exact absurd (Except.ok.inj (hexact.symm.trans hown)) (by decide)
  · obtain ⟨c, honly, -⟩ := h.only_one _ hnumber
    have hlength : (denoted (planOfIds collidingIds).criteria "1").length = 3 := by decide
    rw [honly] at hlength
    cases hlength

end Evaluation

end Taskledger
