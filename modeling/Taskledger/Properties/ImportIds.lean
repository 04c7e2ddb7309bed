import Taskledger.Domain.ModelUtils
import Taskledger.Lifecycle.Steps
import Taskledger.Services.ImportIds

/-!
# Imported ids stay apart

The ids that an import gives to the incoming tasks differ from each other and from the ids of the
ledger, in whatever order and however often the tasks come, and the items of the payload follow
their tasks.
-/

namespace Taskledger

open Library

section Importing

variable [Runtime] {policy : ImportIdPolicy} {existing incoming : List String} {ids : ImportIds}
  {s : Ledger} {id target : String}

-- ════════════════════════════════════════════════════════════════════════
-- The loop
-- ════════════════════════════════════════════════════════════════════════

/-- What holds of the ids assigned so far, over the ids that existed. An id that was changed was
taken by then: it existed, or an entry before its own got it. -/
structure ImportIds.Apart (policy : ImportIdPolicy) (existing : List String) (ids : ImportIds) :
    Prop where
  allocated : ∀ id, id ∈ ids.allocated ↔ id ∈ existing ∨ id ∈ ids.targets
  oneEach : ids.incoming.Nodup
  distinct : ids.targets.Nodup
  free : ∀ id ∈ ids.targets, id ∉ existing
  renumbered : ∀ before p after, ids.idMap = before ++ p :: after → p.2 ≠ p.1 →
    policy = .renumberOnConflict ∧ Canonical "task" p.2 ∧
      (p.1 ∈ existing ∨ p.1 ∈ before.map Prod.snd)

namespace ImportIds.Apart

theorem start (n : Nat) : ImportIds.Apart policy existing ⟨existing, n, []⟩ := by
  constructor <;> simp [ImportIds.targets, ImportIds.incoming]

/-- A target that is not allocated keeps the ids apart. -/
theorem assign (h : ids.Apart policy existing) (hid : id ∉ ids.incoming)
    (htarget : target ∉ ids.allocated) (n : Nat)
    (hnew : target ≠ id → policy = .renumberOnConflict ∧ Canonical "task" target ∧
      id ∈ ids.allocated) : (ids.assign id target n).Apart policy existing := by
  have hincoming : (ids.assign id target n).incoming = ids.incoming ++ [id] := by
    simp [ImportIds.assign, ImportIds.incoming]
  have htargets : (ids.assign id target n).targets = ids.targets ++ [target] := by
    simp [ImportIds.assign, ImportIds.targets]
  have hmem : target ∉ existing ∧ target ∉ ids.targets := by
    rw [h.allocated, not_or] at htarget
    exact htarget
  constructor
  · intro i
    rw [htargets, List.mem_append, List.mem_singleton, ← or_assoc, ← h.allocated]
    exact List.mem_cons.trans or_comm
  · rw [hincoming]
    exact h.oneEach.append (List.nodup_singleton _) (List.disjoint_singleton.2 hid)
  · rw [htargets]
    exact h.distinct.append (List.nodup_singleton _) (List.disjoint_singleton.2 hmem.2)
  · intro i hi
    rw [htargets, List.mem_append, List.mem_singleton] at hi
    rcases hi with hi | rfl
    · exact h.free i hi
    · exact hmem.1
  · intro before p after hsplit hne
    rcases List.eq_nil_or_concat after with rfl | ⟨rest, last, rfl⟩
    -- the entry is the new one, and what is before it is all there was
    · obtain ⟨rfl, hp⟩ := List.append_inj' hsplit rfl
      cases hp
      obtain ⟨hpolicy, hcanonical, htaken⟩ := hnew hne
      exact ⟨hpolicy, hcanonical, (h.allocated id).1 htaken⟩
    · rw [List.concat_eq_append, ← List.cons_append, ← List.append_assoc] at hsplit
      exact h.renumbered before p rest (List.append_inj' hsplit rfl).1 hne

end ImportIds.Apart

omit [Runtime] in
/-- What comes again does not come first. -/
theorem eraseDups_concat (seen : List String) (id : String) : (seen ++ [id]).eraseDups =
    if id ∈ seen.eraseDups then seen.eraseDups else seen.eraseDups ++ [id] := by
  rw [List.eraseDups_append]
  by_cases hid : id ∈ seen
  · rw [if_pos (List.mem_eraseDups.2 hid)]
    simp [List.removeAll, hid]
  · rw [if_neg fun h => hid (List.mem_eraseDups.1 h)]
    simp [List.removeAll, hid, List.eraseDups_cons]

/-- One round keeps the ids apart, and adds the incoming id when it has not come before. -/
theorem importId_apart {ids' : ImportIds} (h : ids.Apart policy existing)
    (hround : importId policy ids id = .ok ids') :
    ids'.Apart policy existing ∧
      ids'.incoming = if id ∈ ids.incoming then ids.incoming else ids.incoming ++ [id] := by
  have hseen (target : String) (n : Nat) (hid : id ∉ ids.incoming) :
      (ids.assign id target n).incoming =
        if id ∈ ids.incoming then ids.incoming else ids.incoming ++ [id] := by
    rw [if_neg hid]
    simp [ImportIds.assign, ImportIds.incoming]
  by_cases hid : id ∈ ids.incoming
  · rw [importId, if_pos hid] at hround
    cases hround
    exact ⟨h, (if_pos hid).symm⟩
  by_cases hfree : id ∉ ids.allocated
  · rw [importId, if_neg hid, if_pos hfree] at hround
    cases hround
    exact ⟨h.assign hid hfree _ fun hne => absurd rfl hne, hseen _ _ hid⟩
  by_cases hpolicy : policy = .preserve ∨ policy = .failOnConflict
  · rw [importId, if_neg hid, if_neg hfree, if_pos hpolicy] at hround
    cases hround
  · rw [importId, if_neg hid, if_neg hfree, if_neg hpolicy] at hround
    cases hround
    obtain ⟨hcanonical, hfresh⟩ := allocateLedgerTaskId_fresh ids.allocated ids.nextNumber
    refine ⟨h.assign hid hfresh _ fun _ => ⟨?_, hcanonical, not_not.1 hfree⟩, hseen _ _ hid⟩
    cases policy with
    | renumberOnConflict => rfl
    | preserve => exact absurd (.inl rfl) hpolicy
    | failOnConflict => exact absurd (.inr rfl) hpolicy

/-- So does the whole loop: every incoming id is in the map where it first came. -/
theorem importIds_apart {ids' : ImportIds} {seen : List String} (h : ids.Apart policy existing)
    (hseen : ids.incoming = seen.eraseDups)
    (hloop : incoming.foldlM (importId policy) ids = .ok ids') :
    ids'.Apart policy existing ∧ ids'.incoming = (seen ++ incoming).eraseDups := by
  induction incoming generalizing ids seen with
  | nil =>
    cases hloop
    exact ⟨h, by rw [List.append_nil, hseen]⟩
  | cons id rest ih =>
    rw [List.foldlM_cons] at hloop
    obtain ⟨next, hround, hrest⟩ := bind_eq_ok.1 hloop
    obtain ⟨hnext, hadded⟩ := importId_apart h hround
    have hfirst : next.incoming = (seen ++ [id]).eraseDups := by
      rw [hadded, hseen, eraseDups_concat]
    have hafter := ih hnext hfirst hrest
    rwa [List.append_assoc] at hafter

/-- Where ids may be renumbered the loop never raises. -/
theorem importIds_renumber (incoming : List String) (ids : ImportIds) :
    ∃ ids', incoming.foldlM (importId .renumberOnConflict) ids = .ok ids' := by
  induction incoming generalizing ids with
  | nil => exact ⟨ids, rfl⟩
  | cons id rest ih =>
    have hround : ∃ next, importId .renumberOnConflict ids id = .ok next := by
      unfold importId
      split
      · exact ⟨_, rfl⟩
      · split
        · exact ⟨_, rfl⟩
        · exact ⟨_, rfl⟩
    obtain ⟨next, hnext⟩ := hround
    obtain ⟨ids', hids'⟩ := ih next
    exact ⟨ids', by rw [List.foldlM_cons, hnext]; exact hids'⟩

-- ════════════════════════════════════════════════════════════════════════
-- The map of an import
-- ════════════════════════════════════════════════════════════════════════

/-- The map of an import has each incoming id once, and gives distinct free ids. -/
theorem apart_of_buildImportTaskIdMap {idMap : List (String × String)}
    (h : buildImportTaskIdMap policy incoming s = .ok idMap) :
    idMap.map Prod.fst = incoming.eraseDups ∧ (idMap.map Prod.fst).Nodup ∧
      (idMap.map Prod.snd).Nodup ∧ (∀ p ∈ idMap, s.tasks.lookup p.2 = none) ∧
      ∀ before p after, idMap = before ++ p :: after → p.2 ≠ p.1 →
        policy = .renumberOnConflict ∧ Canonical "task" p.2 ∧
          (s.tasks.lookup p.1 ≠ none ∨ p.1 ∈ before.map Prod.snd) := by
  obtain ⟨tasks, htasks, h⟩ := bind_eq_ok.1 h
  obtain ⟨ids, hloop, h⟩ := bind_eq_ok.1 h
  cases pure_eq_ok.1 h
  obtain ⟨hapart, hseen⟩ := importIds_apart (.start _) (List.eraseDups_nil.symm) hloop
  refine ⟨hseen, hapart.oneEach, hapart.distinct, fun p hp => ?_, fun before p after hp hne => ?_⟩
  · have hfree := view_freeTask htasks (hapart.free p.2 (List.mem_map_of_mem hp))
    exact Option.map_eq_none_iff.1 hfree
  · obtain ⟨hpolicy, hcanonical, htaken⟩ := hapart.renumbered before p after hp hne
    refine ⟨hpolicy, hcanonical, htaken.imp_left fun hexists hnone => ?_⟩
    obtain ⟨t, ht, hid⟩ := List.mem_map.1 hexists
    obtain ⟨stored, hstored, hreload⟩ := (mem_listTasks htasks).1 ht
    rw [← hid, (TaskRecord.of_reload hreload).1, Directory.lookup_of_mem hstored] at hnone
    cases hnone

/-- The map of an import has each incoming id once, in the order in which they first come; the ids
it gives differ from each other and are not in the ledger, and one that differs from the incoming
id is the next free one, given because the ledger has the incoming id or an incoming task before
it got that id. An import that may renumber gets a map whenever the tasks of the ledger load. -/
theorem import_ids_stay_apart (policy : ImportIdPolicy) (incoming : List String) (s : Ledger) :
    (∀ idMap, buildImportTaskIdMap policy incoming s = .ok idMap →
      (∀ i, i ∈ idMap.map Prod.fst ↔ i ∈ incoming) ∧ (idMap.map Prod.fst).Nodup ∧
      idMap.map Prod.fst = incoming.eraseDups ∧
      (idMap.map Prod.snd).Nodup ∧ (∀ p ∈ idMap, s.tasks.lookup p.2 = none) ∧
      ∀ before p after, idMap = before ++ p :: after → p.2 ≠ p.1 →
        policy = .renumberOnConflict ∧ Canonical "task" p.2 ∧
          (s.tasks.lookup p.1 ≠ none ∨ p.1 ∈ before.map Prod.snd)) ∧
    (∀ tasks, listTasks s = .ok tasks →
      ∃ idMap, buildImportTaskIdMap .renumberOnConflict incoming s = .ok idMap) := by
  constructor
  · intro idMap h
    obtain ⟨horder, hkeys, hrest⟩ := apart_of_buildImportTaskIdMap h
    exact ⟨fun i => by rw [horder, List.mem_eraseDups], hkeys, horder, hrest⟩
  · intro tasks htasks
    obtain ⟨ids, hids⟩ := importIds_renumber incoming
      ⟨tasks.map TaskRecord.id, s.nextTaskNumber, []⟩
    exact ⟨ids.idMap, bind_eq_ok.2 ⟨tasks, htasks, bind_eq_ok.2 ⟨ids, hids, rfl⟩⟩⟩

end Importing

-- ════════════════════════════════════════════════════════════════════════
-- The payload under the new ids
-- ════════════════════════════════════════════════════════════════════════

section Payloads

variable {idMap : List (String × String)} {payload : Dict} {key k : String} {f : Dict → Dict}

theorem dictList_onItems (v : Value) : dictList (onItems f v) = (dictList v).map f := by
  cases v with
  | list items =>
    induction items with
    | nil => rfl
    | cons item rest ih =>
      cases item with
      | dict d => exact congrArg (List.cons (f d)) ih
      | null | bool | int | scalar | str | list => exact ih
  | null | bool | int | scalar | str | dict => rfl

theorem get_onSection : (onSection key f payload).get k =
    if k = key then onItems f (payload.get k) else payload.get k := by
  unfold onSection
  cases h : payload.get? key with
  | none =>
    by_cases hk : k = key
    · have hnull : payload.get key = .null := by
        unfold Dict.get
        rw [h]
        rfl
      rw [if_pos hk, hk, hnull]
      rfl
    · rw [if_neg hk]
  | some v =>
    have hget : payload.get key = v := by
      unfold Dict.get
      rw [h]
      rfl
    dsimp only
    rw [Dict.get_set]
    by_cases hk : k = key
    · rw [if_pos hk, if_pos hk, hk, hget]
    · rw [if_neg hk, if_neg hk]

/-- Collections that are changed one after the other. -/
theorem get_onSections {keys : List String} (hkeys : keys.Nodup) (payload : Dict) :
    (keys.foldl (fun p key => onSection key f p) payload).get k =
      if k ∈ keys then onItems f (payload.get k) else payload.get k := by
  induction keys generalizing payload with
  | nil => rfl
  | cons key rest ih =>
    obtain ⟨hkey, hrest⟩ := List.nodup_cons.1 hkeys
    rw [List.foldl_cons, ih hrest, get_onSection]
    by_cases hk : k = key
    · rw [hk, if_neg hkey, if_pos rfl, if_pos List.mem_cons_self]
    · rw [if_neg hk]
      by_cases hmem : k ∈ rest
      · rw [if_pos hmem, if_pos (List.mem_cons_of_mem _ hmem)]
      · rw [if_neg hmem, if_neg (by simp [hk, hmem])]

/-- The active task is written apart from the collections. -/
theorem get_rewritten (hne : idMap ≠ []) (hk : k ≠ "active_task") (includeActiveTask : Bool) :
    (rewriteTaskIdsInPayload idMap includeActiveTask payload).get k =
      (rewriteCollections idMap payload).get k := by
  unfold rewriteTaskIdsInPayload
  dsimp only
  rw [if_neg hne, if_neg hne]
  split
  · rw [Dict.get_set, if_neg hk]
  · split
    · rw [Dict.get_set, if_neg hk]
    · rfl

theorem tasks_rewritten (hne : idMap ≠ []) (includeActiveTask : Bool) :
    dictList ((rewriteTaskIdsInPayload idMap includeActiveTask payload).get "tasks") =
      (dictList (payload.get "tasks")).map (rewriteTask idMap) := by
  rw [get_rewritten hne (by decide), rewriteCollections]
  rw [get_onSection, if_neg (by decide), get_onSection, if_neg (by decide),
    get_onSections (by decide), if_neg (by decide), get_onSection, if_pos rfl, dictList_onItems]

theorem section_rewritten (hne : idMap ≠ []) (includeActiveTask : Bool)
    (hkey : key ∈ taskIdSections) :
    dictList ((rewriteTaskIdsInPayload idMap includeActiveTask payload).get key) =
      (dictList (payload.get key)).map (rewriteField idMap "task_id") := by
  have hother : key ≠ "active_task" ∧ key ≠ "releases" ∧ key ≠ "requirements" ∧ key ≠ "tasks" := by
    refine ⟨?_, ?_, ?_, ?_⟩ <;> rintro rfl <;> revert hkey <;> decide
  obtain ⟨hactive, hreleases, hrequirements, htasks⟩ := hother
  rw [get_rewritten hne hactive, rewriteCollections]
  rw [get_onSection, if_neg hreleases, get_onSection, if_neg hrequirements,
    get_onSections (by decide), if_pos hkey, get_onSection, if_neg htasks, dictList_onItems]

theorem requirements_rewritten (hne : idMap ≠ []) (includeActiveTask : Bool) :
    dictList ((rewriteTaskIdsInPayload idMap includeActiveTask payload).get "requirements") =
      (dictList (payload.get "requirements")).map (rewriteRequirement idMap) := by
  rw [get_rewritten hne (by decide), rewriteCollections]
  rw [get_onSection, if_neg (by decide), get_onSection, if_pos rfl, get_onSections (by decide),
    if_neg (by decide), get_onSection, if_neg (by decide), dictList_onItems]

theorem releases_rewritten (hne : idMap ≠ []) (includeActiveTask : Bool) :
    dictList ((rewriteTaskIdsInPayload idMap includeActiveTask payload).get "releases") =
      (dictList (payload.get "releases")).map (rewriteField idMap "boundary_task_id") := by
  rw [get_rewritten hne (by decide), rewriteCollections]
  rw [get_onSection, if_pos rfl, get_onSection, if_neg (by decide), get_onSections (by decide),
    if_neg (by decide), get_onSection, if_neg (by decide), dictList_onItems]

/-- The id of a rewritten task. -/
theorem get_id_rewriteTask (item : Dict) :
    (rewriteTask idMap item).get "id" = rewriteTaskId idMap (item.get "id") := by
  have hparent (d : Dict) : (rewriteField idMap "parent_task_id" d).get "id" = d.get "id" := by
    unfold rewriteField
    split
    · rw [Dict.get_set, if_neg (by decide)]
    · rfl
  unfold rewriteTask rewriteRequirements
  dsimp only
  split
  · rw [Dict.get_set, if_neg (by decide), hparent, Dict.get_set, if_pos rfl]
  · rw [hparent, Dict.get_set, if_pos rfl]

/-- The task that a rewritten item names. -/
theorem get_rewriteField {item : Dict} {id : String} (h : item.get key = .str id) :
    (rewriteField idMap key item).get key = rewriteTaskId idMap (.str id) := by
  unfold rewriteField
  cases hv : item.get? key with
  | none =>
    unfold Dict.get at h
    rw [hv] at h
    cases h
  | some v =>
    unfold Dict.get at h
    rw [hv] at h
    dsimp only
    rw [Dict.get_set, if_pos rfl]
    exact congrArg _ h

end Payloads

/-- What a map with distinct keys gives a key. -/
theorem lookup_of_mem_nodup {idMap : List (String × String)} (hkeys : (idMap.map Prod.fst).Nodup)
    {id target : String} (h : (id, target) ∈ idMap) : idMap.lookup id = some target := by
  induction idMap with
  | nil => cases h
  | cons entry rest ih =>
    obtain ⟨key, value⟩ := entry
    obtain ⟨hkey, hrest⟩ := List.nodup_cons.1 hkeys
    rw [List.lookup_cons]
    rcases List.mem_cons.1 h with heq | hmem
    · cases heq
      simp
    · have hne : id ≠ key := by
        rintro rfl
        exact hkey (List.mem_map.2 ⟨_, hmem, rfl⟩)
      rw [beq_eq_false_iff_ne.2 hne]
      exact ih hrest hmem

section Following

/-- A map that has each id once, and gives each its own, tells ids apart. -/
theorem rewriteTaskId_inj {idMap : List (String × String)} (hkeys : (idMap.map Prod.fst).Nodup)
    (htargets : (idMap.map Prod.snd).Nodup) {a b : String} (ha : a ∈ idMap.map Prod.fst)
    (hb : b ∈ idMap.map Prod.fst) :
    rewriteTaskId idMap (.str a) = rewriteTaskId idMap (.str b) ↔ a = b := by
  have hfound {a : String} (ha : a ∈ idMap.map Prod.fst) :
      ∃ target, (a, target) ∈ idMap ∧ rewriteTaskId idMap (.str a) = .str target := by
    obtain ⟨⟨_, target⟩, hmem, rfl⟩ := List.mem_map.1 ha
    refine ⟨target, hmem, ?_⟩
    rw [rewriteTaskId, lookup_of_mem_nodup hkeys hmem]
    rfl
  constructor
  · intro heq
    obtain ⟨x, hx, hxa⟩ := hfound ha
    obtain ⟨y, hy, hyb⟩ := hfound hb
    have hxy : x = y := by
      rw [hxa, hyb] at heq
      exact Value.str.inj heq
    exact congrArg Prod.fst (List.inj_on_of_nodup_map htargets hx hy hxy)
  · rintro rfl
    rfl

variable [Runtime]

/-- A task of the payload with a text as its id is an incoming task, unless the text is empty. -/
theorem mem_incomingTaskIds {payload task : Dict} {b : String}
    (htask : task ∈ dictList (payload.get "tasks")) (hid : task.get "id" = .str b) (hb : b ≠ "") :
    b ∈ incomingTaskIds payload := by
  have htruthy : (task.get "id").truthy = true := by
    rw [hid]
    simpa [Value.truthy] using hb
  refine List.mem_map.2 ⟨task, List.mem_filter.2 ⟨htask, htruthy⟩, ?_⟩
  rw [hid, Runtime.strOf_str]

/-- The map of an import tells an incoming id from every id of a task of the payload. -/
theorem rewriteTaskId_incoming {policy : ImportIdPolicy} {s : Ledger} {payload task : Dict}
    {idMap : List (String × String)} {a b : String}
    (h : buildImportTaskIdMap policy (incomingTaskIds payload) s = .ok idMap)
    (ha : a ∈ incomingTaskIds payload) (htask : task ∈ dictList (payload.get "tasks"))
    (hid : task.get "id" = .str b) :
    rewriteTaskId idMap (.str a) = rewriteTaskId idMap (.str b) ↔ a = b := by
  obtain ⟨horder, hkeys, htargets, -, hchanged⟩ := apart_of_buildImportTaskIdMap h
  have hmem {i : String} (hi : i ∈ incomingTaskIds payload) : i ∈ idMap.map Prod.fst := by
    rw [horder]
    exact List.mem_eraseDups.2 hi
  by_cases hb : b ∈ incomingTaskIds payload
  · exact rewriteTaskId_inj hkeys htargets (hmem ha) (hmem hb)
  -- a task whose id is empty stays without one, and no incoming task loses its own
  have hempty : b = "" := by
    by_contra hne
    exact hb (mem_incomingTaskIds htask hid hne)
  have hkept : rewriteTaskId idMap (.str b) = .str b := by
    have hnone : idMap.lookup b = none := by
      refine List.lookup_eq_none_iff.2 fun p hp => ?_
      have hne : b ≠ p.1 := by
        rintro rfl
        refine hb ?_
        rw [← List.mem_eraseDups, ← horder]
        exact List.mem_map_of_mem hp
      simpa using hne
    rw [rewriteTaskId, hnone]
    rfl
  have hne : a ≠ b := fun heq => hb (heq ▸ ha)
  obtain ⟨⟨_, target⟩, hentry, rfl⟩ := List.mem_map.1 (hmem ha)
  rw [hkept, rewriteTaskId, lookup_of_mem_nodup hkeys hentry]
  refine ⟨fun heq => ?_, fun heq => absurd heq hne⟩
  obtain rfl : target = b := Value.str.inj heq
  obtain ⟨before, after, hsplit⟩ := List.append_of_mem hentry
  exact absurd hempty ((hchanged before _ after hsplit hne.symm).2.1.ne_empty (by decide))

/-- Under the map of an import the rewritten collections of the payload keep their items in their
order, and a record of an incoming task names a task of the payload afterwards exactly when it
named that task before. -/
theorem imported_references_follow {policy : ImportIdPolicy} {s : Ledger} {payload : Dict}
    {idMap : List (String × String)}
    (h : buildImportTaskIdMap policy (incomingTaskIds payload) s = .ok idMap)
    (hsome : incomingTaskIds payload ≠ []) (includeActiveTask : Bool) :
    dictList ((rewriteTaskIdsInPayload idMap includeActiveTask payload).get "tasks") =
      (dictList (payload.get "tasks")).map (rewriteTask idMap) ∧
    dictList ((rewriteTaskIdsInPayload idMap includeActiveTask payload).get "requirements") =
      (dictList (payload.get "requirements")).map (rewriteRequirement idMap) ∧
    dictList ((rewriteTaskIdsInPayload idMap includeActiveTask payload).get "releases") =
      (dictList (payload.get "releases")).map (rewriteField idMap "boundary_task_id") ∧
    ∀ key ∈ taskIdSections,
      dictList ((rewriteTaskIdsInPayload idMap includeActiveTask payload).get key) =
        (dictList (payload.get key)).map (rewriteField idMap "task_id") ∧
      ∀ item ∈ dictList (payload.get key), ∀ task ∈ dictList (payload.get "tasks"),
        ∀ a ∈ incomingTaskIds payload, ∀ b, item.get "task_id" = .str a →
          task.get "id" = .str b →
          ((rewriteField idMap "task_id" item).get "task_id" =
            (rewriteTask idMap task).get "id" ↔ item.get "task_id" = task.get "id") := by
  have hne : idMap ≠ [] := by
    rintro rfl
    obtain ⟨i, hi⟩ := List.exists_mem_of_ne_nil _ hsome
    have hmem := List.mem_eraseDups.2 hi
    rw [← (apart_of_buildImportTaskIdMap h).1] at hmem
    cases hmem
  refine ⟨tasks_rewritten hne _, requirements_rewritten hne _, releases_rewritten hne _,
    fun key hkey => ⟨section_rewritten hne _ hkey, ?_⟩⟩
  intro item _ task htask a ha b hitem hid
  rw [get_rewriteField hitem, get_id_rewriteTask, hid, hitem, rewriteTaskId_incoming h ha htask hid]
  exact ⟨congrArg Value.str, Value.str.inj⟩

end Following

section Evaluation

attribute [local instance] plainRuntime

/-- The second incoming task would take the id that the first one got. -/
example : (buildImportTaskIdMap .renumberOnConflict ["task-0001", "task-0002"]
    (afterOps [.createTask { title := "A", description := "d" }])).toOption =
    some [("task-0001", "task-0002"), ("task-0002", "task-0003")] := by decide +kernel

/-- Two tasks, and a plan of the first one. -/
def onePlanPayload : Dict :=
  [("tasks", .list [.dict [("id", .str "task-0001")], .dict [("id", .str "task-0002")]]),
    ("plans", .list [.dict [("task_id", .str "task-0001")]])]

/-- The plan of the first task stays with it, although the second one had the id it gets. -/
theorem imported_references_follow_renumbered :
    ∃ idMap, buildImportTaskIdMap .renumberOnConflict (incomingTaskIds onePlanPayload)
        (afterOps [.createTask { title := "A", description := "d" }]) = .ok idMap ∧
      idMap = [("task-0001", "task-0002"), ("task-0002", "task-0003")] ∧
      dictList ((rewriteTaskIdsInPayload idMap true onePlanPayload).get "plans") =
        (dictList (onePlanPayload.get "plans")).map (rewriteField idMap "task_id") ∧
      ∀ item ∈ dictList (onePlanPayload.get "plans"),
        ∀ task ∈ dictList (onePlanPayload.get "tasks"),
          (rewriteField idMap "task_id" item).get "task_id" = (rewriteTask idMap task).get "id" ↔
            task.get "id" = .str "task-0001" := by
  have hmap : (buildImportTaskIdMap .renumberOnConflict (incomingTaskIds onePlanPayload)
      (afterOps [.createTask { title := "A", description := "d" }])).toOption =
      some [("task-0001", "task-0002"), ("task-0002", "task-0003")] := by decide +kernel
  have h := toOption_eq_some.1 hmap
  obtain ⟨-, -, -, hsections⟩ := imported_references_follow h (by decide) true
  obtain ⟨hplans, hfollow⟩ := hsections "plans" (by decide)
  refine ⟨_, h, rfl, hplans, fun item hitem task htask => ?_⟩
  have hnames : item.get "task_id" = .str "task-0001" := by
    cases List.mem_singleton.1 hitem
    rfl
  have hid : ∃ b, task.get "id" = .str b := by
    rcases List.mem_pair.1 htask with rfl | rfl
    · exact ⟨_, rfl⟩
    · exact ⟨_, rfl⟩
  obtain ⟨b, hb⟩ := hid
  rw [hfollow item hitem task htask "task-0001" (by decide) b hnames hb, hnames]
  exact eq_comm

end Evaluation

end Taskledger
