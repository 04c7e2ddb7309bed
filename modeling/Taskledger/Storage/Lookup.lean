import Mathlib.Data.List.Forall2
import Mathlib.Data.String.Basic
import Taskledger.Storage.TaskStore

/-!
# What the lookups find

Listings hold the records of the files, read back; a reference resolves to one of
them, and the id of a record resolves to that record.
-/

namespace Taskledger

open Library

-- ════════════════════════════════════════════════════════════════════════
-- Readings of lists
-- ════════════════════════════════════════════════════════════════════════

/-- A reading of a list succeeds when each reading does, and gives the records read. -/
theorem reloadAll_eq_ok_iff {α : Type} {reload : α → Except Raised α} {l l' : List α} :
    reloadAll reload l = .ok l' ↔ List.Forall₂ (fun a b => reload a = .ok b) l l' := by
  induction l generalizing l' with
  | nil =>
    rw [List.forall₂_nil_left_iff]
    exact ⟨fun h => by cases h; rfl, fun h => by rw [h]; rfl⟩
  | cons a rest ih =>
    rw [reloadAll, bind_eq_ok, List.forall₂_cons_left_iff]
    constructor
    · rintro ⟨b, hb, h⟩
      obtain ⟨others, ho, h⟩ := bind_eq_ok.1 h
      exact ⟨b, others, hb, ih.1 ho, (pure_eq_ok.1 h).symm⟩
    · rintro ⟨b, others, hb, ho, rfl⟩
      exact ⟨b, hb, bind_eq_ok.2 ⟨others, ih.2 ho, rfl⟩⟩

section

variable {α : Type} {reload : α → Except Raised α} {l l' : List α}

theorem mem_reloaded_iff (h : reloadAll reload l = .ok l') {b : α} :
    b ∈ l' ↔ ∃ a ∈ l, reload a = .ok b := by
  replace h := reloadAll_eq_ok_iff.1 h
  induction h with
  | nil => simp
  | @cons a c rest rest' hac _ ih =>
    simp only [List.mem_cons, exists_eq_or_imp, ih, hac, Except.ok.injEq]
    exact or_congr_left eq_comm

theorem reload_ok_of_mem (h : reloadAll reload l = .ok l') {a : α} (ha : a ∈ l) :
    ∃ b ∈ l', reload a = .ok b := by
  replace h := reloadAll_eq_ok_iff.1 h
  induction h with
  | nil => cases ha
  | @cons a' c rest rest' hac _ ih =>
    rcases List.mem_cons.1 ha with rfl | ha
    · exact ⟨c, by simp, hac⟩
    · obtain ⟨b, hb, hab⟩ := ih ha
      exact ⟨b, by simp [hb], hab⟩

/-- Readings that keep a key keep the list of keys. -/
theorem map_key_reloaded {κ : Type} {key : α → κ} (h : reloadAll reload l = .ok l')
    (hkey : ∀ a b, reload a = .ok b → key b = key a) : l'.map key = l.map key := by
  replace h := reloadAll_eq_ok_iff.1 h
  induction h with
  | nil => rfl
  | @cons a c rest rest' hac _ ih => rw [List.map_cons, List.map_cons, hkey _ _ hac, ih]

end

/-- Items with different keys, in the order of their keys. -/
theorem ascending_sortedBy {α : Type} {key : α → String} {items : List α}
    (h : (items.map key).Nodup) : ((sortedBy key items).map key).Pairwise (· < ·) := by
  have hsorted : ((sortedBy key items).map key).Pairwise (· ≤ ·) := by
    refine List.pairwise_map.2 ?_
    have htotal : Std.Total fun a b : α => key a ≤ key b := ⟨fun a b => le_total _ _⟩
    have htrans : IsTrans α fun a b => key a ≤ key b := ⟨fun _ _ _ => le_trans⟩
    exact List.pairwise_insertionSort (fun a b : α => key a ≤ key b) items
  have hnodup : ((sortedBy key items).map key).Nodup :=
    ((List.perm_insertionSort _ _).map _).nodup_iff.2 h
  exact (hsorted.and hnodup).imp fun ⟨hle, hne⟩ => lt_of_le_of_ne hle hne

-- ════════════════════════════════════════════════════════════════════════
-- Sidecars written anew
-- ════════════════════════════════════════════════════════════════════════

section Sidecars

variable {α κ : Type} [DecidableEq κ] {key : α → κ} {owner : String} {records : List α}
  {d : Directory fun f : Filed α => (f.owner, key f.record)} {f : Filed α}

/-- The directory after the sidecars of a task were written anew. -/
def refiled (owner : String) (records : List α)
    (d : Directory fun f : Filed α => (f.owner, key f.record)) :
    Directory fun f : Filed α => (f.owner, key f.record) :=
  (records.foldl (fun d a => d.save ⟨owner, a⟩) d).removeWhere fun f =>
    f.owner = owner ∧ key f.record ∉ records.map key

/-- A file of the task holds one of the records written. -/
theorem record_mem_of_refiled (hf : f ∈ (refiled owner records d).files)
    (howner : f.owner = owner) : f.record ∈ records := by
  obtain ⟨hf, hkept⟩ := Directory.mem_files_removeWhere.1 hf
  have hid : key f.record ∈ records.map key := by simpa [howner] using hkept
  obtain ⟨a, ha, haid⟩ := List.mem_map.1 hid
  rw [← List.foldl_map (f := Filed.mk owner) (g := Directory.save)] at hf
  have hlookup := Directory.lookup_of_mem hf
  rcases Directory.lookup_saves d (records.map (Filed.mk owner)) (f.owner, key f.record) with
    ⟨b, hb, -, hsaved⟩ | ⟨hno, -⟩
  · obtain ⟨a', ha', rfl⟩ := List.mem_map.1 hb
    cases hlookup.symm.trans hsaved
    exact ha'
  · refine absurd ?_ (hno ⟨owner, a⟩ (List.mem_map_of_mem ha))
    rw [howner, haid]

/-- Records of different names are all there after they were written. -/
theorem mem_refiled (hnodup : (records.map key).Nodup) {a : α} (ha : a ∈ records) :
    (⟨owner, a⟩ : Filed α) ∈ (refiled owner records d).files := by
  refine Directory.mem_files_removeWhere.2 ⟨?_, ?_⟩
  · rw [← List.foldl_map (f := Filed.mk owner) (g := Directory.save)]
    rcases Directory.lookup_saves d (records.map (Filed.mk owner)) (owner, key a) with
      ⟨b, hb, hkey, hsaved⟩ | ⟨hno, -⟩
    · obtain ⟨a', ha', rfl⟩ := List.mem_map.1 hb
      cases List.inj_on_of_nodup_map hnodup ha' ha (congrArg Prod.snd hkey)
      exact Directory.mem_of_lookup hsaved
    · exact absurd rfl (hno ⟨owner, a⟩ (List.mem_map_of_mem ha))
  · have hid : key a ∈ records.map key := List.mem_map_of_mem ha
    simp [hid]

theorem files_refiled_of_ne {other : String} (h : other ≠ owner) :
    ((refiled owner records d).files.filter fun f => f.owner = other) =
      d.files.filter fun f => f.owner = other := by
  have hsaves : ∀ d : Directory fun f : Filed α => (f.owner, key f.record),
      ((records.foldl (fun d a => d.save ⟨owner, a⟩) d).files.filter fun f => f.owner = other) =
        d.files.filter fun f => f.owner = other := by
    induction records with
    | nil => exact fun _ => rfl
    | cons a rest ih =>
      intro d
      rw [List.foldl_cons, ih]
      refine Directory.filter_place (by simpa using Ne.symm h) fun b hb => ?_
      have howner : b.owner = owner := congrArg Prod.fst hb
      simpa [howner] using Ne.symm h
  rw [← hsaves d, refiled, Directory.removeWhere, List.filter_filter]
  refine List.filter_congr fun f _ => ?_
  by_cases hother : f.owner = other
  · simp [hother, h]
  · simp [hother]

/-- The sidecars of another task stay as they are. -/
theorem filedUnder_refiled {other : String} (h : other ≠ owner) :
    filedUnder other (refiled owner records d).files = filedUnder other d.files :=
  congrArg (List.map Filed.record) (files_refiled_of_ne h)

theorem mem_of_refiled (hf : f ∈ (refiled owner records d).files) (howner : f.owner ≠ owner) :
    f ∈ d.files := by
  have hkept : f ∈ (refiled owner records d).files.filter fun g => g.owner = f.owner := by
    simp [hf]
  rw [files_refiled_of_ne howner] at hkept
  exact (List.mem_filter.1 hkept).1

end Sidecars

-- ════════════════════════════════════════════════════════════════════════
-- Ids
-- ════════════════════════════════════════════════════════════════════════

variable [Runtime]

/-- An id as the program formats it. -/
def Canonical (kind id : String) : Prop := ∃ n, id = Runtime.formatId kind n

theorem canonical_nextId (kind : String) (ids : List String) :
    Canonical kind (Runtime.nextId kind ids) :=
  Runtime.nextId_format kind ids

namespace Canonical

variable {kind id : String}

theorem lower_strip (h : Canonical kind id) (hk : kind ∈ idKinds) :
    Runtime.lower (Text.strip id) = id := by
  obtain ⟨n, rfl⟩ := h
  rw [Runtime.strip_formatId _ hk, Runtime.lower_formatId _ hk]

/-- A canonical id is its own normal form. -/
theorem normalizeResourceRef_eq (h : Canonical kind id) (hk : kind ∈ idKinds) :
    normalizeResourceRef id kind = .ok id := by
  have hid := h.lower_strip hk
  obtain ⟨n, rfl⟩ := h
  simp [normalizeResourceRef, hid, localIdFromRef, Runtime.parseLocalId_formatId kind hk]

theorem startsWith (h : Canonical kind id) (hk : kind ∈ idKinds) :
    Text.startsWith id (kind ++ "-") = true := by
  obtain ⟨n, rfl⟩ := h
  exact Runtime.startsWith_formatId _ hk n

theorem ne_empty (h : Canonical kind id) (hk : kind ∈ idKinds) : id ≠ "" := by
  rintro rfl
  have hs := h.startsWith hk
  simp [Text.startsWith] at hs

end Canonical

-- ════════════════════════════════════════════════════════════════════════
-- Tasks
-- ════════════════════════════════════════════════════════════════════════

section Tasks

variable {s s' : Ledger} {ref : String} {includeArchived : Bool} {t : TaskRecord}
  {tasks : List TaskRecord}

/-- What a task reads back as keeps everything the services decide on. -/
theorem TaskRecord.of_reload {t t' : TaskRecord} (h : t.reload = .ok t') :
    t'.id = t.id ∧ t'.slug = t.slug ∧ t'.archivedAt.isSome = t.archivedAt.isSome := by
  simp only [TaskRecord.reload, bind_eq_ok, requireString, raiseIf_eq_ok, pure_eq_ok] at h
  obtain ⟨-, -, -, -, -, -, rfl⟩ := h
  exact ⟨rfl, rfl, rfl⟩

theorem mem_listTasks (h : listTasks s = .ok tasks) :
    t ∈ tasks ↔ ∃ stored ∈ s.tasks.files, stored.reload = .ok t := by
  obtain ⟨read, hread, h⟩ := bind_eq_ok.1 h
  rw [← pure_eq_ok.1 h, mem_sortedBy]
  exact mem_reloaded_iff hread

theorem scanForTask_eq_ok {normalizedRef normalizedId : String}
    (h : scanForTask ref normalizedRef normalizedId includeArchived s = .ok t) :
    ∃ tasks, listTasks s = .ok tasks ∧
      (t ∈ tasks ∧ refersTo ref normalizedId t.id = true ∨
        (∀ u ∈ tasks, refersTo ref normalizedId u.id = false) ∧
          resolveTaskBySlug tasks ref normalizedRef includeArchived = .ok t) := by
  obtain ⟨tasks, hl, h⟩ := bind_eq_ok.1 h
  refine ⟨tasks, hl, ?_⟩
  cases hf : tasks.find? fun t => refersTo ref normalizedId t.id with
  | some u =>
    simp only [hf, Except.ok.injEq] at h
    subst h
    exact .inl ⟨List.mem_of_find?_eq_some hf, by simpa using List.find?_some hf⟩
  | none =>
    rw [hf] at h
    exact .inr ⟨by simpa using hf, h⟩

omit [Runtime] in
theorem resolveTaskBySlug_mem {slug : String}
    (h : resolveTaskBySlug tasks ref slug includeArchived = .ok t) : t ∈ tasks := by
  unfold resolveTaskBySlug at h
  split at h
  · rename_i heq
    cases h
    exact List.mem_of_mem_filter (heq ▸ List.mem_singleton_self _)
  · cases h
  · split at h
    · cases h
    · split at h
      · rename_i heq
        cases h
        exact List.mem_of_mem_filter (heq ▸ List.mem_singleton_self _)
      · cases h
      · cases h

theorem taskFile_eq_ok {id : String} {file : Option TaskRecord} (h : taskFile id s = .ok file)
    {u : TaskRecord} (hu : u ∈ file) :
    ∃ stored, s.tasks.lookup id = some stored ∧ stored.reload = .ok u := by
  unfold taskFile at h
  split at h
  · cases hl : s.tasks.lookup id with
    | none => simp only [hl, Except.ok.injEq] at h; subst h; cases hu
    | some stored =>
      simp only [hl] at h
      cases hr : stored.reload with
      | error e => rw [hr] at h; cases h
      | ok v =>
        rw [hr] at h
        cases h
        exact ⟨stored, rfl, by rw [hr, Option.mem_some.1 hu]⟩
  · cases h
    cases hu

/-- A reference resolves to the file its normal form names, or by a scan. -/
theorem resolveTask_eq_ok (h : resolveTask ref includeArchived s = .ok t) :
    ∃ id file, normalizeResourceRef (Runtime.lower (Text.strip ref)) "task" = .ok id ∧
      taskFile id s = .ok file ∧
      (t ∈ file ∧ (includeArchived = true ∨ isArchivedTask t = false) ∨
        (∀ u ∈ file, includeArchived = false ∧ isArchivedTask u = true) ∧
          scanForTask ref (Runtime.lower (Text.strip ref)) id includeArchived s = .ok t) := by
  obtain ⟨id, hid, h⟩ := Query.bind_eq_ok.1 h
  obtain ⟨file, hfile, h⟩ := Query.bind_eq_ok.1 h
  refine ⟨id, file, hid, hfile, ?_⟩
  cases hf : file.filter fun t => includeArchived || !isArchivedTask t with
  | some task =>
    rw [hf] at h
    cases Query.pure_eq_ok.1 h
    rw [Option.filter_eq_some_iff] at hf
    exact .inl ⟨hf.1, by simpa using hf.2⟩
  | none =>
    rw [hf] at h
    obtain ⟨-, -, h⟩ := Query.bind_eq_ok.1 h
    refine .inr ⟨fun u hu => ?_, h⟩
    rw [Option.filter_eq_none_iff] at hf
    simpa using hf u hu

/-- A resolved task is one of the stored ones, read back. -/
theorem resolveTask_stored (h : resolveTask ref includeArchived s = .ok t) :
    ∃ stored, s.tasks.lookup t.id = some stored ∧ stored.reload = .ok t := by
  have hmem {tasks : List TaskRecord} (hl : listTasks s = .ok tasks) (ht : t ∈ tasks) :
      ∃ stored, s.tasks.lookup t.id = some stored ∧ stored.reload = .ok t := by
    obtain ⟨stored, hs, hr⟩ := (mem_listTasks hl).1 ht
    exact ⟨stored, (TaskRecord.of_reload hr).1 ▸ Directory.lookup_of_mem hs, hr⟩
  obtain ⟨id, file, -, hfile, ⟨ht, -⟩ | ⟨-, hscan⟩⟩ := resolveTask_eq_ok h
  · obtain ⟨stored, hs, hr⟩ := taskFile_eq_ok hfile ht
    have hid : t.id = id :=
      (TaskRecord.of_reload hr).1.trans (Directory.key_of_lookup hs)
    exact ⟨stored, hid ▸ hs, hr⟩
  · obtain ⟨tasks, hl, ⟨ht, -⟩ | ⟨-, hslug⟩⟩ := scanForTask_eq_ok hscan
    · exact hmem hl ht
    · exact hmem hl (resolveTaskBySlug_mem hslug)

theorem nodup_listTasks (h : listTasks s = .ok tasks) : (tasks.map TaskRecord.id).Nodup := by
  obtain ⟨read, hread, h⟩ := bind_eq_ok.1 h
  rw [← pure_eq_ok.1 h, sortedBy]
  refine ((List.perm_insertionSort _ _).map _).nodup_iff.2 ?_
  rw [map_key_reloaded hread fun a b hab => (TaskRecord.of_reload hab).1]
  exact s.tasks.nodup

/-- Resolving reads the task files only. -/
theorem resolveTask_congr (h : s'.tasks = s.tasks) :
    resolveTask ref includeArchived s' = resolveTask ref includeArchived s := by
  have hlist : listTasks s' = listTasks s := by unfold listTasks; rw [h]
  have hfile (id : String) : taskFile id s' = taskFile id s := by unfold taskFile; rw [h]
  have hscan (a b c : String) : scanForTask a b c includeArchived s' =
      scanForTask a b c includeArchived s := by
    unfold scanForTask; rw [hlist]
  refine Query.bind_congr rfl fun id => Query.bind_congr (hfile id) fun file => ?_
  cases hf : file.filter fun t => includeArchived || !isArchivedTask t with
  | some task => rfl
  | none => exact Query.bind_congr rfl fun _ => hscan _ _ _

theorem taskFile_of_lookup {id : String} (hs : Text.startsWith id "task-" = true)
    {stored : TaskRecord} (hl : s.tasks.lookup id = some stored) (hr : stored.reload = .ok t) :
    taskFile id s = .ok (some t) := by
  simp [taskFile, hs, hl, hr, Functor.map, Except.map]

theorem scanForTask_of_mem {normalizedRef id : String} (hl : listTasks s = .ok tasks)
    (ht : t ∈ tasks) (hid : t.id = id) :
    scanForTask id normalizedRef id includeArchived s = .ok t := by
  refine bind_eq_ok.2 ⟨tasks, hl, ?_⟩
  cases hf : tasks.find? fun u => refersTo id id u.id with
  | some u =>
    have hu : u.id = t.id := by simpa [refersTo, hid] using List.find?_some hf
    rw [List.inj_on_of_nodup_map (nodup_listTasks hl) (List.mem_of_find?_eq_some hf) ht hu]
  | none =>
    have hne : ∀ u ∈ tasks, u.id ≠ id := by simpa [refersTo] using hf
    exact absurd hid (hne t ht)

/-- A task resolves by the id of its file. -/
theorem resolveTask_of_file {id : String} {stored : TaskRecord} (hid : Canonical "task" id)
    (hl : s.tasks.lookup id = some stored) (hr : stored.reload = .ok t)
    (hvis : includeArchived = true ∨ isArchivedTask t = false) :
    resolveTask id includeArchived s = .ok t := by
  have hk : "task" ∈ idKinds := by decide
  refine Query.bind_eq_ok.2 ⟨id, ?_, Query.bind_eq_ok.2 ⟨some t, ?_, ?_⟩⟩
  · show normalizeResourceRef (Runtime.lower (Text.strip id)) "task" = .ok id
    rw [hid.lower_strip hk, hid.normalizeResourceRef_eq hk]
  · exact taskFile_of_lookup (hid.startsWith hk) hl hr
  · have hfilter : (some t).filter (fun t => includeArchived || !isArchivedTask t) = some t := by
      rcases hvis with hv | hv <;> simp [Option.filter_some, hv]
    rw [hfilter]
    rfl

/-- A task that was listed resolves by its id, also when it is archived: the scan that
listed it loaded every task. -/
theorem resolveTask_of_listed (hid : Canonical "task" t.id) (hl : listTasks s = .ok tasks)
    (ht : t ∈ tasks) : resolveTask t.id includeArchived s = .ok t := by
  obtain ⟨stored, hstored, hr⟩ := (mem_listTasks hl).1 ht
  have hs : s.tasks.lookup t.id = some stored :=
    (TaskRecord.of_reload hr).1 ▸ Directory.lookup_of_mem hstored
  have hk : "task" ∈ idKinds := by decide
  have hstart : Text.startsWith t.id "task-" = true := hid.startsWith hk
  by_cases hvis : includeArchived = true ∨ isArchivedTask t = false
  · exact resolveTask_of_file hid hs hr hvis
  · rw [not_or, Bool.not_eq_true, Bool.not_eq_false] at hvis
    refine Query.bind_eq_ok.2 ⟨t.id, ?_, Query.bind_eq_ok.2 ⟨some t, ?_, ?_⟩⟩
    · show normalizeResourceRef (Runtime.lower (Text.strip t.id)) "task" = .ok t.id
      rw [hid.lower_strip hk, hid.normalizeResourceRef_eq hk]
    · exact taskFile_of_lookup hstart hs hr
    have hfilter : (some t).filter (fun t => includeArchived || !isArchivedTask t) = none := by
      simp [Option.filter_some, hvis.1, hvis.2]
    rw [hfilter]
    refine Query.bind_eq_ok.2 ⟨(), ?_, scanForTask_of_mem hl ht rfl⟩
    rw [Query.liftM_eq_ok, raiseIf_eq_ok]
    exact fun h => h.2 hstart

/-- The id of a resolved task resolves to that task. -/
theorem resolveTask_id (h : resolveTask ref includeArchived s = .ok t)
    (hid : Canonical "task" t.id) : resolveTask t.id includeArchived s = .ok t := by
  obtain ⟨stored, hs, hr⟩ := resolveTask_stored h
  obtain ⟨id, file, -, hfile, ⟨-, hvis⟩ | ⟨-, hscan⟩⟩ := resolveTask_eq_ok h
  · exact resolveTask_of_file hid hs hr hvis
  · obtain ⟨tasks, hl, ⟨ht, -⟩ | ⟨-, hslug⟩⟩ := scanForTask_eq_ok hscan
    · exact resolveTask_of_listed hid hl ht
    · exact resolveTask_of_listed hid hl (resolveTaskBySlug_mem hslug)

omit [Runtime] in
theorem resolveTaskBySlug_visible {slug : String}
    (h : resolveTaskBySlug tasks ref slug false = .ok t) :
    (tasks.filter fun u => !isArchivedTask u && u.slug = slug) = [t] := by
  unfold resolveTaskBySlug at h
  split at h
  · rename_i heq
    cases h
    exact heq
  · cases h
  · simp at h

/-- Among canonical ids a reference means the one its normal form is. -/
theorem eq_of_refersTo {id c : String}
    (hid : normalizeResourceRef (Runtime.lower (Text.strip ref)) "task" = .ok id)
    (hc : Canonical "task" c) (h : refersTo ref id c = true) : c = id := by
  have hk : "task" ∈ idKinds := by decide
  rcases of_decide_eq_true h with rfl | h
  · rw [hc.lower_strip hk, hc.normalizeResourceRef_eq hk] at hid
    exact Except.ok.inj hid
  · exact h

/-- A reference found by id, in the file of the id or in the scan. -/
theorem resolveTask_by_id {id : String}
    (hids : ∀ u ∈ s.tasks.files, Canonical "task" u.id)
    (h : resolveTask ref includeArchived s = .ok t)
    (hid : normalizeResourceRef (Runtime.lower (Text.strip ref)) "task" = .ok id) :
    t.id = id ∨ ∃ tasks, listTasks s = .ok tasks ∧ (∀ u ∈ tasks, u.id ≠ id) ∧
      resolveTaskBySlug tasks ref (Runtime.lower (Text.strip ref)) includeArchived = .ok t := by
  obtain ⟨id', file, hid', hfile, ⟨ht, -⟩ | ⟨-, hscan⟩⟩ := resolveTask_eq_ok h <;>
    cases Except.ok.inj (hid.symm.trans hid')
  · obtain ⟨stored, hs, hr⟩ := taskFile_eq_ok hfile ht
    exact .inl ((TaskRecord.of_reload hr).1.trans (Directory.key_of_lookup hs))
  · obtain ⟨tasks, hl, ⟨ht, href⟩ | ⟨hnone, hslug⟩⟩ := scanForTask_eq_ok hscan
    · obtain ⟨stored, hs, hr⟩ := (mem_listTasks hl).1 ht
      refine .inl (eq_of_refersTo hid ?_ href)
      rw [(TaskRecord.of_reload hr).1]
      exact hids stored hs
    · refine .inr ⟨tasks, hl, fun u hu huid => ?_, hslug⟩
      have := hnone u hu
      simp [refersTo, huid] at this

/-- A task written again with its id, slug and visibility is still what a
reference to it finds. -/
theorem resolveTask_rewritten {w u : TaskRecord}
    (hids : ∀ u ∈ s.tasks.files, Canonical "task" u.id)
    (h : resolveTask ref false s = .ok t) (htid : w.id = t.id) (hslug : w.slug = t.slug)
    (harch : w.archivedAt.isSome = t.archivedAt.isSome) (hs' : s'.tasks = s.tasks.save w)
    (hu : resolveTask ref false s' = .ok u) : u.id = t.id := by
  obtain ⟨stored, hst, -⟩ := resolveTask_stored h
  have htcan : Canonical "task" t.id :=
    Directory.key_of_lookup hst ▸ hids stored (Directory.mem_of_lookup hst)
  have hids' : ∀ v ∈ s'.tasks.files, Canonical "task" v.id := by
    intro v hv
    rw [hs', Directory.mem_files_save] at hv
    rcases hv with rfl | ⟨hv, -⟩
    · exact htid ▸ htcan
    · exact hids v hv
  -- the rewritten task is listed whenever the tasks load
  have hlisted {tasks' : List TaskRecord} (hl : listTasks s' = .ok tasks') :
      ∃ v ∈ tasks', v.id = t.id ∧ v.slug = t.slug ∧ isArchivedTask v = isArchivedTask t := by
    obtain ⟨read, hread, hsort⟩ := bind_eq_ok.1 hl
    have hw : w ∈ s'.tasks.files := by rw [hs', Directory.mem_files_save]; exact .inl rfl
    obtain ⟨v, hv, hr⟩ := reload_ok_of_mem hread hw
    refine ⟨v, (mem_listTasks hl).2 ⟨w, hw, hr⟩, ?_⟩
    obtain ⟨h1, h2, h3⟩ := TaskRecord.of_reload hr
    exact ⟨h1.trans htid, h2.trans hslug, h3.trans harch⟩
  obtain ⟨id, file, hid, -⟩ := resolveTask_eq_ok h
  rcases resolveTask_by_id hids' hu hid with huid | ⟨tasks', hl', hnone', hslug'⟩
  · rcases resolveTask_by_id hids h hid with ht | ⟨tasks, hl, hnone, -⟩
    · rw [huid, ht]
    · -- no task had this id before, so none has it now
      obtain ⟨w, hw, -⟩ := resolveTask_stored hu
      have hwid : w.id = u.id := Directory.key_of_lookup hw
      have hwmem := Directory.mem_of_lookup hw
      rw [hs', Directory.mem_files_save] at hwmem
      rcases hwmem with rfl | ⟨hwmem, -⟩
      · exact hwid.symm.trans htid
      · obtain ⟨read, hread, -⟩ := bind_eq_ok.1 hl
        obtain ⟨v, hv, hr⟩ := reload_ok_of_mem hread hwmem
        refine absurd ?_ (hnone v ((mem_listTasks hl).2 ⟨w, hwmem, hr⟩))
        rw [(TaskRecord.of_reload hr).1, hwid, huid]
  · obtain ⟨v, hv, hvid, hvslug, hvarch⟩ := hlisted hl'
    rcases resolveTask_by_id hids h hid with ht | ⟨tasks, -, -, hts⟩
    · exact absurd (hvid.trans ht) (hnone' v hv)
    · have hfound := resolveTaskBySlug_visible hts
      have hvis : !isArchivedTask t && t.slug = Runtime.lower (Text.strip ref) := by
        have ht : t ∈ [t] := List.mem_singleton_self t
        rw [← hfound] at ht
        exact (List.mem_filter.1 ht).2
      have hvmem : v ∈ [u] := by
        rw [← resolveTaskBySlug_visible hslug', List.mem_filter, hvarch, hvslug]
        exact ⟨hv, hvis⟩
      rw [← List.mem_singleton.1 hvmem, hvid]

end Tasks

-- ════════════════════════════════════════════════════════════════════════
-- Plans
-- ════════════════════════════════════════════════════════════════════════

section Plans

variable {s : Ledger} {taskId : String} {plans : List PlanRecord} {p : PlanRecord}

theorem PlanRecord.of_reload {p p' : PlanRecord} (h : p.reload = .ok p') :
    p'.taskId = p.taskId ∧ p'.planVersion = p.planVersion ∧ p'.status = p.status ∧
      p'.approvedBy.isSome = p.approvedBy.isSome := by
  simp only [PlanRecord.reload, bind_eq_ok, pure_eq_ok] at h
  obtain ⟨-, -, -, -, -, -, rfl⟩ := h
  exact ⟨rfl, rfl, rfl, by simp⟩

omit [Runtime] in
theorem key_of_plan {version : Nat} (h : s.plans.lookup (taskId, version) = some p) :
    p.taskId = taskId ∧ p.planVersion = version := by
  have hkey := Directory.key_of_lookup h
  rwa [Prod.mk.injEq] at hkey

theorem mem_listPlans (h : listPlans taskId s = .ok plans) :
    p ∈ plans ↔ ∃ stored ∈ s.plans.files, stored.taskId = taskId ∧ stored.reload = .ok p := by
  cases h
  simp only [List.mem_insertionSort, List.mem_filterMap, List.mem_filter, decide_eq_true_eq,
    and_assoc]
  refine exists_congr fun stored => and_congr_right fun _ => and_congr_right fun _ => ?_
  cases stored.reload <;> simp [Except.toOption]

/-- A listed plan is the one stored under its version. -/
theorem listed_stored (h : listPlans taskId s = .ok plans) (hp : p ∈ plans) :
    ∃ stored, s.plans.lookup (taskId, p.planVersion) = some stored ∧ stored.reload = .ok p := by
  obtain ⟨stored, hs, rfl, hr⟩ := (mem_listPlans h).1 hp
  refine ⟨stored, ?_, hr⟩
  rw [(PlanRecord.of_reload hr).2.1]
  exact Directory.lookup_of_mem hs

theorem listed_of_stored (h : listPlans taskId s = .ok plans) {version : Nat}
    {stored : PlanRecord} (hs : s.plans.lookup (taskId, version) = some stored)
    (hr : stored.reload = .ok p) : p ∈ plans ∧ p.planVersion = version := by
  obtain ⟨htask, hversion⟩ := key_of_plan hs
  exact ⟨(mem_listPlans h).2 ⟨stored, Directory.mem_of_lookup hs, htask, hr⟩,
    (PlanRecord.of_reload hr).2.1.trans hversion⟩

theorem sorted_listPlans (h : listPlans taskId s = .ok plans) :
    plans.Pairwise fun p q => p.planVersion ≤ q.planVersion := by
  cases h
  have : Std.Total fun p q : PlanRecord => p.planVersion ≤ q.planVersion :=
    ⟨fun p q => Nat.le_total _ _⟩
  have : IsTrans PlanRecord fun p q => p.planVersion ≤ q.planVersion :=
    ⟨fun p q r => Nat.le_trans⟩
  exact List.pairwise_insertionSort _ _

/-- The last listed plan has the largest version. -/
theorem le_latest (h : listPlans taskId s = .ok plans) (hp : plans.getLast? = some p) :
    p ∈ plans ∧ ∀ q ∈ plans, q.planVersion ≤ p.planVersion := by
  obtain ⟨init, rfl⟩ := List.getLast?_eq_some_iff.1 hp
  refine ⟨by simp, fun q hq => ?_⟩
  have hsort := sorted_listPlans h
  rw [List.pairwise_append] at hsort
  rcases List.mem_append.1 hq with hq | hq
  · exact hsort.2.2 q hq p (by simp)
  · rw [List.mem_singleton.1 hq]

theorem resolvePlan_eq_ok {version : Option Nat} (h : resolvePlan taskId version s = .ok p) :
    ∃ plans latest, listPlans taskId s = .ok plans ∧ plans.getLast? = some latest ∧ p ∈ plans ∧
      match version with
      | none => p = latest
      | some v => p.planVersion = v := by
  obtain ⟨plans, hl, h⟩ := Query.bind_eq_ok.1 h
  cases hlast : plans.getLast? with
  | none => rw [hlast] at h; cases h
  | some latest =>
    rw [hlast] at h
    refine ⟨plans, latest, hl, hlast, ?_⟩
    cases version with
    | none =>
      cases Query.pure_eq_ok.1 h
      exact ⟨(le_latest hl hlast).1, rfl⟩
    | some v =>
      cases hf : plans.find? fun p => p.planVersion = v with
      | none => simp only [hf] at h; cases h
      | some plan =>
        simp only [hf] at h
        cases Query.pure_eq_ok.1 h
        exact ⟨List.mem_of_find?_eq_some hf, by simpa using List.find?_some hf⟩

end Plans

-- ════════════════════════════════════════════════════════════════════════
-- Runs and locks
-- ════════════════════════════════════════════════════════════════════════

section Runs

variable {s : Ledger} {taskId ref : String} {runs : List TaskRunRecord} {r : TaskRunRecord}

omit [Runtime] in
theorem TaskRunRecord.of_reload {r r' : TaskRunRecord} (h : r.reload = .ok r') :
    r'.runId = r.runId ∧ r'.taskId = r.taskId ∧ r'.runType = r.runType ∧
      r'.status = r.status ∧ r'.basedOnImplementationRun = r.basedOnImplementationRun := by
  simp only [TaskRunRecord.reload, bind_eq_ok, pure_eq_ok] at h
  obtain ⟨-, -, -, -, -, -, -, -, rfl⟩ := h
  exact ⟨rfl, rfl, rfl, rfl, rfl⟩

omit [Runtime] in
theorem key_of_run {runId : String} (h : s.runs.lookup (taskId, runId) = some r) :
    r.taskId = taskId ∧ r.runId = runId := by
  have hkey := Directory.key_of_lookup h
  rwa [Prod.mk.injEq] at hkey

omit [Runtime] in
theorem mem_listRuns (h : listRuns taskId s = .ok runs) :
    r ∈ runs ↔ ∃ stored ∈ s.runs.files, stored.taskId = taskId ∧ stored.reload = .ok r := by
  obtain ⟨read, hread, h⟩ := bind_eq_ok.1 h
  rw [← pure_eq_ok.1 h, mem_sortedBy, mem_reloaded_iff hread]
  simp only [List.mem_filter, decide_eq_true_eq, and_assoc]

omit [Runtime] in
/-- A listing of runs has loaded every run of the task. -/
theorem listRuns_loads (h : listRuns taskId s = .ok runs) {stored : TaskRunRecord}
    (hs : stored ∈ s.runs.files) (ht : stored.taskId = taskId) :
    ∃ r ∈ runs, stored.reload = .ok r := by
  obtain ⟨read, hread, h⟩ := bind_eq_ok.1 h
  obtain ⟨r, hr, hreload⟩ := reload_ok_of_mem hread (List.mem_filter.2 ⟨hs, by simpa using ht⟩)
  exact ⟨r, by rw [← pure_eq_ok.1 h, mem_sortedBy]; exact hr, hreload⟩

theorem resolveRun_eq_ok (h : resolveRun taskId ref s = .ok r) :
    ∃ id, normalizeResourceRef ref "run" = .ok id ∧ refersTo ref id r.runId = true ∧
      ∃ stored, s.runs.lookup (taskId, r.runId) = some stored ∧ stored.reload = .ok r := by
  obtain ⟨id, hid, h⟩ := Query.bind_eq_ok.1 h
  obtain ⟨runs, hl, h⟩ := Query.bind_eq_ok.1 h
  cases hf : runs.find? fun r => refersTo ref id r.runId with
  | none => rw [hf] at h; cases h
  | some run =>
    rw [hf] at h
    cases Query.pure_eq_ok.1 h
    obtain ⟨stored, hs, rfl, hr⟩ := (mem_listRuns hl).1 (List.mem_of_find?_eq_some hf)
    refine ⟨id, hid, by simpa using List.find?_some hf, stored, ?_, hr⟩
    rw [(TaskRunRecord.of_reload hr).1]
    exact Directory.lookup_of_mem hs

theorem resolveRun_stored (h : resolveRun taskId ref s = .ok r) :
    ∃ stored, s.runs.lookup (taskId, r.runId) = some stored ∧ stored.reload = .ok r :=
  let ⟨_, _, _, h⟩ := resolveRun_eq_ok h
  h

/-- A canonical id finds the run of that id. -/
theorem resolveRun_id (h : resolveRun taskId ref s = .ok r) (hc : Canonical "run" ref) :
    r.runId = ref := by
  obtain ⟨id, hid, href, -⟩ := resolveRun_eq_ok h
  rw [hc.normalizeResourceRef_eq (by decide)] at hid
  cases Except.ok.inj hid
  simpa [refersTo] using href

omit [Runtime] in
theorem readLock_none (h : readLock taskId s = .ok none) : s.locks.lookup taskId = none := by
  unfold readLock at h
  cases hl : s.locks.lookup taskId with
  | none => rfl
  | some stored =>
    simp only [hl, Functor.map, Except.map] at h
    cases hr : stored.reload <;> simp [hr] at h

omit [Runtime] in
theorem readLock_some {lock : TaskLock} (h : readLock taskId s = .ok (some lock)) :
    ∃ stored, s.locks.lookup taskId = some stored ∧ stored.reload = .ok lock := by
  unfold readLock at h
  cases hl : s.locks.lookup taskId with
  | none => simp [hl] at h
  | some stored =>
    refine ⟨stored, rfl, ?_⟩
    simp only [hl, Functor.map, Except.map] at h
    cases hr : stored.reload with
    | error e => simp [hr] at h
    | ok l => simpa [hr] using h

omit [Runtime] in
theorem TaskLock.of_reload {l l' : TaskLock} (h : l.reload = .ok l') :
    l'.taskId = l.taskId ∧ l'.runId = l.runId ∧ l'.runType = l.runType ∧ l'.runId ≠ "" := by
  simp only [TaskLock.reload, bind_eq_ok, requireString, raiseIf_eq_ok, pure_eq_ok] at h
  obtain ⟨-, -, -, -, -, hrun, -, -, -, -, -, -, rfl⟩ := h
  exact ⟨rfl, rfl, rfl, hrun⟩

omit [Runtime] in
/-- The locks that are loaded are those the tasks have. -/
theorem mem_loadActiveLocks {locks : List TaskLock} (h : loadActiveLocks s = .ok locks)
    {lock : TaskLock} : lock ∈ locks ↔ readLock lock.taskId s = .ok (some lock) := by
  rw [mem_reloaded_iff h]
  constructor
  · rintro ⟨stored, hstored, hreload⟩
    have hlookup := Directory.lookup_of_mem (mem_sortedBy.1 hstored)
    rw [← (TaskLock.of_reload hreload).1] at hlookup
    simp [readLock, hlookup, hreload, Functor.map, Except.map]
  · intro hlock
    obtain ⟨stored, hstored, hreload⟩ := readLock_some hlock
    exact ⟨stored, mem_sortedBy.2 (Directory.mem_of_lookup hstored), hreload⟩

omit [Runtime] in
theorem QuestionRecord.of_reload {q q' : QuestionRecord} (h : q.reload = .ok q') :
    q'.id = q.id ∧ q'.taskId = q.taskId ∧ q'.status = q.status ∧
      q'.requiredForPlan = q.requiredForPlan := by
  simp only [QuestionRecord.reload, bind_eq_ok, pure_eq_ok] at h
  obtain ⟨-, -, -, -, -, -, -, -, rfl⟩ := h
  exact ⟨rfl, rfl, rfl, rfl⟩

omit [Runtime] in
/-- The lock that is read for a task is filed under it, and names a run. -/
theorem readLock_filed {lock : TaskLock} (h : readLock taskId s = .ok (some lock)) :
    lock.taskId = taskId ∧ lock.runId ≠ "" := by
  obtain ⟨stored, hstored, hreload⟩ := readLock_some h
  obtain ⟨htask, -, -, hrun⟩ := TaskLock.of_reload hreload
  exact ⟨htask.trans (Directory.key_of_lookup hstored), hrun⟩

end Runs

end Taskledger
