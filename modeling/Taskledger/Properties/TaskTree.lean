import Taskledger.Lifecycle.Steps
import Taskledger.Services.Tree

/-!
# What the tree shows

A task whose chain of parents comes to an end stands in the tree once. A task on a cycle of
parents, or below one, is under no root and under no orphan, so the tree leaves it out.
-/

namespace Taskledger

open Library Relation

section Trees

variable {tasks : List TaskRecord} {t a : TaskRecord} {fuel : ℕ}

-- ════════════════════════════════════════════════════════════════════════
-- Parents and children
-- ════════════════════════════════════════════════════════════════════════

/-- The parent of a task, when it is among the tasks. -/
def visibleParent (tasks : List TaskRecord) (id : String) : Option String :=
  ((tasks.find? fun t => t.id = id).bind parentId).filter (· ∈ tasks.map TaskRecord.id)

theorem find_task (hids : (tasks.map TaskRecord.id).Nodup) (ht : t ∈ tasks) :
    tasks.find? (fun u => u.id = t.id) = some t := by
  cases hfind : tasks.find? fun u => u.id = t.id with
  | none =>
    have hnone := List.find?_eq_none.1 hfind t ht
    simp at hnone
  | some u =>
    have hid : u.id = t.id := by simpa using List.find?_some hfind
    rw [List.inj_on_of_nodup_map hids (List.mem_of_find?_eq_some hfind) ht hid]

theorem visibleParent_eq_some (hids : (tasks.map TaskRecord.id).Nodup) (ht : t ∈ tasks)
    {p : String} : visibleParent tasks t.id = some p ↔
      parentId t = some p ∧ p ∈ tasks.map TaskRecord.id := by
  rw [visibleParent, find_task hids ht, Option.bind_some, Option.filter_eq_some_iff,
    decide_eq_true_eq]

/-- Whoever has a visible parent is among the tasks. -/
theorem under_visible {x p : String} (h : Under (visibleParent tasks) x p) :
    ∃ t ∈ tasks, t.id = x ∧ parentId t = some p ∧ p ∈ tasks.map TaskRecord.id := by
  obtain ⟨hp, hmem⟩ := Option.filter_eq_some_iff.1 h
  obtain ⟨t, hfind, hparent⟩ := Option.bind_eq_some_iff.1 hp
  exact ⟨t, List.mem_of_find?_eq_some hfind, by simpa using List.find?_some hfind, hparent,
    of_decide_eq_true hmem⟩

theorem mem_childrenByParent {id : String} : a ∈ childrenByParent tasks id ↔
    id ∈ tasks.map TaskRecord.id ∧ a ∈ tasks ∧ parentId a = some id := by
  unfold childrenByParent
  split
  · rename_i h
    simp [List.mem_filter, h]
  · rename_i h
    simp [h]

theorem visibleParent_eq_none (hids : (tasks.map TaskRecord.id).Nodup) (ht : t ∈ tasks) :
    visibleParent tasks t.id = none ↔ t ∈ treeRoots tasks ∨ t ∈ treeOrphans tasks := by
  rw [visibleParent, find_task hids ht, Option.bind_some, treeRoots, treeOrphans]
  cases hp : parentId t with
  | none => simp [List.mem_filter, ht, hp]
  | some p => simp [List.mem_filter, ht, hp, Option.filter]

variable [Runtime]

theorem mem_sortedByTaskNumber : a ∈ sortedByTaskNumber tasks ↔ a ∈ tasks :=
  List.mem_insertionSort _

/-- One task stands under another in the walk. -/
def Below (children : String → List TaskRecord) (a b : TaskRecord) : Prop :=
  b ∈ sortedByTaskNumber (children a.id)

theorem below_iff {b : TaskRecord} : Below (childrenByParent tasks) a b ↔
    a.id ∈ tasks.map TaskRecord.id ∧ b ∈ tasks ∧ parentId b = some a.id := by
  rw [Below, mem_sortedByTaskNumber, mem_childrenByParent]

theorem below_mem (ht : t ∈ tasks) (h : ReflTransGen (Below (childrenByParent tasks)) t a) :
    a ∈ tasks := by
  rcases ReflTransGen.cases_tail h with heq | ⟨b, -, hbelow⟩
  · exact heq ▸ ht
  · exact (below_iff.1 hbelow).2.1

/-- Walking down to a task is walking up from it. -/
theorem below_iff_under (hids : (tasks.map TaskRecord.id).Nodup) (ht : t ∈ tasks) (ha : a ∈ tasks) :
    ReflTransGen (Below (childrenByParent tasks)) t a ↔
      ReflTransGen (Under (visibleParent tasks)) a.id t.id := by
  constructor
  · intro h
    induction h with
    | refl => exact .refl
    | tail hwalked hbelow ih =>
      obtain ⟨hmem, hb, hparent⟩ := below_iff.1 hbelow
      exact .head ((visibleParent_eq_some hids hb).2 ⟨hparent, hmem⟩) (ih (below_mem ht hwalked))
  · intro h
    generalize hx : a.id = x at h
    induction h using ReflTransGen.head_induction_on generalizing a with
    | refl =>
      rw [List.inj_on_of_nodup_map hids ha ht hx]
    | head hunder _ ih =>
      obtain ⟨u, hu, hid, hparent, hmem⟩ := under_visible hunder
      cases List.inj_on_of_nodup_map hids hu ha (hid.trans hx.symm)
      obtain ⟨b, hb, rfl⟩ := List.mem_map.1 hmem
      exact (ih hb rfl).tail (below_iff.2 ⟨hmem, hu, hparent⟩)

/-- The walk from the roots and the orphans gets to the tasks whose parents come to an end. -/
theorem started_iff (hids : (tasks.map TaskRecord.id).Nodup) (ha : a ∈ tasks) :
    (∃ t, (t ∈ treeRoots tasks ∨ t ∈ treeOrphans tasks) ∧
      ReflTransGen (Below (childrenByParent tasks)) t a) ↔
        ¬ ReachesCycle (visibleParent tasks) a.id := by
  have hvisible : ∀ x y, visibleParent tasks x = some y → y ∈ tasks.map TaskRecord.id :=
    fun x y h => (under_visible h).choose_spec.2.2.2
  rw [← rooted_iff hvisible]
  constructor
  · rintro ⟨t, hstart, hreach⟩
    have ht : t ∈ tasks := by
      rcases hstart with h | h
      · exact (List.mem_filter.1 h).1
      · exact (List.mem_filter.1 h).1
    exact ⟨t.id, (below_iff_under hids ht ha).1 hreach, (visibleParent_eq_none hids ht).2 hstart⟩
  · rintro ⟨r, hreach, hend⟩
    have hr : r ∈ tasks.map TaskRecord.id := by
      rcases ReflTransGen.cases_tail hreach with heq | ⟨b, -, hunder⟩
      · exact heq ▸ List.mem_map_of_mem ha
      · exact hvisible b r hunder
    obtain ⟨t, ht, rfl⟩ := List.mem_map.1 hr
    exact ⟨t, (visibleParent_eq_none hids ht).1 hend, (below_iff_under hids ht ha).2 hreach⟩

-- ════════════════════════════════════════════════════════════════════════
-- The whole tree
-- ════════════════════════════════════════════════════════════════════════

/-- The walk over the roots and the orphans ends, when the children of known tasks are known. -/
theorem rootAndOrphanNodes_walks {known roots orphans : List TaskRecord}
    {children : String → List TaskRecord}
    (hchildren : ∀ a ∈ known, ∀ c, Below children a c → c ∈ known)
    (hroots : ∀ a ∈ roots, a ∈ known) (horphans : ∀ a ∈ orphans, a ∈ known)
    (hfuel : known.length < fuel) :
    ∃ rootNodes orphanNodes seen,
      rootAndOrphanNodes fuel roots orphans children = some (rootNodes, orphanNodes) ∧
        rootNodes.map WalkTree.top = sortedByTaskNumber roots ∧
        orphanNodes.map WalkTree.top = sortedByTaskNumber orphans ∧
        Walk TaskRecord.id (fun t => sortedByTaskNumber (children t.id))
          (sortedByTaskNumber roots ++ sortedByTaskNumber orphans) []
          (rootNodes ++ orphanNodes) seen := by
  have hends {starts : List TaskRecord} (hstarts : ∀ a ∈ starts, a ∈ known) (seen : List String) :
      ∃ forest seen', treeWalk fuel children (sortedByTaskNumber starts) seen =
        some (forest, seen') := by
    refine walkEach_ends (fun _ => True) trivial fun a ha seen _ => ?_
    have hless : ((known.map TaskRecord.id).filter (· ∉ seen)).length < fuel :=
      lt_of_le_of_lt ((List.length_filter_le _ _).trans (List.length_map _).le) hfuel
    obtain ⟨w, seen', hw⟩ := walk_ends (fun t => sortedByTaskNumber (children t.id))
      hchildren (hstarts a (mem_sortedByTaskNumber.1 ha)) hless
    exact ⟨w, seen', hw, trivial⟩
  obtain ⟨rootNodes, visited, hrootNodes⟩ := hends hroots []
  obtain ⟨orphanNodes, seen, horphanNodes⟩ := hends horphans visited
  have hwalkRoots := walkEach_walks (fun a seen w seen' h => walk_walks h) hrootNodes
  have hwalkOrphans := walkEach_walks (fun a seen w seen' h => walk_walks h) horphanNodes
  refine ⟨rootNodes, orphanNodes, seen, ?_, hwalkRoots.tops, hwalkOrphans.tops,
    hwalkRoots.append hwalkOrphans⟩
  rw [rootAndOrphanNodes, hrootNodes]
  show (treeWalk fuel children (sortedByTaskNumber orphans) visited).bind _ = _
  rw [horphanNodes]
  rfl

/-- A task is in the tree: as a node, or as the name of one. -/
def Mentioned (nodes : List (WalkTree TaskRecord)) (t : TaskRecord) : Prop :=
  t ∈ nodes.map WalkTree.top ∨ ∃ p, (p, t) ∈ WalkTree.allLinks nodes

/-- The tree of the tasks: each task whose parents come to an end stands there once, under its
parent if that is visible, and the others are mentioned. -/
structure TreeOf (tasks : List TaskRecord) (rootNodes orphanNodes : List (WalkTree TaskRecord)) :
    Prop where
  only : ∀ a ∈ WalkTree.allNodes (rootNodes ++ orphanNodes), a ∈ tasks
  once : ∀ t ∈ tasks, ¬ ReachesCycle (visibleParent tasks) t.id →
    ((WalkTree.allNodes (rootNodes ++ orphanNodes)).map TaskRecord.id).count t.id = 1
  placed : ∀ t ∈ tasks, ¬ ReachesCycle (visibleParent tasks) t.id →
    match parentId t with
    | none => t ∈ rootNodes.map WalkTree.top
    | some p =>
      if p ∈ tasks.map TaskRecord.id then
        ∃ parent ∈ tasks, parent.id = p ∧
          (parent, t) ∈ WalkTree.allLinks (rootNodes ++ orphanNodes)
      else t ∈ orphanNodes.map WalkTree.top
  cyclic : ∀ t ∈ tasks, ReachesCycle (visibleParent tasks) t.id →
    Mentioned (rootNodes ++ orphanNodes) t

/-- The tree is the tree of the tasks exactly when no chain of parents reaches a cycle. -/
theorem treeOf_iff (hids : (tasks.map TaskRecord.id).Nodup) (hfuel : tasks.length < fuel) :
    ∃ rootNodes orphanNodes,
      rootAndOrphanNodes fuel (treeRoots tasks) (treeOrphans tasks) (childrenByParent tasks) =
          some (rootNodes, orphanNodes) ∧
        (TreeOf tasks rootNodes orphanNodes ↔
          ∀ t ∈ tasks, ¬ ReachesCycle (visibleParent tasks) t.id) := by
  have hchildren : ∀ a ∈ tasks, ∀ c, Below (childrenByParent tasks) a c → c ∈ tasks :=
    fun a _ c h => (below_iff.1 h).2.1
  have hroots : ∀ a ∈ treeRoots tasks, a ∈ tasks := fun a h => (List.mem_filter.1 h).1
  have horphans : ∀ a ∈ treeOrphans tasks, a ∈ tasks := fun a h => (List.mem_filter.1 h).1
  obtain ⟨rootNodes, orphanNodes, seen, hbuilt, hrootTops, horphanTops, hwalk⟩ :=
    rootAndOrphanNodes_walks hchildren hroots horphans hfuel
  refine ⟨rootNodes, orphanNodes, hbuilt, ?_⟩
  have hstart (t : TaskRecord) : t ∈ sortedByTaskNumber (treeRoots tasks) ++
      sortedByTaskNumber (treeOrphans tasks) ↔ t ∈ treeRoots tasks ∨ t ∈ treeOrphans tasks := by
    rw [List.mem_append, mem_sortedByTaskNumber, mem_sortedByTaskNumber]
  have hnode {a : TaskRecord} (ha : a ∈ tasks) :
      a ∈ WalkTree.allNodes (rootNodes ++ orphanNodes) ↔
        ¬ ReachesCycle (visibleParent tasks) a.id := by
    rw [← started_iff hids ha, hwalk.mem_iff tasks _ hchildren
      fun a ha b hb h => List.inj_on_of_nodup_map hids ha hb h]
    · simp only [hstart]
      exact Iff.rfl
    · exact fun a ha => ((hstart a).1 ha).elim (hroots a) (horphans a)
  have hreached {a : TaskRecord} (ha : a ∈ WalkTree.allNodes (rootNodes ++ orphanNodes)) :
      ∃ t, (t ∈ treeRoots tasks ∨ t ∈ treeOrphans tasks) ∧
        ReflTransGen (Below (childrenByParent tasks)) t a := by
    obtain ⟨t, ht, hreach⟩ := hwalk.reached a ha
    exact ⟨t, (hstart t).1 ht, hreach⟩
  have hmem {a : TaskRecord} (ha : a ∈ WalkTree.allNodes (rootNodes ++ orphanNodes)) : a ∈ tasks := by
    obtain ⟨t, ht, hreach⟩ := hreached ha
    exact below_mem (ht.elim (hroots t) (horphans t)) hreach
  have hlink {p c : TaskRecord} (h : (p, c) ∈ WalkTree.allLinks (rootNodes ++ orphanNodes)) :
      p ∈ WalkTree.allNodes (rootNodes ++ orphanNodes) ∧ Below (childrenByParent tasks) p c :=
    hwalk.links (p, c) h
  constructor
  · intro htree t ht hcycle
    refine absurd hcycle ((started_iff hids ht).1 ?_)
    rcases htree.cyclic t ht hcycle with htop | ⟨p, hp⟩
    · rw [hwalk.tops, hstart] at htop
      exact ⟨t, htop, .refl⟩
    · obtain ⟨hnode_p, hbelow⟩ := hlink hp
      obtain ⟨r, hr, hreach⟩ := hreached hnode_p
      exact ⟨r, hr, hreach.tail hbelow⟩
  · intro hnone
    refine ⟨fun a => hmem, fun t ht hends => ?_, fun t ht hends => ?_,
      fun t ht hcycle => absurd hcycle (hnone t ht)⟩
    · exact List.count_eq_one_of_mem hwalk.once (List.mem_map_of_mem ((hnode ht).2 hends))
    · cases hparent : parentId t with
      | none =>
        dsimp only
        rw [hrootTops, mem_sortedByTaskNumber, treeRoots, List.mem_filter]
        exact ⟨ht, by simp [hparent]⟩
      | some p =>
        dsimp only
        split
        · rename_i hp
          -- A task with a visible parent is no start of the walk, so it stands under one.
          have hnotStart : ¬ (t ∈ treeRoots tasks ∨ t ∈ treeOrphans tasks) := by
            rw [← visibleParent_eq_none hids ht, (visibleParent_eq_some hids ht).2 ⟨hparent, hp⟩]
            exact Option.some_ne_none p
          rcases hwalk.placed t ((hnode ht).2 hends) with hstarted | ⟨q, hq⟩
          · exact absurd ((hstart t).1 hstarted) hnotStart
          · obtain ⟨hq_node, hbelow⟩ := hlink hq
            obtain ⟨-, -, hq_parent⟩ := below_iff.1 hbelow
            exact ⟨q, hmem hq_node, Option.some.inj (hq_parent.symm.trans hparent), hq⟩
        · rename_i hp
          rw [horphanTops, mem_sortedByTaskNumber, treeOrphans, List.mem_filter]
          exact ⟨ht, by simpa [hparent] using hp⟩

-- ════════════════════════════════════════════════════════════════════════
-- The tree of one task
-- ════════════════════════════════════════════════════════════════════════

/-- A task of the list names the parent. -/
def ChildOf (tasks : List TaskRecord) (parent child : String) : Prop :=
  ∃ t ∈ tasks, t.id = child ∧ parentId t = some parent

/-- The subtree of a task: the task, if it is visible, and exactly its descendants, each once. -/
structure SubtreeOf (tasks : List TaskRecord) (target : TaskRecord)
    (rootNodes orphanNodes : List (WalkTree TaskRecord)) : Prop where
  itself : target ∈ tasks → target ∈ WalkTree.allNodes (rootNodes ++ orphanNodes)
  only : ∀ a ∈ WalkTree.allNodes (rootNodes ++ orphanNodes), a = target ∨ a ∈ tasks
  once : ((WalkTree.allNodes (rootNodes ++ orphanNodes)).map TaskRecord.id).Nodup
  descendants : ∀ t ∈ tasks, t.id ≠ target.id →
    (t ∈ WalkTree.allNodes (rootNodes ++ orphanNodes) ↔
      TransGen (ChildOf tasks) target.id t.id)

omit [Runtime] in
/-- The search for the ids of a subtree ends with the ids below the task. -/
theorem collectSubtreeIds_ends (hids : (tasks.map TaskRecord.id).Nodup) (id : String)
    (hfuel : tasks.length < fuel) :
    ∃ ids, collectSubtreeIds fuel id (childrenByParent tasks) = some ids ∧ ∀ k, k ∈ ids ↔
      ReflTransGen (fun a b => b ∈ (childrenByParent tasks a).map TaskRecord.id) id k := by
  have hedges : ((tasks.map TaskRecord.id).map fun k =>
      ((childrenByParent tasks k).map TaskRecord.id).length).sum ≤ tasks.length := by
    refine le_trans (List.sum_le_sum fun k _ => ?_) (sum_length_filter_le parentId hids tasks)
    rw [List.length_map, childrenByParent]
    by_cases hk : k ∈ tasks.map TaskRecord.id
    · rw [if_pos hk]
    · rw [if_neg hk]
      exact Nat.zero_le _
  obtain ⟨ids, hcollected⟩ : ∃ ids, collectSubtreeIds fuel id (childrenByParent tasks) = some ids :=
    collect_ends hids
    (fun k hk => by
      by_contra hno
      exact hk (by simp [childrenByParent, hno]))
    (by
      have hall : (tasks.map TaskRecord.id).filter (· ∉ ([] : List String)) =
          tasks.map TaskRecord.id := List.filter_eq_self.2 fun k _ => by simp
      rw [hall, List.length_singleton]
      omega)
  refine ⟨ids, hcollected, fun k => ?_⟩
  rw [mem_collect hcollected (fun k hk => by cases hk)]
  simp

omit [Runtime] in
theorem child_iff (hids : (tasks.map TaskRecord.id).Nodup) {p c : String} :
    c ∈ (childrenByParent tasks p).map TaskRecord.id ↔ Under (visibleParent tasks) c p := by
  rw [List.mem_map]
  constructor
  · rintro ⟨t, ht, rfl⟩
    obtain ⟨hp, ht, hparent⟩ := mem_childrenByParent.1 ht
    exact (visibleParent_eq_some hids ht).2 ⟨hparent, hp⟩
  · intro h
    obtain ⟨t, ht, hid, hparent, hp⟩ := under_visible h
    exact ⟨t, mem_childrenByParent.2 ⟨hp, ht, hparent⟩, hid⟩

omit [Runtime] in
theorem childOf_iff (hids : (tasks.map TaskRecord.id).Nodup) {p c : String}
    (hp : p ∈ tasks.map TaskRecord.id) : ChildOf tasks p c ↔ Under (visibleParent tasks) c p := by
  rw [← child_iff hids, List.mem_map]
  constructor
  · rintro ⟨t, ht, hid, hparent⟩
    exact ⟨t, mem_childrenByParent.2 ⟨hp, ht, hparent⟩, hid⟩
  · rintro ⟨t, ht, hid⟩
    obtain ⟨-, ht, hparent⟩ := mem_childrenByParent.1 ht
    exact ⟨t, ht, hid, hparent⟩

omit [Runtime] in
/-- Below a visible task, the descendants are the tasks whose visible parents lead to it. -/
theorem descends_iff (hids : (tasks.map TaskRecord.id).Nodup) {target t : String}
    (htarget : target ∈ tasks.map TaskRecord.id) :
    TransGen (ChildOf tasks) target t ↔ TransGen (Under (visibleParent tasks)) t target := by
  constructor
  · intro h
    induction h with
    | single hchild => exact .single ((childOf_iff hids htarget).1 hchild)
    | @tail b c hprev hchild ih =>
      have hmem : b ∈ tasks.map TaskRecord.id := by
        obtain ⟨c, -, hlast⟩ := TransGen.tail'_iff.1 hprev
        obtain ⟨u, hu, hid, -⟩ := hlast
        exact hid ▸ List.mem_map_of_mem hu
      exact .head ((childOf_iff hids hmem).1 hchild) ih
  · intro h
    induction h using TransGen.head_induction_on with
    | single hunder => exact .single ((childOf_iff hids htarget).2 hunder)
    | head hunder _ ih =>
      obtain ⟨-, -, -, -, hmem⟩ := under_visible hunder
      exact ih.tail ((childOf_iff hids hmem).2 hunder)

omit [Runtime] in
/-- What the view of a visible task's subtree starts with. -/
theorem subtree_starts (hids : (tasks.map TaskRecord.id).Nodup) {target : TaskRecord}
    (htarget : target ∈ tasks) {ids : List String}
    (hmem : ∀ k, k ∈ ids ↔ ReflTransGen (Under (visibleParent tasks)) k target.id) :
    (a ∈ subtreeRoots tasks target ids ∨ a ∈ (treeOrphans tasks).filter fun t => t.id ∈ ids) ↔
      a = target := by
  -- A task without a visible parent is below the target only if it is the target.
  have honly (h : a ∈ treeRoots tasks ∨ a ∈ treeOrphans tasks) (ha : a.id ∈ ids) : a = target := by
    have hmem_a : a ∈ tasks := h.elim (fun h => (List.mem_filter.1 h).1)
      fun h => (List.mem_filter.1 h).1
    rcases ReflTransGen.cases_head ((hmem a.id).1 ha) with heq | ⟨b, hunder, -⟩
    · exact List.inj_on_of_nodup_map hids hmem_a htarget heq
    · rw [Under, (visibleParent_eq_none hids hmem_a).2 h] at hunder
      cases hunder
  have hself : target.id ∈ ids := (hmem _).2 .refl
  have hparent : ((parentId target).any fun p => p ∈ tasks.map TaskRecord.id) = true ↔
      ¬ (target ∈ treeRoots tasks ∨ target ∈ treeOrphans tasks) := by
    rw [← visibleParent_eq_none hids htarget, visibleParent, find_task hids htarget,
      Option.bind_some]
    cases parentId target <;> simp [Option.filter]
  unfold subtreeRoots
  by_cases hvisible : ((parentId target).any fun p => p ∈ tasks.map TaskRecord.id) = true
  · rw [if_pos hvisible, List.mem_singleton, List.mem_filter, decide_eq_true_eq]
    refine ⟨fun h => h.elim id fun h => honly (.inr h.1) h.2, .inl⟩
  · rw [if_neg hvisible, List.mem_filter, List.mem_filter, decide_eq_true_eq]
    rw [hparent, not_not] at hvisible
    constructor
    · rintro (⟨h, ha⟩ | ⟨h, ha⟩)
      · exact honly (.inl h) ha
      · exact honly (.inr h) ha
    · rintro rfl
      exact hvisible.imp (fun h => ⟨h, hself⟩) fun h => ⟨h, hself⟩

/-- The subtree of a visible task. -/
theorem subtreeOf_visible (hids : (tasks.map TaskRecord.id).Nodup) {target : TaskRecord}
    (htarget : target ∈ tasks) (hfuel : tasks.length < fuel) :
    ∃ ids rootNodes orphanNodes,
      collectSubtreeIds fuel target.id (childrenByParent tasks) = some ids ∧
        rootAndOrphanNodes fuel (subtreeRoots tasks target ids)
          ((treeOrphans tasks).filter fun t => t.id ∈ ids) (subtreeChildren tasks ids) =
            some (rootNodes, orphanNodes) ∧
        SubtreeOf tasks target rootNodes orphanNodes := by
  obtain ⟨ids, hcollected, hmem⟩ := collectSubtreeIds_ends hids target.id hfuel
  have hup (k : String) : k ∈ ids ↔ ReflTransGen (Under (visibleParent tasks)) k target.id := by
    rw [hmem, ← reflTransGen_swap]
    simp only [child_iff hids]
  have hstarts (a : TaskRecord) := subtree_starts (a := a) hids htarget hup
  have hbelow {a b : TaskRecord} (ha : a ∈ tasks) (haid : a.id ∈ ids) :
      Below (subtreeChildren tasks ids) a b ↔ Below (childrenByParent tasks) a b := by
    have hb (h : b ∈ childrenByParent tasks a.id) : b.id ∈ ids := by
      rw [hmem] at haid ⊢
      exact haid.tail (List.mem_map_of_mem h)
    rw [Below, Below, mem_sortedByTaskNumber, mem_sortedByTaskNumber, subtreeChildren, if_pos haid,
      List.mem_filter, decide_eq_true_eq]
    exact and_iff_left_of_imp hb
  have hchildren : ∀ a ∈ tasks, ∀ c, Below (subtreeChildren tasks ids) a c → c ∈ tasks := by
    intro a ha c hc
    by_cases haid : a.id ∈ ids
    · exact (below_iff.1 ((hbelow ha haid).1 hc)).2.1
    · rw [Below, mem_sortedByTaskNumber, subtreeChildren, if_neg haid] at hc
      cases hc
  obtain ⟨rootNodes, orphanNodes, seen, hbuilt, -, -, hwalk⟩ := rootAndOrphanNodes_walks
    hchildren (fun a ha => (hstarts a).1 (.inl ha) ▸ htarget)
    (fun a ha => (hstarts a).1 (.inr ha) ▸ htarget) hfuel
  refine ⟨ids, rootNodes, orphanNodes, hcollected, hbuilt, ?_⟩
  have hstart (a : TaskRecord) : a ∈ sortedByTaskNumber (subtreeRoots tasks target ids) ++
      sortedByTaskNumber ((treeOrphans tasks).filter fun t => t.id ∈ ids) ↔ a = target := by
    rw [List.mem_append, mem_sortedByTaskNumber, mem_sortedByTaskNumber, hstarts]
  have hnode (a : TaskRecord) : a ∈ WalkTree.allNodes (rootNodes ++ orphanNodes) ↔
      ReflTransGen (Below (childrenByParent tasks)) target a := by
    rw [hwalk.mem_iff tasks (fun a ha => ?_) hchildren
      fun a ha b hb h => List.inj_on_of_nodup_map hids ha hb h]
    · simp only [hstart, exists_eq_left]
      constructor
      · intro h
        refine (?_ : a.id ∈ ids ∧ ReflTransGen (Below (childrenByParent tasks)) target a).2
        induction h with
        | refl => exact ⟨(hup _).2 .refl, .refl⟩
        | tail _ hc ih =>
          have hb := below_mem htarget ih.2
          have hstep := (hbelow hb ih.1).1 hc
          refine ⟨?_, ih.2.tail hstep⟩
          rw [hup, ← below_iff_under hids htarget (below_iff.1 hstep).2.1]
          exact ih.2.tail hstep
      · intro h
        induction h with
        | refl => exact .refl
        | tail hprev hc ih =>
          have hb := below_mem htarget hprev
          refine ih.tail ((hbelow hb ?_).2 hc)
          rw [hup, ← below_iff_under hids htarget hb]
          exact hprev
    · exact (hstart a).1 ha ▸ htarget
  refine ⟨fun _ => (hnode target).2 .refl, fun a ha => .inr (below_mem htarget ((hnode a).1 ha)),
    hwalk.once, fun t ht hne => ?_⟩
  rw [hnode, below_iff_under hids htarget ht, descends_iff hids (List.mem_map_of_mem htarget),
    reflTransGen_iff_eq_or_transGen]
  exact or_iff_right fun h => hne h.symm

/-- Of the subtree of a task that is not visible, no descendant is shown. -/
theorem subtreeOf_hidden (hids : (tasks.map TaskRecord.id).Nodup) {target : TaskRecord}
    (htarget : target.id ∉ tasks.map TaskRecord.id) (hfuel : tasks.length + 1 < fuel) :
    ∃ ids rootNodes orphanNodes,
      collectSubtreeIds fuel target.id (childrenByParent tasks) = some ids ∧
        rootAndOrphanNodes fuel (subtreeRoots tasks target ids)
          ((treeOrphans tasks).filter fun t => t.id ∈ ids) (subtreeChildren tasks ids) =
            some (rootNodes, orphanNodes) ∧
        (SubtreeOf tasks target rootNodes orphanNodes ↔
          ∀ t ∈ tasks, parentId t ≠ some target.id) := by
  have hless : tasks.length < fuel := Nat.lt_of_succ_lt hfuel
  obtain ⟨ids, hcollected, hmem⟩ := collectSubtreeIds_ends hids target.id hless
  have hnoChildren : childrenByParent tasks target.id = [] := by
    rw [childrenByParent, if_neg htarget]
  have hids_eq (k : String) : k ∈ ids ↔ k = target.id := by
    rw [hmem]
    refine ⟨fun h => ?_, fun h => h ▸ .refl⟩
    rcases ReflTransGen.cases_head h with heq | ⟨b, hb, -⟩
    · exact heq.symm
    · rw [hnoChildren] at hb
      cases hb
  have hnone (a : TaskRecord) (ha : a ∈ tasks) : a.id ∉ ids := by
    rw [hids_eq]
    exact fun h => htarget (h ▸ List.mem_map_of_mem ha)
  have hroots (a : TaskRecord) (ha : a ∈ subtreeRoots tasks target ids) : a = target := by
    unfold subtreeRoots at ha
    split at ha
    · exact List.mem_singleton.1 ha
    · obtain ⟨hroot, hid⟩ := List.mem_filter.1 ha
      exact absurd (of_decide_eq_true hid) (hnone a (List.mem_filter.1 hroot).1)
  have horphans (a : TaskRecord) (ha : a ∈ (treeOrphans tasks).filter fun t => t.id ∈ ids) :
      a = target := by
    obtain ⟨horphan, hid⟩ := List.mem_filter.1 ha
    exact absurd (of_decide_eq_true hid) (hnone a (List.mem_filter.1 horphan).1)
  have hleaf (a c : TaskRecord) : ¬ Below (subtreeChildren tasks ids) a c := by
    rw [Below, mem_sortedByTaskNumber, subtreeChildren]
    split
    · rename_i ha
      rw [(hids_eq _).1 ha, hnoChildren]
      exact List.not_mem_nil
    · exact List.not_mem_nil
  have hone : [target].length < fuel := by
    rw [List.length_singleton]
    omega
  obtain ⟨rootNodes, orphanNodes, seen, hbuilt, -, -, hwalk⟩ := rootAndOrphanNodes_walks
    (fun a _ c h => absurd h (hleaf a c))
    (fun a ha => List.mem_singleton.2 (hroots a ha))
    (fun a ha => List.mem_singleton.2 (horphans a ha)) hone
  refine ⟨ids, rootNodes, orphanNodes, hcollected, hbuilt, ?_⟩
  have honly (a : TaskRecord) (ha : a ∈ WalkTree.allNodes (rootNodes ++ orphanNodes)) :
      a = target := by
    obtain ⟨t, ht, hreach⟩ := hwalk.reached a ha
    rw [List.mem_append, mem_sortedByTaskNumber, mem_sortedByTaskNumber] at ht
    rcases ReflTransGen.cases_head hreach with heq | ⟨b, hb, -⟩
    · exact heq ▸ ht.elim (hroots t) (horphans t)
    · exact absurd hb (hleaf t b)
  have hhidden (t : TaskRecord) (ht : t ∈ tasks) :
      t ∉ WalkTree.allNodes (rootNodes ++ orphanNodes) := fun h =>
    htarget (honly t h ▸ List.mem_map_of_mem ht)
  constructor
  · intro hsubtree t ht hparent
    have hne : t.id ≠ target.id := fun h => htarget (h ▸ List.mem_map_of_mem ht)
    exact hhidden t ht ((hsubtree.descendants t ht hne).2 (.single ⟨t, ht, rfl, hparent⟩))
  · intro hno
    refine ⟨fun h => absurd (List.mem_map_of_mem h) htarget, fun a ha => .inl (honly a ha),
      hwalk.once, fun t ht _ => iff_of_false (hhidden t ht) fun h => ?_⟩
    obtain ⟨b, ⟨u, hu, -, hparent⟩, -⟩ := TransGen.head'_iff.1 h
    exact hno u hu hparent

-- ════════════════════════════════════════════════════════════════════════
-- The tree of a ledger
-- ════════════════════════════════════════════════════════════════════════

/-- What the tree of some tasks of a ledger has to show: all of them, or the subtree of the task
that is asked for. -/
def TreeLaw (s : Ledger) (tasks : List TaskRecord) (taskRef : Option String)
    (rootNodes orphanNodes : List (WalkTree TaskRecord)) : Prop :=
  match taskRef.filter (· ≠ "") with
  | none => TreeOf tasks rootNodes orphanNodes
  | some ref => ∀ target, resolveTask ref true s = .ok target →
      SubtreeOf tasks target rootNodes orphanNodes

/-- No chain of parents reaches a cycle; the task that is asked for is visible, or nobody names it
as a parent. -/
def Treelike (s : Ledger) (tasks : List TaskRecord) (taskRef : Option String) : Prop :=
  match taskRef.filter (· ≠ "") with
  | none => ∀ t ∈ tasks, ¬ ReachesCycle (visibleParent tasks) t.id
  | some ref => ∀ target, resolveTask ref true s = .ok target →
      target ∈ tasks ∨ ∀ t ∈ tasks, parentId t ≠ some target.id

theorem nodup_treeTasks {s : Ledger} {includeArchived : Bool}
    (h : treeTasks includeArchived s = .ok tasks) : (tasks.map TaskRecord.id).Nodup := by
  obtain ⟨all, hall, h⟩ := Query.bind_eq_ok.1 h
  have hnodup := nodup_listTasks hall
  rw [← Query.pure_eq_ok.1 h]
  split
  · exact hnodup
  · exact hnodup.sublist (List.filter_sublist.map _)

/-- A task that is resolved is the one of the list that has its id. -/
theorem resolved_mem {s : Ledger} {includeArchived : Bool} {ref : String} {target : TaskRecord}
    (h : treeTasks includeArchived s = .ok tasks) (htarget : resolveTask ref true s = .ok target)
    (hid : target.id ∈ tasks.map TaskRecord.id) : target ∈ tasks := by
  obtain ⟨all, hall, h⟩ := Query.bind_eq_ok.1 h
  have hsub : ∀ t ∈ tasks, t ∈ all := by
    intro t ht
    rw [← Query.pure_eq_ok.1 h] at ht
    split at ht
    · exact ht
    · exact (List.mem_filter.1 ht).1
  obtain ⟨stored, hstored, hreload⟩ := resolveTask_stored htarget
  have hmem : target ∈ all :=
    (mem_listTasks hall).2 ⟨stored, Directory.mem_of_lookup hstored, hreload⟩
  obtain ⟨t, ht, heq⟩ := List.mem_map.1 hid
  exact List.inj_on_of_nodup_map (nodup_listTasks hall) (hsub t ht) hmem heq ▸ ht

/-- The tree is built, whatever the parents are, and it shows what it has to exactly when they
are treelike. -/
theorem tree_law_iff {s : Ledger} {includeArchived : Bool} (taskRef : Option String)
    (h : treeTasks includeArchived s = .ok tasks) (hfuel : tasks.length + 1 < fuel) :
    ∃ rootNodes orphanNodes,
      buildTaskNodes fuel tasks taskRef s = some (rootNodes, orphanNodes) ∧
        (TreeLaw s tasks taskRef rootNodes orphanNodes ↔ Treelike s tasks taskRef) := by
  have hids := nodup_treeTasks h
  unfold buildTaskNodes TreeLaw Treelike
  cases taskRef.filter (· ≠ "") with
  | none => exact treeOf_iff hids (by omega)
  | some ref =>
    dsimp only
    cases htarget : resolveTask ref true s with
    | error e =>
      refine ⟨[], [], rfl, iff_of_true ?_ ?_⟩
      · intro target h
        cases h
      · intro target h
        cases h
    | ok target =>
      simp only [Except.ok.injEq, forall_eq']
      by_cases hvisible : target.id ∈ tasks.map TaskRecord.id
      · have hmem := resolved_mem h htarget hvisible
        obtain ⟨ids, rootNodes, orphanNodes, hcollected, hbuilt, hsubtree⟩ :=
          subtreeOf_visible hids hmem (Nat.lt_of_succ_lt hfuel)
        refine ⟨rootNodes, orphanNodes, ?_, iff_of_true hsubtree (.inl hmem)⟩
        rw [hcollected]
        exact hbuilt
      · obtain ⟨ids, rootNodes, orphanNodes, hcollected, hbuilt, hsubtree⟩ :=
          subtreeOf_hidden hids hvisible hfuel
        refine ⟨rootNodes, orphanNodes, ?_, ?_⟩
        · rw [hcollected]
          exact hbuilt
        · rw [hsubtree]
          exact (or_iff_right fun hmem => hvisible (List.mem_map_of_mem hmem)).symm

end Trees

section Evaluation

attribute [local instance] plainRuntime

/-- A ledger in which the record of a task names a parent. -/
def withParent (taskId parent : String) (s : Ledger) : Ledger :=
  match s.tasks.lookup taskId with
  | some task => s.putTask { task with parentTaskId := some parent }
  | none => s

def twoTasks : Ledger :=
  afterOps [.createTask { title := "A", description := "d" },
    .createTask { title := "B", description := "d" }]

/-- The second task is below the first. -/
def followUpLedger : Ledger := withParent "task-0002" "task-0001" twoTasks

/-- The subtree of the first task. -/
theorem tree_law_iff_followUp : ∃ tasks, treeTasks false followUpLedger = .ok tasks ∧
    ∃ rootNodes orphanNodes,
      buildTaskNodes 4 tasks (some "task-0001") followUpLedger = some (rootNodes, orphanNodes) ∧
        TreeLaw followUpLedger tasks (some "task-0001") rootNodes orphanNodes := by
  have htasks : (treeTasks false followUpLedger).toOption.map (List.map TaskRecord.id) =
      some ["task-0001", "task-0002"] := by decide
  have htarget : (resolveTask "task-0001" true followUpLedger).toOption.map TaskRecord.id =
      some "task-0001" := by decide
  obtain ⟨tasks, hlist, hids⟩ := Option.map_eq_some_iff.1 htasks
  have hlist := toOption_eq_some.1 hlist
  have hlength : tasks.length = 2 := by
    rw [← List.length_map (f := TaskRecord.id), hids]
    rfl
  obtain ⟨rootNodes, orphanNodes, hbuilt, hlaw⟩ :=
    tree_law_iff (some "task-0001") hlist (show tasks.length + 1 < 4 by omega)
  refine ⟨tasks, hlist, rootNodes, orphanNodes, hbuilt, hlaw.2 fun target hresolved => .inl ?_⟩
  refine resolved_mem hlist hresolved ?_
  rw [hresolved] at htarget
  rw [hids, Option.some.inj htarget]
  decide

/-- Each of the two tasks names the other one. -/
def cyclicLedger : Ledger :=
  withParent "task-0001" "task-0002" (withParent "task-0002" "task-0001" twoTasks)

/-- Two tasks on a cycle are nowhere in the tree. -/
theorem cycle_is_dropped : ∃ tasks, treeTasks false cyclicLedger = .ok tasks ∧
    ∃ rootNodes orphanNodes,
      buildTaskNodes 4 tasks none cyclicLedger = some (rootNodes, orphanNodes) ∧
        ¬ TreeLaw cyclicLedger tasks none rootNodes orphanNodes := by
  have htasks : (treeTasks false cyclicLedger).toOption.map (fun tasks =>
      (tasks.map TaskRecord.id, visibleParent tasks "task-0001", visibleParent tasks "task-0002",
        (buildTaskNodes 4 tasks none cyclicLedger).map fun r => (r.1.length, r.2.length))) =
      some (["task-0001", "task-0002"], some "task-0002", some "task-0001", some (0, 0)) := by
    decide
  obtain ⟨tasks, hlist, hvalues⟩ := Option.map_eq_some_iff.1 htasks
  simp only [Prod.mk.injEq, Option.map_eq_some_iff] at hvalues
  obtain ⟨hids, hfirst, hsecond, ⟨rootNodes, orphanNodes⟩, hbuilt, hroots, horphans⟩ := hvalues
  cases List.length_eq_zero_iff.1 hroots
  cases List.length_eq_zero_iff.1 horphans
  refine ⟨tasks, toOption_eq_some.1 hlist, [], [], hbuilt, fun hlaw => ?_⟩
  have hmem : "task-0001" ∈ tasks.map TaskRecord.id := by
    rw [hids]
    decide
  obtain ⟨t, ht, hid⟩ := List.mem_map.1 hmem
  have hcycle : ReachesCycle (visibleParent tasks) t.id :=
    ⟨"task-0001", hid ▸ .refl, .head hfirst (.single hsecond)⟩
  rcases TreeOf.cyclic (show TreeOf tasks [] [] from hlaw) t ht hcycle with htop | ⟨p, hp⟩
  · cases htop
  · cases hp

end Evaluation

end Taskledger
