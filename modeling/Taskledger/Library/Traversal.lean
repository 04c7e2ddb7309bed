import Mathlib.Data.Fintype.Pigeonhole
import Mathlib.Logic.Relation
import Mathlib.Tactic

/-!
# Traversals

Parent links that nothing checks: a chain of parents comes to an end or reaches a cycle. Two
searches along links keep the set of what they have seen: one takes the next name from a stack,
the other goes down first and returns the tree it walked.
-/

namespace Library

open Relation

-- ════════════════════════════════════════════════════════════════════════
-- Chains of parents
-- ════════════════════════════════════════════════════════════════════════

section Chains

variable {α : Type} {up : α → Option α} {a b : α}

/-- The parent of the one is the other. -/
def Under (up : α → Option α) (a b : α) : Prop := up a = some b

/-- The chain of parents comes to an end. -/
def Rooted (up : α → Option α) (a : α) : Prop :=
  ∃ r, ReflTransGen (Under up) a r ∧ up r = none

/-- The chain of parents reaches a cycle. -/
def ReachesCycle (up : α → Option α) (a : α) : Prop :=
  ∃ c, ReflTransGen (Under up) a c ∧ TransGen (Under up) c c

theorem under_unique (up : α → Option α) : Relator.RightUnique (Under up) := by
  intro a b c hb hc
  exact Option.some.inj (hb.symm.trans hc)

/-- From a cycle only the cycle is reached. -/
theorem cycle_goes_on (hcycle : TransGen (Under up) a a) (h : ReflTransGen (Under up) a b) :
    TransGen (Under up) b b := by
  induction h with
  | refl => exact hcycle
  | @tail b c _ hbc ih =>
    obtain ⟨d, hbd, hdb⟩ := TransGen.head'_iff.1 ih
    cases under_unique up hbc hbd
    exact TransGen.tail' hdb hbc

theorem Rooted.not_reachesCycle (h : Rooted up a) : ¬ ReachesCycle up a := by
  rintro ⟨c, hac, hcycle⟩
  obtain ⟨r, har, hend⟩ := h
  have hstops (b : α) (hb : ReflTransGen (Under up) r b) : b = r := by
    rcases ReflTransGen.cases_head hb with heq | ⟨d, hrd, -⟩
    · exact heq.symm
    · rw [Under, hend] at hrd
      cases hrd
  have hr : TransGen (Under up) r r := by
    rcases ReflTransGen.total_of_right_unique (under_unique up) har hac with hrc | hcr
    · exact hstops c hrc ▸ hcycle
    · exact cycle_goes_on hcycle hcr
  obtain ⟨d, hrd, -⟩ := TransGen.head'_iff.1 hr
  rw [Under, hend] at hrd
  cases hrd

/-- Among finitely many, a chain of parents comes to an end or reaches a cycle. -/
theorem rooted_or_reachesCycle {nodes : List α} (hup : ∀ a b, up a = some b → b ∈ nodes) (a : α) :
    Rooted up a ∨ ReachesCycle up a := by
  by_cases hrooted : Rooted up a
  · exact .inl hrooted
  refine .inr ?_
  -- Without an end, the chain gives a sequence of nodes, and two of them are the same.
  have hnext (b : { b // ReflTransGen (Under up) a b }) :
      ∃ c : { c // ReflTransGen (Under up) a c }, up b.1 = some c.1 := by
    obtain ⟨b, hb⟩ := b
    cases hc : up b with
    | none => exact absurd ⟨b, hb, hc⟩ hrooted
    | some c => exact ⟨⟨c, hb.tail hc⟩, rfl⟩
  choose next hnext using hnext
  let chain : ℕ → { b // ReflTransGen (Under up) a b } := fun n => next^[n + 1] ⟨a, .refl⟩
  have hchain (n : ℕ) : Under up (chain n).1 (chain (n + 1)).1 := by
    have hsucc : chain (n + 1) = next (chain n) := Function.iterate_succ_apply' next (n + 1) _
    rw [hsucc]
    exact hnext _
  have hmem (n : ℕ) : (chain n).1 ∈ nodes := by
    have hsucc : chain n = next (next^[n] ⟨a, .refl⟩) := Function.iterate_succ_apply' next n _
    rw [hsucc]
    exact hup _ _ (hnext _)
  have hsteps (i d : ℕ) : TransGen (Under up) (chain i).1 (chain (i + (d + 1))).1 := by
    induction d with
    | zero => exact .single (hchain i)
    | succ d ih => exact ih.tail (hchain _)
  let seen : ℕ → { b // b ∈ nodes } := fun n => ⟨chain n, hmem n⟩
  have hfinite : Finite { b // b ∈ nodes } := List.finite_toSet nodes
  obtain ⟨i, j, hne, heq⟩ := Finite.exists_ne_map_eq_of_infinite seen
  have hvalues : (chain i).1 = (chain j).1 := Subtype.mk.inj heq
  rcases lt_or_gt_of_ne hne with hlt | hlt
  · obtain ⟨d, rfl⟩ := Nat.exists_eq_add_of_lt hlt
    exact ⟨(chain i).1, (chain i).2, hvalues ▸ hsteps i d⟩
  · obtain ⟨d, rfl⟩ := Nat.exists_eq_add_of_lt hlt
    exact ⟨(chain j).1, (chain j).2, hvalues ▸ hsteps j d⟩

theorem rooted_iff {nodes : List α} (hup : ∀ a b, up a = some b → b ∈ nodes) :
    Rooted up a ↔ ¬ ReachesCycle up a :=
  ⟨Rooted.not_reachesCycle, (rooted_or_reachesCycle hup a).resolve_right⟩

end Chains

-- ════════════════════════════════════════════════════════════════════════
-- A search with a stack
-- ════════════════════════════════════════════════════════════════════════

section Collecting

variable {κ : Type} [DecidableEq κ] {next : κ → List κ} {fuel : ℕ} {stack seen out : List κ}

/-- Take names from the stack until it is empty, and push what follows each new one. -/
def collect (next : κ → List κ) : ℕ → List κ → List κ → Option (List κ)
  | _, [], seen => some seen
  | 0, _ :: _, _ => none
  | fuel + 1, k :: stack, seen =>
    if k ∈ seen then collect next fuel stack seen
    else collect next fuel ((next k).reverse ++ stack) (k :: seen)

omit [DecidableEq κ] in
/-- From what was seen one gets to what was seen, or over the stack. -/
theorem reached_from_seen (hseen : ∀ k ∈ seen, ∀ c ∈ next k, c ∈ seen ∨ c ∈ stack) {a k : κ}
    (h : ReflTransGen (fun a b => b ∈ next a) a k) (ha : a ∈ seen) :
    k ∈ seen ∨ ∃ t ∈ stack, ReflTransGen (fun a b => b ∈ next a) t k := by
  induction h using ReflTransGen.head_induction_on with
  | refl => exact .inl ha
  | head hab hbk ih =>
    rcases hseen _ ha _ hab with hb | hb
    · exact ih hb
    · exact .inr ⟨_, hb, hbk⟩

/-- What the search returns: what it has seen, and all that the stack leads to. -/
theorem mem_collect (h : collect next fuel stack seen = some out)
    (hseen : ∀ k ∈ seen, ∀ c ∈ next k, c ∈ seen ∨ c ∈ stack) (k : κ) :
    k ∈ out ↔ k ∈ seen ∨ ∃ t ∈ stack, ReflTransGen (fun a b => b ∈ next a) t k := by
  induction fuel generalizing stack seen with
  | zero =>
    cases stack with
    | nil =>
      cases h
      simp
    | cons a stack => cases h
  | succ fuel ih =>
    cases stack with
    | nil =>
      cases h
      simp
    | cons a stack =>
      rw [collect] at h
      split at h
      · rename_i ha
        have hseen' : ∀ k ∈ seen, ∀ c ∈ next k, c ∈ seen ∨ c ∈ stack := by
          intro k hk c hc
          rcases hseen k hk c hc with hc | hc
          · exact .inl hc
          · rcases List.mem_cons.1 hc with rfl | hc
            · exact .inl ha
            · exact .inr hc
        rw [ih h hseen']
        constructor
        · rintro (hk | ⟨t, ht, htk⟩)
          · exact .inl hk
          · exact .inr ⟨t, List.mem_cons_of_mem _ ht, htk⟩
        · rintro (hk | ⟨t, ht, htk⟩)
          · exact .inl hk
          · rcases List.mem_cons.1 ht with rfl | ht
            · exact reached_from_seen hseen' htk ha
            · exact .inr ⟨t, ht, htk⟩
      · have hseen' : ∀ k ∈ a :: seen, ∀ c ∈ next k,
            c ∈ a :: seen ∨ c ∈ (next a).reverse ++ stack := by
          intro k hk c hc
          rcases List.mem_cons.1 hk with rfl | hk
          · exact .inr (List.mem_append_left _ (List.mem_reverse.2 hc))
          · rcases hseen k hk c hc with hc | hc
            · exact .inl (List.mem_cons_of_mem _ hc)
            · rcases List.mem_cons.1 hc with rfl | hc
              · exact .inl List.mem_cons_self
              · exact .inr (List.mem_append_right _ hc)
        rw [ih h hseen']
        constructor
        · rintro (hk | ⟨t, ht, htk⟩)
          · rcases List.mem_cons.1 hk with rfl | hk
            · exact .inr ⟨k, List.mem_cons_self, .refl⟩
            · exact .inl hk
          · rcases List.mem_append.1 ht with ht | ht
            · exact .inr ⟨a, List.mem_cons_self, .head (List.mem_reverse.1 ht) htk⟩
            · exact .inr ⟨t, List.mem_cons_of_mem _ ht, htk⟩
        · rintro (hk | ⟨t, ht, htk⟩)
          · exact .inl (List.mem_cons_of_mem _ hk)
          · rcases List.mem_cons.1 ht with rfl | ht
            · rcases ReflTransGen.cases_head htk with rfl | ⟨b, hab, hbk⟩
              · exact .inl List.mem_cons_self
              · exact .inr ⟨b, List.mem_append_left _ (List.mem_reverse.2 hab), hbk⟩
            · exact .inr ⟨t, List.mem_append_right _ ht, htk⟩

/-- What the unseen names push, when one more is seen. -/
theorem pushes_of_unseen {names : List κ} (hnodup : names.Nodup)
    (hnames : ∀ k, next k ≠ [] → k ∈ names) {a : κ} (ha : a ∉ seen) :
    (next a).length + ((names.filter (· ∉ a :: seen)).map fun k => (next k).length).sum ≤
      ((names.filter (· ∉ seen)).map fun k => (next k).length).sum := by
  by_cases hmem : a ∈ names
  · have hperm := (List.perm_cons_erase hmem).filter (· ∉ seen)
    rw [((hperm.map fun k => (next k).length)).sum_eq]
    have hrest : (names.erase a).filter (· ∉ seen) = names.filter (· ∉ a :: seen) := by
      rw [hnodup.erase_eq_filter, List.filter_filter]
      refine List.filter_congr fun k _ => ?_
      by_cases hk : k = a <;> simp [hk]
    rw [List.filter_cons_of_pos (by simpa using ha), hrest, List.map_cons, List.sum_cons]
  · have hnone : next a = [] := by
      by_contra hne
      exact hmem (hnames a hne)
    have hsame : names.filter (· ∉ a :: seen) = names.filter (· ∉ seen) := by
      refine List.filter_congr fun k hk => ?_
      have hka : k ≠ a := fun h => hmem (h ▸ hk)
      simp [hka]
    rw [hnone, hsame]
    simp

/-- Every name has its turn once, so the search ends. -/
theorem collect_ends {names : List κ} (hnodup : names.Nodup)
    (hnames : ∀ k, next k ≠ [] → k ∈ names) (hfuel : stack.length +
      ((names.filter (· ∉ seen)).map fun k => (next k).length).sum ≤ fuel) :
    ∃ out, collect next fuel stack seen = some out := by
  induction fuel generalizing stack seen with
  | zero =>
    have hstack : stack = [] := List.length_eq_zero_iff.1 (by omega)
    rw [hstack]
    exact ⟨seen, rfl⟩
  | succ fuel ih =>
    cases stack with
    | nil => exact ⟨seen, rfl⟩
    | cons a stack =>
      rw [List.length_cons] at hfuel
      rw [collect]
      split
      · exact ih (by omega)
      · rename_i ha
        have hpushes := pushes_of_unseen hnodup hnames ha
        refine ih ?_
        rw [List.length_append, List.length_reverse]
        omega

/-- Each entry belongs to one name at most. -/
theorem sum_length_filter_le {α : Type} (owner : α → Option κ) {names : List κ}
    (hnodup : names.Nodup) (l : List α) :
    (names.map fun k => (l.filter fun a => owner a = some k).length).sum ≤ l.length := by
  induction names generalizing l with
  | nil => simp
  | cons k rest ih =>
    obtain ⟨hk, hrest⟩ := List.nodup_cons.1 hnodup
    have hothers : rest.map (fun j => (l.filter fun a => owner a = some j).length) =
        rest.map fun j =>
          ((l.filter fun a => owner a ≠ some k).filter fun a => owner a = some j).length := by
      refine List.map_congr_left fun j hj => ?_
      rw [List.filter_filter]
      refine congrArg List.length (List.filter_congr fun a _ => ?_)
      have hne : j ≠ k := fun h => hk (h ▸ hj)
      by_cases ha : owner a = some j
      · simp [ha, hne]
      · simp [ha]
    have hsplit := l.length_eq_length_filter_add fun a => decide (owner a = some k)
    have hbound := ih hrest (l.filter fun a => owner a ≠ some k)
    rw [List.map_cons, List.sum_cons, hothers]
    simp only [decide_not] at hbound ⊢
    omega

end Collecting

-- ════════════════════════════════════════════════════════════════════════
-- A walk down the children
-- ════════════════════════════════════════════════════════════════════════

/-- The tree of a walk. A node that was met before is only named. -/
inductive WalkTree (α : Type) where
  | node (a : α) (below : List (WalkTree α))
  | again (a : α)

namespace WalkTree

variable {α : Type}

/-- The node a walk started at. -/
def top : WalkTree α → α
  | node a _ => a
  | again a => a

mutual

/-- The nodes of a tree. -/
def nodes : WalkTree α → List α
  | node a below => a :: allNodes below
  | again _ => []

def allNodes : List (WalkTree α) → List α
  | [] => []
  | w :: rest => w.nodes ++ allNodes rest

end

mutual

/-- Each node of a tree with what stands under it. -/
def links : WalkTree α → List (α × α)
  | node a below => below.map (fun w => (a, w.top)) ++ allLinks below
  | again _ => []

def allLinks : List (WalkTree α) → List (α × α)
  | [] => []
  | w :: rest => w.links ++ allLinks rest

end

end WalkTree

section Walking

variable {α κ : Type} [DecidableEq κ] {key : α → κ} {children : α → List α} {fuel : ℕ}

/-- Walk down from each of the nodes, one after the other. -/
def walkEach (walk : α → List κ → Option (WalkTree α × List κ)) :
    List α → List κ → Option (List (WalkTree α) × List κ)
  | [], seen => some ([], seen)
  | a :: rest, seen => do
    let (first, seen) ← walk a seen
    let (others, seen) ← walkEach walk rest seen
    return (first :: others, seen)

/-- Walk down from a node that was not met before. -/
def walk (key : α → κ) (children : α → List α) : ℕ → α → List κ → Option (WalkTree α × List κ)
  | 0, _, _ => none
  | fuel + 1, a, seen =>
    if key a ∈ seen then some (.again a, seen)
    else do
      let (below, seen) ← walkEach (walk key children fuel) (children a) (key a :: seen)
      return (.node a below, seen)

/-- What a walk from some nodes has done. -/
structure Walk (key : α → κ) (children : α → List α) (starts : List α) (seen : List κ)
    (forest : List (WalkTree α)) (seen' : List κ) : Prop where
  tops : forest.map WalkTree.top = starts
  memory : ∀ k, k ∈ seen' ↔ k ∈ seen ∨ k ∈ (WalkTree.allNodes forest).map key
  once : ((WalkTree.allNodes forest).map key).Nodup
  fresh : ∀ a ∈ WalkTree.allNodes forest, key a ∉ seen
  started : ∀ a ∈ starts, key a ∈ seen'
  closed : ∀ a ∈ WalkTree.allNodes forest, ∀ c ∈ children a, key c ∈ seen'
  reached : ∀ a ∈ WalkTree.allNodes forest,
    ∃ t ∈ starts, ReflTransGen (fun a b => b ∈ children a) t a
  links : ∀ l ∈ WalkTree.allLinks forest, l.1 ∈ WalkTree.allNodes forest ∧ l.2 ∈ children l.1
  placed : ∀ a ∈ WalkTree.allNodes forest, a ∈ starts ∨ ∃ p, (p, a) ∈ WalkTree.allLinks forest

omit [DecidableEq κ] in
theorem Walk.nil {seen : List κ} : Walk key children [] seen [] seen where
  tops := rfl
  memory := by simp [WalkTree.allNodes]
  once := List.nodup_nil
  fresh a h := by cases h
  started a h := by cases h
  closed a h := by cases h
  reached a h := by cases h
  links l h := by cases h
  placed a h := by cases h

theorem WalkTree.allNodes_append (f g : List (WalkTree α)) :
    allNodes (f ++ g) = allNodes f ++ allNodes g := by
  induction f with
  | nil => rfl
  | cons w rest ih => rw [List.cons_append, allNodes, allNodes, ih, List.append_assoc]

theorem WalkTree.allLinks_append (f g : List (WalkTree α)) :
    allLinks (f ++ g) = allLinks f ++ allLinks g := by
  induction f with
  | nil => rfl
  | cons w rest ih => rw [List.cons_append, allLinks, allLinks, ih, List.append_assoc]

omit [DecidableEq κ] in
/-- One walk after another. -/
theorem Walk.append {starts starts' : List α} {seen seen₁ seen₂ : List κ}
    {forest forest' : List (WalkTree α)} (hfirst : Walk key children starts seen forest seen₁)
    (hothers : Walk key children starts' seen₁ forest' seen₂) :
    Walk key children (starts ++ starts') seen (forest ++ forest') seen₂ := by
  have hnodes := WalkTree.allNodes_append forest forest'
  have hlinks := WalkTree.allLinks_append forest forest'
  constructor
  · rw [List.map_append, hfirst.tops, hothers.tops]
  · intro k
    rw [hothers.memory, hfirst.memory, hnodes, List.map_append, List.mem_append, or_assoc]
  · rw [hnodes, List.map_append, List.nodup_append']
    refine ⟨hfirst.once, hothers.once, fun k hk hk' => ?_⟩
    obtain ⟨b, hb, rfl⟩ := List.mem_map.1 hk'
    exact hothers.fresh b hb ((hfirst.memory _).2 (.inr hk))
  · intro b hb
    rw [hnodes, List.mem_append] at hb
    rcases hb with hb | hb
    · exact hfirst.fresh b hb
    · exact fun hmem => hothers.fresh b hb ((hfirst.memory _).2 (.inl hmem))
  · intro b hb
    rcases List.mem_append.1 hb with hb | hb
    · exact (hothers.memory _).2 (.inl (hfirst.started b hb))
    · exact hothers.started b hb
  · intro b hb c hc
    rw [hnodes, List.mem_append] at hb
    rcases hb with hb | hb
    · exact (hothers.memory _).2 (.inl (hfirst.closed b hb c hc))
    · exact hothers.closed b hb c hc
  · intro b hb
    rw [hnodes, List.mem_append] at hb
    rcases hb with hb | hb
    · obtain ⟨t, ht, hreach⟩ := hfirst.reached b hb
      exact ⟨t, List.mem_append_left _ ht, hreach⟩
    · obtain ⟨t, ht, hreach⟩ := hothers.reached b hb
      exact ⟨t, List.mem_append_right _ ht, hreach⟩
  · intro l hl
    rw [hlinks, List.mem_append] at hl
    rw [hnodes]
    rcases hl with hl | hl
    · exact ⟨List.mem_append_left _ (hfirst.links l hl).1, (hfirst.links l hl).2⟩
    · exact ⟨List.mem_append_right _ (hothers.links l hl).1, (hothers.links l hl).2⟩
  · intro b hb
    rw [hnodes, List.mem_append] at hb
    rw [hlinks]
    rcases hb with hb | hb
    · rcases hfirst.placed b hb with hstart | ⟨p, hp⟩
      · exact .inl (List.mem_append_left _ hstart)
      · exact .inr ⟨p, List.mem_append_left _ hp⟩
    · rcases hothers.placed b hb with hstart | ⟨p, hp⟩
      · exact .inl (List.mem_append_right _ hstart)
      · exact .inr ⟨p, List.mem_append_right _ hp⟩

omit [DecidableEq κ] in
/-- A walk that starts with nothing seen sees what its starts lead to, and that only. -/
theorem Walk.mem_iff {starts : List α} {forest : List (WalkTree α)} {seen' : List κ} {a : α}
    (h : Walk key children starts [] forest seen') (known : List α)
    (hstarts : ∀ a ∈ starts, a ∈ known) (hknown : ∀ a ∈ known, ∀ c ∈ children a, c ∈ known)
    (hkeys : ∀ a ∈ known, ∀ b ∈ known, key a = key b → a = b) :
    a ∈ WalkTree.allNodes forest ↔ ∃ t ∈ starts, ReflTransGen (fun a b => b ∈ children a) t a := by
  have hreached_known {t b : α} (ht : t ∈ starts)
      (hreach : ReflTransGen (fun a b => b ∈ children a) t b) : b ∈ known := by
    induction hreach with
    | refl => exact hstarts t ht
    | tail _ hc ih => exact hknown _ ih _ hc
  have hnode {b : α} (hb : b ∈ known) (hseen : key b ∈ seen') : b ∈ WalkTree.allNodes forest := by
    rcases (h.memory _).1 hseen with hno | hmem
    · cases hno
    · obtain ⟨d, hd, hkey⟩ := List.mem_map.1 hmem
      obtain ⟨t, ht, hreach⟩ := h.reached d hd
      rw [← hkeys d (hreached_known ht hreach) b hb hkey]
      exact hd
  constructor
  · exact h.reached a
  · rintro ⟨t, ht, hreach⟩
    induction hreach with
    | refl => exact hnode (hstarts t ht) (h.started t ht)
    | tail hprev hc ih =>
      exact hnode (hknown _ (hreached_known ht hprev) _ hc) (h.closed _ ih _ hc)

omit [DecidableEq κ] in
/-- A node that was met before. -/
theorem Walk.again {a : α} {seen : List κ} (h : key a ∈ seen) :
    Walk key children [a] seen [.again a] seen where
  tops := rfl
  memory := by simp [WalkTree.allNodes, WalkTree.nodes]
  once := List.nodup_nil
  fresh b hb := by simp [WalkTree.allNodes, WalkTree.nodes] at hb
  started b hb := by
    cases List.mem_singleton.1 hb
    exact h
  closed b hb := by simp [WalkTree.allNodes, WalkTree.nodes] at hb
  reached b hb := by simp [WalkTree.allNodes, WalkTree.nodes] at hb
  links l hl := by simp [WalkTree.allLinks, WalkTree.links] at hl
  placed b hb := by simp [WalkTree.allNodes, WalkTree.nodes] at hb

omit [DecidableEq κ] in
/-- A new node, when its children were walked. -/
theorem Walk.node {a : α} {seen seen' : List κ} {below : List (WalkTree α)} (h : key a ∉ seen)
    (hbelow : Walk key children (children a) (key a :: seen) below seen') :
    Walk key children [a] seen [.node a below] seen' := by
  have hnodes : WalkTree.allNodes [.node a below] = a :: WalkTree.allNodes below := by
    simp [WalkTree.allNodes, WalkTree.nodes]
  have hlinks : WalkTree.allLinks [.node a below] =
      (children a).map (fun c => (a, c)) ++ WalkTree.allLinks below := by
    rw [← hbelow.tops, List.map_map]
    simp [WalkTree.allLinks, WalkTree.links, Function.comp_def]
  constructor
  · rfl
  · intro k
    rw [hbelow.memory, hnodes, List.map_cons, List.mem_cons, List.mem_cons]
    tauto
  · rw [hnodes, List.map_cons, List.nodup_cons]
    refine ⟨fun hmem => ?_, hbelow.once⟩
    obtain ⟨b, hb, hkey⟩ := List.mem_map.1 hmem
    exact hbelow.fresh b hb (hkey ▸ List.mem_cons_self)
  · intro b hb
    rw [hnodes] at hb
    rcases List.mem_cons.1 hb with rfl | hb
    · exact h
    · exact fun hmem => hbelow.fresh b hb (List.mem_cons_of_mem _ hmem)
  · intro b hb
    cases List.mem_singleton.1 hb
    exact (hbelow.memory _).2 (.inl List.mem_cons_self)
  · intro b hb c hc
    rw [hnodes] at hb
    rcases List.mem_cons.1 hb with rfl | hb
    · exact hbelow.started c hc
    · exact hbelow.closed b hb c hc
  · intro b hb
    rw [hnodes] at hb
    rcases List.mem_cons.1 hb with rfl | hb
    · exact ⟨b, List.mem_cons_self, .refl⟩
    · obtain ⟨t, ht, hreach⟩ := hbelow.reached b hb
      exact ⟨a, List.mem_cons_self, .head ht hreach⟩
  · intro l hl
    rw [hlinks, List.mem_append] at hl
    rw [hnodes]
    rcases hl with hl | hl
    · obtain ⟨c, hc, rfl⟩ := List.mem_map.1 hl
      exact ⟨List.mem_cons_self, hc⟩
    · exact ⟨List.mem_cons_of_mem _ (hbelow.links l hl).1, (hbelow.links l hl).2⟩
  · intro b hb
    rw [hnodes] at hb
    rw [hlinks]
    rcases List.mem_cons.1 hb with rfl | hb
    · exact .inl List.mem_cons_self
    · rcases hbelow.placed b hb with hstart | ⟨p, hp⟩
      · exact .inr ⟨a, List.mem_append_left _ (List.mem_map_of_mem hstart)⟩
      · exact .inr ⟨p, List.mem_append_right _ hp⟩

omit [DecidableEq κ] in
theorem walkEach_walks {go : α → List κ → Option (WalkTree α × List κ)}
    (hgo : ∀ a seen w seen', go a seen = some (w, seen') → Walk key children [a] seen [w] seen')
    {starts : List α} {seen seen' : List κ} {forest : List (WalkTree α)}
    (h : walkEach go starts seen = some (forest, seen')) :
    Walk key children starts seen forest seen' := by
  induction starts generalizing seen forest with
  | nil =>
    cases h
    exact .nil
  | cons a rest ih =>
    rw [walkEach, Option.bind_eq_bind, Option.bind_eq_some_iff] at h
    obtain ⟨⟨first, seen₁⟩, hfirst, h⟩ := h
    rw [Option.bind_eq_bind, Option.bind_eq_some_iff] at h
    obtain ⟨⟨others, seen₂⟩, hothers, h⟩ := h
    cases h
    exact (hgo a seen first seen₁ hfirst).append (ih hothers)

theorem walk_walks {a : α} {seen seen' : List κ} {w : WalkTree α}
    (h : walk key children fuel a seen = some (w, seen')) :
    Walk key children [a] seen [w] seen' := by
  induction fuel generalizing a seen seen' w with
  | zero => cases h
  | succ fuel ih =>
    rw [walk] at h
    split at h
    · rename_i hmem
      cases h
      exact .again hmem
    · rename_i hmem
      rw [Option.bind_eq_bind, Option.bind_eq_some_iff] at h
      obtain ⟨⟨below, seen₁⟩, hbelow, h⟩ := h
      cases h
      exact .node hmem (walkEach_walks (fun a seen w seen' h => ih h) hbelow)

omit [DecidableEq κ] in
/-- Each of the walks ends, when they meet no new names or few enough. -/
theorem walkEach_ends {go : α → List κ → Option (WalkTree α × List κ)} {starts : List α}
    (fits : List κ → Prop) {seen : List κ} (hseen : fits seen)
    (hgo : ∀ a ∈ starts, ∀ seen, fits seen → ∃ w seen', go a seen = some (w, seen') ∧ fits seen') :
    ∃ forest seen', walkEach go starts seen = some (forest, seen') := by
  induction starts generalizing seen with
  | nil => exact ⟨[], seen, rfl⟩
  | cons a rest ih =>
    obtain ⟨hhead, hrest⟩ := List.forall_mem_cons.1 hgo
    obtain ⟨first, seen₁, hfirst, hseen₁⟩ := hhead seen hseen
    obtain ⟨others, seen₂, hothers⟩ := ih hseen₁ hrest
    refine ⟨first :: others, seen₂, ?_⟩
    rw [walkEach, hfirst]
    show (walkEach go rest seen₁).bind _ = _
    rw [hothers]
    rfl

/-- A walk goes down once for each name that is not seen, so it ends. -/
theorem walk_ends (children : α → List α) {known : List α}
    (hchildren : ∀ a ∈ known, ∀ c ∈ children a, c ∈ known)
    {a : α} (ha : a ∈ known) {seen : List κ}
    (hfuel : ((known.map key).filter (· ∉ seen)).length < fuel) :
    ∃ w seen', walk key children fuel a seen = some (w, seen') := by
  induction fuel generalizing a seen with
  | zero => omega
  | succ fuel ih =>
    rw [walk]
    split
    · exact ⟨_, _, rfl⟩
    · rename_i hmem
      -- Whoever goes down from here has at least this name more behind it.
      have hless (seen' : List κ) (h : key a ∈ seen' ∧ ∀ k ∈ seen, k ∈ seen') :
          ((known.map key).filter (· ∉ seen')).length < fuel := by
        refine lt_of_lt_of_le ?_ (Nat.le_of_lt_succ hfuel)
        have hfilter : (known.map key).filter (· ∉ seen') =
            ((known.map key).filter (· ∉ seen)).filter (· ∉ seen') := by
          rw [List.filter_filter]
          refine List.filter_congr fun k _ => ?_
          by_cases hk : k ∈ seen
          · simp [hk, h.2 k hk]
          · simp [hk]
        rw [hfilter, List.length_filter_lt_length_iff_exists]
        refine ⟨key a, List.mem_filter.2 ⟨List.mem_map_of_mem ha, by simpa using hmem⟩, ?_⟩
        simp [h.1]
      obtain ⟨forest, seen', hforest⟩ : ∃ forest seen',
          walkEach (walk key children fuel) (children a) (key a :: seen) = some (forest, seen') := by
        refine walkEach_ends (fun seen' => key a ∈ seen' ∧ ∀ k ∈ seen, k ∈ seen')
          ⟨List.mem_cons_self, fun k hk => List.mem_cons_of_mem _ hk⟩ fun c hc seen' hfits => ?_
        obtain ⟨w, seen'', hw⟩ := ih (hchildren a ha c hc) (hless seen' hfits)
        have hwalk := walk_walks hw
        exact ⟨w, seen'', hw, (hwalk.memory _).2 (.inl hfits.1),
          fun k hk => (hwalk.memory _).2 (.inl (hfits.2 k hk))⟩
      rw [hforest]
      exact ⟨_, _, rfl⟩

end Walking

end Library
