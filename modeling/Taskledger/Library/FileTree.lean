import Mathlib.Data.List.Basic
import Mathlib.Order.Basic
import Mathlib.Data.String.Basic
import Mathlib.Tactic

/-!
# Trees of files

A directory is the list of its entries in the order of their names. The entries of a directory
are looked up and replaced by name, and a path leads down from one to the next.
-/

namespace Library

/-- A file or a directory. -/
inductive FileTree (γ : Type) where
  | file (content : γ)
  | dir (entries : List (String × FileTree γ))

/-- The entries of a directory. -/
abbrev Entries (γ : Type) : Type := List (String × FileTree γ)

variable {γ : Type} {n m : String} {t u : FileTree γ} {es : Entries γ}

namespace Entries

/-- The entry of a name. -/
def get? (n : String) : Entries γ → Option (FileTree γ)
  | [] => none
  | (m, t) :: rest => if n = m then some t else get? n rest

/-- Replace the entry of a name, or add it in its place. -/
def set (n : String) (t : FileTree γ) : Entries γ → Entries γ
  | [] => [(n, t)]
  | (m, u) :: rest =>
    if n < m then (n, t) :: (m, u) :: rest
    else if n = m then (n, t) :: rest
    else (m, u) :: set n t rest

/-- The names are in order, and no two are the same. -/
def Sorted (es : Entries γ) : Prop := es.Pairwise fun a b => a.1 < b.1

theorem get?_cons : get? n ((m, t) :: es) = if n = m then some t else get? n es := rfl

theorem get?_eq_none_iff : get? n es = none ↔ n ∉ es.map Prod.fst := by
  induction es with
  | nil => exact ⟨fun _ => List.not_mem_nil, fun _ => rfl⟩
  | cons e rest ih =>
    obtain ⟨m, u⟩ := e
    rw [get?_cons, List.map_cons, List.mem_cons, not_or, ← ih]
    split
    · rename_i hnm
      exact ⟨fun h => (by cases h), fun h => absurd hnm h.1⟩
    · rename_i hne
      exact ⟨fun h => ⟨hne, h⟩, fun h => h.2⟩

theorem mem_of_get? (h : get? n es = some t) : (n, t) ∈ es := by
  induction es with
  | nil => cases h
  | cons e rest ih =>
    obtain ⟨m, u⟩ := e
    rw [get?_cons] at h
    split at h
    · rename_i hnm
      cases h
      exact hnm ▸ List.mem_cons_self
    · exact List.mem_cons_of_mem _ (ih h)

theorem get?_of_mem (hs : es.Sorted) (h : (n, t) ∈ es) : get? n es = some t := by
  induction es with
  | nil => cases h
  | cons e rest ih =>
    obtain ⟨m, u⟩ := e
    obtain ⟨hfirst, hrest⟩ := List.pairwise_cons.1 hs
    rw [get?_cons]
    rcases List.mem_cons.1 h with heq | hmem
    · cases heq
      rw [if_pos rfl]
    · have hlt : m < n := hfirst (n, t) hmem
      rw [if_neg (Ne.symm (ne_of_lt hlt))]
      exact ih hrest hmem

theorem get?_set_self : get? n (set n t es) = some t := by
  induction es with
  | nil => simp [set, get?]
  | cons e rest ih =>
    obtain ⟨m, u⟩ := e
    rw [set]
    split
    · rw [get?_cons, if_pos rfl]
    · split
      · rw [get?_cons, if_pos rfl]
      · rename_i hne
        rw [get?_cons, if_neg hne, ih]

theorem get?_set_of_ne (h : m ≠ n) : get? m (set n t es) = get? m es := by
  induction es with
  | nil => simp [set, get?, h]
  | cons e rest ih =>
    obtain ⟨k, u⟩ := e
    rw [set]
    split
    · rw [get?_cons, if_neg h]
    · split
      · rename_i heq
        rw [get?_cons, if_neg h, get?_cons, if_neg (heq ▸ h)]
      · rw [get?_cons, get?_cons, ih]

theorem mem_set {e : String × FileTree γ} (h : e ∈ set n t es) : e = (n, t) ∨ e ∈ es := by
  induction es with
  | nil => exact .inl (List.mem_singleton.1 h)
  | cons e' rest ih =>
    obtain ⟨m, u⟩ := e'
    rw [set] at h
    split at h
    · exact List.mem_cons.1 h
    · split at h
      · rcases List.mem_cons.1 h with heq | hmem
        · exact .inl heq
        · exact .inr (List.mem_cons_of_mem _ hmem)
      · rcases List.mem_cons.1 h with heq | hmem
        · exact .inr (heq ▸ List.mem_cons_self)
        · exact (ih hmem).imp_right (List.mem_cons_of_mem _)

theorem Sorted.set (hs : es.Sorted) : (Entries.set n t es).Sorted := by
  induction es with
  | nil => exact List.pairwise_singleton _ _
  | cons e rest ih =>
    obtain ⟨m, u⟩ := e
    obtain ⟨hfirst, hrest⟩ := List.pairwise_cons.1 hs
    rw [Entries.set]
    split
    · rename_i hlt
      refine List.pairwise_cons.2 ⟨fun a ha => ?_, hs⟩
      rcases List.mem_cons.1 ha with rfl | ha
      · exact hlt
      · exact lt_trans hlt (hfirst a ha)
    · split
      · rename_i heq
        exact List.pairwise_cons.2 ⟨fun a ha => heq ▸ hfirst a ha, hrest⟩
      · rename_i hnot hne
        refine List.pairwise_cons.2 ⟨fun a ha => ?_, ih hrest⟩
        rcases mem_set ha with rfl | ha
        · exact lt_of_le_of_ne (not_lt.1 hnot) (Ne.symm hne)
        · exact hfirst a ha

/-- Replacing an entry by itself changes nothing. -/
theorem set_get? (hs : es.Sorted) (h : get? n es = some t) : set n t es = es := by
  induction es with
  | nil => cases h
  | cons e rest ih =>
    obtain ⟨m, u⟩ := e
    obtain ⟨hfirst, hrest⟩ := List.pairwise_cons.1 hs
    rw [get?_cons] at h
    rw [set]
    by_cases hnm : n = m
    · rw [if_pos hnm] at h
      cases h
      rw [if_neg (hnm ▸ lt_irrefl _), if_pos hnm, hnm]
    · rw [if_neg hnm] at h
      have hlt : m < n := hfirst (n, t) (mem_of_get? h)
      rw [if_neg (not_lt.2 hlt.le), if_neg hnm, ih hrest h]

theorem set_eq_self_iff (hs : es.Sorted) : set n t es = es ↔ get? n es = some t := by
  constructor
  · intro h
    rw [← h]
    exact get?_set_self
  · exact set_get? hs

end Entries

namespace FileTree

/-- What holds of files, and of a directory when it holds of its entries, holds of every tree. -/
theorem induction {P : FileTree γ → Prop} (hfile : ∀ c, P (.file c))
    (hdir : ∀ es : Entries γ, (∀ e ∈ es, P e.2) → P (.dir es)) (t : FileTree γ) : P t := by
  refine @FileTree.rec γ P (fun es => ∀ e ∈ es, P e.2) (fun e => P e.2) hfile hdir ?_ ?_ ?_ t
  · intro e he
    cases he
  · intro e rest he hrest
    exact List.forall_mem_cons.2 ⟨he, hrest⟩
  · intro n t ht
    exact ht

/-- The tree at the end of a path. -/
def at? : List String → FileTree γ → Option (FileTree γ)
  | [], t => some t
  | _ :: _, .file _ => none
  | n :: path, .dir es => (Entries.get? n es).bind (at? path)

/-- Every directory lists its entries in the order of their names. -/
inductive Ordered : FileTree γ → Prop where
  | file (c : γ) : Ordered (.file c)
  | dir (es : Entries γ) (hs : es.Sorted) (hes : ∀ e ∈ es, Ordered e.2) : Ordered (.dir es)

theorem at?_dir {path : List String} :
    at? (n :: path) (.dir es) = (Entries.get? n es).bind (at? path) := rfl

mutual

/-- A file of the first tree stands where the second has a file, and `p` holds of their name and
their contents. Where a file stands against a directory, `odd` decides. -/
def meets (odd : Bool) (p : String → γ → γ → Bool) (n : String) :
    FileTree γ → Option (FileTree γ) → Bool
  | _, none => false
  | .file a, some (.file b) => p n a b
  | .file _, some (.dir _) => odd
  | .dir _, some (.file _) => odd
  | .dir es, some (.dir us) => entriesMeet odd p es us

def entriesMeet (odd : Bool) (p : String → γ → γ → Bool) : Entries γ → Entries γ → Bool
  | [], _ => false
  | (n, t) :: rest, us => meets odd p n t (Entries.get? n us) || entriesMeet odd p rest us

end

section Meetings

variable {odd : Bool} {p : String → γ → γ → Bool}

theorem meets_none : meets odd p n t none = false := by
  cases t <;> rfl

theorem entriesMeet_cons {us : Entries γ} : entriesMeet odd p ((n, t) :: es) us =
    (meets odd p n t (Entries.get? n us) || entriesMeet odd p es us) := rfl

theorem entriesMeet_nil : entriesMeet odd p es [] = false := by
  induction es with
  | nil => rfl
  | cons e rest ih =>
    obtain ⟨n, t⟩ := e
    rw [entriesMeet_cons, ih, Bool.or_false]
    exact meets_none

/-- What stands against other names does not matter. -/
theorem entriesMeet_set {us : Entries γ} (h : ∀ e ∈ es, e.1 ≠ n) :
    entriesMeet odd p es (Entries.set n t us) = entriesMeet odd p es us := by
  induction es with
  | nil => rfl
  | cons e rest ih =>
    obtain ⟨m, u⟩ := e
    obtain ⟨hm, hrest⟩ := List.forall_mem_cons.1 h
    rw [entriesMeet_cons, entriesMeet_cons, Entries.get?_set_of_ne hm, ih hrest]

end Meetings

end FileTree

end Library
