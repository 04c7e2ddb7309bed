import Mathlib.Data.List.Basic
import Mathlib.Data.List.Nodup

/-!
# Directories of records

A directory holds at most one file for each name, and the name of a file is
computed from the record it holds. Saving a record writes the file of its name,
over whatever that file held before.
-/

namespace Library

variable {α κ : Type} {key : α → κ}

/-- Files named by `key`, no name twice, in the order of their creation. -/
structure Directory (key : α → κ) where
  files : List α
  nodup : (files.map key).Nodup

namespace Directory

/-- The directory with no file. -/
def empty : Directory key where
  files := []
  nodup := List.nodup_nil

/-- Remove the files whose content meets `p`. -/
def removeWhere (d : Directory key) (p : α → Bool) : Directory key where
  files := d.files.filter fun a => !p a
  nodup := (List.filter_sublist.map key).nodup d.nodup

/-- Removing what is not there changes nothing. -/
theorem removeWhere_none {d : Directory key} {p : α → Bool} (h : ∀ a ∈ d.files, p a = false) :
    d.removeWhere p = d := by
  obtain ⟨files, nodup⟩ := d
  have hfiles : (files.filter fun a => !p a) = files :=
    List.filter_eq_self.2 fun a ha => by simp [h a ha]
  simp only [removeWhere, hfiles]

theorem mem_files_removeWhere {d : Directory key} {p : α → Bool} {a : α} :
    a ∈ (d.removeWhere p).files ↔ a ∈ d.files ∧ p a = false := by
  simp [removeWhere]

variable [DecidableEq κ]

/-- The content of the file named `k`. -/
def lookup (d : Directory key) (k : κ) : Option α :=
  d.files.find? fun a => key a = k

/-- Replace the element with the key of `a` by `a`, or append `a`. -/
def place (key : α → κ) (a : α) : List α → List α
  | [] => [a]
  | b :: rest => if key b = key a then a :: rest else b :: place key a rest

theorem mem_place {a b : α} {l : List α} (h : (l.map key).Nodup) :
    b ∈ place key a l ↔ b = a ∨ b ∈ l ∧ key b ≠ key a := by
  induction l with
  | nil => simp [place]
  | cons c rest ih =>
    rw [List.map_cons, List.nodup_cons] at h
    by_cases hk : key c = key a
    · have hrest : b ∈ rest → key b ≠ key a := fun hb hba =>
        h.1 (hk.trans hba.symm ▸ List.mem_map_of_mem hb)
      rw [place, if_pos hk, List.mem_cons, List.mem_cons]
      constructor
      · rintro (rfl | hb)
        · exact .inl rfl
        · exact .inr ⟨.inr hb, hrest hb⟩
      · rintro (rfl | ⟨rfl | hb, hne⟩)
        · exact .inl rfl
        · exact absurd hk hne
        · exact .inr hb
    · rw [place, if_neg hk, List.mem_cons, ih h.2, List.mem_cons]
      constructor
      · rintro (rfl | rfl | hb)
        · exact .inr ⟨.inl rfl, hk⟩
        · exact .inl rfl
        · exact .inr ⟨.inr hb.1, hb.2⟩
      · rintro (rfl | ⟨rfl | hb, hne⟩)
        · exact .inr (.inl rfl)
        · exact .inl rfl
        · exact .inr (.inr ⟨hb, hne⟩)

theorem nodup_place (a : α) {l : List α} (h : (l.map key).Nodup) :
    ((place key a l).map key).Nodup := by
  induction l with
  | nil => simp [place]
  | cons b rest ih =>
    have hcons := h
    rw [List.map_cons, List.nodup_cons] at h
    by_cases hk : key b = key a
    · rw [place, if_pos hk, List.map_cons, ← hk]
      exact hcons
    · rw [place, if_neg hk, List.map_cons, List.nodup_cons]
      refine ⟨?_, ih h.2⟩
      intro hmem
      obtain ⟨c, hc, hcb⟩ := List.mem_map.1 hmem
      rcases (mem_place h.2).1 hc with rfl | ⟨hc, -⟩
      · exact hk hcb.symm
      · exact h.1 (hcb ▸ List.mem_map_of_mem hc)

/-- A written file keeps what the other names say. -/
theorem sublist_map_place {β : Type} {f : α → β} {a : α} {l : List α}
    (hf : ∀ b c, key b = key c → f b = f c) :
    (l.map f).Sublist ((place key a l).map f) := by
  induction l with
  | nil => exact List.nil_sublist _
  | cons b rest ih =>
    by_cases hk : key b = key a
    · rw [place, if_pos hk, List.map_cons, List.map_cons, hf b a hk]
    · rw [place, if_neg hk]
      exact ih.cons_cons _

/-- A written file is not among the files of another kind. -/
theorem filter_place {p : α → Bool} {a : α} {l : List α} (ha : p a = false)
    (hkey : ∀ b, key b = key a → p b = false) : (place key a l).filter p = l.filter p := by
  induction l with
  | nil => simp [place, ha]
  | cons b rest ih =>
    by_cases hk : key b = key a
    · simp [place, if_pos hk, ha, hkey b hk]
    · rw [place, if_neg hk, List.filter_cons, List.filter_cons, ih]

/-- Write the file of `a`. -/
def save (d : Directory key) (a : α) : Directory key where
  files := place key a d.files
  nodup := nodup_place a d.nodup

/-- Remove the file named `k`, if there is one. -/
def remove (d : Directory key) (k : κ) : Directory key :=
  d.removeWhere fun a => decide (key a = k)

-- ════════════════════════════════════════════════════════════════════════
-- Looking files up
-- ════════════════════════════════════════════════════════════════════════

/-- A name leads to a record exactly when the record is there under it. -/
theorem lookup_eq_some_iff {d : Directory key} {k : κ} {a : α} :
    d.lookup k = some a ↔ a ∈ d.files ∧ key a = k := by
  constructor
  · intro h
    exact ⟨List.mem_of_find?_eq_some h, by simpa using List.find?_some h⟩
  · rintro ⟨ha, rfl⟩
    cases hb : d.lookup (key a) with
    | none =>
      have hnone : ∀ b ∈ d.files, key b ≠ key a := by simpa [lookup] using hb
      exact absurd rfl (hnone a ha)
    | some b =>
      have hmem : b ∈ d.files := List.mem_of_find?_eq_some hb
      have hkey : key b = key a := by simpa using List.find?_some hb
      rw [List.inj_on_of_nodup_map d.nodup hmem ha hkey]

theorem key_of_lookup {d : Directory key} {k : κ} {a : α} (h : d.lookup k = some a) :
    key a = k :=
  (lookup_eq_some_iff.1 h).2

theorem mem_of_lookup {d : Directory key} {k : κ} {a : α} (h : d.lookup k = some a) :
    a ∈ d.files :=
  (lookup_eq_some_iff.1 h).1

theorem lookup_of_mem {d : Directory key} {a : α} (h : a ∈ d.files) :
    d.lookup (key a) = some a :=
  lookup_eq_some_iff.2 ⟨h, rfl⟩

theorem lookup_eq_none_iff {d : Directory key} {k : κ} :
    d.lookup k = none ↔ ∀ a ∈ d.files, key a ≠ k := by
  simp [lookup]

@[simp]
theorem lookup_empty (k : κ) : (empty : Directory key).lookup k = none := rfl

theorem mem_files_save {d : Directory key} {a b : α} :
    b ∈ (d.save a).files ↔ b = a ∨ b ∈ d.files ∧ key b ≠ key a :=
  mem_place d.nodup

theorem lookup_save (d : Directory key) (a : α) (k : κ) :
    (d.save a).lookup k = if key a = k then some a else d.lookup k := by
  ext b
  rw [lookup_eq_some_iff, mem_files_save]
  by_cases h : key a = k
  · subst h
    rw [if_pos rfl, Option.some_inj]
    constructor
    · rintro ⟨rfl | ⟨-, hne⟩, hb⟩
      · rfl
      · exact absurd hb hne
    · rintro rfl
      exact ⟨.inl rfl, rfl⟩
  · rw [if_neg h, lookup_eq_some_iff]
    constructor
    · rintro ⟨rfl | ⟨hb, -⟩, hk⟩
      · exact absurd hk h
      · exact ⟨hb, hk⟩
    · rintro ⟨hb, hk⟩
      exact ⟨.inr ⟨hb, fun hba => h (hba ▸ hk)⟩, hk⟩

@[simp]
theorem lookup_save_self (d : Directory key) (a : α) : (d.save a).lookup (key a) = some a := by
  simp [lookup_save]

theorem lookup_save_of_ne (d : Directory key) {a : α} {k : κ} (h : key a ≠ k) :
    (d.save a).lookup k = d.lookup k := by
  simp [lookup_save, h]

/-- After several writes a name leads to the last record written under it, or to what was
there when none was. -/
theorem lookup_saves (d : Directory key) (l : List α) (k : κ) :
    (∃ a ∈ l, key a = k ∧ (l.foldl save d).lookup k = some a) ∨
      (∀ a ∈ l, key a ≠ k) ∧ (l.foldl save d).lookup k = d.lookup k := by
  induction l generalizing d with
  | nil => exact .inr ⟨by simp, rfl⟩
  | cons a rest ih =>
    rcases ih (d.save a) with ⟨b, hb, hk, hlookup⟩ | ⟨hno, hlookup⟩
    · exact .inl ⟨b, List.mem_cons_of_mem _ hb, hk, hlookup⟩
    · rw [lookup_save] at hlookup
      by_cases hk : key a = k
      · rw [if_pos hk] at hlookup
        exact .inl ⟨a, by simp, hk, hlookup⟩
      · rw [if_neg hk] at hlookup
        exact .inr ⟨by simpa [hk] using hno, hlookup⟩

theorem lookup_remove (d : Directory key) (k k' : κ) :
    (d.remove k).lookup k' = if k = k' then none else d.lookup k' := by
  ext b
  rw [lookup_eq_some_iff, remove, mem_files_removeWhere, decide_eq_false_iff_not]
  by_cases h : k = k'
  · subst h
    rw [if_pos rfl]
    constructor
    · rintro ⟨⟨-, hne⟩, hk⟩
      exact absurd hk hne
    · intro hb
      cases hb
  · rw [if_neg h, lookup_eq_some_iff]
    constructor
    · rintro ⟨⟨hb, -⟩, hk⟩
      exact ⟨hb, hk⟩
    · rintro ⟨hb, hk⟩
      exact ⟨⟨hb, fun hbk => h (hbk.symm.trans hk)⟩, hk⟩

end Directory

end Library
