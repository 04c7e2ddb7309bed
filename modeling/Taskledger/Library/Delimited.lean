import Taskledger.Library.PlainData
import Mathlib.Data.List.Basic

/-!
# Delimited records

Pairs of fields written one after the other: a mark between the fields of a pair, and
a separator between pairs. When the mark is in no field and the separator in no first
field, the text tells the pairs.
-/

namespace Library

variable {α : Type} {sep mark : α}

/-- The pairs after the first. -/
def recordsTail (sep mark : α) : List (List α × List α) → List α
  | [] => []
  | (k, v) :: rest => sep :: (k ++ mark :: (v ++ recordsTail sep mark rest))

/-- The text of a list of pairs. -/
def recordsText (sep mark : α) : List (List α × List α) → List α
  | [] => []
  | (k, v) :: rest => k ++ mark :: (v ++ recordsTail sep mark rest)

/-- The first field has neither separator nor mark, the second has no mark. -/
def Plain (sep mark : α) (r : List α × List α) : Prop :=
  sep ∉ r.1 ∧ mark ∉ r.1 ∧ mark ∉ r.2

/-- Two texts cut at the first occurrence of an element. -/
theorem cut_at_first {a : α} {xs xs' ys ys' : List α} (hx : a ∉ xs) (hx' : a ∉ xs')
    (h : xs ++ a :: ys = xs' ++ a :: ys') : xs = xs' ∧ ys = ys' := by
  induction xs generalizing xs' with
  | nil =>
    cases xs' with
    | nil => exact ⟨rfl, (List.cons.inj h).2⟩
    | cons b xs' => exact absurd (List.cons.inj h).1 (List.ne_of_not_mem_cons hx')
  | cons c xs ih =>
    cases xs' with
    | nil => exact absurd (List.cons.inj h).1.symm (List.ne_of_not_mem_cons hx)
    | cons b xs' =>
      obtain ⟨rfl, htail⟩ := List.cons.inj h
      obtain ⟨rfl, hys⟩ := ih (List.not_mem_of_not_mem_cons hx) (List.not_mem_of_not_mem_cons hx')
        htail
      exact ⟨rfl, hys⟩

/-- Two texts cut at the last occurrence of an element. -/
theorem cut_at_last {a : α} {xs xs' ys ys' : List α} (hy : a ∉ ys) (hy' : a ∉ ys')
    (h : xs ++ a :: ys = xs' ++ a :: ys') : xs = xs' ∧ ys = ys' := by
  have hrev : ys.reverse ++ a :: xs.reverse = ys'.reverse ++ a :: xs'.reverse := by
    simpa using congrArg List.reverse h
  obtain ⟨hys, hxs⟩ := cut_at_first (by simpa using hy) (by simpa using hy') hrev
  exact ⟨List.reverse_injective hxs, List.reverse_injective hys⟩

/-- The text of plain pairs tells the pairs. -/
theorem recordsText_inj (hne : sep ≠ mark) {l l' : List (List α × List α)}
    (hl : ∀ r ∈ l, Plain sep mark r) (hl' : ∀ r ∈ l', Plain sep mark r)
    (h : recordsText sep mark l = recordsText sep mark l') : l = l' := by
  induction l generalizing l' with
  | nil =>
    cases l' with
    | nil => rfl
    | cons r' rest' => simp [recordsText] at h
  | cons r rest ih =>
    cases l' with
    | nil => simp [recordsText] at h
    | cons r' rest' =>
      obtain ⟨k, v⟩ := r
      obtain ⟨k', v'⟩ := r'
      obtain ⟨hkv, hrest⟩ := List.forall_mem_cons.1 hl
      obtain ⟨hkv', hrest'⟩ := List.forall_mem_cons.1 hl'
      obtain ⟨hk, htail⟩ := cut_at_first hkv.2.1 hkv'.2.1 h
      subst hk
      cases rest with
      | nil =>
        cases rest' with
        | nil =>
          have hv : v = v' := by simpa [recordsTail] using htail
          rw [hv]
        | cons r₂ rest₂ =>
          have hmark : mark ∈ v' ++ recordsTail sep mark (r₂ :: rest₂) := by simp [recordsTail]
          rw [← htail] at hmark
          exact absurd hmark (by simpa [recordsTail] using hkv.2.2)
      | cons r₁ rest₁ =>
        cases rest' with
        | nil =>
          have hmark : mark ∈ v ++ recordsTail sep mark (r₁ :: rest₁) := by simp [recordsTail]
          rw [htail] at hmark
          exact absurd hmark (by simpa [recordsTail] using hkv'.2.2)
        | cons r₂ rest₂ =>
          obtain ⟨hk₁, hm₁, -⟩ := hrest r₁ (by simp)
          obtain ⟨hk₂, hm₂, -⟩ := hrest' r₂ (by simp)
          -- up to the next mark: the value, the separator and the next key
          have hcut : (v ++ sep :: r₁.1) ++ mark :: (r₁.2 ++ recordsTail sep mark rest₁) =
              (v' ++ sep :: r₂.1) ++ mark :: (r₂.2 ++ recordsTail sep mark rest₂) := by
            simpa [recordsTail] using htail
          have hnot {w key : List α} (hw : mark ∉ w) (hkey : mark ∉ key) : mark ∉ w ++ sep :: key := by
            simp [hw, hkey, hne.symm]
          obtain ⟨hbefore, hafter⟩ := cut_at_first (hnot hkv.2.2 hm₁) (hnot hkv'.2.2 hm₂) hcut
          obtain ⟨rfl, hkey⟩ := cut_at_last hk₁ hk₂ hbefore
          have htext : recordsText sep mark (r₁ :: rest₁) = recordsText sep mark (r₂ :: rest₂) := by
            rw [recordsText, recordsText, hkey, hafter]
          rw [ih hrest hrest' htext]

/-- A joined list of marked pairs, as characters. -/
theorem toList_join_marked (sep mark : Char) (l : List (String × String)) :
    (Text.join (String.singleton sep) (l.map fun r => r.1 ++ String.singleton mark ++ r.2)).toList =
      recordsText sep mark (l.map fun r => (r.1.toList, r.2.toList)) := by
  induction l with
  | nil => rfl
  | cons r rest ih =>
    cases rest with
    | nil => simp [Text.join, recordsText, recordsTail]
    | cons r₁ rest₁ =>
      have hjoin : (Text.join (String.singleton sep)
          ((r :: r₁ :: rest₁).map fun r => r.1 ++ String.singleton mark ++ r.2)).toList =
          (r.1 ++ String.singleton mark ++ r.2 ++ String.singleton sep).toList ++
            (Text.join (String.singleton sep)
              ((r₁ :: rest₁).map fun r => r.1 ++ String.singleton mark ++ r.2)).toList := by
        simp [Text.join]
      rw [hjoin, ih]
      simp [recordsText, recordsTail]

end Library
