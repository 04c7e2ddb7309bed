import Mathlib.Data.List.Sort

/-!
# Tails of a list and of its sorting

The last entries of a list are those of the sorted list exactly when they are in order and
stand after the others. A list that is grouped by keys keeps what was in order.
-/

namespace Library

section Tails

variable {α : Type} {r : α → α → Prop} {n : Nat} {l : List α}

/-- The last `n` entries of a list, or all of them. -/
def lastEntries (n : Nat) (l : List α) : List α := l.drop (l.length - n)

theorem lastEntries_of_le (h : l.length ≤ n) : lastEntries n l = l := by
  rw [lastEntries, Nat.sub_eq_zero_of_le h, List.drop_zero]

/-- The last entries from behind are the first ones. -/
theorem reverse_take_reverse : (l.reverse.take n).reverse = lastEntries n l := by
  rw [List.take_reverse, List.reverse_reverse, lastEntries]

/-- The last entries are in order, and none of them belongs before an earlier one. -/
structure SettledTail (r : α → α → Prop) (n : Nat) (l : List α) : Prop where
  sorted : (lastEntries n l).Pairwise r
  after : ∀ a ∈ l.take (l.length - n), ∀ b ∈ lastEntries n l, r a b

theorem SettledTail.of_pairwise (h : l.Pairwise r) : SettledTail r n l := by
  rw [← List.take_append_drop (l.length - n) l, List.pairwise_append] at h
  exact ⟨h.2.1, h.2.2⟩

variable [DecidableRel r] [Std.Total r] [IsTrans α r]

/-- Two sorted lists of the same entries are one, when no two entries are in order both ways. -/
theorem eq_insertionSort {l' : List α} (hanti : ∀ a ∈ l, ∀ b ∈ l, r a b → r b a → a = b)
    (hperm : l'.Perm l) (hsorted : l'.Pairwise r) : l' = l.insertionSort r := by
  have hsort := List.perm_insertionSort r l
  refine (hperm.trans hsort.symm).eq_of_pairwise (fun a b ha hb => ?_) hsorted
    (List.pairwise_insertionSort r l)
  exact hanti a (hperm.mem_iff.1 ha) b (hsort.mem_iff.1 hb)

/-- The last entries of a list and of its sorting. -/
theorem lastEntries_insertionSort_iff (hanti : ∀ a ∈ l, ∀ b ∈ l, r a b → r b a → a = b) :
    lastEntries n l = lastEntries n (l.insertionSort r) ↔ SettledTail r n l := by
  have hsort := List.perm_insertionSort r l
  have hlength : (l.insertionSort r).length = l.length := List.length_insertionSort r l
  constructor
  · intro h
    unfold lastEntries at h
    rw [hlength] at h
    have hparts := List.take_append_drop (l.length - n) (l.insertionSort r)
    have hpairwise := List.pairwise_insertionSort r l
    rw [← hparts, List.pairwise_append] at hpairwise
    obtain ⟨-, hsorted, hafter⟩ := hpairwise
    rw [← h] at hsorted hafter
    refine ⟨hsorted, fun a ha b hb => hafter a ?_ b hb⟩
    have hwhole : (l.take (l.length - n) ++ l.drop (l.length - n)).Perm
        ((l.insertionSort r).take (l.length - n) ++ l.drop (l.length - n)) := by
      rw [List.take_append_drop, h, hparts]
      exact hsort.symm
    exact ((List.perm_append_right_iff _).1 hwhole).mem_iff.1 ha
  · rintro ⟨hsorted, hafter⟩
    have hfirst := List.perm_insertionSort r (l.take (l.length - n))
    have hwhole : (l.take (l.length - n)).insertionSort r ++ lastEntries n l =
        l.insertionSort r := by
      refine eq_insertionSort hanti ?_ (List.pairwise_append.2
        ⟨List.pairwise_insertionSort r _, hsorted, fun a ha b hb => ?_⟩)
      · have happend := hfirst.append_right (lastEntries n l)
        rw [lastEntries, List.take_append_drop] at happend
        exact happend
      · exact hafter a (hfirst.mem_iff.1 ha) b hb
    have hlong : ((l.take (l.length - n)).insertionSort r).length = l.length - n := by
      rw [List.length_insertionSort, List.length_take]
      omega
    conv_rhs => rw [lastEntries, hlength, ← hwhole, List.drop_left' hlong]

/-- Entries are chosen before or after sorting. -/
theorem filter_insertionSort (hanti : ∀ a ∈ l, ∀ b ∈ l, r a b → r b a → a = b) (p : α → Bool) :
    (l.insertionSort r).filter p = (l.filter p).insertionSort r := by
  refine eq_insertionSort (fun a ha b hb => ?_) ((List.perm_insertionSort r l).filter p)
    ((List.pairwise_insertionSort r l).filter p)
  exact hanti a (List.mem_of_mem_filter ha) b (List.mem_of_mem_filter hb)

end Tails

section Groups

variable {α β κ : Type}

/-- A list in the order of its keys is taken apart key by key. -/
theorem eq_flatMap_filter [LinearOrder κ] {f : α → κ} {keys : List κ} (hkeys : keys.Pairwise (· < ·))
    {l : List α} (hl : l.Pairwise fun a b => f a ≤ f b) (hmem : ∀ a ∈ l, f a ∈ keys) :
    l = keys.flatMap fun k => l.filter fun a => f a = k := by
  induction keys generalizing l with
  | nil =>
    cases l with
    | nil => rfl
    | cons a rest => exact absurd (hmem a List.mem_cons_self) List.not_mem_nil
  | cons k rest ih =>
    obtain ⟨hk, hrest⟩ := List.pairwise_cons.1 hkeys
    have hsplit : l = (l.filter fun a => f a = k) ++ l.filter fun a => f a ≠ k := by
      clear ih
      induction l with
      | nil => rfl
      | cons a others ihl =>
        obtain ⟨ha, hothers⟩ := List.pairwise_cons.1 hl
        have hothersmem : ∀ b ∈ others, f b ∈ k :: rest := fun b hb =>
          hmem b (List.mem_cons_of_mem _ hb)
        by_cases hak : f a = k
        · rw [List.filter_cons_of_pos (by simpa using hak),
            List.filter_cons_of_neg (by simpa using hak), List.cons_append,
            ← ihl hothers hothersmem]
        · have hlater : ∀ b ∈ others, f b ≠ k := by
            intro b hb hbk
            have hka : k < f a := hk _ ((List.mem_cons.1 (hmem a List.mem_cons_self)).resolve_left hak)
            exact absurd (hbk ▸ ha b hb) (not_le.2 hka)
          have hnone : (others.filter fun b => f b = k) = [] := by
            simpa [List.filter_eq_nil_iff] using hlater
          have hall : (others.filter fun b => f b ≠ k) = others := by
            simpa [List.filter_eq_self] using hlater
          rw [List.filter_cons_of_neg (by simpa using hak), hnone,
            List.filter_cons_of_pos (by simpa using hak), hall]
          rfl
    have hlater := ih hrest (hl.filter fun a => f a ≠ k) fun a ha => by
      obtain ⟨ha, hne⟩ := List.mem_filter.1 ha
      exact (List.mem_cons.1 (hmem a ha)).resolve_left (by simpa using hne)
    rw [List.flatMap_cons]
    conv_lhs => rw [hsplit, hlater]
    congr 1
    refine List.flatMap_congr fun k' hk' => ?_
    rw [List.filter_filter]
    refine List.filter_congr fun a _ => ?_
    have hne : k ≠ k' := (hk k' hk').ne
    by_cases hak : f a = k'
    · simp [hak, hne.symm]
    · simp [hak]

/-- Parts of a list that keep parts of others. -/
theorem sublist_flatten {ls ms : List (List β)} (h : List.Forall₂ List.Sublist ls ms) :
    ls.flatten.Sublist ms.flatten := by
  induction h with
  | nil => exact List.Sublist.refl _
  | cons hfirst _ ih =>
    rw [List.flatten_cons, List.flatten_cons]
    exact hfirst.append ih

end Groups

end Library
