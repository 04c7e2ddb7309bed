import Mathlib.Data.List.Basic
import Mathlib.Data.List.Infix

/-!
# Least pieces

A list is cut into pieces by a reader that accepts some of its parts: each piece is the
shortest part, from where the last piece ended, that the reader accepts. Such a cut is the
only one of its kind, so it can be edited piece by piece.
-/

namespace Library

variable {α β : Type} {read : List α → Option β}

/-- The pieces of a list; `piece` is what is cut off and not accepted so far. -/
def cutFrom (read : List α → Option β) (piece : List α) :
    List α → Option (List (List α × β))
  | [] => if piece.isEmpty then some [] else none
  | a :: rest =>
    match read (piece ++ [a]) with
    | some b => (fun others => (piece ++ [a], b) :: others) <$> cutFrom read [] rest
    | none => cutFrom read (piece ++ [a]) rest

/-- The least pieces of a list, each with what was read from it. -/
def cutLeast (read : List α → Option β) (l : List α) : Option (List (List α × β)) :=
  cutFrom read [] l

/-- An accepted piece of which no shorter start is accepted. -/
structure LeastPiece (read : List α → Option β) (p : List α × β) : Prop where
  nonempty : p.1 ≠ []
  accepted : read p.1 = some p.2
  least : ∀ q, q <+: p.1 → q ≠ [] → q ≠ p.1 → read q = none

/-- A single element that is accepted is a least piece. -/
theorem LeastPiece.single {a : α} {b : β} (h : read [a] = some b) : LeastPiece read ([a], b) where
  nonempty := List.cons_ne_nil _ _
  accepted := h
  least q hq hne hproper := by
    rcases List.prefix_cons_iff.1 hq with rfl | ⟨t, rfl, ht⟩
    · exact absurd rfl hne
    · rw [List.prefix_nil.1 ht] at hproper
      exact absurd rfl hproper

/-- What is cut off is not accepted, and neither is a start of it. -/
def Unread (read : List α → Option β) (piece : List α) : Prop :=
  ∀ q, q <+: piece → q ≠ [] → read q = none

theorem Unread.nil : Unread read [] := fun _ hq hne => absurd (List.prefix_nil.1 hq) hne

theorem Unread.snoc {piece : List α} {a : α} (h : Unread read piece)
    (ha : read (piece ++ [a]) = none) : Unread read (piece ++ [a]) := by
  intro q hq hne
  rcases List.prefix_concat_iff.1 hq with rfl | hq
  · exact ha
  · exact h q hq hne

theorem cutFrom_sound {piece l : List α} {ps : List (List α × β)} (hpiece : Unread read piece)
    (h : cutFrom read piece l = some ps) :
    piece ++ l = (ps.map Prod.fst).flatten ∧ ∀ p ∈ ps, LeastPiece read p := by
  induction l generalizing piece ps with
  | nil =>
    rw [cutFrom] at h
    split at h
    · rename_i hempty
      cases h
      rw [List.isEmpty_iff.1 hempty]
      exact ⟨rfl, nofun⟩
    · cases h
  | cons a rest ih =>
    rw [cutFrom] at h
    cases hread : read (piece ++ [a]) with
    | none =>
      rw [hread] at h
      obtain ⟨hflat, hleast⟩ := ih (hpiece.snoc hread) h
      rw [List.append_assoc] at hflat
      exact ⟨hflat, hleast⟩
    | some b =>
      rw [hread] at h
      obtain ⟨others, hothers, rfl⟩ := Option.map_eq_some_iff.1 h
      obtain ⟨hflat, hleast⟩ := ih Unread.nil
        hothers
      constructor
      · rw [List.map_cons, List.flatten_cons, ← hflat, List.append_assoc]
        rfl
      · refine List.forall_mem_cons.2 ⟨⟨by simp, hread, fun q hq hne hproper => ?_⟩, hleast⟩
        exact hpiece q ((List.prefix_concat_iff.1 hq).resolve_left hproper) hne

theorem cutFrom_complete {piece l : List α} {ps : List (List α × β)} (hpiece : Unread read piece)
    (hflat : piece ++ l = (ps.map Prod.fst).flatten) (hleast : ∀ p ∈ ps, LeastPiece read p) :
    cutFrom read piece l = some ps := by
  induction l generalizing piece ps with
  | nil =>
    cases ps with
    | nil =>
      have hnil : piece = [] := by simpa using hflat
      rw [cutFrom, if_pos (List.isEmpty_iff.2 hnil)]
    | cons p others =>
      obtain ⟨hp, -⟩ := List.forall_mem_cons.1 hleast
      rw [List.append_nil, List.map_cons, List.flatten_cons] at hflat
      have hnone := hpiece p.1 (hflat ▸ List.prefix_append _ _) hp.nonempty
      rw [hp.accepted] at hnone
      cases hnone
  | cons a rest ih =>
    cases ps with
    | nil => simp at hflat
    | cons p others =>
      obtain ⟨hp, hothers⟩ := List.forall_mem_cons.1 hleast
      rw [List.map_cons, List.flatten_cons] at hflat
      have hsplit : piece ++ [a] ++ rest = p.1 ++ (others.map Prod.fst).flatten := by
        rw [← hflat, List.append_assoc, List.singleton_append]
      have hne : piece ++ [a] ≠ [] := by simp
      rw [cutFrom]
      -- the piece cut off so far and the next piece are both starts of one list
      rcases List.prefix_or_prefix_of_prefix (List.prefix_append (piece ++ [a]) rest)
        (hsplit ▸ List.prefix_append p.1 _) with hstart | hend
      · by_cases heq : piece ++ [a] = p.1
        · rw [heq, hp.accepted]
          rw [heq] at hsplit
          have hrest := List.append_cancel_left hsplit
          have hcut := ih Unread.nil hrest
            hothers
          simp [hcut]
        · rw [hp.least _ hstart hne heq]
          refine ih (hpiece.snoc (hp.least _ hstart hne heq)) ?_ hleast
          rw [hsplit]
          rfl
      · rcases List.prefix_concat_iff.1 hend with heq | hshort
        · rw [← heq, hp.accepted]
          rw [← heq] at hsplit
          have hrest := List.append_cancel_left hsplit
          have hcut := ih Unread.nil hrest
            hothers
          simp [hcut]
        · have hnone := hpiece p.1 hshort hp.nonempty
          rw [hp.accepted] at hnone
          cases hnone

/-- The cut of a list into least pieces is the only one. -/
theorem cutLeast_eq_some_iff {l : List α} {ps : List (List α × β)} :
    cutLeast read l = some ps ↔ l = (ps.map Prod.fst).flatten ∧ ∀ p ∈ ps, LeastPiece read p := by
  exact ⟨cutFrom_sound Unread.nil, fun ⟨hflat, hleast⟩ => cutFrom_complete Unread.nil hflat hleast⟩

theorem cutLeast_append {l m : List α} {ps qs : List (List α × β)}
    (hl : cutLeast read l = some ps) (hm : cutLeast read m = some qs) :
    cutLeast read (l ++ m) = some (ps ++ qs) := by
  rw [cutLeast_eq_some_iff] at *
  refine ⟨by rw [hl.1, hm.1, List.map_append, List.flatten_append], fun p hp => ?_⟩
  rcases List.mem_append.1 hp with hp | hp
  · exact hl.2 p hp
  · exact hm.2 p hp

/-- Elements that are accepted one by one. -/
theorem cutLeast_singles {l : List α} {f : α → β} (h : ∀ a ∈ l, read [a] = some (f a)) :
    cutLeast read l = some (l.map fun a => ([a], f a)) := by
  rw [cutLeast_eq_some_iff]
  constructor
  · rw [List.map_map]
    induction l with
    | nil => rfl
    | cons a rest ih =>
      rw [List.map_cons, List.flatten_cons, ← ih fun b hb => h b (List.mem_cons_of_mem a hb)]
      rfl
  · intro p hp
    obtain ⟨a, ha, rfl⟩ := List.mem_map.1 hp
    exact LeastPiece.single (h a ha)

/-- Pieces edited element by element, when what comes out are least pieces. -/
theorem cutLeast_map {l : List α} {ps : List (List α × β)} {f : α → α} {g : List α × β → β}
    (hl : cutLeast read l = some ps) (h : ∀ p ∈ ps, LeastPiece read (p.1.map f, g p)) :
    cutLeast read (l.map f) = some (ps.map fun p => (p.1.map f, g p)) := by
  rw [cutLeast_eq_some_iff] at *
  constructor
  · rw [hl.1, List.map_flatten, List.map_map, List.map_map]
    rfl
  · intro q hq
    obtain ⟨p, hp, rfl⟩ := List.mem_map.1 hq
    exact h p hp

end Library
