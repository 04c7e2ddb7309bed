import Mathlib.Data.List.Basic
import Mathlib.Logic.Function.Basic

/-!
# Transition systems

A system starts in one state and moves by steps that are functions of the state.
`Reachable C` holds the states of the runs whose steps all meet `C`. A machine
moves by labelled moves instead; some labels are quiet, and a walk makes at most
one move that is not. A family of machines changes one member at a time, so what
the moves of one member keep, the family keeps.
-/

namespace Library

-- ════════════════════════════════════════════════════════════════════════
-- Systems
-- ════════════════════════════════════════════════════════════════════════

structure System (σ ι : Type) where
  init : σ
  next : ι → σ → σ

namespace System

variable {σ ι : Type} {sys : System σ ι} {C C' : σ → ι → Prop} {s : σ}

/-- The states of the runs whose steps all meet `C`. -/
inductive Reachable (sys : System σ ι) (C : σ → ι → Prop) : σ → Prop
  | init : Reachable sys C sys.init
  | step {s : σ} (i : ι) (hs : Reachable sys C s) (hi : C s i) : Reachable sys C (sys.next i s)

theorem Reachable.mono (hC : ∀ s i, C s i → C' s i) (h : sys.Reachable C s) :
    sys.Reachable C' s := by
  induction h with
  | init => exact .init
  | step i _ hi ih => exact .step i ih (hC _ i hi)

/-- What holds at the start and is kept by every step holds in every reachable state. -/
theorem Reachable.invariant {I : σ → Prop} (h : sys.Reachable C s) (hinit : I sys.init)
    (hstep : ∀ s i, sys.Reachable C s → I s → C s i → I (sys.next i s)) : I s := by
  induction h with
  | init => exact hinit
  | step i hs hi ih => exact hstep _ i hs ih hi

/-- The state after the steps of a list. -/
def run (sys : System σ ι) (s : σ) : List ι → σ
  | [] => s
  | i :: rest => sys.run (sys.next i s) rest

theorem run_append (sys : System σ ι) (s : σ) (steps rest : List ι) :
    sys.run s (steps ++ rest) = sys.run (sys.run s steps) rest := by
  induction steps generalizing s with
  | nil => rfl
  | cons i _ ih => exact ih (sys.next i s)

/-- Every step of a list meets `C` where it is taken. -/
def Meets (sys : System σ ι) (C : σ → ι → Prop) (s : σ) : List ι → Prop
  | [] => True
  | i :: rest => C s i ∧ sys.Meets C (sys.next i s) rest

instance decidableMeets [∀ s i, Decidable (C s i)] :
    (steps : List ι) → (s : σ) → Decidable (sys.Meets C s steps)
  | [], _ => .isTrue trivial
  | i :: rest, s => @instDecidableAnd _ _ inferInstance (decidableMeets rest (sys.next i s))

/-- A preorder that every step follows where an invariant holds relates the two ends of a run. -/
theorem run_follows {I : σ → Prop} {R : σ → σ → Prop} (hrefl : ∀ s, R s s)
    (htrans : ∀ s t u, R s t → R t u → R s u)
    (hstep : ∀ s i, I s → I (sys.next i s) ∧ R s (sys.next i s)) (hs : I s) (steps : List ι) :
    R s (sys.run s steps) := by
  induction steps generalizing s with
  | nil => exact hrefl s
  | cons i rest ih =>
    obtain ⟨hnext, hfollows⟩ := hstep s i hs
    exact htrans _ _ _ hfollows (ih hnext)

theorem Reachable.run (hs : sys.Reachable C s) {steps : List ι} (h : sys.Meets C s steps) :
    sys.Reachable C (sys.run s steps) := by
  induction steps generalizing s with
  | nil => exact hs
  | cons i rest ih => exact ih (.step i hs h.1) h.2

end System

-- ════════════════════════════════════════════════════════════════════════
-- Machines
-- ════════════════════════════════════════════════════════════════════════

/-- Labelled moves; a quiet label is one an observer does not see. -/
structure Machine (α Λ : Type) where
  move : Λ → α → α → Prop
  quiet : Λ → Prop

namespace Machine

variable {α Λ β : Type} {M : Machine α Λ} {permit permit' : Λ → α → Prop} {v w x : α} {b : Bool}

/-- Moves with permitted labels from `v`; the flag tells whether one of them may be
seen. -/
inductive Walk (M : Machine α Λ) (permit : Λ → α → Prop) (v : α) : Bool → α → Prop
  | stay {b : Bool} : Walk M permit v b v
  | quietly {b : Bool} {w x : α} {l : Λ} (hw : Walk M permit v b w) (hl : M.quiet l)
      (hp : permit l w) (hm : M.move l w x) : Walk M permit v b x
  | loudly {w x : α} {l : Λ} (hw : Walk M permit v false w) (hp : permit l w)
      (hm : M.move l w x) : Walk M permit v true x

theorem Walk.one {l : Λ} (hp : permit l v) (hm : M.move l v w) : M.Walk permit v true w :=
  .loudly .stay hp hm

theorem Walk.oneQuiet {l : Λ} (hl : M.quiet l) (hp : permit l v) (hm : M.move l v w) :
    M.Walk permit v b w :=
  .quietly .stay hl hp hm

/-- A walk in which nothing is seen is one in which something may be. -/
theorem Walk.weaken (h : M.Walk permit v false w) : M.Walk permit v b w := by
  generalize hf : false = f at h
  induction h with
  | stay => exact .stay
  | quietly _ hl hp hm ih => exact .quietly (ih hf) hl hp hm
  | loudly _ _ _ _ => cases hf

theorem Walk.trans (h : M.Walk permit v false w) (h' : M.Walk permit w b x) :
    M.Walk permit v b x := by
  induction h' with
  | stay => exact h.weaken
  | quietly _ hl hp hm ih => exact .quietly ih hl hp hm
  | loudly _ hp hm ih => exact .loudly ih hp hm

theorem Walk.mono (hp : ∀ l w, permit l w → permit' l w) (h : M.Walk permit v b w) :
    M.Walk permit' v b w := by
  induction h with
  | stay => exact .stay
  | quietly _ hl hl' hm ih => exact .quietly ih hl (hp _ _ hl') hm
  | loudly _ hl hm ih => exact .loudly ih (hp _ _ hl) hm

/-- What the permitted moves keep, a walk keeps. -/
theorem Walk.invariant {I : α → Prop}
    (hI : ∀ l w x, I w → permit l w → M.move l w x → I x)
    (h : M.Walk permit v b w) (hv : I v) : I w := by
  induction h with
  | stay => exact hv
  | quietly _ _ hp hm ih => exact hI _ _ _ ih hp hm
  | loudly _ hp hm ih => exact hI _ _ _ ih hp hm

/-- A preorder that the permitted moves follow relates the two ends of a walk. -/
theorem Walk.follows {I : α → Prop} {R : α → α → Prop} (hrefl : ∀ v, R v v)
    (htrans : ∀ u v w, R u v → R v w → R u w)
    (hI : ∀ l w x, I w → permit l w → M.move l w x → I x ∧ R w x)
    (h : M.Walk permit v b w) (hv : I v) : R v w := by
  induction h with
  | stay => exact hrefl v
  | quietly hw _ hp hm ih =>
    have hmid := hw.invariant (fun l w x hw hp hm => (hI l w x hw hp hm).1) hv
    exact htrans _ _ _ ih (hI _ _ _ hmid hp hm).2
  | loudly hw hp hm ih =>
    have hmid := hw.invariant (fun l w x hw hp hm => (hI l w x hw hp hm).1) hv
    exact htrans _ _ _ ih (hI _ _ _ hmid hp hm).2

/-- An observer of a walk sees nothing, or the one move that is not quiet. -/
theorem Walk.observe {I : α → Prop} {obs : α → β}
    (hI : ∀ l w x, I w → permit l w → M.move l w x → I x)
    (hq : ∀ l w x, I w → M.quiet l → M.move l w x → obs x = obs w)
    (h : M.Walk permit v b w) (hv : I v) :
    (obs w = obs v) ∨ b = true ∧
      ∃ l u x, I u ∧ permit l u ∧ M.move l u x ∧ obs u = obs v ∧ obs x = obs w := by
  induction h with
  | stay => exact .inl rfl
  | quietly hw hl hp hm ih =>
    have hobs := hq _ _ _ (hw.invariant hI hv) hl hm
    rcases ih with ih | ⟨hb, l, u, x, hu, hpu, hmu, huv, hxw⟩
    · exact .inl (hobs.trans ih)
    · exact .inr ⟨hb, l, u, x, hu, hpu, hmu, huv, hxw.trans hobs.symm⟩
  | @loudly w x l hw hp hm ih =>
    have hwv : obs w = obs v := by
      rcases ih with ih | ⟨hb, -⟩
      · exact ih
      · cases hb
    exact .inr ⟨rfl, l, w, x, hw.invariant hI hv, hp, hm, hwv, rfl⟩

end Machine

-- ════════════════════════════════════════════════════════════════════════
-- Families
-- ════════════════════════════════════════════════════════════════════════

variable {α Λ κ : Type} {M : κ → Machine α Λ} {permit permit' : κ → Λ → α → Prop}
  {f g : κ → α}

/-- One member of a family walks, and the others stay. -/
def Evolves (M : κ → Machine α Λ) (permit : κ → Λ → α → Prop) (f g : κ → α) : Prop :=
  ∃ k, (M k).Walk (permit k) (f k) true (g k) ∧ ∀ j, j ≠ k → g j = f j

theorem Evolves.of_update [DecidableEq κ] {k : κ} {w : α} (hw : (M k).Walk (permit k) (f k) true w) :
    Evolves M permit f (Function.update f k w) :=
  ⟨k, by rwa [Function.update_self], fun _ hj => Function.update_of_ne hj _ _⟩

theorem Evolves.mono (hp : ∀ k l w, permit k l w → permit' k l w)
    (h : Evolves M permit f g) : Evolves M permit' f g := by
  obtain ⟨k, hw, hj⟩ := h
  exact ⟨k, hw.mono (hp k), hj⟩

/-- What the permitted moves of every member keep, the family keeps. -/
theorem Evolves.invariant {I : κ → α → Prop}
    (hI : ∀ k l w x, I k w → permit k l w → (M k).move l w x → I k x)
    (h : Evolves M permit f g) (hf : ∀ k, I k (f k)) (k : κ) : I k (g k) := by
  obtain ⟨k', hw, hj⟩ := h
  by_cases hk : k = k'
  · subst hk
    exact hw.invariant (hI k) (hf k)
  · rw [hj k hk]
    exact hf k

/-- A preorder that the permitted moves of every member follow relates each member to what it
becomes. -/
theorem Evolves.follows {I : κ → α → Prop} {R : α → α → Prop} (hrefl : ∀ v, R v v)
    (htrans : ∀ u v w, R u v → R v w → R u w)
    (hI : ∀ k l w x, I k w → permit k l w → (M k).move l w x → I k x ∧ R w x)
    (h : Evolves M permit f g) (hf : ∀ k, I k (f k)) (k : κ) : R (f k) (g k) := by
  obtain ⟨k', hw, hj⟩ := h
  by_cases hk : k = k'
  · subst hk
    exact hw.follows hrefl htrans (hI k) (hf k)
  · rw [hj k hk]
    exact hrefl _

/-- An observer of one member sees nothing, or one move that is not quiet. -/
theorem Evolves.observe {β : Type} {I : κ → α → Prop} {obs : α → β}
    (hI : ∀ k l w x, I k w → permit k l w → (M k).move l w x → I k x)
    (hq : ∀ k l w x, I k w → (M k).quiet l → (M k).move l w x → obs x = obs w)
    (h : Evolves M permit f g) (hf : ∀ k, I k (f k)) (k : κ) :
    obs (g k) = obs (f k) ∨ ∃ l u x, I k u ∧ permit k l u ∧ (M k).move l u x
      ∧ obs u = obs (f k) ∧ obs x = obs (g k) := by
  obtain ⟨k', hw, hj⟩ := h
  by_cases hk : k = k'
  · subst hk
    rcases hw.observe (hI k) (hq k) (hf k) with h | ⟨-, h⟩
    · exact .inl h
    · exact .inr h
  · exact .inl (by rw [hj k hk])

end Library
