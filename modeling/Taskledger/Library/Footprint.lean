import Taskledger.Library.Effect

/-!
# Footprints

`Within F m` says that every run of the action `m`, returned or raised, moves inside
the footprint `F`. The instances follow the constructors an action is written with,
so that the footprint of an action is found from those of its parts.
-/

namespace Library

/-- How a store may have changed: not at all, and in one step after another. -/
structure Footprint (σ : Type) where
  Moves : σ → σ → Prop
  refl : ∀ s, Moves s s
  trans : ∀ s s' s'', Moves s s' → Moves s' s'' → Moves s s''

namespace Action

variable {σ ε α β : Type} {F : Footprint σ}

/-- Every run of the action moves inside the footprint. -/
class Within (F : Footprint σ) (m : Action σ ε α) : Prop where
  moves : ∀ s, F.Moves s (m.runOn s).2

/-- A footprint as a statement about the outcomes. -/
theorem Within.sat {m : Action σ ε α} (h : Within F m) (s : σ) :
    m.Sat s fun _ s' => F.Moves s s' :=
  h.moves s

theorem within_write {f : σ → σ} (h : ∀ s, F.Moves s (f s)) :
    Within F (Action.write f : Action σ ε Unit) :=
  ⟨h⟩

instance within_pure {a : α} : Within F (pure a : Action σ ε α) := ⟨F.refl⟩

instance within_throw {e : ε} : Within F (throw e : Action σ ε α) := ⟨F.refl⟩

instance within_query {q : Query σ ε α} : Within F (liftM q : Action σ ε α) := ⟨F.refl⟩

instance within_except {x : Except ε α} : Within F (liftM x : Action σ ε α) := ⟨F.refl⟩

instance within_ite {c : Prop} [Decidable c] {m n : Action σ ε α} [Within F m] [Within F n] :
    Within F (if c then m else n) := by
  split <;> infer_instance

instance within_onlyIf {c : Prop} [Decidable c] {m : Action σ ε Unit} [Within F m] :
    Within F (onlyIf c m) := by
  unfold onlyIf
  infer_instance

instance within_bind {m : Action σ ε α} {k : α → Action σ ε β} [hm : Within F m]
    [hk : ∀ a, Within F (k a)] : Within F (m >>= k) where
  moves s := by
    have hsat : (m >>= k).Sat s fun _ s' => F.Moves s s' :=
      Sat.bind (hm.sat s) (fun _ _ h => h) fun a s' h =>
        ((hk a).sat s').mono fun _ s'' h' => F.trans s s' s'' h h'
    exact hsat

instance within_each {l : List α} {f : α → Action σ ε Unit} [hf : ∀ a, Within F (f a)] :
    Within F (each l f) := by
  induction l with
  | nil => exact within_pure
  | cons a rest ih => exact within_bind

/-- Reads in front of a case split. -/
theorem Within.after {q : Query σ ε α} {k : α → Action σ ε β} (hk : ∀ a, Within F (k a)) :
    Within F ((liftM q : Action σ ε α) >>= k) :=
  within_bind

theorem Within.check {x : Except ε α} {k : α → Action σ ε β} (hk : ∀ a, Within F (k a)) :
    Within F ((liftM x : Action σ ε α) >>= k) :=
  within_bind

end Action

end Library
