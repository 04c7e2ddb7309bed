import Mathlib.Logic.Function.Basic
import Taskledger.Library.Effect
import Taskledger.Library.Transition

/-!
# Interleaved calls

A process is a call cut into the steps it takes on a shared store. Each step has a
label, which says what it does to the store, and goes on with the store it found.
Alone, a process is an action; several of them interleave at their steps. A discipline
gives each process a phase, and what the moves of the phases keep, every interleaving
keeps.
-/

namespace Library

open Library.Action

/-- A call in steps: `step l k` does `l` to the store and goes on with what it found. -/
inductive Process (Λ σ ε α : Type) where
  | done (r : Except ε α)
  | step (l : Λ) (k : σ → Process Λ σ ε α)

namespace Process

variable {Λ σ ε α β γ ι : Type}

def bind (p : Process Λ σ ε α) (f : α → Process Λ σ ε β) : Process Λ σ ε β :=
  match p with
  | done (.ok a) => f a
  | done (.error e) => done (.error e)
  | step l k => step l fun s => (k s).bind f

instance : Monad (Process Λ σ ε) where
  pure a := done (.ok a)
  bind := bind

/-- A step that reads. -/
def read (l : Λ) (q : Query σ ε α) : Process Λ σ ε α := step l fun s => done (q s)

/-- A step that writes. -/
def write (l : Λ) : Process Λ σ ε Unit := step l fun _ => done (.ok ())

/-- A check between the steps. -/
def check (x : Except ε α) : Process Λ σ ε α := done x

variable {p : Process Λ σ ε α} {f : α → Process Λ σ ε β} {l : Λ} {k : σ → Process Λ σ ε α}
  {q : Query σ ε α} {x : Except ε α} {a : α} {e : ε} {s : σ}

@[simp] theorem returned_bind : (pure a : Process Λ σ ε α) >>= f = f a := rfl
@[simp] theorem check_ok_bind : (check (.ok a) : Process Λ σ ε α) >>= f = f a := rfl
@[simp] theorem check_error_bind :
    (check (.error e) : Process Λ σ ε α) >>= f = done (.error e) := rfl
@[simp] theorem step_bind : step l k >>= f = step l fun s => k s >>= f := rfl

@[simp]
theorem bind_bind {δ : Type} {g : β → Process Λ σ ε δ} :
    p >>= f >>= g = p >>= fun a => f a >>= g := by
  induction p with
  | done r => cases r <;> rfl
  | step l k ih => exact congrArg (step l) (funext ih)

-- ════════════════════════════════════════════════════════════════════════
-- Alone
-- ════════════════════════════════════════════════════════════════════════

section Alone

variable (effect : Λ → σ → σ)

/-- The action of a process that runs alone. -/
def alone : Process Λ σ ε α → Action σ ε α
  | done r => fun s => (r, s)
  | step l k => fun s => (k s).alone (effect l s)

variable {effect}

theorem alone_bind : (p >>= f).alone effect = p.alone effect >>= fun a => (f a).alone effect := by
  induction p with
  | done r => cases r <;> rfl
  | step l k ih =>
    funext s
    show ((k s >>= f).alone effect) (effect l s) = _
    rw [ih s]
    rfl

theorem alone_read (hl : ∀ s, effect l s = s) : (read l q).alone effect = liftM q := by
  funext s
  show (q s, effect l s) = (q s, s)
  rw [hl]

theorem alone_pure : (pure a : Process Λ σ ε α).alone effect = pure a := rfl

/-- Alone from a store, the process keeps `I` at each step and ends with `Q`. -/
def Through (effect : Λ → σ → σ) (I : σ → Prop) (Q : Except ε α → Prop) :
    Process Λ σ ε α → σ → Prop
  | done r, _ => Q r
  | step l k, s => I (effect l s) ∧ (k s).Through effect I Q (effect l s)

variable {I : σ → Prop} {Q : Except ε β → Prop}

theorem Through.read (hl : effect l s = s) (hs : I s) (hq : q s = .ok a)
    (h : (f a).Through effect I Q s) : (read l q >>= f).Through effect I Q s := by
  show I (effect l s) ∧ (check (q s) >>= f).Through effect I Q (effect l s)
  rw [hl, hq]
  exact ⟨hs, h⟩

theorem Through.write {f : Unit → Process Λ σ ε β} (hs : I (effect l s))
    (h : (f ()).Through effect I Q (effect l s)) : (write l >>= f).Through effect I Q s :=
  ⟨hs, h⟩

theorem Through.check (hx : x = .ok a) (h : (f a).Through effect I Q s) :
    (check x >>= f).Through effect I Q s := by
  rw [hx]
  exact h

end Alone

-- ════════════════════════════════════════════════════════════════════════
-- Interleavings
-- ════════════════════════════════════════════════════════════════════════

/-- A store shared by calls, what is left of each call, and the steps taken so far. -/
structure Sharing (ι Λ σ ε α : Type) where
  store : σ
  calls : ι → Process Λ σ ε α
  log : List (ι × Λ)

/-- The result of a call that is done. -/
def Sharing.result (c : Sharing ι Λ σ ε α) (i : ι) : Option (Except ε α) :=
  match c.calls i with
  | done r => some r
  | step _ _ => none

theorem Sharing.calls_of_result {c : Sharing ι Λ σ ε α} {i : ι} {r : Except ε α}
    (h : c.result i = some r) : c.calls i = done r := by
  unfold Sharing.result at h
  split at h
  · rename_i r' hr
    rw [hr, Option.some.inj h]
  · cases h

variable [DecidableEq ι] (effect : Λ → σ → σ)

/-- The next step of one call. -/
def Sharing.advance (i : ι) (c : Sharing ι Λ σ ε α) : Sharing ι Λ σ ε α :=
  match c.calls i with
  | done _ => c
  | step l k => ⟨effect l c.store, Function.update c.calls i (k c.store), c.log ++ [(i, l)]⟩

/-- The interleavings of calls on a store. -/
def interleaved (s : σ) (calls : ι → Process Λ σ ε α) : System (Sharing ι Λ σ ε α) ι where
  init := ⟨s, calls, []⟩
  next := Sharing.advance effect

/-- What the steps of a log make of a store. -/
def replay (effect : Λ → σ → σ) (s : σ) (log : List (ι × Λ)) : σ :=
  log.foldl (fun s step => effect step.2 s) s

omit [DecidableEq ι] in
/-- Steps that change nothing may be left out. -/
theorem replay_filter {effect : Λ → σ → σ} (keep : ι → Bool) {s : σ} {log : List (ι × Λ)}
    (h : ∀ i l, (i, l) ∈ log → keep i = false → ∀ s, effect l s = s) :
    replay effect s (log.filter fun step => keep step.1) = replay effect s log := by
  induction log generalizing s with
  | nil => rfl
  | cons step rest ih =>
    have hrest (s : σ) : replay effect s (rest.filter fun step => keep step.1) =
        replay effect s rest := ih fun i l hl => h i l (List.mem_cons_of_mem _ hl)
    cases hk : keep step.1 with
    | true =>
      rw [List.filter_cons_of_pos (by simpa using hk)]
      exact hrest _
    | false =>
      have hsame : effect step.2 s = s := h step.1 step.2 List.mem_cons_self hk s
      rw [List.filter_cons_of_neg (by simp [hk]), hrest]
      show _ = replay effect (effect step.2 s) rest
      rw [hsame]

variable {C : Λ → σ → Prop}

/-- The store of an interleaving is what its steps made of the first one. -/
theorem store_eq_replay {calls : ι → Process Λ σ ε α} {P : Sharing ι Λ σ ε α → ι → Prop}
    {c : Sharing ι Λ σ ε α} (h : (interleaved effect s calls).Reachable P c) :
    c.store = replay effect s c.log := by
  refine h.invariant (I := fun c => c.store = replay effect s c.log) rfl ?_
  intro c i _ hc _
  show (c.advance effect i).store = replay effect s (c.advance effect i).log
  unfold Sharing.advance
  cases c.calls i with
  | done r => exact hc
  | step l k =>
    show effect l c.store = replay effect s (c.log ++ [(i, l)])
    rw [hc]
    unfold replay
    rw [List.foldl_append]
    rfl

omit [DecidableEq ι] in
/-- The next step of a call meets a condition. -/
def Sharing.Meets (C : Λ → σ → Prop) (c : Sharing ι Λ σ ε α) (i : ι) : Prop :=
  match c.calls i with
  | done _ => True
  | step l _ => C l c.store

instance [∀ l s, Decidable (C l s)] (c : Sharing ι Λ σ ε α) (i : ι) : Decidable (c.Meets C i) :=
  match h : c.calls i with
  | done _ => .isTrue (by simp [Sharing.Meets, h])
  | step l _ => decidable_of_iff (C l c.store) (by simp [Sharing.Meets, h])

/-- The phases a call goes through: what it knows of the store in a phase, which steps
it may take there, and how it may end. -/
structure Discipline (Λ σ ε α γ : Type) where
  knows : γ → σ → Prop
  move : γ → Λ → σ → γ → Prop
  ends : γ → Except ε α → Prop

/-- A process keeps to a discipline, as long as its steps meet a condition. -/
def Obeys (D : Discipline Λ σ ε α γ) (C : Λ → σ → Prop) : Process Λ σ ε α → γ → Prop
  | done r, g => D.ends g r
  | step l k, g => ∀ s, D.knows g s → C l s → ∃ g', D.move g l s g' ∧ (k s).Obeys D C g'

variable {effect} {D : Discipline Λ σ ε α γ} {calls : ι → Process Λ σ ε α}

/-- What the moves of the phases keep, every interleaving of obedient calls keeps. -/
theorem Obeys.invariant {J : σ → List (ι × Λ) → (ι → γ) → Prop}
    (hknows : ∀ s log g i, J s log g → D.knows (g i) s)
    (hmove : ∀ s log g i l g', J s log g → C l s → D.move (g i) l s g' →
      J (effect l s) (log ++ [(i, l)]) (Function.update g i g'))
    {g : ι → γ} (hcalls : ∀ i, (calls i).Obeys D C (g i)) (hinit : J s [] g)
    {c : Sharing ι Λ σ ε α}
    (h : (interleaved effect s calls).Reachable (Sharing.Meets C) c) :
    ∃ g, (∀ i, (c.calls i).Obeys D C (g i)) ∧ J c.store c.log g := by
  refine h.invariant (I := fun c => ∃ g, (∀ i, (c.calls i).Obeys D C (g i)) ∧
    J c.store c.log g) ⟨g, hcalls, hinit⟩ ?_
  rintro c i - ⟨g, hobeys, hj⟩ hmeets
  show ∃ g, (∀ j, ((c.advance effect i).calls j).Obeys D C (g j)) ∧
    J (c.advance effect i).store (c.advance effect i).log g
  have hi := hobeys i
  unfold Sharing.Meets at hmeets
  unfold Sharing.advance
  cases hc : c.calls i with
  | done r => exact ⟨g, hobeys, hj⟩
  | step l k =>
    rw [hc] at hi hmeets
    obtain ⟨g', hmove', hrest⟩ := hi c.store (hknows _ _ g i hj) hmeets
    refine ⟨Function.update g i g', fun j => ?_, hmove _ _ g i l g' hj hmeets hmove'⟩
    by_cases hji : j = i
    · subst hji
      simpa using hrest
    · simpa [Function.update_of_ne hji] using hobeys j

-- ════════════════════════════════════════════════════════════════════════
-- Rules
-- ════════════════════════════════════════════════════════════════════════

section Rules

variable {D : Discipline Λ σ ε β γ} {g : γ}

omit [DecidableEq ι] in
theorem Obeys.step {k : σ → Process Λ σ ε β}
    (h : ∀ s, D.knows g s → C l s → ∃ g', D.move g l s g' ∧ (k s).Obeys D C g') :
    (step l k).Obeys D C g := h

/-- A check between the steps: it ends the call or the call goes on. -/
theorem Obeys.check (herr : ∀ e, x = .error e → D.ends g (.error e))
    (hok : ∀ a, x = .ok a → (f a).Obeys D C g) : (check x >>= f).Obeys D C g := by
  cases x with
  | error e => exact herr e rfl
  | ok a => exact hok a rfl

/-- A read that stays in a phase. -/
theorem Obeys.read (hmove : ∀ s, D.knows g s → D.move g l s g)
    (herr : ∀ s e, D.knows g s → q s = .error e → D.ends g (.error e))
    (hok : ∀ s a, D.knows g s → q s = .ok a → (f a).Obeys D C g) :
    (read l q >>= f).Obeys D C g := fun s hs _ =>
  ⟨g, hmove s hs, Obeys.check (fun e he => herr s e hs he) fun a ha => hok s a hs ha⟩

omit [DecidableEq ι] in
/-- In a phase that fixes the store the process goes on as it does alone. -/
theorem Obeys.of_through {I : σ → Prop} {Q : Except ε β → Prop} {phase : σ → γ}
    {p : Process Λ σ ε β}
    (hknows : ∀ s s', D.knows (phase s) s' → s' = s)
    (hmove : ∀ l s, I (effect l s) → D.move (phase s) l s (phase (effect l s)))
    (hends : ∀ r s, Q r → D.ends (phase s) r) (h : p.Through effect I Q s) :
    p.Obeys D C (phase s) := by
  induction p generalizing s with
  | done r => exact hends r s h
  | step l k ih =>
    intro s' hs' _
    obtain rfl := hknows s s' hs'
    exact ⟨_, hmove l s' h.1, ih s' h.2⟩

end Rules

end Process

end Library
