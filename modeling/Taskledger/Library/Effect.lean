import Mathlib.Data.List.Basic

/-!
# Computations over a store

`Query` reads a store and may raise; by its type it changes nothing. `Action`
also writes, and what it wrote before it raised stays written. `Action.Sat`
says what every outcome of an action looks like, and its rules follow the
constructors an action is written with.
-/

namespace Library

variable {σ ε α β : Type}

/-- A computation that reads the store and may raise. -/
abbrev Query (σ ε α : Type) : Type := ReaderT σ (Except ε) α

/-- A computation that reads and writes the store and may raise half way. -/
abbrev Action (σ ε α : Type) : Type := ExceptT ε (StateM σ) α

instance : MonadLift (Query σ ε) (Action σ ε) where
  monadLift q := fun s => (q s, s)

/-- Raise `e` when `c` holds. -/
def raiseIf (c : Prop) [Decidable c] (e : ε) : Except ε Unit :=
  if c then .error e else .ok ()

namespace Action

/-- The outcome and the store after running `m` from `s`. -/
def runOn (m : Action σ ε α) (s : σ) : Except ε α × σ := m s

/-- A write that cannot fail. -/
def write (f : σ → σ) : Action σ ε Unit := fun s => (.ok (), f s)

/-- Run `m` when `c` holds. -/
def onlyIf (c : Prop) [Decidable c] (m : Action σ ε Unit) : Action σ ε Unit :=
  if c then m else pure ()

/-- Run `f` on each element in turn. -/
def each : List α → (α → Action σ ε Unit) → Action σ ε Unit
  | [], _ => pure ()
  | a :: rest, f => f a >>= fun _ => each rest f

/-- Every outcome of `m` from `s`, returned or raised, satisfies `Q`. -/
def Sat (m : Action σ ε α) (s : σ) (Q : Except ε α → σ → Prop) : Prop :=
  Q (m.runOn s).1 (m.runOn s).2

variable {s : σ} {Q : Except ε β → σ → Prop}

theorem Sat.mono {m : Action σ ε α} {P P' : Except ε α → σ → Prop}
    (h : m.Sat s P) (hP : ∀ r s', P r s' → P' r s') : m.Sat s P' :=
  hP _ _ h

theorem Sat.pure {b : β} (h : Q (.ok b) s) : (Pure.pure b : Action σ ε β).Sat s Q := h

theorem Sat.throw {e : ε} (h : Q (.error e) s) :
    (MonadExcept.throw e : Action σ ε β).Sat s Q := h

/-- Sequencing: what `m` may leave behind is where `k` starts. -/
theorem Sat.bind {m : Action σ ε α} {k : α → Action σ ε β} {P : Except ε α → σ → Prop}
    (hm : m.Sat s P) (herr : ∀ e s', P (.error e) s' → Q (.error e) s')
    (hok : ∀ a s', P (.ok a) s' → (k a).Sat s' Q) : (m >>= k).Sat s Q := by
  unfold Sat runOn at *
  have hrun : (m >>= k) s = match m s with
      | (.ok a, s') => k a s'
      | (.error e, s') => (.error e, s') := by
    show ExceptT.bind m k s = _
    unfold ExceptT.bind ExceptT.mk ExceptT.bindCont
    show (StateT.bind m _) s = _
    unfold StateT.bind
    rcases m s with ⟨r | r, s'⟩ <;> rfl
  rw [hrun]
  rcases hms : m s with ⟨e | a, s'⟩ <;> rw [hms] at hm
  · exact herr e s' hm
  · exact hok a s' hm

/-- A read in front: it leaves the store as it was. -/
theorem Sat.query {q : Query σ ε α} {k : α → Action σ ε β}
    (herr : ∀ e, q s = .error e → Q (.error e) s)
    (hok : ∀ a, q s = .ok a → (k a).Sat s Q) :
    ((liftM q : Action σ ε α) >>= k).Sat s Q := by
  refine Sat.bind (P := fun r s' => s' = s ∧ q s = r) ⟨rfl, rfl⟩ ?_ ?_
  · rintro e _ ⟨rfl, he⟩
    exact herr e he
  · rintro a _ ⟨rfl, ha⟩
    exact hok a ha

/-- A read that returns: the rest runs on the same store. -/
theorem runOn_query {q : Query σ ε α} {k : α → Action σ ε β} {a : α} (h : q s = .ok a) :
    ((liftM q : Action σ ε α) >>= k).runOn s = (k a).runOn s := by
  have hsat : ((liftM q : Action σ ε α) >>= k).Sat s fun r s' => (r, s') = (k a).runOn s := by
    refine Sat.query (fun e he => ?_) fun a' ha => ?_
    · cases h.symm.trans he
    · cases h.symm.trans ha
      exact rfl
  exact hsat

/-- A read that raises: nothing more runs. -/
theorem runOn_query_error {q : Query σ ε α} {k : α → Action σ ε β} {e : ε} (h : q s = .error e) :
    ((liftM q : Action σ ε α) >>= k).runOn s = (.error e, s) := by
  have hsat : ((liftM q : Action σ ε α) >>= k).Sat s fun r s' => (r, s') = (.error e, s) := by
    refine Sat.query (fun e' he => ?_) fun a ha => ?_
    · cases h.symm.trans he
      rfl
    · cases h.symm.trans ha
  exact hsat

/-- Reads in a row. -/
theorem liftM_bind {q : Query σ ε α} {k : α → Query σ ε β} :
    (liftM (q >>= k) : Action σ ε β) = (liftM q : Action σ ε α) >>= fun a => liftM (k a) := by
  funext s
  cases hq : q s with
  | error e =>
    refine Eq.trans ?_ (runOn_query_error hq).symm
    show ((q s >>= fun a => k a s), s) = _
    rw [hq]
    rfl
  | ok a =>
    refine Eq.trans ?_ (runOn_query hq).symm
    show ((q s >>= fun a => k a s), s) = _
    rw [hq]
    rfl

/-- A pure computation in front. -/
theorem Sat.except {x : Except ε α} {k : α → Action σ ε β}
    (herr : ∀ e, x = .error e → Q (.error e) s)
    (hok : ∀ a, x = .ok a → (k a).Sat s Q) :
    ((liftM x : Action σ ε α) >>= k).Sat s Q := by
  refine Sat.bind (P := fun r s' => s' = s ∧ x = r) ⟨rfl, rfl⟩ ?_ ?_
  · rintro e _ ⟨rfl, he⟩
    exact herr e he
  · rintro a _ ⟨rfl, ha⟩
    exact hok a ha

/-- A guard in front. -/
theorem Sat.guard {c : Prop} [Decidable c] {e : ε} {k : Unit → Action σ ε β}
    (herr : c → Q (.error e) s) (hok : ¬ c → (k ()).Sat s Q) :
    ((liftM (raiseIf c e) : Action σ ε Unit) >>= k).Sat s Q := by
  refine Sat.except ?_ ?_
  · intro e' h
    by_cases hc : c
    · simp only [raiseIf, if_pos hc, Except.error.injEq] at h
      exact h ▸ herr hc
    · simp [raiseIf, hc] at h
  · intro _ h
    by_cases hc : c
    · simp [raiseIf, hc] at h
    · exact hok hc

/-- A write in front. -/
theorem Sat.write {f : σ → σ} {k : Unit → Action σ ε β} (h : (k ()).Sat (f s) Q) :
    (Action.write f >>= k).Sat s Q := by
  refine Sat.bind (P := fun r s' => r = .ok () ∧ s' = f s) ⟨rfl, rfl⟩ ?_ ?_
  · rintro e _ ⟨h, -⟩
    cases h
  · rintro _ _ ⟨-, rfl⟩
    exact h

-- ════════════════════════════════════════════════════════════════════════
-- Refusals
-- ════════════════════════════════════════════════════════════════════════

section Refusals

variable {q : Query σ ε α} {k : α → Action σ ε β} {e : ε} {c : Prop} [Decidable c]

/-- The action raises, and has written nothing. -/
def Refuses (m : Action σ ε α) (s : σ) : Prop := ∃ e, m.runOn s = (.error e, s)

/-- Reads in front: they return, and what follows them goes on. -/
theorem not_refuses_query :
    ¬ Refuses ((liftM q : Action σ ε α) >>= k) s ↔ ∃ a, q s = .ok a ∧ ¬ Refuses (k a) s := by
  unfold Refuses
  cases hq : q s with
  | error e =>
    rw [runOn_query_error hq]
    refine iff_of_false (fun h => h ⟨e, rfl⟩) ?_
    rintro ⟨a, h, -⟩
    cases h
  | ok a =>
    rw [runOn_query hq]
    simp

theorem not_refuses_except {x : Except ε α} :
    ¬ Refuses ((liftM x : Action σ ε α) >>= k) s ↔ ∃ a, x = .ok a ∧ ¬ Refuses (k a) s :=
  not_refuses_query (q := fun _ => x)

theorem not_refuses_guard {k : Unit → Action σ ε β} :
    ¬ Refuses ((liftM (raiseIf c e) : Action σ ε Unit) >>= k) s ↔ ¬ c ∧ ¬ Refuses (k ()) s := by
  rw [not_refuses_except]
  constructor
  · rintro ⟨_, hok, hk⟩
    refine ⟨fun hc => ?_, hk⟩
    rw [raiseIf, if_pos hc] at hok
    cases hok
  · rintro ⟨hc, hk⟩
    exact ⟨(), if_neg hc, hk⟩

/-- An action that writes does not refuse. -/
theorem not_refuses {m : Action σ ε α} (h : m.Sat s fun _ s' => s' ≠ s) : ¬ Refuses m s := by
  rintro ⟨e, he⟩
  unfold Sat at h
  rw [he] at h
  exact h rfl

theorem refuses_bind {m : Action σ ε α} {k : α → Action σ ε β} (h : Refuses m s) :
    Refuses (m >>= k) s := by
  obtain ⟨e, he⟩ := h
  refine ⟨e, ?_⟩
  have hsat : (m >>= k).Sat s fun r s' => r = .error e ∧ s' = s := by
    refine Sat.bind (P := fun r s' => r = .error e ∧ s' = s) ?_ (fun e' s' h => ?_) fun a s' h => ?_
    · unfold Sat
      rw [he]
      exact ⟨rfl, rfl⟩
    · exact ⟨by cases h.1; rfl, h.2⟩
    · cases h.1
  exact Prod.ext hsat.1 hsat.2

theorem refuses_of_sat {m : Action σ ε α}
    (h : m.Sat s fun r s' => (∃ e, r = .error e) ∧ s' = s) : Refuses m s := by
  obtain ⟨⟨e, he⟩, hs⟩ := h
  exact ⟨e, Prod.ext he hs⟩

/-- What returns does not refuse. -/
theorem not_refuses_ok {m : Action σ ε α}
    (h : m.Sat s fun r _ => ∃ a, r = .ok a) : ¬ Refuses m s := by
  rintro ⟨e, he⟩
  unfold Sat at h
  rw [he] at h
  obtain ⟨a, ha⟩ := h
  cases ha

end Refusals

-- ════════════════════════════════════════════════════════════════════════
-- Actions that keep a property of the store
-- ════════════════════════════════════════════════════════════════════════

/-- From a store with `I`, every outcome of `m` leaves one with `I`. -/
def Keeps (I : σ → Prop) (m : Action σ ε α) : Prop := ∀ s, I s → m.Sat s fun _ s' => I s'

variable {I : σ → Prop}

theorem Keeps.pure {b : β} : Keeps I (Pure.pure b : Action σ ε β) := fun _ h => h

theorem Keeps.throw {e : ε} : Keeps I (MonadExcept.throw e : Action σ ε β) := fun _ h => h

theorem Keeps.write {f : σ → σ} (hf : ∀ s, I s → I (f s)) :
    Keeps I (Action.write f : Action σ ε Unit) := hf

theorem Keeps.read {q : Query σ ε α} : Keeps I (liftM q : Action σ ε α) := fun _ h => h

theorem Keeps.bind {m : Action σ ε α} {k : α → Action σ ε β} (hm : Keeps I m)
    (hk : ∀ a, Keeps I (k a)) : Keeps I (m >>= k) := fun s h =>
  Sat.bind (hm s h) (fun _ _ h => h) fun a s' hs' => hk a s' hs'

theorem Keeps.query {q : Query σ ε α} {k : α → Action σ ε β}
    (hk : ∀ a s, I s → q s = .ok a → Keeps I (k a)) :
    Keeps I ((liftM q : Action σ ε α) >>= k) := fun s h =>
  Sat.query (fun _ _ => h) fun a ha => hk a s h ha s h

theorem Keeps.except {x : Except ε α} {k : α → Action σ ε β}
    (hk : ∀ a, x = .ok a → Keeps I (k a)) :
    Keeps I ((liftM x : Action σ ε α) >>= k) := fun s h =>
  Sat.except (fun _ _ => h) fun a ha => hk a ha s h

theorem Keeps.onlyIf {c : Prop} [Decidable c] {m : Action σ ε Unit} (hm : c → Keeps I m) :
    Keeps I (Action.onlyIf c m) := by
  unfold Action.onlyIf
  split
  · exact hm ‹_›
  · exact Keeps.pure

/-- A loop keeps what each turn keeps. -/
theorem Keeps.each {l : List α} {f : α → Action σ ε Unit} (hf : ∀ a ∈ l, Keeps I (f a)) :
    Keeps I (Action.each l f) := by
  induction l with
  | nil => exact Keeps.pure
  | cons a rest ih =>
    exact Keeps.bind (hf a (by simp)) fun _ => ih fun b hb => hf b (by simp [hb])

end Action

-- ════════════════════════════════════════════════════════════════════════
-- What a computation that returned has passed
-- ════════════════════════════════════════════════════════════════════════

theorem error_ne_ok {ε α : Type} {e : ε} (a : α) : (Except.error e : Except ε α) ≠ .ok a := by
  intro h
  cases h

theorem ok_ne_error {ε α : Type} {a : α} (e : ε) : (Except.ok a : Except ε α) ≠ .error e := by
  intro h
  cases h

theorem not_error_ok {ε α : Type} {e : ε} : ¬ ∃ a : α, (Except.error e : Except ε α) = .ok a := by
  rintro ⟨a, h⟩
  exact error_ne_ok a h

@[simp]
theorem raiseIf_eq_ok {c : Prop} [Decidable c] {e : ε} {u : Unit} :
    raiseIf c e = .ok u ↔ ¬ c := by
  unfold raiseIf
  split <;> simp [*]

theorem bind_eq_ok {x : Except ε α} {f : α → Except ε β} {b : β} :
    (x >>= f) = .ok b ↔ ∃ a, x = .ok a ∧ f a = .ok b := by
  cases x with
  | error e =>
    constructor
    · intro h
      cases h
    · rintro ⟨a, h, -⟩
      cases h
  | ok a => exact ⟨fun h => ⟨a, rfl, h⟩, fun ⟨_, h, h'⟩ => by cases h; exact h'⟩

theorem map_eq_ok {x : Except ε α} {f : α → β} {b : β} :
    f <$> x = .ok b ↔ ∃ a, x = .ok a ∧ f a = b := by
  cases x with
  | error e => simp [Functor.map, Except.map]
  | ok a => simp [Functor.map, Except.map]

theorem pure_eq_ok {a b : α} : (pure a : Except ε α) = .ok b ↔ a = b := by
  show Except.ok a = .ok b ↔ a = b
  simp

theorem isSome_toOption {x : Except ε α} :
    x.toOption.isSome = true ↔ ∃ a, x = .ok a := by
  cases x <;> simp [Except.toOption]

theorem map_toOption_eq_some {x : Except ε α} {f : α → β} {b : β} :
    x.toOption.map f = some b ↔ ∃ a, x = .ok a ∧ f a = b := by
  cases x <;> simp [Except.toOption]

theorem toOption_eq_some {x : Except ε α} {a : α} : x.toOption = some a ↔ x = .ok a := by
  cases x <;> simp [Except.toOption]

namespace Query

variable {s : σ}

theorem bind_eq_ok {q : Query σ ε α} {k : α → Query σ ε β} {b : β} :
    (q >>= k) s = .ok b ↔ ∃ a, q s = .ok a ∧ k a s = .ok b :=
  Library.bind_eq_ok

theorem liftM_eq_ok {x : Except ε α} {a : α} :
    (liftM x : Query σ ε α) s = .ok a ↔ x = .ok a := Iff.rfl

theorem pure_eq_ok {a b : α} : (pure a : Query σ ε α) s = .ok b ↔ a = b :=
  Library.pure_eq_ok

/-- A query for each member of a list gives the list of what each one gave. -/
theorem mapM_eq_ok {f : α → Query σ ε β} {l : List α} {l' : List β} (h : l.mapM f s = .ok l') :
    List.Forall₂ (fun a b => f a s = .ok b) l l' := by
  induction l generalizing l' with
  | nil =>
    rw [List.mapM_nil] at h
    cases pure_eq_ok.1 h
    exact .nil
  | cons a rest ih =>
    rw [List.mapM_cons] at h
    obtain ⟨c, hc, h⟩ := bind_eq_ok.1 h
    obtain ⟨others, hothers, h⟩ := bind_eq_ok.1 h
    cases pure_eq_ok.1 h
    exact .cons hc (ih hothers)

/-- What a query gave for the members of a list. -/
theorem mem_mapM {f : α → Query σ ε β} {l : List α} {l' : List β} (h : l.mapM f s = .ok l')
    {b : β} (hb : b ∈ l') : ∃ a ∈ l, f a s = .ok b := by
  have hall := mapM_eq_ok h
  clear h
  induction hall with
  | nil => cases hb
  | @cons a c rest others hc _ ih =>
    rcases List.mem_cons.1 hb with rfl | hb
    · exact ⟨a, List.mem_cons_self, hc⟩
    · obtain ⟨d, hd, hdb⟩ := ih hb
      exact ⟨d, List.mem_cons_of_mem a hd, hdb⟩

/-- What a query gave for a member of a list is in the list of what it gave. -/
theorem given_mapM {f : α → Query σ ε β} {l : List α} {l' : List β} (h : l.mapM f s = .ok l')
    {a : α} (ha : a ∈ l) : ∃ b ∈ l', f a s = .ok b := by
  have hall := mapM_eq_ok h
  clear h
  induction hall with
  | nil => cases ha
  | @cons c b rest others hb _ ih =>
    rcases List.mem_cons.1 ha with rfl | ha
    · exact ⟨b, List.mem_cons_self, hb⟩
    · obtain ⟨d, hd, had⟩ := ih ha
      exact ⟨d, List.mem_cons_of_mem b hd, had⟩

/-- A query that can be made for every member of a list can be made for the list. -/
theorem mapM_loads {f : α → Query σ ε β} {l : List α} (h : ∀ a ∈ l, ∃ b, f a s = .ok b) :
    ∃ l', l.mapM f s = .ok l' := by
  induction l with
  | nil => exact ⟨[], by rw [List.mapM_nil]; rfl⟩
  | cons a rest ih =>
    obtain ⟨⟨b, hb⟩, hrest⟩ := List.forall_mem_cons.1 h
    obtain ⟨others, hothers⟩ := ih hrest
    refine ⟨b :: others, ?_⟩
    rw [List.mapM_cons]
    exact bind_eq_ok.2 ⟨b, hb, bind_eq_ok.2 ⟨others, hothers, rfl⟩⟩

/-- Two stores that every part reads alike, the whole reads alike. -/
theorem bind_congr {s' : σ} {q : Query σ ε α} {k : α → Query σ ε β} (hq : q s' = q s)
    (hk : ∀ a, k a s' = k a s) : (q >>= k) s' = (q >>= k) s := by
  show (q s' >>= fun a => k a s') = (q s >>= fun a => k a s)
  rw [hq]
  simp only [hk]

end Query

end Library
