import Taskledger.Library.Delimited
import Taskledger.Lifecycle.Footprints
import Taskledger.Lifecycle.Steps

/-!
# Questions and their answers

The hash of the answers tells them, as long as no answer has the character that is
written between an id and its answer. A question stays, and stays required or not.
-/

namespace Taskledger

open Library Action

-- the longest operations have some twenty steps
set_option synthInstance.maxSize 2000

-- ════════════════════════════════════════════════════════════════════════
-- The snapshot of the answers
-- ════════════════════════════════════════════════════════════════════════

/-- The character between the id of a question and its answer. -/
def answerMark : Char := Char.ofNat 0

/-- The answered questions, each with its answer. -/
def answersOf (questions : List QuestionRecord) : List (String × String) :=
  (questions.filter fun q => q.status = .answered).map fun q => (q.id, q.answer.getD "")

/-- An id and an answer that can be told from their text. -/
def PlainAnswer (r : String × String) : Prop :=
  Plain '\n' answerMark (r.1.toList, r.2.toList)

/-- The entry of an answer in the snapshot. -/
def answerEntry (r : String × String) : String := r.1 ++ String.singleton answerMark ++ r.2

/-- The text of the answers that is hashed. -/
def answerSnapshot (questions : List QuestionRecord) : String :=
  Text.join "\n" (sortedBy id ((answersOf questions).map answerEntry))

theorem mem_answersOf {questions : List QuestionRecord} {r : String × String} :
    r ∈ answersOf questions ↔
      ∃ q ∈ questions, q.status = .answered ∧ q.id = r.1 ∧ q.answer.getD "" = r.2 := by
  simp [answersOf, Prod.ext_iff, and_assoc]

/-- Plain entries tell their answers. -/
theorem answerEntry_inj {r r' : String × String} (hr : PlainAnswer r) (hr' : PlainAnswer r')
    (h : answerEntry r = answerEntry r') : r = r' := by
  have htext : recordsText '\n' answerMark [(r.1.toList, r.2.toList)] =
      recordsText '\n' answerMark [(r'.1.toList, r'.2.toList)] := by
    have hlist := congrArg String.toList h
    simpa [answerEntry, recordsText, recordsTail] using hlist
  have heq := recordsText_inj (by decide) (List.forall_mem_singleton.2 hr)
    (List.forall_mem_singleton.2 hr') htext
  simp only [List.cons.injEq, Prod.mk.injEq, String.toList_inj, and_true] at heq
  exact Prod.ext heq.1 heq.2

/-- Joined entries tell the list of their answers. -/
theorem join_entries_inj {l l' : List (String × String)} (hl : ∀ r ∈ l, PlainAnswer r)
    (hl' : ∀ r ∈ l', PlainAnswer r)
    (h : Text.join "\n" (l.map answerEntry) = Text.join "\n" (l'.map answerEntry)) : l = l' := by
  have htext : recordsText '\n' answerMark (l.map fun r => (r.1.toList, r.2.toList)) =
      recordsText '\n' answerMark (l'.map fun r => (r.1.toList, r.2.toList)) := by
    rw [← toList_join_marked, ← toList_join_marked]
    exact congrArg String.toList h
  have hplain {l : List (String × String)} (hl : ∀ r ∈ l, PlainAnswer r) :
      ∀ r ∈ l.map fun r => (r.1.toList, r.2.toList), Plain '\n' answerMark r := by
    intro r hr
    obtain ⟨r', hr', rfl⟩ := List.mem_map.1 hr
    exact hl r' hr'
  have hmaps := recordsText_inj (by decide) (hplain hl) (hplain hl') htext
  refine List.map_injective_iff.2 (fun r r' hrr' => ?_) hmaps
  simp only [Prod.mk.injEq, String.toList_inj] at hrr'
  exact Prod.ext hrr'.1 hrr'.2

/-- The sorted entries are the entries of the sorted answers. -/
theorem sorted_entries (l : List (String × String)) :
    ∃ l' : List (String × String),
      sortedBy id (l.map answerEntry) = l'.map answerEntry ∧ ∀ r ∈ l', r ∈ l := by
  have hlist (xs : List String) (hxs : ∀ x ∈ xs, x ∈ l.map answerEntry) :
      ∃ l' : List (String × String), xs = l'.map answerEntry ∧ ∀ r ∈ l', r ∈ l := by
    induction xs with
    | nil => exact ⟨[], rfl, by simp⟩
    | cons x xs ih =>
      obtain ⟨hx, hrest⟩ := List.forall_mem_cons.1 hxs
      obtain ⟨r, hr, rfl⟩ := List.mem_map.1 hx
      obtain ⟨l', rfl, hl'⟩ := ih hrest
      exact ⟨r :: l', rfl, List.forall_mem_cons.2 ⟨hr, hl'⟩⟩
  exact hlist _ fun x hx => mem_sortedBy.1 hx

section Hash

variable [Runtime] {questions questions' : List QuestionRecord}

theorem answerSnapshotHash_eq (questions : List QuestionRecord) :
    answerSnapshotHash questions = if (answersOf questions).isEmpty then none
      else some ("sha256:" ++ Runtime.contentHash (answerSnapshot questions)) := by
  have hentries : ((questions.filter fun q => q.status = .answered).map fun q =>
      q.id ++ String.ofList [Char.ofNat 0] ++ q.answer.getD "") =
        (answersOf questions).map answerEntry := by
    have hmark : String.ofList [Char.ofNat 0] = String.singleton answerMark :=
      String.singleton_eq_ofList.symm
    rw [hmark, answersOf, List.map_map]
    rfl
  unfold answerSnapshotHash answerSnapshot
  rw [hentries]
  simp

/-- The hash tells the answers of two lists apart. -/
def Told (questions questions' : List QuestionRecord) : Prop :=
  Runtime.contentHash (answerSnapshot questions) =
    Runtime.contentHash (answerSnapshot questions') →
  answerSnapshot questions = answerSnapshot questions'

theorem Told.symm (h : Told questions questions') : Told questions' questions :=
  fun hhash => (h hhash.symm).symm

/-- Every answer of the one list is one of the other, when their hashes agree. -/
theorem answersOf_subset (htold : Told questions questions')
    (hplain : ∀ r ∈ answersOf questions, PlainAnswer r)
    (hplain' : ∀ r ∈ answersOf questions', PlainAnswer r)
    (h : answerSnapshotHash questions = answerSnapshotHash questions') {r : String × String}
    (hr : r ∈ answersOf questions) : r ∈ answersOf questions' := by
  rw [answerSnapshotHash_eq, answerSnapshotHash_eq] at h
  have hsome : (answersOf questions).isEmpty = false := by
    cases hl : answersOf questions <;> simp_all
  have hsome' : (answersOf questions').isEmpty = false := by
    cases hl : answersOf questions' <;> simp_all
  rw [hsome, hsome'] at h
  simp only [Bool.false_eq_true, if_false, Option.some.injEq, String.append_right_inj] at h
  obtain ⟨l, hl, hsub⟩ := sorted_entries (answersOf questions)
  obtain ⟨l', hl', hsub'⟩ := sorted_entries (answersOf questions')
  have hjoin := htold h
  rw [answerSnapshot, answerSnapshot, hl, hl'] at hjoin
  have hlists : l = l' := join_entries_inj (fun r hr => hplain r (hsub r hr))
    (fun r hr => hplain' r (hsub' r hr)) hjoin
  have hentry : answerEntry r ∈ sortedBy id ((answersOf questions).map answerEntry) :=
    mem_sortedBy.2 (List.mem_map_of_mem hr)
  rw [hl, hlists] at hentry
  obtain ⟨r', hr', heq⟩ := List.mem_map.1 hentry
  cases answerEntry_inj (hplain' r' (hsub' r' hr')) (hplain r hr) heq
  exact hsub' r hr'

end Hash

-- ════════════════════════════════════════════════════════════════════════
-- Questions stay
-- ════════════════════════════════════════════════════════════════════════

section Questions

variable [Runtime] {s : Ledger} {env : Env} {ref taskId questionId text answerSource : String}
  {q updated : QuestionRecord} {questions : List QuestionRecord} {actor : Option ActorRef}
  {harness : Option NamedHarness} {task : TaskRecord}

/-- Every question stays, and stays required or not; the ids are made by the program. -/
def questionsStay : Footprint Ledger where
  Moves s s' := (∀ key q, s.questions.lookup key = some q →
      ∃ q', s'.questions.lookup key = some q' ∧ q'.requiredForPlan = q.requiredForPlan) ∧
    ((∀ q ∈ s.questions.files, Canonical "q" q.id) → ∀ q ∈ s'.questions.files, Canonical "q" q.id)
  refl _ := ⟨fun _ q h => ⟨q, h, rfl⟩, id⟩
  trans _ _ _ h h' := by
    refine ⟨fun key q hq => ?_, fun hs => h'.2 (h.2 hs)⟩
    obtain ⟨q₁, hq₁, hrequired₁⟩ := h.1 key q hq
    obtain ⟨q₂, hq₂, hrequired₂⟩ := h'.1 key q₁ hq₁
    exact ⟨q₂, hq₂, hrequired₂.trans hrequired₁⟩

theorem moves_of_sameQuestions {s' : Ledger} (h : s'.questions = s.questions) :
    questionsStay.Moves s s' := by
  refine ⟨fun key q hq => ⟨q, by rw [h]; exact hq, rfl⟩, fun hs => ?_⟩
  rw [h]
  exact hs

/-- A question is written, over the one of its name when there is one. -/
theorem moves_putQuestion (hid : (∀ q ∈ s.questions.files, Canonical "q" q.id) →
      Canonical "q" updated.id)
    (hrequired : ∀ stored, s.questions.lookup (updated.taskId, updated.id) = some stored →
      updated.requiredForPlan = stored.requiredForPlan) :
    questionsStay.Moves s (s.putQuestion updated) := by
  refine ⟨fun key q hq => ?_, fun hs q hq => ?_⟩
  · by_cases hkey : (updated.taskId, updated.id) = key
    · subst hkey
      exact ⟨updated, Directory.lookup_save_self _ _, hrequired q hq⟩
    · have hother : (s.putQuestion updated).questions.lookup key = s.questions.lookup key :=
        Directory.lookup_save_of_ne s.questions hkey
      exact ⟨q, hother.trans hq, rfl⟩
  · rcases Directory.mem_files_save.1 hq with rfl | ⟨hq, -⟩
    · exact hid hs
    · exact hs q hq

instance {α : Type} {m : LedgerAction α} [hm : Within (SameBut
    [.tasks, .plans, .runs, .locks, .changes, .checks, .reviews, .handoffs, .todos, .links,
      .requirements, .introductions, .releases, .audits, .events, .activeTask, .counter]) m] :
    Within questionsStay m where
  moves s := moves_of_sameQuestions (hm.moves s .questions (by decide))

omit [Runtime] in
/-- A listed question is the stored one, read back. -/
theorem listed_question (h : listQuestions taskId s = .ok questions) (hq : q ∈ questions) :
    ∃ stored, s.questions.lookup (taskId, q.id) = some stored ∧ stored.reload = .ok q ∧
      q.taskId = taskId := by
  obtain ⟨read, hread, hsort⟩ := bind_eq_ok.1 h
  rw [← pure_eq_ok.1 hsort, mem_sortedBy, mem_reloaded_iff hread] at hq
  obtain ⟨stored, hstored, hreload⟩ := hq
  obtain ⟨hmem, htask⟩ := List.mem_filter.1 hstored
  obtain ⟨hid, htask', -, -⟩ := QuestionRecord.of_reload hreload
  have htaskId := of_decide_eq_true htask
  refine ⟨stored, ?_, hreload, htask'.trans htaskId⟩
  rw [hid, ← htaskId]
  exact Directory.lookup_of_mem hmem

omit [Runtime] in
/-- Every stored question of a task is listed. -/
theorem question_listed (h : listQuestions taskId s = .ok questions) (hq : q ∈ s.questions.files)
    (htask : q.taskId = taskId) : ∃ q' ∈ questions, q'.id = q.id := by
  obtain ⟨read, hread, hsort⟩ := bind_eq_ok.1 h
  obtain ⟨q', hq', hreload⟩ :=
    reload_ok_of_mem hread (List.mem_filter.2 ⟨hq, decide_eq_true htask⟩)
  refine ⟨q', ?_, (QuestionRecord.of_reload hreload).1⟩
  rw [← pure_eq_ok.1 hsort, mem_sortedBy]
  exact hq'

/-- A found question is written again. -/
theorem moves_foundQuestion (hr : resolveQuestion taskId questionId s = .ok q)
    (hkey : (updated.taskId, updated.id) = (q.taskId, q.id))
    (hrequired : updated.requiredForPlan = q.requiredForPlan) :
    questionsStay.Moves s (s.putQuestion updated) := by
  obtain ⟨id, -, hr⟩ := Query.bind_eq_ok.1 hr
  obtain ⟨questions, hlist, hr⟩ := Query.bind_eq_ok.1 hr
  cases hfind : questions.find? fun q => refersTo questionId id q.id with
  | none =>
    rw [hfind] at hr
    cases hr
  | some found =>
    rw [hfind] at hr
    cases Query.pure_eq_ok.1 hr
    obtain ⟨stored, hstored, hreload, htask⟩ :=
      listed_question hlist (List.mem_of_find?_eq_some hfind)
    obtain ⟨hid, -, -, hsame⟩ := QuestionRecord.of_reload hreload
    rw [Prod.mk.injEq] at hkey
    refine moves_putQuestion (fun hs => ?_) fun stored' hstored' => ?_
    · rw [hkey.2, hid]
      exact hs stored (Directory.mem_of_lookup hstored)
    · rw [hkey.1, hkey.2, htask, hstored] at hstored'
      cases hstored'
      exact hrequired.trans hsame

/-- A question under a new id. -/
theorem moves_newQuestion {ids : List String} (hids : ∀ q ∈ s.questions.files, q.taskId = task.id →
    q.id ∈ ids) {required : Bool} :
    questionsStay.Moves s (s.putQuestion
      (newQuestion env (Runtime.nextId "q" ids) task text required actor harness)) := by
  refine moves_putQuestion (fun _ => canonical_nextId "q" ids) fun stored hstored => ?_
  have hkey := Directory.key_of_lookup hstored
  rw [Prod.mk.injEq] at hkey
  obtain ⟨htask, hid⟩ := hkey
  have hmem := hids stored (Directory.mem_of_lookup hstored) htask
  rw [hid] at hmem
  exact absurd hmem (Runtime.nextId_fresh "q" ids)

instance {required : Bool} :
    Within questionsStay (addQuestion env ref text required actor harness) where
  moves s := by
    have hsat : (addQuestion env ref text required actor harness).Sat s
        fun _ s' => questionsStay.Moves s s' := by
      refine Sat.query (fun _ _ => questionsStay.refl s) fun task _ => ?_
      refine Sat.except (fun _ _ => questionsStay.refl s) fun _ _ => ?_
      refine Sat.query (fun _ _ => questionsStay.refl s) fun lock _ => ?_
      refine Sat.except (fun _ _ => questionsStay.refl s) fun _ _ => ?_
      refine Sat.query (fun _ _ => questionsStay.refl s) fun known hknown => ?_
      refine Sat.bind (P := fun _ s' => questionsStay.Moves s s') (Sat.write ?_) (fun _ _ h => h)
        fun _ _ h => Sat.pure h
      refine (Within.sat (F := questionsStay) inferInstance _).mono fun _ s' h =>
        questionsStay.trans _ _ _ (moves_newQuestion fun q hq htask => ?_) h
      obtain ⟨q', hq', hid⟩ := question_listed hknown hq htask
      exact List.mem_map.2 ⟨q', hq', hid⟩
    exact hsat

/-- The questions of a batch are written under new ids, one after the other. -/
theorem sat_recordBatch {items : List (String × Bool)} {ids : List String}
    (hids : ∀ q ∈ s.questions.files, q.taskId = task.id → q.id ∈ ids) :
    (each (questionsOfBatch env task actor harness ids items) fun question =>
      recordQuestion env task question).Sat s fun _ s' => questionsStay.Moves s s' := by
  induction items generalizing s ids with
  | nil => exact Sat.pure (questionsStay.refl s)
  | cons item rest ih =>
    obtain ⟨text, required⟩ := item
    have hnew : questionsStay.Moves s (s.putQuestion
        (newQuestion env (Runtime.nextId "q" ids) task text required actor harness)) :=
      moves_newQuestion hids
    refine Sat.bind (P := fun _ s' => questionsStay.Moves s s' ∧
      ∀ q ∈ s'.questions.files, q.taskId = task.id → q.id ∈ ids ++ [Runtime.nextId "q" ids])
      (Sat.write ?_) (fun _ _ h => h.1) fun _ s' h => ?_
    · refine (Within.sat (F := SameBut [.events]) inferInstance _).mono fun _ s' h => ?_
      have hquestions := h .questions (by decide)
      refine ⟨questionsStay.trans _ _ _ hnew (moves_of_sameQuestions hquestions),
        fun q hq htask => ?_⟩
      rw [hquestions] at hq
      rcases Directory.mem_files_save.1 hq with rfl | ⟨hq, -⟩
      · exact List.mem_append_right _ (List.mem_singleton.2 rfl)
      · exact List.mem_append_left _ (hids q hq htask)
    · exact (ih h.2).mono fun _ s'' h' => questionsStay.trans _ _ _ h.1 h'

instance {items : List (String × Bool)} {allowDuplicates : Bool} :
    Within questionsStay (addQuestions env ref items actor harness allowDuplicates) where
  moves s := by
    have hsat : (addQuestions env ref items actor harness allowDuplicates).Sat s
        fun _ s' => questionsStay.Moves s s' := by
      refine Sat.query (fun _ _ => questionsStay.refl s) fun task _ => ?_
      refine Sat.except (fun _ _ => questionsStay.refl s) fun _ _ => ?_
      refine Sat.query (fun _ _ => questionsStay.refl s) fun lock _ => ?_
      refine Sat.except (fun _ _ => questionsStay.refl s) fun _ _ => ?_
      refine Sat.except (fun _ _ => questionsStay.refl s) fun normalized _ => ?_
      refine Sat.query (fun _ _ => questionsStay.refl s) fun known hknown => ?_
      refine Sat.bind (sat_recordBatch fun q hq htask => ?_) (fun _ _ h => h) fun _ _ h => Sat.pure h
      obtain ⟨q', hq', hid⟩ := question_listed hknown hq htask
      exact List.mem_map.2 ⟨q', hq', hid⟩
    exact hsat

instance : Within questionsStay (answerQuestion env ref questionId text actor answerSource) where
  moves s := by
    have hsat : (answerQuestion env ref questionId text actor answerSource).Sat s
        fun _ s' => questionsStay.Moves s s' := by
      refine Sat.query (fun _ _ => questionsStay.refl s) fun task _ => ?_
      refine Sat.except (fun _ _ => questionsStay.refl s) fun _ _ => ?_
      refine Sat.query (fun _ _ => questionsStay.refl s) fun lock _ => ?_
      refine Sat.except (fun _ _ => questionsStay.refl s) fun _ _ => ?_
      refine Sat.guard (fun _ => questionsStay.refl s) fun _ => ?_
      refine Sat.query (fun _ _ => questionsStay.refl s) fun question hquestion => ?_
      refine Sat.guard (fun _ => questionsStay.refl s) fun _ => Sat.write ?_
      exact (Within.sat (F := questionsStay) inferInstance _).mono fun _ s' h =>
        questionsStay.trans s _ s' (moves_foundQuestion hquestion (by rfl) (by rfl)) h
    exact hsat

instance {answers : List (String × String)} :
    Within questionsStay (answerEach env taskId actor answerSource answers) := by
  induction answers with
  | nil => exact within_pure
  | cons answer rest ih =>
    unfold answerEach
    infer_instance

instance {answers : List (String × String)} :
    Within questionsStay (answerQuestions env ref answers actor answerSource) := by
  unfold answerQuestions
  infer_instance

instance : Within questionsStay (dismissQuestion env ref questionId) where
  moves s := by
    have hsat : (dismissQuestion env ref questionId).Sat s
        fun _ s' => questionsStay.Moves s s' := by
      refine Sat.query (fun _ _ => questionsStay.refl s) fun task _ => ?_
      refine Sat.except (fun _ _ => questionsStay.refl s) fun _ _ => ?_
      refine Sat.query (fun _ _ => questionsStay.refl s) fun lock _ => ?_
      refine Sat.except (fun _ _ => questionsStay.refl s) fun _ _ => ?_
      refine Sat.query (fun _ _ => questionsStay.refl s) fun question hquestion => Sat.write ?_
      exact (Within.sat (F := questionsStay) inferInstance _).mono fun _ s' h =>
        questionsStay.trans s _ s' (moves_foundQuestion hquestion (by rfl) (by rfl)) h
    exact hsat

theorem Recorder.moves_questions (r : Recorder) : Within questionsStay (r.run env) := by
  cases r <;> simp only [Recorder.run] <;> infer_instance

/-- A step keeps the questions. -/
theorem Step.moves_questions (step : Step) (s : Ledger) :
    questionsStay.Moves s (step.next s) := by
  have hother (hparts : Part.questions ∉ step.op.parts) : questionsStay.Moves s (step.next s) :=
    moves_of_sameQuestions (step.same s hparts)
  obtain ⟨env, op⟩ := step
  cases op with
  | recorder r => exact r.moves_questions.moves s
  | _ => exact hother (by simp [Op.parts])

end Questions

end Taskledger
