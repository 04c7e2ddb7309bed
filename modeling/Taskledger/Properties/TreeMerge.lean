import Taskledger.Domain.Storable
import Taskledger.PlainRuntime
import Taskledger.Storage.Migrations

/-!
# Merging trees without loss

A merge that stops at a conflict keeps what it moved before, and a log that is on both sides stays
in the source.
-/

namespace Taskledger

open Library

/-- A tree of the migration. -/
abbrev Tree : Type := FileTree FileContent

section Merging

variable [Runtime] (now : String)

-- ════════════════════════════════════════════════════════════════════════
-- What the merge is for
-- ════════════════════════════════════════════════════════════════════════

omit [Runtime] in
/-- The kept log has the lines of the target and those of the source that it has not, each once. -/
def LogsMerged (a b c : FileContent) : Prop :=
  ∃ source target kept, a.readText = .ok source ∧ b.readText = .ok target ∧
    c.readText = .ok kept ∧ Text.splitlines kept = Text.splitlines target ++
      ((Text.splitlines source).filter fun line => line ∉ Text.splitlines target).eraseDups

/-- The kept file has the state that was activated later. -/
def NewerKept (a b c : FileContent) : Prop :=
  ∃ source target, readActiveTask now a = .ok source ∧ readActiveTask now b = .ok target ∧
    readActiveTask now c =
      .ok (if target.state.activatedAt < source.state.activatedAt then source else target)

/-- What two files of a name become. -/
structure FilesMerged (name : String) (a b c : FileContent) : Prop where
  equal : a = b → c = a
  logs : isNdjson name = true → LogsMerged a b c
  active : name = activeTaskName → NewerKept now a b c

omit [Runtime] in
/-- The name at the end of a path from what is called `name`. -/
def lastName (name : String) (path : List String) : String := path.getLast?.getD name

/-- The files of both trees are in the result. -/
structure TreesMerged (name : String) (source : Tree) (target? : Option Tree) (result : Tree) :
    Prop where
  sourceOnly : ∀ path c, FileTree.at? path source = some (.file c) →
    target?.bind (FileTree.at? path) = none → FileTree.at? path result = some (.file c)
  targetOnly : ∀ path c, target?.bind (FileTree.at? path) = some (.file c) →
    FileTree.at? path source = none → FileTree.at? path result = some (.file c)
  common : ∀ path a b, FileTree.at? path source = some (.file a) →
    target?.bind (FileTree.at? path) = some (.file b) →
    ∃ c, FileTree.at? path result = some (.file c) ∧ FilesMerged now (lastName name path) a b c

/-- A merge that returns leaves no source and has merged the trees, and one that raises has changed
nothing. -/
def MergesWithoutLoss (source target name : String) (s : Tree) (t? : Option Tree) : Prop :=
  let out := mergeTree now source target name s t?
  (out.raised = none → out.source = none ∧ TreesMerged now name s t? out.target) ∧
    (out.raised ≠ none → out.source = some s ∧ some out.target = t?)

-- ════════════════════════════════════════════════════════════════════════
-- Conflicts, shared logs, and what is done before a conflict
-- ════════════════════════════════════════════════════════════════════════

omit [Runtime] in
def FileContent.isText : FileContent → Bool
  | .text _ => true
  | .binary _ => false

/-- Two files of a name cannot be merged: a log is no text, an active task cannot be read, or other
files differ. -/
def filesClash (name : String) (a b : FileContent) : Bool :=
  if isNdjson name then !(a.isText && b.isText)
  else if name = activeTaskName then
    (readActiveTask now a).toOption.isNone || (readActiveTask now b).toOption.isNone
  else a != b

omit [Runtime] in
/-- The lines of the first log are in the second, which has no carriage returns. -/
def logAdded : FileContent → FileContent → Bool
  | .text a, .text b =>
    decide ('\r' ∉ b.toList) && decide (KnowsLines (Text.normalizeNewlines a) b)
  | _, _ => false

/-- Two files of a name stay as they are. -/
def filesQuiet (name : String) (a b : FileContent) : Bool :=
  filesClash now name a b || (isNdjson name && logAdded a b)

/-- Some conflict is between the trees. -/
def clash (name : String) (s : Tree) (t? : Option Tree) : Bool :=
  FileTree.meets true (filesClash now) name s t?

omit [Runtime] in
/-- Some event log is in both trees. -/
def sharesLog (name : String) (s : Tree) (t? : Option Tree) : Bool :=
  FileTree.meets false (fun name _ _ => isNdjson name) name s t?

mutual

/-- Before the first conflict, or the end, there is nothing to move, add or remove. -/
def quiet (name : String) : Tree → Option Tree → Bool
  | _, none => false
  | .file a, some (.file b) => filesQuiet now name a b
  | .file _, some (.dir _) => true
  | .dir _, some (.file _) => true
  | .dir es, some (.dir ts) => !es.isEmpty && quietEntries es ts

def quietEntries : Entries FileContent → Entries FileContent → Bool
  | [], _ => true
  | (name, child) :: rest, ts =>
    quiet name child (Entries.get? name ts) &&
      (clash now name child (Entries.get? name ts) || quietEntries rest ts)

end

-- ════════════════════════════════════════════════════════════════════════
-- Files
-- ════════════════════════════════════════════════════════════════════════

/-- What is relied on of the YAML library: an active task it writes it reads back. -/
def ReadsActiveTasks : Prop :=
  ∀ content file, readActiveTask now content = .ok file →
    Runtime.safeLoad (Text.normalizeNewlines (Runtime.safeDump file.toDict)) =
      .ok (.dict file.toDict)

/-- What a merge of two trees does. -/
structure Merges (name : String) (s : Tree) (t? : Option Tree) (out : MergeOutcome) : Prop where
  raises : out.raised.isSome = clash now name s t?
  unchanged : out.source = some s ∧ some out.target = t? ↔ quiet now name s t? = true
  remains : clash now name s t? = false → (out.source = none ↔ sharesLog name s t? = false)
  merged : ReadsActiveTasks now → clash now name s t? = false → sharesLog name s t? = false →
    TreesMerged now name s t? out.target

variable {now} {name : String} {a b : FileContent}

theorem storable_of_fromDict {v : Value} {actor : ActorRef} (h : ActorRef.fromDict v = .ok actor) :
    actor.Storable := by
  have hdefault : ("taskledger" : String) ≠ "" := by decide
  cases v with
  | dict data =>
    obtain ⟨actorType, -, h⟩ := bind_eq_ok.1 h
    obtain ⟨role, -, h⟩ := bind_eq_ok.1 h
    cases pure_eq_ok.1 h
    show (orOption (optionalString (Dict.get data "actor_name")) none).getD "taskledger" ≠ ""
    rcases optionalString (Dict.get data "actor_name") with _ | actorName
    · exact hdefault
    · rw [orOption_getD, Text.orElse]
      split
      · exact hdefault
      · rename_i hne
        exact hne
  | _ =>
    cases h
    exact hdefault

omit [Runtime] in
theorem stampValue_ne (hnow : now ≠ "") (data : Dict) (key : String) :
    stampValue now data key ≠ "" := by
  rw [stampValue]
  rcases optionalString (data.get key) with _ | text
  · exact hnow
  · rw [orOption_getD, Text.orElse]
    split
    · exact hnow
    · rename_i hne
      exact hne

/-- An active task that was read is read again from its own mapping. -/
theorem fromDict_toDict_read (hnow : now ≠ "") {v : Value} {file : ActiveTaskFile}
    (h : ActiveTaskFile.fromDict now v = .ok file) :
    ActiveTaskFile.fromDict now (.dict file.toDict) = .ok file := by
  cases v with
  | dict data =>
    obtain ⟨_, hcontract, h⟩ := bind_eq_ok.1 h
    obtain ⟨taskId, htask, h⟩ := bind_eq_ok.1 h
    obtain ⟨activatedBy, hactor, h⟩ := bind_eq_ok.1 h
    have hstorable : ActorRef.fromDict (.dict activatedBy.toDict) = .ok activatedBy :=
      (ActorRef.fromDict_toDict activatedBy).2 (storable_of_fromDict hactor)
    have htaskNe : taskId ≠ "" := by
      rw [stringValue] at htask
      split at htask
      · rename_i text _
        obtain ⟨_, hne, htask⟩ := bind_eq_ok.1 htask
        cases pure_eq_ok.1 htask
        exact raiseIf_eq_ok.1 hne
      · cases htask
    obtain ⟨_, hversion, -⟩ := bind_eq_ok.1 hcontract
    have hversion := raiseIf_eq_ok.1 hversion
    cases hschema : (Dict.get data "schema_version").asInt? with
    | none =>
      rw [hschema] at hversion
      exact absurd rfl hversion
    | some version =>
      simp only [hschema] at h
      cases pure_eq_ok.1 h
      have hold : version ≤ taskledgerSchemaVersion := by simpa [hschema] using hversion
      have hstamp := stampValue_ne hnow data "activated_at"
      simp [ActiveTaskFile.fromDict, ActiveTaskFile.toDict, ActiveTaskState.toDict, ofMapping,
        requireContract, requireV2FileVersion, raiseIf_eq_ok, bind_eq_ok, Dict.get_cons,
        Dict.get?_cons, Dict.set, hstorable, stringValue, requireString, htaskNe,
        stampValue_str, orElse_eq_self hnow, hstamp, hold,
        Value.asInt?, taskledgerV2FileVersion]
  | _ => cases h

theorem readActiveTask_written (hnow : now ≠ "") (hyaml : ReadsActiveTasks now)
    {content : FileContent} {file : ActiveTaskFile} (h : readActiveTask now content = .ok file) :
    readActiveTask now (.text (Runtime.safeDump file.toDict)) = .ok file := by
  have hload := hyaml content file h
  have hfile : ∃ v, ActiveTaskFile.fromDict now v = .ok file := by
    obtain ⟨text, -, h⟩ := bind_eq_ok.1 h
    cases hread : Runtime.safeLoad text with
    | ok v =>
      rw [hread] at h
      exact ⟨v, h⟩
    | error message =>
      rw [hread] at h
      cases h
  obtain ⟨v, hv⟩ := hfile
  rw [readActiveTask, FileContent.readText, bind_eq_ok]
  refine ⟨_, rfl, ?_⟩
  rw [hload]
  exact fromDict_toDict_read hnow hv

/-- Two active tasks are merged when both can be read, and the newer one is kept. -/
theorem mergedActiveTask_eq (hnow : now ≠ "") :
    ((mergedActiveTask now a b).toOption.isNone =
      ((readActiveTask now a).toOption.isNone || (readActiveTask now b).toOption.isNone)) ∧
    ∀ kept, mergedActiveTask now a b = .ok kept →
      (a = b → kept = a) ∧ (ReadsActiveTasks now → NewerKept now a b kept) := by
  cases ha : readActiveTask now a with
  | error e =>
    have hmerged : mergedActiveTask now a b = .error e := by
      rw [mergedActiveTask, ha]
      rfl
    rw [hmerged]
    exact ⟨rfl, fun kept h => by cases h⟩
  | ok source =>
    cases hb : readActiveTask now b with
    | error e =>
      have hmerged : mergedActiveTask now a b = .error e := by
        rw [mergedActiveTask, ha, hb]
        rfl
      rw [hmerged]
      exact ⟨rfl, fun kept h => by cases h⟩
    | ok target =>
      have hmerged : mergedActiveTask now a b =
          .ok (if target.state.activatedAt < source.state.activatedAt then
            .text (Runtime.safeDump source.toDict) else b) := by
        rw [mergedActiveTask, ha, hb]
        rfl
      rw [hmerged]
      refine ⟨rfl, fun kept h => ?_⟩
      cases h
      refine ⟨fun heq => ?_, fun hyaml => ⟨source, target, ha, hb, ?_⟩⟩
      · rw [heq, hb] at ha
        cases ha
        rw [if_neg (lt_irrefl _), heq]
      · split
        · exact readActiveTask_written hnow hyaml ha
        · exact hb

/-- A file that is moved. -/
theorem merges_moved : Merges now name (.file a) none ⟨none, .file a, none⟩ := by
  refine ⟨rfl, ?_, fun _ => ?_, fun _ _ _ => ?_⟩
  · exact ⟨fun h => (by cases h.1), fun h => (by cases h)⟩
  · exact ⟨fun _ => rfl, fun _ => rfl⟩
  · exact ⟨fun path c h _ => h, fun path c h => (by cases h), fun path x y _ h => (by cases h)⟩

/-- A conflict at the top. -/
theorem merges_conflict {s t : Tree} {e : Raised} (hclash : clash now name s (some t) = true)
    (hquiet : quiet now name s (some t) = true) :
    Merges now name s (some t) ⟨some s, t, some e⟩ := by
  refine ⟨hclash.symm, ?_, fun h => ?_, fun _ h => ?_⟩
  · exact ⟨fun _ => hquiet, fun _ => ⟨rfl, rfl⟩⟩
  all_goals
    rw [hclash] at h
    cases h

/-- A log and a log. -/
theorem merges_logs {source target : String} (hname : isNdjson name = true) :
    Merges now name (.file a) (some (.file b)) (mergeFiles now source target name a b) := by
  have hshared : sharesLog name (.file a) (some (.file b)) = true := hname
  have hclash : clash now name (.file a) (some (.file b)) = !(a.isText && b.isText) :=
    if_pos hname
  have hquiet : quiet now name (.file a) (some (.file b)) =
      (!(a.isText && b.isText) || logAdded a b) := by
    show (filesClash now name a b || (isNdjson name && logAdded a b)) = _
    rw [filesClash, if_pos hname, hname, Bool.true_and]
  rw [mergeFiles, if_pos hname]
  cases a with
  | binary bytes => exact merges_conflict hclash hquiet
  | text s =>
    cases b with
    | binary bytes => exact merges_conflict hclash hquiet
    | text t =>
      have hsource : '\r' ∉ (Text.normalizeNewlines s).toList := by
        rw [Text.normalizeNewlines, String.toList_ofList]
        exact Text.not_mem_unifyLineEnds _ _
      show Merges now name (.file (.text s)) (some (.file (.text t)))
        ⟨some (.file (.text s)), .file (.text (mergedNdjson (Text.normalizeNewlines s)
          (Text.normalizeNewlines t))), none⟩
      refine ⟨hclash.symm, ?_, fun _ => ?_, fun _ _ h => ?_⟩
      · rw [hquiet]
        have hsame := @mergedNdjson_eq_raw _ t hsource
        simp only [Option.some.injEq, FileTree.file.injEq, FileContent.text.injEq, true_and]
        rw [hsame]
        simp [FileContent.isText, logAdded]
      · rw [hshared]
        simp
      · rw [hshared] at h
        cases h

theorem treesMerged_files {kept : FileContent} (h : FilesMerged now name a b kept) :
    TreesMerged now name (.file a) (some (.file b)) (.file kept) := by
  refine ⟨fun path c _ ht => ?_, fun path c _ hs => ?_, fun path x y hs ht => ?_⟩
  · cases path with
    | nil => cases ht
    | cons n path =>
      rename_i hs
      cases hs
  · cases path with
    | nil => cases hs
    | cons n path =>
      rename_i ht
      cases ht
  · cases path with
    | nil =>
      cases hs
      cases ht
      exact ⟨kept, rfl, h⟩
    | cons n path => cases hs

/-- A file and a file of the same name. -/
theorem merges_files (hnow : now ≠ "") {source target : String} :
    Merges now name (.file a) (some (.file b)) (mergeFiles now source target name a b) := by
  by_cases hlog : isNdjson name = true
  · exact merges_logs hlog
  have hshared : sharesLog name (.file a) (some (.file b)) = false := by
    simpa [sharesLog, FileTree.meets] using hlog
  have hquiet : quiet now name (.file a) (some (.file b)) = filesClash now name a b := by
    simp [quiet, filesQuiet, hlog]
  have hkept {kept : FileContent} (hequal : a = b → kept = a)
      (hactive : name = activeTaskName → NewerKept now a b kept) :
      TreesMerged now name (.file a) (some (.file b)) (.file kept) :=
    treesMerged_files ⟨hequal, fun h => absurd h hlog, hactive⟩
  rw [mergeFiles, if_neg hlog]
  by_cases hname : name = activeTaskName
  · obtain ⟨hreads, hnewer⟩ := @mergedActiveTask_eq _ now a b hnow
    have hclash : clash now name (.file a) (some (.file b)) =
        (mergedActiveTask now a b).toOption.isNone := by
      rw [hreads]
      exact (if_neg hlog).trans (if_pos hname)
    rw [if_pos hname]
    cases hmerged : mergedActiveTask now a b with
    | ok kept =>
      rw [hmerged] at hclash
      have hfiles : filesClash now name a b = false := hclash
      refine ⟨hclash.symm, ?_, fun _ => ?_, fun hyaml _ _ => ?_⟩
      · rw [hquiet, hfiles]
        simp
      · rw [hshared]
        simp
      · exact hkept (hnewer kept hmerged).1 fun _ => (hnewer kept hmerged).2 hyaml
    | error e =>
      rw [hmerged] at hclash
      exact merges_conflict hclash (hquiet.trans hclash)
  · have hclash : clash now name (.file a) (some (.file b)) = (a != b) :=
      (if_neg hlog).trans (if_neg hname)
    rw [if_neg hname]
    by_cases hsame : a = b
    · rw [if_pos hsame]
      have hfiles : clash now name (.file a) (some (.file b)) = false := by
        rw [hclash, hsame, bne_self_eq_false]
      refine ⟨hfiles.symm, ?_, fun _ => ?_, fun _ _ _ => ?_⟩
      · rw [hquiet, show filesClash now name a b = false from hfiles]
        simp
      · rw [hshared]
        simp
      · exact hkept (fun h => h.symm) fun h => absurd h hname
    · rw [if_neg hsame]
      have hfiles : clash now name (.file a) (some (.file b)) = true := by
        rw [hclash]
        exact bne_iff_ne.2 hsame
      exact merges_conflict hfiles (hquiet.trans hfiles)

-- ════════════════════════════════════════════════════════════════════════
-- Directories
-- ════════════════════════════════════════════════════════════════════════

section Directories

variable {source target n : String} {es ts : Entries FileContent} {child : Tree}

/-- The entries of a directory, and what they become. -/
structure EntriesMerge (now : String) (es ts left out : Entries FileContent)
    (raised : Option Raised) : Prop where
  raises : raised.isSome = FileTree.entriesMeet true (filesClash now) es ts
  unchanged : left = es ∧ out = ts ↔ quietEntries now es ts = true
  remains : raised = none →
    (left = [] ↔ FileTree.entriesMeet false (fun name _ _ => isNdjson name) es ts = false)
  names : ∀ e ∈ left, e.1 ∈ es.map Prod.fst
  frame : ∀ n ∉ es.map Prod.fst, Entries.get? n out = Entries.get? n ts
  merged : ReadsActiveTasks now → raised = none →
    FileTree.entriesMeet false (fun name _ _ => isNdjson name) es ts = false →
    ∀ n c, Entries.get? n es = some c →
      ∃ r, Entries.get? n out = some r ∧ TreesMerged now n c (Entries.get? n ts) r

theorem quietEntries_cons : quietEntries now ((n, child) :: es) ts =
    (quiet now n child (Entries.get? n ts) &&
      (clash now n child (Entries.get? n ts) || quietEntries now es ts)) := rfl

theorem quietEntries_set {t : Tree} (h : ∀ e ∈ es, e.1 ≠ n) :
    quietEntries now es (Entries.set n t ts) = quietEntries now es ts := by
  induction es with
  | nil => rfl
  | cons e rest ih =>
    obtain ⟨m, u⟩ := e
    obtain ⟨hm, hrest⟩ := List.forall_mem_cons.1 h
    rw [quietEntries_cons, quietEntries_cons, Entries.get?_set_of_ne hm, ih hrest]

omit [Runtime] in
/-- An entry that remains as it was, and the others with it. -/
theorem keepEntry_eq_cons {left : Option Tree} {others : Entries FileContent}
    (h : ∀ e ∈ others, e.1 ≠ n) :
    keepEntry n left others = (n, child) :: es ↔ left = some child ∧ others = es := by
  cases left with
  | none =>
    refine ⟨fun hothers => ?_, fun ⟨h, _⟩ => by cases h⟩
    have hmem : (n, child) ∈ others := by
      rw [show others = (n, child) :: es from hothers]
      exact List.mem_cons_self
    exact absurd rfl (h _ hmem)
  | some t => simp [keepEntry]

omit [Runtime] in
theorem keepEntry_eq_nil {left : Option Tree} {others : Entries FileContent} :
    keepEntry n left others = [] ↔ left = none ∧ others = [] := by
  cases left <;> simp [keepEntry]

omit [Runtime] in
theorem name_of_mem_keepEntry {left : Option Tree} {others : Entries FileContent}
    {e : String × Tree} (h : e ∈ keepEntry n left others) : e.1 = n ∨ e ∈ others := by
  cases left with
  | none => exact .inr h
  | some t =>
    rcases List.mem_cons.1 h with rfl | h
    · exact .inl rfl
    · exact .inr h

/-- An entry with a conflict. -/
theorem EntriesMerge.stop {first : MergeOutcome} {e : Raised} (hnew : ∀ e ∈ es, e.1 ≠ n)
    (hsorted : ts.Sorted) (hfirst : Merges now n child (Entries.get? n ts) first)
    (hraises : first.raised = some e) :
    EntriesMerge now ((n, child) :: es) ts (keepEntry n first.source es)
      (Entries.set n first.target ts) (some e) := by
  have hclash : clash now n child (Entries.get? n ts) = true := by
    rw [← hfirst.raises, hraises]
    rfl
  refine ⟨?_, ?_, fun h => (by cases h), ?_, ?_, fun _ h => (by cases h)⟩
  · rw [FileTree.entriesMeet_cons, show FileTree.meets true (filesClash now) n child _ = true
      from hclash]
    rfl
  · rw [quietEntries_cons, hclash, Bool.true_or, Bool.and_true, ← hfirst.unchanged,
      keepEntry_eq_cons hnew, Entries.set_eq_self_iff hsorted, and_iff_left rfl, eq_comm]
    exact and_congr_right fun _ => eq_comm
  · intro x hx
    rcases name_of_mem_keepEntry hx with h | h
    · exact h ▸ List.mem_cons_self
    · exact List.mem_cons_of_mem _ (List.mem_map_of_mem h)
  · intro m hm
    exact Entries.get?_set_of_ne fun h => hm (h ▸ List.mem_cons_self)

/-- One entry, and the ones after it. -/
theorem EntriesMerge.cons {first : MergeOutcome} {left out : Entries FileContent}
    {raised : Option Raised} (hnew : ∀ e ∈ es, e.1 ≠ n) (hsorted : ts.Sorted)
    (hfirst : Merges now n child (Entries.get? n ts) first) (hreturns : first.raised = none)
    (hrest : EntriesMerge now es (Entries.set n first.target ts) left out raised) :
    EntriesMerge now ((n, child) :: es) ts (keepEntry n first.source left) out raised := by
  have hclash : clash now n child (Entries.get? n ts) = false := by
    rw [← hfirst.raises, hreturns]
    rfl
  have hname : n ∉ es.map Prod.fst := by
    intro h
    obtain ⟨e, he, heq⟩ := List.mem_map.1 h
    exact hnew e he heq
  have hleft : ∀ e ∈ left, e.1 ≠ n := fun e he h => hname (h ▸ hrest.names e he)
  have hout : Entries.get? n out = some first.target := by
    rw [hrest.frame n hname]
    exact Entries.get?_set_self
  refine ⟨?_, ?_, fun hraised => ?_, ?_, ?_, ?_⟩
  · rw [FileTree.entriesMeet_cons, show FileTree.meets true (filesClash now) n child _ = false
      from hclash, Bool.false_or, hrest.raises, FileTree.entriesMeet_set hnew]
  · rw [quietEntries_cons, hclash, Bool.false_or, Bool.and_eq_true, ← hfirst.unchanged,
      ← quietEntries_set hnew, ← hrest.unchanged, keepEntry_eq_cons hleft]
    constructor
    · rintro ⟨⟨hsource, hes⟩, rfl⟩
      have hset : Entries.set n first.target out = out := Entries.set_get? hsorted hout
      exact ⟨⟨hsource, hout.symm⟩, hes, hset.symm⟩
    · rintro ⟨⟨hsource, htarget⟩, hes, hts⟩
      rw [Entries.set_get? hsorted htarget.symm] at hts
      exact ⟨⟨hsource, hes⟩, hts⟩
  · rw [keepEntry_eq_nil, hfirst.remains hclash, hrest.remains hraised,
      FileTree.entriesMeet_cons, FileTree.entriesMeet_set hnew, Bool.or_eq_false_iff]
    rfl
  · intro x hx
    rcases name_of_mem_keepEntry hx with h | h
    · exact h ▸ List.mem_cons_self
    · exact List.mem_cons_of_mem _ (hrest.names x h)
  · intro m hm
    rw [List.map_cons, List.mem_cons, not_or] at hm
    rw [hrest.frame m hm.2]
    exact Entries.get?_set_of_ne hm.1
  · intro hyaml hraised hshared m c hget
    rw [FileTree.entriesMeet_cons, Bool.or_eq_false_iff] at hshared
    rw [Entries.get?_cons] at hget
    split at hget
    · rename_i hm
      cases hget
      subst hm
      exact ⟨first.target, hout, hfirst.merged hyaml hclash hshared.1⟩
    · rename_i hm
      have hothers := hrest.merged hyaml hraised
        ((FileTree.entriesMeet_set hnew).trans hshared.2) m c hget
      rwa [Entries.get?_set_of_ne hm] at hothers

variable (now) in
/-- A merge of a tree into any other that is ordered. -/
def TreeMerges (s : Tree) : Prop :=
  ∀ source target name (t? : Option Tree), (∀ t ∈ t?, t.Ordered) →
    Merges now name s t? (mergeTree now source target name s t?)

/-- The children of a directory, one after the other. -/
theorem mergeEntries_merges (hes : es.Sorted) (hchildren : ∀ e ∈ es, TreeMerges now e.2)
    (hts : ts.Sorted) (hordered : ∀ e ∈ es, ∀ t ∈ Entries.get? e.1 ts, t.Ordered) :
    EntriesMerge now es ts (mergeEntries now source target es ts).1
      (mergeEntries now source target es ts).2.1 (mergeEntries now source target es ts).2.2 := by
  induction es generalizing ts with
  | nil =>
    refine ⟨rfl, ?_, fun _ => ?_, fun e he => (by cases he), fun n _ => rfl,
      fun _ _ _ n c h => (by cases h)⟩
    · exact ⟨fun _ => rfl, fun _ => ⟨rfl, rfl⟩⟩
    · exact ⟨fun _ => rfl, fun _ => rfl⟩
  | cons e rest ih =>
    obtain ⟨n, child⟩ := e
    obtain ⟨hlater, hsorted⟩ := List.pairwise_cons.1 hes
    obtain ⟨hchild, hrest⟩ := List.forall_mem_cons.1 hchildren
    obtain ⟨hfirstOrdered, hrestOrdered⟩ := List.forall_mem_cons.1 hordered
    have hnew : ∀ e ∈ rest, e.1 ≠ n := fun e he => Ne.symm (ne_of_lt (hlater e he))
    have hfirst := hchild (source ++ "/" ++ n) (target ++ "/" ++ n) n (Entries.get? n ts)
      hfirstOrdered
    rw [mergeEntries]
    generalize mergeTree now (source ++ "/" ++ n) (target ++ "/" ++ n) n child
      (Entries.get? n ts) = first at hfirst
    cases hraised : first.raised with
    | some e =>
      simp only
      exact EntriesMerge.stop hnew hts hfirst hraised
    | none =>
      simp only
      refine EntriesMerge.cons hnew hts hfirst hraised (ih hsorted hrest hts.set ?_)
      intro e he t ht
      rw [Entries.get?_set_of_ne (hnew e he)] at ht
      exact hrestOrdered e he t ht

/-- Directories whose entries are merged are merged. -/
theorem treesMerged_dir {out : Entries FileContent} {t? : Option Tree}
    (ht : t? = none ∧ ts = [] ∨ t? = some (.dir ts))
    (hframe : ∀ n ∉ es.map Prod.fst, Entries.get? n out = Entries.get? n ts)
    (hmerged : ∀ n c, Entries.get? n es = some c →
      ∃ r, Entries.get? n out = some r ∧ TreesMerged now n c (Entries.get? n ts) r) :
    TreesMerged now name (.dir es) t? (.dir out) := by
  have hbelow : ∀ n path, t?.bind (FileTree.at? (n :: path)) =
      (Entries.get? n ts).bind (FileTree.at? path) := by
    intro n path
    rcases ht with ⟨rfl, rfl⟩ | rfl <;> rfl
  have htop : ∀ c, t?.bind (FileTree.at? []) ≠ some (.file c) := by
    intro c h
    rcases ht with ⟨rfl, rfl⟩ | rfl <;> cases h
  refine ⟨fun path c hs hnone => ?_, fun path c htarget hnone => ?_, fun path a b hs htarget => ?_⟩
  · cases path with
    | nil => cases hs
    | cons n path =>
      rw [hbelow] at hnone
      obtain ⟨child, hget, hs⟩ := Option.bind_eq_some_iff.1 hs
      obtain ⟨r, hr, hchild⟩ := hmerged n child hget
      rw [FileTree.at?_dir, hr]
      exact hchild.sourceOnly path c hs hnone
  · cases path with
    | nil => exact absurd htarget (htop c)
    | cons n path =>
      rw [hbelow] at htarget
      rw [FileTree.at?_dir] at hnone ⊢
      cases hget : Entries.get? n es with
      | none =>
        rw [hframe n (Entries.get?_eq_none_iff.1 hget)]
        exact htarget
      | some child =>
        rw [hget] at hnone
        obtain ⟨r, hr, hchild⟩ := hmerged n child hget
        rw [hr]
        exact hchild.targetOnly path c htarget hnone
  · cases path with
    | nil => cases hs
    | cons n path =>
      rw [hbelow] at htarget
      obtain ⟨child, hget, hs⟩ := Option.bind_eq_some_iff.1 hs
      obtain ⟨r, hr, hchild⟩ := hmerged n child hget
      obtain ⟨c, hc, hfiles⟩ := hchild.common path a b hs htarget
      refine ⟨c, ?_, ?_⟩
      · rw [FileTree.at?_dir, hr]
        exact hc
      · have hlast : lastName name (n :: path) = lastName n path := by
          simp [lastName, List.getLast?_cons]
        rw [hlast]
        exact hfiles

/-- What a directory becomes when its entries are merged. -/
theorem merges_dir {left out : Entries FileContent} {raised : Option Raised} {t? : Option Tree}
    (ht : t? = none ∧ ts = [] ∨ t? = some (.dir ts)) (h : EntriesMerge now es ts left out raised) :
    Merges now name (.dir es) t?
      ⟨if left = [] ∧ raised.isNone then none else some (.dir left), .dir out, raised⟩ := by
  have hclash : clash now name (.dir es) t? =
      FileTree.entriesMeet true (filesClash now) es ts := by
    rcases ht with ⟨rfl, rfl⟩ | rfl
    · exact FileTree.entriesMeet_nil.symm
    · rfl
  have hshared : sharesLog name (.dir es) t? =
      FileTree.entriesMeet false (fun name _ _ => isNdjson name) es ts := by
    rcases ht with ⟨rfl, rfl⟩ | rfl
    · exact FileTree.entriesMeet_nil.symm
    · rfl
  have hreturns : clash now name (.dir es) t? = false → raised = none := by
    intro hnone
    rw [hclash, ← h.raises] at hnone
    exact Option.isSome_eq_false_iff.1 hnone |> Option.isNone_iff_eq_none.1
  refine ⟨h.raises.trans hclash.symm, ?_, fun hnone => ?_, fun hyaml hnone hlogs => ?_⟩
  · rcases ht with ⟨rfl, rfl⟩ | rfl
    · exact ⟨fun hsame => (by cases hsame.2), fun hquiet => (by cases hquiet)⟩
    · have hquiet : quiet now name (.dir es) (some (.dir ts)) =
          (!es.isEmpty && quietEntries now es ts) := rfl
      rw [hquiet, Bool.and_eq_true, ← h.unchanged]
      by_cases hempty : es = []
      · subst hempty
        have hleft : left = [] := List.eq_nil_iff_forall_not_mem.2 fun e he => by
          cases h.names e he
        have hnone : raised.isNone = true := by
          rw [← Option.not_isSome, h.raises]
          rfl
        rw [if_pos ⟨hleft, hnone⟩]
        simp
      · have hsome : (!es.isEmpty) = true := by simpa using hempty
        rw [and_iff_right hsome]
        constructor
        · rintro ⟨hsource, htarget⟩
          split at hsource
          · cases hsource
          · cases hsource
            cases htarget
            exact ⟨rfl, rfl⟩
        · rintro ⟨rfl, rfl⟩
          rw [if_neg fun hleft => hempty hleft.1]
          exact ⟨rfl, rfl⟩
  · have hraised : raised = none := hreturns hnone
    rw [hshared, ← h.remains hraised, hraised]
    by_cases hleft : left = [] <;> simp [hleft]
  · have hraised : raised = none := hreturns hnone
    rw [hshared] at hlogs
    exact treesMerged_dir ht h.frame (h.merged hyaml hraised hlogs)

end Directories

/-- Every tree is merged so. -/
theorem mergeTree_merges (hnow : now ≠ "") (s : Tree) (hs : s.Ordered) : TreeMerges now s := by
  induction s using FileTree.induction with
  | hfile a =>
    intro source target name t? ht
    rcases t? with _ | b | ts
    · exact merges_moved
    · exact merges_files hnow
    · exact merges_conflict rfl rfl
  | hdir es ih =>
    cases hs with
    | dir _ hsorted hes =>
    have hchildren : ∀ e ∈ es, TreeMerges now e.2 := fun e he => ih e he (hes e he)
    intro source target name t? ht
    rcases t? with _ | b | ts
    · have hentries := @mergeEntries_merges _ now source target es [] hsorted hchildren
        List.Pairwise.nil fun e he t h => (by cases h)
      exact merges_dir (.inl ⟨rfl, rfl⟩) hentries
    · exact merges_conflict rfl rfl
    · cases ht _ rfl with
      | dir _ htsorted hts =>
      have hentries := @mergeEntries_merges _ now source target es ts hsorted hchildren htsorted
        fun e _ t h => hts _ (Entries.mem_of_get? h)
      exact merges_dir (.inr rfl) hentries

-- ════════════════════════════════════════════════════════════════════════
-- The merge
-- ════════════════════════════════════════════════════════════════════════

/-- A tree whose directories list their entries in order. -/
abbrev OrderedTree : Type := {t : Tree // t.Ordered}

/-- A merge is without loss exactly when it ends at a conflict before which there was nothing to
do, or when there is no conflict and no event log is in both trees. -/
theorem merges_without_loss_iff {instant : Nat}
    (hyaml : ReadsActiveTasks (Runtime.utcNowIso instant)) (source target name : String)
    (s : OrderedTree) (t? : Option OrderedTree) :
    MergesWithoutLoss (Runtime.utcNowIso instant) source target name s (t?.map Subtype.val) ↔
      clash (Runtime.utcNowIso instant) name s (t?.map Subtype.val) = true ∧
          quiet (Runtime.utcNowIso instant) name s (t?.map Subtype.val) = true ∨
        clash (Runtime.utcNowIso instant) name s (t?.map Subtype.val) = false ∧
          sharesLog name s (t?.map Subtype.val) = false := by
  have hordered : ∀ t ∈ t?.map Subtype.val, t.Ordered := by
    intro t ht
    obtain ⟨u, -, rfl⟩ := Option.mem_map.1 ht
    exact u.2
  have h := mergeTree_merges (Runtime.utcNowIso_ne instant) s.1 s.2 source target name _ hordered
  generalize t?.map Subtype.val = target? at h
  rw [MergesWithoutLoss]
  cases hclash : clash (Runtime.utcNowIso instant) name s.1 target? with
  | true =>
    have hraises : (mergeTree (Runtime.utcNowIso instant) source target name s.1 target?).raised ≠
        none := by
      rw [← Option.isSome_iff_ne_none, h.raises, hclash]
    rw [← h.unchanged]
    simp [hraises]
  | false =>
    have hreturns : (mergeTree (Runtime.utcNowIso instant) source target name s.1 target?).raised =
        none := by
      rw [← Option.isNone_iff_eq_none, ← Option.not_isSome, h.raises, hclash]
      rfl
    constructor
    · rintro ⟨hreturned, -⟩
      exact .inr ⟨rfl, (h.remains hclash).1 (hreturned hreturns).1⟩
    · rintro (⟨hfalse, -⟩ | ⟨-, hshared⟩)
      · cases hfalse
      · exact ⟨fun _ => ⟨(h.remains hclash).2 hshared, h.merged hyaml hclash hshared⟩,
          fun hraised => absurd hreturns hraised⟩

end Merging

section Evaluation

/-- An active task, as the program writes it. -/
def activeTaskAt (taskId stamp : String) : ActiveTaskFile where
  state := { taskId := taskId, activatedAt := stamp }
  schemaVersion := 1

/-- Its YAML. -/
def activeTaskYaml (taskId stamp : String) : String :=
  "schema_version: 1\nobject_type: active_task\nfile_version: v2\ntask_id: " ++ taskId ++
    "\nactivated_at: '" ++ stamp ++ "'\nactivated_by:\n  actor_type: agent\n" ++
    "  actor_name: taskledger\n  tool: null\n  session_id: null\n  host: null\n  pid: null\n" ++
    "  actor_id: null\n  role: null\n  harness_id: null\n  command_pid: null\n" ++
    "  pid_scope: null\nreason: null\nprevious_task_id: null\n"

def olderActive : ActiveTaskFile := activeTaskAt "task-0001" "1970-01-01T00:00:00+00:00"

def olderYaml : String := activeTaskYaml "task-0001" "1970-01-01T00:00:00+00:00"

def newerActive : ActiveTaskFile := activeTaskAt "task-0002" "1970-01-01T02:00:00+00:00"

def newerYaml : String := activeTaskYaml "task-0002" "1970-01-01T02:00:00+00:00"

/-- The runtime to evaluate with, and the YAML of two active tasks. -/
@[reducible]
def activeTasksRuntime : Runtime :=
  { plainRuntime with
    safeDump := fun data =>
      if (Dict.get data "task_id").asString? = some "task-0002" then newerYaml else olderYaml
    safeLoad := fun text =>
      if text = newerYaml then .ok (.dict newerActive.toDict)
      else if text = olderYaml then .ok (.dict olderActive.toDict)
      else .ok (.str text) }

attribute [local instance] activeTasksRuntime

theorem normalizeNewlines_activeTaskYaml {taskId stamp : String} (htask : '\r' ∉ taskId.toList)
    (hstamp : '\r' ∉ stamp.toList) :
    Text.normalizeNewlines (activeTaskYaml taskId stamp) = activeTaskYaml taskId stamp := by
  refine Text.normalizeNewlines_of_not_mem ?_
  unfold activeTaskYaml
  simp only [String.toList_append, List.mem_append, not_or]
  exact ⟨⟨⟨⟨⟨⟨⟨by decide, htask⟩, by decide⟩, hstamp⟩, by decide⟩,
    by decide⟩, by decide⟩, by decide⟩

theorem normalizeNewlines_newerYaml : Text.normalizeNewlines newerYaml = newerYaml :=
  normalizeNewlines_activeTaskYaml (by decide) (by decide)

theorem normalizeNewlines_olderYaml : Text.normalizeNewlines olderYaml = olderYaml :=
  normalizeNewlines_activeTaskYaml (by decide) (by decide)

theorem olderYaml_ne : olderYaml ≠ newerYaml := by decide

theorem safeLoad_newerYaml : Runtime.safeLoad newerYaml = .ok (.dict newerActive.toDict) :=
  if_pos rfl

theorem safeLoad_olderYaml : Runtime.safeLoad olderYaml = .ok (.dict olderActive.toDict) :=
  (if_neg olderYaml_ne).trans (if_pos rfl)

theorem safeDump_newerActive : Runtime.safeDump newerActive.toDict = newerYaml :=
  if_pos (by decide)

theorem safeDump_olderActive : Runtime.safeDump olderActive.toDict = olderYaml :=
  if_neg (by decide)

theorem readsActiveTasks_plain (now : String) : ReadsActiveTasks now := by
  have hnewer : ActiveTaskFile.fromDict now (.dict newerActive.toDict) = .ok newerActive := rfl
  have holder : ActiveTaskFile.fromDict now (.dict olderActive.toDict) = .ok olderActive := rfl
  intro content file h
  obtain ⟨text, -, h⟩ := bind_eq_ok.1 h
  by_cases htext : text = newerYaml
  · rw [htext, safeLoad_newerYaml] at h
    cases hnewer.symm.trans h
    rw [safeDump_newerActive, normalizeNewlines_newerYaml]
    exact safeLoad_newerYaml
  · by_cases htext' : text = olderYaml
    · rw [htext', safeLoad_olderYaml] at h
      cases holder.symm.trans h
      rw [safeDump_olderActive, normalizeNewlines_olderYaml]
      exact safeLoad_olderYaml
    · have hload : Runtime.safeLoad text = .ok (.str text) :=
        (if_neg htext).trans (if_neg htext')
      rw [hload] at h
      cases h

theorem readActiveTask_newerYaml (now : String) :
    readActiveTask now (.text newerYaml) = .ok newerActive := by
  have hread : ActiveTaskFile.fromDict now (.dict newerActive.toDict) = .ok newerActive := rfl
  rw [readActiveTask, FileContent.readText, normalizeNewlines_newerYaml, bind_eq_ok]
  refine ⟨newerYaml, rfl, ?_⟩
  rw [safeLoad_newerYaml]
  exact hread

theorem readActiveTask_olderYaml (now : String) :
    readActiveTask now (.text olderYaml) = .ok olderActive := by
  have hread : ActiveTaskFile.fromDict now (.dict olderActive.toDict) = .ok olderActive := rfl
  rw [readActiveTask, FileContent.readText, normalizeNewlines_olderYaml, bind_eq_ok]
  refine ⟨olderYaml, rfl, ?_⟩
  rw [safeLoad_olderYaml]
  exact hread

/-- Two active tasks that can be read are no conflict. -/
theorem filesClash_active (now : String) :
    filesClash now "active-task.yaml" (.text newerYaml) (.text olderYaml) = false := by
  have hlog : isNdjson "active-task.yaml" = false := by decide
  rw [filesClash, hlog, readActiveTask_newerYaml, readActiveTask_olderYaml]
  rfl

/-- A directory with one file. -/
def oneFile (name : String) (content : FileContent) : OrderedTree :=
  ⟨.dir [(name, .file content)], .dir _ (List.pairwise_singleton _ _) fun e he => by
    cases List.mem_singleton.1 he
    exact .file content⟩

/-- Two directories of one name meet in the files of theirs. -/
theorem meets_oneFile {odd : Bool} {p : String → FileContent → FileContent → Bool} {n name : String}
    {a b : FileContent} :
    FileTree.meets odd p n (oneFile name a).1 (some (oneFile name b).1) = p name a b := by
  have hget : Entries.get? name [(name, FileTree.file b)] = some (.file b) :=
    Entries.get?_cons.trans (if_pos rfl)
  rw [oneFile, oneFile, FileTree.meets, FileTree.entriesMeet_cons, hget, FileTree.meets]
  exact Bool.or_false _

theorem newer_active_task_free :
    clash "1970-01-01T00:00:00+00:00" "new" (oneFile "active-task.yaml" (.text newerYaml)).1
        (some (oneFile "active-task.yaml" (.text olderYaml)).1) = false ∧
      sharesLog "new" (oneFile "active-task.yaml" (.text newerYaml)).1
        (some (oneFile "active-task.yaml" (.text olderYaml)).1) = false := by
  rw [clash, sharesLog, meets_oneFile, meets_oneFile]
  exact ⟨filesClash_active _, by decide⟩

theorem newer_active_task_is_merged :
    MergesWithoutLoss "1970-01-01T00:00:00+00:00" "old" "new" "new"
      (oneFile "active-task.yaml" (.text newerYaml)).1
      (some (oneFile "active-task.yaml" (.text olderYaml)).1) :=
  (@merges_without_loss_iff _ 0 (readsActiveTasks_plain _) "old" "new" "new"
    (oneFile "active-task.yaml" (.text newerYaml))
    (some (oneFile "active-task.yaml" (.text olderYaml)))).2 (.inr newer_active_task_free)

/-- The log that is on both sides stays in the source, and its first line is glued to the last of
the target. -/
theorem shared_log_remains :
    ¬ MergesWithoutLoss "1970-01-01T00:00:00+00:00" "old" "new" "new"
      (oneFile "events.ndjson" (.text "b\n")).1 (some (oneFile "events.ndjson" (.text "a")).1) := by
  rintro ⟨hreturns, -⟩
  have hlost := (hreturns (Option.isNone_iff_eq_none.1 (by decide))).1
  cases hlost

end Evaluation

end Taskledger
