import Taskledger.Domain.FromDict
import Taskledger.Library.FileTree
import Taskledger.Library.Lines

/-!
# The merge of two trees

`_merge_tree_without_overwrite` moves what the target does not have, merges event logs and the
active task, and stops at the first conflict. What it did before stays done.
-/

namespace Taskledger

open Library

/-- The bytes of a file: a UTF-8 text, or bytes that are none. -/
inductive FileContent where
  | text (s : String)
  | binary (bytes : List UInt8)
  deriving DecidableEq

/-- `path.read_text(encoding="utf-8")`. -/
def FileContent.readText : FileContent → Except Raised String
  | .text s => .ok (Text.normalizeNewlines s)
  | .binary _ => .error (.python "UnicodeDecodeError" "'utf-8' codec can't decode bytes")

-- ════════════════════════════════════════════════════════════════════════
-- Event logs
-- ════════════════════════════════════════════════════════════════════════

/-- The lines of a text with their ends; `line` is the current one, reversed. -/
def linesKeptFrom (line : List Char) : List Char → List (List Char)
  | [] => if line.isEmpty then [] else [line.reverse]
  | c :: cs =>
    if Text.isLineBreak c then (c :: line).reverse :: linesKeptFrom [] cs
    else linesKeptFrom (c :: line) cs

/-- `text.splitlines(keepends=True)` of a text without carriage returns. -/
def splitlinesKeepEnds (s : String) : List String := (linesKeptFrom [] s.toList).map String.ofList

/-- The text `_merge_ndjson_files` writes. -/
def mergedNdjson (source target : String) : String :=
  let targetLines := splitlinesKeepEnds target
  let targetSet := targetLines.map Text.rstrip
  let appended := (splitlinesKeepEnds source).filter fun line => Text.rstrip line ∉ targetSet
  Text.join "" (targetLines ++ appended.map fun line =>
    if Text.endsWith line "\n" then line else line ++ "\n")

theorem toList_join (parts : List String) :
    (Text.join "" parts).toList = parts.flatMap String.toList := by
  induction parts with
  | nil => rfl
  | cons part rest ih =>
    cases rest with
    | nil => simp [Text.join]
    | cons next rest =>
      rw [Text.join_cons (List.cons_ne_nil _ _)]
      simp only [String.toList_append, ih, List.flatMap_cons]
      simp

theorem flatten_linesKeptFrom (line cs : List Char) :
    (linesKeptFrom line cs).flatten = line.reverse ++ cs := by
  induction cs generalizing line with
  | nil =>
    rw [linesKeptFrom]
    split
    · rename_i hempty
      simp [List.isEmpty_iff.1 hempty]
    · simp
  | cons c cs ih =>
    rw [linesKeptFrom]
    split
    · rw [List.flatten_cons, ih]
      simp
    · rw [ih]
      simp

/-- The lines of a text with their ends are the text. -/
theorem flatMap_splitlinesKeepEnds (s : String) :
    (splitlinesKeepEnds s).flatMap String.toList = s.toList := by
  have htexts : ∀ ls : List (List Char), (ls.map String.ofList).flatMap String.toList =
      ls.flatten := by
    intro ls
    induction ls with
    | nil => rfl
    | cons l rest ih => simp [ih]
  rw [splitlinesKeepEnds, htexts, flatten_linesKeptFrom]
  rfl

theorem mem_of_mem_splitlinesKeepEnds {s line : String} {c : Char}
    (hline : line ∈ splitlinesKeepEnds s) (hc : c ∈ line.toList) : c ∈ s.toList := by
  rw [← flatMap_splitlinesKeepEnds s]
  exact List.mem_flatMap.2 ⟨line, hline, hc⟩

/-- Every line of the source is one of the target's, up to blanks at its end. -/
def KnowsLines (source target : String) : Prop :=
  ∀ line ∈ splitlinesKeepEnds source,
    Text.rstrip line ∈ (splitlinesKeepEnds target).map Text.rstrip

instance (source target : String) : Decidable (KnowsLines source target) :=
  inferInstanceAs (Decidable (∀ _ ∈ _, _))

/-- The text of the target, and the lines that are new. -/
theorem toList_mergedNdjson (source target : String) :
    ∃ added : List String, (mergedNdjson source target).toList =
        target.toList ++ added.flatMap String.toList ∧
      (added = [] ↔ KnowsLines source target) ∧
      ∀ line ∈ added, line ≠ "" ∧
        ∀ c ∈ line.toList, c = '\n' ∨ c ∈ source.toList := by
  refine ⟨((splitlinesKeepEnds source).filter fun line =>
    Text.rstrip line ∉ (splitlinesKeepEnds target).map Text.rstrip).map fun line =>
      if Text.endsWith line "\n" then line else line ++ "\n", ?_, ?_, ?_⟩
  · rw [mergedNdjson, toList_join, List.flatMap_append, flatMap_splitlinesKeepEnds]
  · rw [List.map_eq_nil_iff, List.filter_eq_nil_iff]
    simp [KnowsLines]
  · intro line hline
    obtain ⟨l, hl, rfl⟩ := List.mem_map.1 hline
    have hmem : l ∈ splitlinesKeepEnds source := (List.mem_filter.1 hl).1
    split
    · rename_i hend
      refine ⟨?_, fun c hc => .inr (mem_of_mem_splitlinesKeepEnds hmem hc)⟩
      rintro rfl
      exact absurd hend (by decide)
    · refine ⟨?_, fun c hc => ?_⟩
      · intro h
        have hempty := congrArg String.toList h
        simp at hempty
      · rw [String.toList_append, List.mem_append] at hc
        rcases hc with hc | hc
        · exact .inr (mem_of_mem_splitlinesKeepEnds hmem hc)
        · exact .inl (List.mem_singleton.1 hc)

/-- A merge of logs changes nothing exactly when it has no line to add. -/
theorem mergedNdjson_eq_self {source target : String} :
    mergedNdjson source target = target ↔ KnowsLines source target := by
  obtain ⟨added, htext, hnil, hadded⟩ := toList_mergedNdjson source target
  rw [← hnil, ← String.toList_inj, htext]
  constructor
  · intro h
    have hnone : added.flatMap String.toList = [] := List.append_right_eq_self.1 h
    cases added with
    | nil => rfl
    | cons line rest =>
      rw [List.flatMap_cons, List.append_eq_nil_iff] at hnone
      exact absurd (String.toList_eq_nil_iff.1 hnone.1) (hadded line List.mem_cons_self).1
  · rintro rfl
    exact List.append_nil _

/-- Nor does it change the bytes of a target without carriage returns. -/
theorem mergedNdjson_eq_raw {source raw : String} (hsource : '\r' ∉ source.toList) :
    mergedNdjson source (Text.normalizeNewlines raw) = raw ↔
      '\r' ∉ raw.toList ∧ KnowsLines source raw := by
  constructor
  · intro h
    have hcr : '\r' ∉ raw.toList := by
      obtain ⟨added, htext, -, hadded⟩ :=
        toList_mergedNdjson source (Text.normalizeNewlines raw)
      intro hmem
      rw [← h, htext, List.mem_append] at hmem
      rcases hmem with hmem | hmem
      · rw [Text.normalizeNewlines, String.toList_ofList] at hmem
        exact Text.not_mem_unifyLineEnds _ _ hmem
      · obtain ⟨line, hline, hc⟩ := List.mem_flatMap.1 hmem
        exact ((hadded line hline).2 _ hc).elim (by decide) hsource
    rw [Text.normalizeNewlines_of_not_mem hcr] at h
    exact ⟨hcr, mergedNdjson_eq_self.1 h⟩
  · rintro ⟨hcr, hknown⟩
    rw [Text.normalizeNewlines_of_not_mem hcr]
    exact mergedNdjson_eq_self.2 hknown

-- ════════════════════════════════════════════════════════════════════════
-- The active task
-- ════════════════════════════════════════════════════════════════════════

/-- An active task state with the schema version of its file. -/
structure ActiveTaskFile where
  state : ActiveTaskState
  schemaVersion : Int
  deriving DecidableEq

def ActiveTaskFile.toDict (f : ActiveTaskFile) : Dict :=
  f.state.toDict.set "schema_version" (.int f.schemaVersion)

variable [Runtime]

/-- `ActiveTaskState.from_dict`. -/
def ActiveTaskFile.fromDict (now : String) : Value → Except Raised ActiveTaskFile :=
  ofMapping (.error (launchError "Invalid active task state: expected mapping.")) fun data => do
    requireContract data "active_task"
    let taskId ← stringValue data "task_id"
    let activatedBy ← ActorRef.fromDict (data.get "activated_by")
    match (data.get "schema_version").asInt? with
    | none => .error (launchError "Missing or invalid 'schema_version' value.")
    | some version =>
      return {
        state := {
          taskId := taskId
          activatedAt := stampValue now data "activated_at"
          activatedBy := activatedBy
          reason := optionalString (data.get "reason")
          previousTaskId := optionalString (data.get "previous_task_id") }
        schemaVersion := version }

/-- The active task state of a file. -/
def readActiveTask (now : String) (content : FileContent) : Except Raised ActiveTaskFile := do
  let text ← content.readText
  match Runtime.safeLoad text with
  | .ok data => ActiveTaskFile.fromDict now data
  | .error message => .error (.python "YAMLError" message)

omit [Runtime] in
/-- `str(error)`. -/
def Raised.text : Raised → String
  | .launch e => e.message
  | .python _ message => message

/-- What `_merge_active_task_files` leaves in the target. -/
def mergedActiveTask (now : String) (source target : FileContent) : Except Raised FileContent := do
  let sourceFile ← readActiveTask now source
  let targetFile ← readActiveTask now target
  -- the times are compared as texts
  return if targetFile.state.activatedAt < sourceFile.state.activatedAt then
    .text (Runtime.safeDump sourceFile.toDict)
  else target

-- ════════════════════════════════════════════════════════════════════════
-- The walk
-- ════════════════════════════════════════════════════════════════════════

/-- What a merge leaves on both sides, and what it raises. -/
structure MergeOutcome where
  source : Option (FileTree FileContent)
  target : FileTree FileContent
  raised : Option Raised

omit [Runtime] in
/-- `source.suffix == ".ndjson"`; a name that starts with its only dot has no suffix. -/
def isNdjson (name : String) : Bool := Text.endsWith name ".ndjson" && name != ".ndjson"

def activeTaskName : String := "active-task.yaml"

omit [Runtime] in
def mergeConflict (source target why : String) : Raised :=
  launchError ("Migration conflict: cannot merge " ++ source ++ " -> " ++ target ++ " (" ++ why ++ ")")

variable (now : String)

/-- The merge of a file into a file. -/
def mergeFiles (source target name : String) (a b : FileContent) : MergeOutcome :=
  if isNdjson name then
    match a.readText, b.readText with
    | .ok sourceText, .ok targetText =>
      -- the source is not removed
      ⟨some (.file a), .file (.text (mergedNdjson sourceText targetText)), none⟩
    | .error e, _ | _, .error e => ⟨some (.file a), .file b, some e⟩
  else if name = activeTaskName then
    match mergedActiveTask now a b with
    | .ok kept => ⟨none, .file kept, none⟩
    | .error e => ⟨some (.file a), .file b,
        some (launchError ("Failed to merge active-task.yaml files: " ++ e.text))⟩
  else if a = b then ⟨none, .file b, none⟩
  else ⟨some (.file a), .file b, some (mergeConflict source target "files differ")⟩

omit [Runtime] in
/-- The entries of a source directory that remain. -/
def keepEntry (name : String) (left : Option (FileTree FileContent))
    (others : Entries FileContent) : Entries FileContent :=
  match left with
  | none => others
  | some tree => (name, tree) :: others

mutual

/-- `_merge_tree_without_overwrite(source, target)`, for a source that exists. The two paths end
in `name`. -/
def mergeTree (source target name : String) :
    FileTree FileContent → Option (FileTree FileContent) → MergeOutcome
  | .file a, none => ⟨none, .file a, none⟩
  | .file a, some (.file b) => mergeFiles now source target name a b
  | .file a, some (.dir ts) =>
    ⟨some (.file a), .dir ts, some (mergeConflict source target "target is directory")⟩
  | .dir es, some (.file b) =>
    ⟨some (.dir es), .file b, some (mergeConflict source target "target is file")⟩
  | .dir es, none =>
    let (left, ts, raised) := mergeEntries source target es []
    ⟨if left = [] ∧ raised.isNone then none else some (.dir left), .dir ts, raised⟩
  | .dir es, some (.dir ts) =>
    let (left, ts, raised) := mergeEntries source target es ts
    ⟨if left = [] ∧ raised.isNone then none else some (.dir left), .dir ts, raised⟩

/-- The children of a directory, one after the other. -/
def mergeEntries (source target : String) :
    Entries FileContent → Entries FileContent →
      Entries FileContent × Entries FileContent × Option Raised
  | [], ts => ([], ts, none)
  | (name, child) :: rest, ts =>
    let first := mergeTree (source ++ "/" ++ name) (target ++ "/" ++ name) name child
      (Entries.get? name ts)
    let ts := Entries.set name first.target ts
    match first.raised with
    | some e => (keepEntry name first.source rest, ts, some e)
    | none =>
      let (left, ts, raised) := mergeEntries source target rest ts
      (keepEntry name first.source left, ts, raised)

end

end Taskledger
