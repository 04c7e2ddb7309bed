import Taskledger.Domain.Storable
import Taskledger.Storage.TaskStore

/-!
# Record files

How records are written to files with a front matter and a body, and how such a
file is loaded. The front matter is the mapping itself: a mapping of texts,
numbers, lists and mappings is read back from YAML as it was written.
-/

namespace Taskledger

open Library

/-- A file with a front matter and a body. -/
structure Document where
  frontMatter : Dict
  body : String

variable [Runtime]

/-- `_write_markdown_record`. -/
def writeMarkdownRecord (metadata : Dict) (body : String) : Document where
  frontMatter := metadata.pop "body"
  body := Runtime.normalizeNewlines (Text.rstrip body ++ "\n")

/-- `_ensure_schema_compat`; what is no number cannot be compared. -/
def ensureSchemaCompat (record : Dict) : Except Raised Unit :=
  match ((record.get? "schema_version").getD (.int taskledgerSchemaVersion)).asInt? with
  | some version =>
    raiseIf (taskledgerSchemaVersion < version)
      (launchError ("Record schema too new: " ++ Runtime.strOf (record.get "schema_version")
        ++ " (current max: 1). Please upgrade taskledger."))
  | none => .error (.python "TypeError" "'>' not supported between these types")

/-- The mapping `_load_record` hands to the parser. -/
def Document.metadata (document : Document) : Dict :=
  document.frontMatter.set "body"
    (.str (Text.rstripNewlines (Runtime.normalizeNewlines document.body)))

/-- `_load_record`. -/
def loadRecord {α : Type} (fromDict : Dict → Except Raised α) (document : Document) :
    Except Raised α := do
  ensureSchemaCompat document.metadata
  fromDict document.metadata

-- ════════════════════════════════════════════════════════════════════════
-- The files of the record kinds
-- ════════════════════════════════════════════════════════════════════════

/-- `save_task`: the sidecars have files of their own. -/
def TaskRecord.document (t : TaskRecord) : Document :=
  writeMarkdownRecord (((t.toDict.pop "todos").pop "file_links").pop "requirements") t.body

/-- `save_plan` and `overwrite_plan`. -/
def PlanRecord.document (p : PlanRecord) : Document := writeMarkdownRecord p.toDict p.body

/-- `_render_question_body`. -/
def renderQuestionBody (q : QuestionRecord) : String :=
  Text.rstrip (Text.join "\n" ["## Question", "", Text.strip q.question, "", "## Answer", "",
    Text.strip (q.answer.getD "")]) ++ "\n"

/-- `save_question`. -/
def QuestionRecord.document (q : QuestionRecord) : Document :=
  writeMarkdownRecord q.toDict (renderQuestionBody q)

/-- `_render_run_body`: a validation run lists its checks and its evidence. -/
def renderRunBody (r : TaskRunRecord) : String :=
  let checkLines := r.checks.map fun c =>
    "- [" ++ (if c.status = .pass then "x" else " ") ++ "] " ++ c.name
  let lines := ["## Summary", "", Text.strip (r.summary.getD "")]
    ++ if r.runType = .validation then
        ["", "## Checks", ""] ++ checkLines ++ ["", "## Evidence", ""]
          ++ (r.evidence.map fun entry => "- " ++ entry)
          ++ ["", "## Recommendation", "", Text.strip (r.recommendation.getD "")]
      else []
  Text.rstrip (Text.join "\n" lines) ++ "\n"

/-- `save_run`. -/
def TaskRunRecord.document (r : TaskRunRecord) : Document :=
  writeMarkdownRecord r.toDict (renderRunBody r)

/-- `save_change`. -/
def CodeChangeRecord.document (c : CodeChangeRecord) : Document :=
  writeMarkdownRecord c.toDict c.summary

/-- `save_check`. -/
def ImplementationCheckRecord.document (c : ImplementationCheckRecord) : Document :=
  writeMarkdownRecord c.toDict ""

/-- `save_code_review`. -/
def CodeReviewRecord.document (r : CodeReviewRecord) : Document :=
  writeMarkdownRecord r.toDict r.body

/-- `save_release`. -/
def ReleaseRecord.document (r : ReleaseRecord) : Document :=
  writeMarkdownRecord r.toDict (r.note.getD "")

/-- The fields `save_todos`, `save_links` and `save_requirements` set on what they write. -/
def sidecarMetadata (metadata : Dict) (owner objectType : String) : Dict :=
  (((metadata.set "task_id" (.str owner)).set "file_version" (.str taskledgerV2FileVersion)).set
    "schema_version" (.int taskledgerSchemaVersion)).set "object_type" (.str objectType)

/-- A todo file of `save_todos`. -/
def TaskTodo.document (owner : String) (t : TaskTodo) : Document :=
  writeMarkdownRecord (sidecarMetadata t.toDict owner "todo") t.text

/-- A link file of `save_links`. -/
def FileLink.document (owner : String) (l : FileLink) : Document :=
  let linkId := (orOption l.id none).getD (linkIdFromPath l.path)
  writeMarkdownRecord (sidecarMetadata (l.toDict.set "id" (.str linkId)) owner "link") l.path

/-- A requirement file of `save_requirements`. -/
def DependencyRequirement.document (owner : String) (r : DependencyRequirement) : Document :=
  let requirementId := (orOption r.id none).getD (requirementIdFromTask r.taskId)
  writeMarkdownRecord
    ((sidecarMetadata (r.toDict.set "id" (.str requirementId)) owner "requirement").set
      "required_task_id" (.str r.requiredTask))
    ("Requires " ++ r.requiredTask ++ " to be " ++ r.requiredStatus ++ ".")

/-- `save_handoff`. -/
def TaskHandoffRecord.document (h : TaskHandoffRecord) : Document :=
  writeMarkdownRecord (h.toDict.pop "context_body") h.contextBody

/-- The handoff `resolve_handoff` reads from its file: the context is the body, or a text of the
front matter when the file has no body. -/
def loadHandoff (now : String) (document : Document) : Except Raised TaskHandoffRecord :=
  let legacy := document.frontMatter.get "context_body"
  TaskHandoffRecord.fromDict now <| document.frontMatter.set "context_body" <| .str <|
    Text.orElse document.body (if legacy.truthy then Runtime.strOf legacy else "")

-- ════════════════════════════════════════════════════════════════════════
-- What is read back
-- ════════════════════════════════════════════════════════════════════════

/-- The body a document was given, as it is loaded. -/
theorem get_metadata_write (metadata : Dict) (body key : String) :
    (writeMarkdownRecord metadata body).metadata.get key =
      if key = "body" then .str (fileBody body) else metadata.get key := by
  simp only [Document.metadata, writeMarkdownRecord, Dict.get_set, Dict.get_pop]
  split <;> rfl

theorem get?_metadata_write (metadata : Dict) (body key : String) :
    (writeMarkdownRecord metadata body).metadata.get? key =
      if key = "body" then some (.str (fileBody body)) else metadata.get? key := by
  simp only [Document.metadata, writeMarkdownRecord, Dict.get?_set, Dict.get?_pop]
  split <;> rfl

/-- A record of the current schema is handed to its parser. -/
theorem loadRecord_write {α : Type} {fromDict : Dict → Except Raised α} {metadata : Dict}
    {body : String} (h : metadata.get? "schema_version" = some (.int 1)) :
    loadRecord fromDict (writeMarkdownRecord metadata body) =
      fromDict (writeMarkdownRecord metadata body).metadata := by
  have hversion : ensureSchemaCompat (writeMarkdownRecord metadata body).metadata = .ok () := by
    unfold ensureSchemaCompat
    rw [get?_metadata_write, if_neg (by decide), h]
    rfl
  rw [loadRecord, hversion]
  rfl

end Taskledger
