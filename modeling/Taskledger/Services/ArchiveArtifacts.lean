import Taskledger.Domain.Errors
import Taskledger.Library.FileSystem
import Taskledger.Storage.TaskStore

/-!
# Artifacts of an archive

The members of an imported archive are validated by their names, types and sizes. The artifact
members are extracted below the project directory, under the ids that the tasks were imported as.
-/

namespace Taskledger

open Library

def manifestMember : String := "manifest.json"
def payloadMember : String := "payload/taskledger-export.json"
def artifactsPrefix : String := "artifacts/"
def maxArchiveMembers : Nat := 4096
def maxManifestBytes : Nat := 256000
def maxPayloadBytes : Nat := 50000000
def maxArtifactMemberBytes : Nat := 20000000
def maxTotalArtifactBytes : Nat := 100000000

/-- A member of a tar file. -/
structure TarMember where
  name : String
  isFile : Bool
  size : Nat
  content : List UInt8
  deriving DecidableEq

/-- A dictionary of members by their names, in the order in which the names came first. -/
abbrev ArchiveMembers : Type := Directory TarMember.name

/-- `{m.name: m for m in tar.getmembers()}` -/
def membersByName (tar : List TarMember) : ArchiveMembers := tar.foldl Directory.save .empty

section

variable [Runtime]

def unsafeMember (name : String) : Raised :=
  launchError ("Unsafe archive member path: " ++ Runtime.repr name)

def unexpectedMember (name : String) : Raised :=
  launchError ("Unexpected archive member: " ++ Runtime.repr name)

-- ════════════════════════════════════════════════════════════════════════
-- Validation
-- ════════════════════════════════════════════════════════════════════════

/-- What `_validate_archive_members` has seen of the members. -/
structure ArchiveValidation where
  required : List String := [manifestMember, payloadMember]
  artifactMembers : List String := []
  totalArtifactBytes : Nat := 0

/-- A member that every archive has. -/
def validateRequiredMember (seen : ArchiveValidation) (info : TarMember) :
    Except Raised ArchiveValidation := do
  raiseIf (info.isFile = false) <|
    launchError ("Archive member " ++ Runtime.repr info.name ++ " is not a regular file")
  raiseIf (info.name = manifestMember ∧ maxManifestBytes < info.size) <|
    launchError ("Archive manifest is too large: " ++ Nat.repr info.size ++ " > "
      ++ Nat.repr maxManifestBytes ++ " bytes")
  raiseIf (info.name = payloadMember ∧ maxPayloadBytes < info.size) <|
    launchError ("Archive payload is too large: " ++ Nat.repr info.size ++ " > "
      ++ Nat.repr maxPayloadBytes ++ " bytes")
  return { seen with required := seen.required.filter (· ≠ info.name) }

def validateArtifactMember (seen : ArchiveValidation) (info : TarMember) :
    Except Raised ArchiveValidation := do
  raiseIf (Text.startsWith info.name artifactsPrefix = false) (unexpectedMember info.name)
  raiseIf (info.isFile = false) <|
    launchError ("Archive member " ++ Runtime.repr info.name ++ " is not a regular file")
  raiseIf (maxArtifactMemberBytes < info.size) <|
    launchError ("Archive artifact member is too large: " ++ Runtime.repr info.name ++ " ("
      ++ Nat.repr info.size ++ " > " ++ Nat.repr maxArtifactMemberBytes ++ " bytes)")
  let total := seen.totalArtifactBytes + info.size
  raiseIf (maxTotalArtifactBytes < total) <|
    launchError ("Archive artifact payload is too large: " ++ Nat.repr total ++ " > "
      ++ Nat.repr maxTotalArtifactBytes ++ " bytes")
  return { seen with
    artifactMembers := seen.artifactMembers ++ [info.name]
    totalArtifactBytes := total }

/-- One turn of the loop of `_validate_archive_members`. -/
def validateMember (seen : ArchiveValidation) (info : TarMember) :
    Except Raised ArchiveValidation := do
  raiseIf (Text.startsWith info.name "/" = true ∨ ".." ∈ (PosixPath.ofString info.name).parts)
    (unsafeMember info.name)
  if info.name ∈ seen.required then validateRequiredMember seen info
  else validateArtifactMember seen info

/-- `_validate_archive_members` -/
def validateArchiveMembers (members : ArchiveMembers) : Except Raised (List String) := do
  raiseIf ((members.lookup manifestMember).isNone = true) <|
    launchError ("Archive missing " ++ manifestMember)
  raiseIf ((members.lookup payloadMember).isNone = true) <|
    launchError ("Archive missing " ++ payloadMember)
  raiseIf (maxArchiveMembers < members.files.length) <|
    launchError ("Archive contains too many members: " ++ Nat.repr members.files.length ++ " > "
      ++ Nat.repr maxArchiveMembers)
  let seen ← members.files.foldlM validateMember {}
  raiseIf (seen.required ≠ []) <|
    launchError ("Missing required archive members: " ++
      Runtime.strOf (.ofStrings (sortedBy id seen.required)))
  return sortedBy id seen.artifactMembers

-- ════════════════════════════════════════════════════════════════════════
-- Extraction
-- ════════════════════════════════════════════════════════════════════════

/-- A file that was written. -/
structure WrittenMember where
  name : String
  place : List String
  deriving DecidableEq

/-- The file system, and the files that were written so far. -/
structure Extraction where
  files : FileSystem (List UInt8)
  written : List WrittenMember := []

/-- Where a path leads from the project directory: the place it starts at, and its components. -/
structure Destination where
  start : List String
  path : List String
  deriving DecidableEq

def Destination.place (d : Destination) : List String := resolve d.start d.path

/-- The directories above the destination that are made when they are not there. -/
def Destination.parents (d : Destination) : List (List String) := passed d.start d.path.dropLast

omit [Runtime] in
/-- The id after the first `tasks` is exchanged; what replaces it may be any path. -/
def renumberedPath (taskIdMap : String → Option String) (relative : PosixPath) : PosixPath :=
  let parts := relative.parts
  let idx := parts.idxOf "tasks"
  match (parts[idx + 1]?).bind taskIdMap with
  | some mapped => PosixPath.ofSegments (parts.set (idx + 1) mapped)
  | none => relative

/-- The path of a member relative to the project directory. -/
def memberPath (taskIdMap : String → Option String) (name : String) : Except Raised PosixPath := do
  raiseIf (Text.startsWith name artifactsPrefix = false) (unexpectedMember name)
  let relative := PosixPath.ofString (Text.dropStart name artifactsPrefix)
  raiseIf (relative.absolute = true ∨ ".." ∈ relative.parts) (unsafeMember name)
  return renumberedPath taskIdMap relative

omit [Runtime] in
/-- `paths.project_dir / relative` -/
def destinationOf (project : List String) (relative : PosixPath) : Destination where
  start := if relative.absolute then [] else project
  path := relative.parts

omit [Runtime] in
/-- What the operating system raises. -/
def Refusal.raised : Refusal → Raised
  | .fileExists => .python "FileExistsError" "File exists"
  | .notDirectory => .python "NotADirectoryError" "Not a directory"
  | .isDirectory => .python "IsADirectoryError" "Is a directory"
  | .nullByte => .python "ValueError" "embedded null byte"

omit [Runtime] in
/-- `destination.parent.mkdir(parents=True, exist_ok=True)` and `destination.write_bytes`. -/
def writeMember (name : String) (d : Destination) (content : List UInt8) :
    Action Extraction Raised Unit := fun st =>
  match (FileSystem.writeBelow d.start d.path content).runOn st.files with
  | (.ok (), files) => (.ok (), { files := files, written := st.written ++ [⟨name, d.place⟩] })
  | (.error refusal, files) => (.error (Refusal.raised refusal), { st with files := files })

/-- One turn of the loop of `_extract_artifact_members`. -/
def extractMember (members : ArchiveMembers) (taskIdMap : String → Option String)
    (project : List String) (name : String) : Action Extraction Raised Unit := do
  match members.lookup name with
  | none => throw (launchError ("Archive member not found: " ++ Runtime.repr name))
  | some info => do
    let relative ← (memberPath taskIdMap name : Except Raised PosixPath)
    raiseIf (info.isFile = false) <|
      launchError ("Archive member " ++ Runtime.repr name ++ " cannot be read")
    writeMember name (destinationOf project relative) info.content

/-- `_extract_artifact_members`; the project directory is there. -/
def extractArtifactMembers (tar : List TarMember) (taskIdMap : String → Option String)
    (project : List String) (artifactMembers : List String) : Action Extraction Raised Nat := do
  Action.each artifactMembers (extractMember (membersByName tar) taskIdMap project)
  return artifactMembers.length

end

end Taskledger
