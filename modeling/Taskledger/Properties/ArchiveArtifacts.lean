import Mathlib.Algebra.BigOperators.Group.List.Basic
import Mathlib.Algebra.Order.BigOperators.Group.List
import Mathlib.Algebra.GroupWithZero.Nat
import Taskledger.PlainRuntime
import Taskledger.Services.ArchiveArtifacts
import Taskledger.Storage.Lookup

/-!
# Extraction of artifacts

The validation looks at the names of the members, the extraction at the paths they stand for.
Which of the accepted archives are extracted safely is decided by where the paths lead.
-/

namespace Taskledger

open Library Action

section Archives

variable [Runtime] {names : List String} {tar seen : List TarMember} {members : ArchiveMembers}
  {info : TarMember}

-- ════════════════════════════════════════════════════════════════════════
-- Accepted members
-- ════════════════════════════════════════════════════════════════════════

/-- What the validation has checked of an artifact member. -/
structure AcceptedArtifact (info : TarMember) : Prop where
  prefixed : Text.startsWith info.name artifactsPrefix = true
  noParent : ".." ∉ (PosixPath.ofString info.name).parts
  isFile : info.isFile = true
  size : info.size ≤ maxArtifactMemberBytes

/-- The artifact members among those that were validated. -/
structure AcceptedArtifacts (seen infos : List TarMember) : Prop where
  sublist : infos.Sublist seen
  accepted : ∀ info ∈ infos, AcceptedArtifact info
  total : (infos.map TarMember.size).sum ≤ maxTotalArtifactBytes

/-- A member is one of those that are required, or one more artifact. -/
theorem validateMember_eq_ok {state state' : ArchiveValidation}
    (h : validateMember state info = .ok state') :
    (state'.artifactMembers = state.artifactMembers ∧
        state'.totalArtifactBytes = state.totalArtifactBytes) ∨
      (AcceptedArtifact info ∧ state'.artifactMembers = state.artifactMembers ++ [info.name] ∧
        state'.totalArtifactBytes = state.totalArtifactBytes + info.size ∧
        state'.totalArtifactBytes ≤ maxTotalArtifactBytes) := by
  obtain ⟨_, hsafe, h⟩ := bind_eq_ok.1 h
  rw [raiseIf_eq_ok, not_or] at hsafe
  split at h
  · simp only [validateRequiredMember, bind_eq_ok, raiseIf_eq_ok, pure_eq_ok] at h
    obtain ⟨-, -, -, -, -, -, rfl⟩ := h
    exact .inl ⟨rfl, rfl⟩
  · simp only [validateArtifactMember, bind_eq_ok, raiseIf_eq_ok, pure_eq_ok] at h
    obtain ⟨-, hinitial, -, hfile, -, hsize, -, htotal, rfl⟩ := h
    exact .inr ⟨⟨by simpa using hinitial, hsafe.2, by simpa using hfile, not_lt.1 hsize⟩, rfl, rfl,
      not_lt.1 htotal⟩

theorem foldlM_validateMember {rest : List TarMember} {state state' : ArchiveValidation}
    {infos : List TarMember} (h : rest.foldlM validateMember state = .ok state')
    (hinfos : AcceptedArtifacts seen infos)
    (hnames : state.artifactMembers = infos.map TarMember.name)
    (htotal : state.totalArtifactBytes = (infos.map TarMember.size).sum) :
    ∃ infos', AcceptedArtifacts (seen ++ rest) infos' ∧
      state'.artifactMembers = infos'.map TarMember.name := by
  induction rest generalizing seen state infos with
  | nil =>
    cases pure_eq_ok.1 h
    exact ⟨infos, by rwa [List.append_nil], hnames⟩
  | cons info rest ih =>
    rw [List.foldlM_cons] at h
    obtain ⟨next, hnext, h⟩ := bind_eq_ok.1 h
    obtain ⟨hsublist, haccepted, hsum⟩ := hinfos
    rw [show seen ++ info :: rest = (seen ++ [info]) ++ rest by simp]
    rcases validateMember_eq_ok hnext with ⟨hsame, hbytes⟩ | ⟨hinfo, hmore, hbytes, hlimit⟩
    · exact ih h ⟨hsublist.trans (List.sublist_append_left _ _), haccepted, hsum⟩
        (hsame.trans hnames) (hbytes.trans htotal)
    · have hmembers : AcceptedArtifacts (seen ++ [info]) (infos ++ [info]) := by
        refine ⟨hsublist.append (List.Sublist.refl _), ?_, ?_⟩
        · exact List.forall_mem_append.2 ⟨haccepted, by simpa using hinfo⟩
        · rw [hbytes, htotal] at hlimit
          simpa using hlimit
      refine ih h hmembers ?_ ?_
      · rw [hmore, hnames, List.map_append]
        rfl
      · rw [hbytes, htotal]
        simp

/-- The names that the validation returns are those of accepted artifacts, in their order. -/
theorem validateArchiveMembers_eq_ok (h : validateArchiveMembers members = .ok names) :
    ∃ infos, AcceptedArtifacts members.files infos ∧ names = sortedBy id (infos.map TarMember.name) := by
  simp only [validateArchiveMembers, bind_eq_ok, raiseIf_eq_ok, pure_eq_ok] at h
  obtain ⟨-, -, -, -, -, -, state, hstate, -, -, rfl⟩ := h
  have hnone : AcceptedArtifacts [] [] := ⟨List.Sublist.refl _, List.forall_mem_nil _, Nat.zero_le _⟩
  obtain ⟨infos, hinfos, hnames⟩ := foldlM_validateMember hstate hnone rfl rfl
  exact ⟨infos, hinfos, by rw [hnames]⟩

/-- An artifact that was accepted, with its name. -/
structure AcceptedName (members : ArchiveMembers) (name : String) (info : TarMember) : Prop where
  found : members.lookup name = some info
  accepted : AcceptedArtifact info

omit [Runtime] in
theorem AcceptedArtifacts.named {infos : List TarMember} (h : AcceptedArtifacts members.files infos) :
    ∀ info ∈ infos, AcceptedName members info.name info := fun info hinfo =>
  ⟨Directory.lookup_of_mem (h.sublist.subset hinfo), h.accepted info hinfo⟩

-- ════════════════════════════════════════════════════════════════════════
-- One member
-- ════════════════════════════════════════════════════════════════════════

variable {taskIdMap : String → Option String} {project : List String} {name : String}
  {files files' : FileSystem (List UInt8)} {st : Extraction}

/-- The path that the name of a member stands for, after the prefix. -/
def artifactPath (name : String) : PosixPath :=
  PosixPath.ofString (Text.dropStart name artifactsPrefix)

/-- Where a member with a relative path goes. -/
def memberDestination (taskIdMap : String → Option String) (project : List String)
    (name : String) : Destination :=
  destinationOf project (renumberedPath taskIdMap (artifactPath name))

/-- The member is written when it comes first: its path is relative, and leads from the project
directory to a place for a file. -/
structure Writable (files : FileSystem (List UInt8)) (taskIdMap : String → Option String)
    (project : List String) (name : String) : Prop where
  relative : (artifactPath name).absolute = false
  admitted : files.Admits (memberDestination taskIdMap project name).start
    (memberDestination taskIdMap project name).path

omit [Runtime] in
/-- The components of a path after the prefix are components of the whole path. -/
theorem parts_artifactPath (h : Text.startsWith name artifactsPrefix = true) :
    (PosixPath.ofString name).parts = "artifacts" :: (artifactPath name).parts := by
  obtain ⟨rest, hrest⟩ := List.isPrefixOf_iff_prefix.1 h
  have hname : name.toList = "artifacts".toList ++ '/' :: rest := by
    rw [← hrest]
    rfl
  have hdrop : (Text.dropStart name artifactsPrefix).toList = rest := by
    have hlength : artifactsPrefix.length = 10 := rfl
    rw [Text.dropStart, if_pos h, String.toList_ofList, hname, hlength]
    rfl
  have hplain : '/' ∉ "artifacts".toList := by decide
  unfold artifactPath PosixPath.ofString Text.splitOn
  dsimp only
  rw [hname, Text.splitAtChar_append hplain, hdrop]
  rfl

/-- An accepted name stands for a path that can be absolute, but does not lead up. -/
theorem memberPath_accepted (taskIdMap : String → Option String) (h : AcceptedArtifact info) :
    ((artifactPath info.name).absolute = false ∧ memberPath taskIdMap info.name =
        .ok (renumberedPath taskIdMap (artifactPath info.name))) ∨
      ((artifactPath info.name).absolute = true ∧
        memberPath taskIdMap info.name = .error (unsafeMember info.name)) := by
  have hparent : ".." ∉ (artifactPath info.name).parts := by
    have hnot := h.noParent
    rw [parts_artifactPath h.prefixed] at hnot
    exact fun hmem => hnot (List.mem_cons_of_mem _ hmem)
  have hpath : memberPath taskIdMap info.name =
      (raiseIf ((artifactPath info.name).absolute = true ∨ ".." ∈ (artifactPath info.name).parts)
        (unsafeMember info.name) >>= fun _ =>
          pure (renumberedPath taskIdMap (artifactPath info.name))) := by
    unfold memberPath raiseIf
    rw [h.prefixed, if_neg (by decide)]
    rfl
  rw [hpath]
  cases habsolute : (artifactPath info.name).absolute with
  | false => exact .inl ⟨rfl, by rw [raiseIf, if_neg (by simp [hparent])]; rfl⟩
  | true => exact .inr ⟨rfl, by rw [raiseIf, if_pos (.inl rfl)]; rfl⟩

omit [Runtime] in
theorem start_is_dir (hproject : files.node project = .dir) (relative : PosixPath) :
    files.node (destinationOf project relative).start = .dir := by
  unfold destinationOf
  dsimp only
  split
  · exact files.root
  · exact hproject

/-- The file system after a member was written. -/
def After (files files' : FileSystem (List UInt8)) (d : Destination) (content : List UInt8) : Prop :=
  ∀ p, files'.node p = if p = d.place then .file content
    else if p ∈ d.parents then .dir else files.node p

omit [Runtime] in
theorem sat_writeMember {d : Destination} {content : List UInt8}
    (hdir : st.files.node d.start = .dir) :
    (writeMember name d content).Sat st fun r st' =>
      (st.files.Admits d.start d.path ∧ r = .ok () ∧ After st.files st'.files d content ∧
        st'.written = st.written ++ [⟨name, d.place⟩]) ∨
      (¬ st.files.Admits d.start d.path ∧ (∃ e, r = .error e) ∧ st'.written = st.written) := by
  have hwrite := FileSystem.sat_writeBelow d.path content hdir
  unfold Sat runOn at hwrite ⊢
  rcases hrun : FileSystem.writeBelow d.start d.path content st.files with ⟨r, files⟩
  rw [hrun] at hwrite
  rcases hwrite with ⟨hadmits, rfl, hnodes⟩ | ⟨hnot, e, rfl⟩
  · have hmember : writeMember name d content st =
        (.ok (), { files := files, written := st.written ++ [⟨name, d.place⟩] }) := by
      simp only [writeMember, runOn, hrun]
    rw [hmember]
    exact .inl ⟨hadmits, rfl, hnodes, rfl⟩
  · have hmember : writeMember name d content st =
        (.error (Refusal.raised e), { st with files := files }) := by
      simp only [writeMember, runOn, hrun]
    rw [hmember]
    exact .inr ⟨hnot, ⟨_, rfl⟩, rfl⟩

/-- A member is written exactly when it is writable. -/
theorem sat_extractMember (hname : AcceptedName members name info)
    (hproject : st.files.node project = .dir) :
    (extractMember members taskIdMap project name).Sat st fun r st' =>
      (Writable st.files taskIdMap project name ∧ r = .ok () ∧
        After st.files st'.files (memberDestination taskIdMap project name) info.content ∧
        st'.written = st.written ++ [⟨name, (memberDestination taskIdMap project name).place⟩]) ∨
      (¬ Writable st.files taskIdMap project name ∧ (∃ e, r = .error e) ∧
        st'.written = st.written) := by
  have hkey : info.name = name := Directory.key_of_lookup hname.found
  subst hkey
  unfold extractMember
  rw [hname.found]
  rcases memberPath_accepted taskIdMap hname.accepted with
    ⟨hrelative, hpath⟩ | ⟨habsolute, hpath⟩
  · refine Sat.except (fun e he => ?_) fun relative hr => ?_
    · cases hpath.symm.trans he
    · cases Except.ok.inj (hpath.symm.trans hr)
      refine Sat.guard (fun hfile => ?_) fun _ => ?_
      · rw [hname.accepted.isFile] at hfile
        cases hfile
      · refine (sat_writeMember (start_is_dir hproject _)).mono fun r st' h => ?_
        rcases h with ⟨hadmits, h⟩ | ⟨hnot, h⟩
        · exact .inl ⟨⟨hrelative, hadmits⟩, h⟩
        · exact .inr ⟨fun h => hnot h.admitted, h⟩
  · refine Sat.except (fun e he => ?_) fun relative hr => ?_
    · refine .inr ⟨fun h => ?_, ⟨e, rfl⟩, rfl⟩
      rw [h.relative] at habsolute
      cases habsolute
    · cases hpath.symm.trans hr

-- ════════════════════════════════════════════════════════════════════════
-- All members
-- ════════════════════════════════════════════════════════════════════════

/-- The members are written one after the other: each one by itself, and none of them to a place
that another one makes a directory. -/
structure AllWritable (files : FileSystem (List UInt8)) (taskIdMap : String → Option String)
    (project : List String) (names : List String) : Prop where
  each : ∀ n ∈ names, Writable files taskIdMap project n
  apart : ∀ n ∈ names, ∀ m ∈ names, (memberDestination taskIdMap project n).place ∉
    (memberDestination taskIdMap project m).parents

omit [Runtime] in
theorem writable_after {other : String} {content : List UInt8}
    (h : Writable files taskIdMap project name)
    (hafter : After files files' (memberDestination taskIdMap project name) content) :
    Writable files' taskIdMap project other ↔ Writable files taskIdMap project other ∧
      (memberDestination taskIdMap project name).place ∉
        (memberDestination taskIdMap project other).parents ∧
      (memberDestination taskIdMap project other).place ∉
        (memberDestination taskIdMap project name).parents := by
  have hadmits := FileSystem.admits_after (memberDestination taskIdMap project other).start
    (memberDestination taskIdMap project other).path h.admitted hafter
  constructor
  · intro hother
    obtain ⟨hfirst, habove, hbelow⟩ := hadmits.1 hother.admitted
    exact ⟨⟨hother.relative, hfirst⟩, habove, hbelow⟩
  · rintro ⟨hother, habove, hbelow⟩
    exact ⟨hother.relative, hadmits.2 ⟨hother.admitted, habove, hbelow⟩⟩

omit [Runtime] in
theorem allWritable_cons (rest : List String) {content : List UInt8}
    (h : Writable files taskIdMap project name)
    (hafter : After files files' (memberDestination taskIdMap project name) content) :
    AllWritable files taskIdMap project (name :: rest) ↔
      AllWritable files' taskIdMap project rest := by
  constructor
  · rintro ⟨heach, hapart⟩
    constructor
    · intro m hm
      have hmem := List.mem_cons_of_mem name hm
      exact (writable_after h hafter).2 ⟨heach m hmem, hapart _ List.mem_cons_self m hmem,
        hapart m hmem _ List.mem_cons_self⟩
    · exact fun n hn m hm => hapart n (List.mem_cons_of_mem _ hn) m (List.mem_cons_of_mem _ hm)
  · rintro ⟨heach, hapart⟩
    have hlater : ∀ m ∈ rest, _ := fun m hm => (writable_after h hafter).1 (heach m hm)
    constructor
    · exact List.forall_mem_cons.2 ⟨h, fun m hm => (hlater m hm).1⟩
    · intro n hn m hm
      rcases List.mem_cons.1 hn with rfl | hn'
      · rcases List.mem_cons.1 hm with rfl | hm'
        · exact h.admitted.notPassed
        · exact (hlater m hm').2.1
      · rcases List.mem_cons.1 hm with rfl | hm'
        · exact (hlater n hn').2.2
        · exact hapart n hn' m hm'

omit [Runtime] in
/-- The project directory stays. -/
theorem After.keeps_project {d : Destination} {content : List UInt8}
    (hafter : After files files' d content) (h : files.Admits d.start d.path)
    (hproject : files.node project = .dir) : files'.node project = .dir := by
  rw [hafter]
  have hplace : project ≠ d.place := by
    rintro rfl
    have hnot := h.notDir
    rw [show resolve d.start d.path = d.place from rfl, hproject] at hnot
    cases hnot
  rw [if_neg hplace, hproject, ite_self]

/-- A name with the place it was written to. -/
def writtenMember (taskIdMap : String → Option String) (project : List String) (name : String) :
    WrittenMember :=
  ⟨name, (memberDestination taskIdMap project name).place⟩

/-- All members are written, or the loop stops at one of them. -/
theorem sat_extractEach (hnames : ∀ n ∈ names, ∃ info, AcceptedName members n info)
    (hproject : st.files.node project = .dir) :
    (Action.each names (extractMember members taskIdMap project)).Sat st fun r st' =>
      ∃ done, done <+: names ∧
        st'.written = st.written ++ done.map (writtenMember taskIdMap project) ∧
        (AllWritable st.files taskIdMap project names ∧ r = .ok () ∧ done = names ∨
          ¬ AllWritable st.files taskIdMap project names ∧ (∃ e, r = .error e) ∧ done ≠ names ∧
            ∀ n ∈ names.head?, done = [] ↔ ¬ Writable st.files taskIdMap project n) := by
  induction names generalizing st with
  | nil => exact ⟨[], List.prefix_rfl, (List.append_nil _).symm, .inl ⟨⟨nofun, nofun⟩, rfl, rfl⟩⟩
  | cons name rest ih =>
    rw [List.forall_mem_cons] at hnames
    obtain ⟨info, hname⟩ := hnames.1
    refine Sat.bind (sat_extractMember hname hproject) (fun e st' h => ?_) fun _ st' h => ?_
    · rcases h with ⟨-, hr, -⟩ | ⟨hnot, -, hwritten⟩
      · cases hr
      · refine ⟨[], List.nil_prefix, by simpa using hwritten, .inr ⟨fun h => ?_, ⟨e, rfl⟩, nofun, ?_⟩⟩
        · exact hnot (h.each name List.mem_cons_self)
        · rintro n ⟨⟩
          exact iff_of_true rfl hnot
    · rcases h with ⟨hwritable, -, hafter, hwritten⟩ | ⟨-, ⟨e, he⟩, -⟩
      · have hall := allWritable_cons rest hwritable hafter
        refine (ih hnames.2 (hafter.keeps_project hwritable.admitted hproject)).mono
          fun r st'' h => ?_
        obtain ⟨done, hdone, hwritten', hresult⟩ := h
        refine ⟨name :: done, List.cons_prefix_cons.2 ⟨rfl, hdone⟩, ?_, ?_⟩
        · rw [hwritten', hwritten, List.append_assoc]
          rfl
        · rw [hall]
          rcases hresult with ⟨hrest, hr, rfl⟩ | ⟨hrest, hr, hne, -⟩
          · exact .inl ⟨hrest, hr, rfl⟩
          · refine .inr ⟨hrest, hr, fun h => hne (List.cons.inj h).2, ?_⟩
            rintro n ⟨⟩
            exact iff_of_false nofun fun h => h hwritable
      · cases he

/-- The size of the member of a name. -/
def memberSize (members : ArchiveMembers) (name : String) : Nat :=
  ((members.lookup name).map TarMember.size).getD 0

/-- What is written is regular, not too large and inside of the project directory, no two files go
to one place, and all members are written or none. -/
structure SafeExtraction (members : ArchiveMembers) (project names : List String)
    (result : Except Raised Nat) (written : List WrittenMember) : Prop where
  regular : ∀ w ∈ written, ∃ info, members.lookup w.name = some info ∧ info.isFile = true ∧
    info.size ≤ maxArtifactMemberBytes
  total : (written.map fun w => memberSize members w.name).sum ≤ maxTotalArtifactBytes
  inside : ∀ w ∈ written, project <+: w.place ∧ w.place ≠ project
  distinct : (written.map WrittenMember.place).Nodup
  complete : (∃ e, result = .error e) ∧ written = [] ∨ written.map WrittenMember.name = names

/-- The destinations are different places inside of the project directory, to which the members
can be written. -/
structure Extractable (files : FileSystem (List UInt8)) (taskIdMap : String → Option String)
    (project : List String) (names : List String) : Prop where
  writable : AllWritable files taskIdMap project names
  inside : ∀ n ∈ names, project <+: (memberDestination taskIdMap project n).place ∧
    (memberDestination taskIdMap project n).place ≠ project
  distinct : (names.map fun n => (memberDestination taskIdMap project n).place).Nodup

/-- Every id of the map is the name of a directory. -/
structure NamesIds (taskIdMap : String → Option String) : Prop where
  component : ∀ id target, taskIdMap id = some target → PosixPath.IsComponent target
  notParent : ∀ id target, taskIdMap id = some target → target ≠ ".."

/-- Components with the id after the first `tasks` exchanged. -/
def renumberedParts (taskIdMap : String → Option String) (parts : List String) : List String :=
  let idx := parts.idxOf "tasks" + 1
  match (parts[idx]?).bind taskIdMap with
  | some target => parts.set idx target
  | none => parts

/-- The components that the name of a member has after the prefix, under the new ids. -/
def memberComponents (taskIdMap : String → Option String) (name : String) : List String :=
  renumberedParts taskIdMap (artifactPath name).parts

omit [Runtime] in
theorem renumberedParts_eq_nil {parts : List String} :
    renumberedParts taskIdMap parts = [] ↔ parts = [] := by
  unfold renumberedParts
  dsimp only
  split
  · exact List.set_eq_nil_iff _ _
  · exact Iff.rfl

omit [Runtime] in
/-- A relative path that does not lead up stays one when an id is exchanged. -/
theorem renumberedPath_relative (hids : NamesIds taskIdMap) {parts : List String}
    (hparts : ∀ c ∈ parts, PosixPath.IsComponent c) (hparent : ".." ∉ parts) :
    renumberedPath taskIdMap ⟨false, parts⟩ = ⟨false, renumberedParts taskIdMap parts⟩ ∧
      ".." ∉ renumberedParts taskIdMap parts := by
  unfold renumberedPath renumberedParts
  dsimp only
  cases htarget : (parts[parts.idxOf "tasks" + 1]?).bind taskIdMap with
  | none => exact ⟨rfl, hparent⟩
  | some target =>
    obtain ⟨id, -, hid⟩ := Option.bind_eq_some_iff.1 htarget
    have hset : ∀ c ∈ parts.set (parts.idxOf "tasks" + 1) target,
        PosixPath.IsComponent c ∧ c ≠ ".." := by
      intro c hc
      rcases List.mem_or_eq_of_mem_set hc with hc | rfl
      · exact ⟨hparts c hc, fun heq => hparent (heq ▸ hc)⟩
      · exact ⟨hids.component id _ hid, hids.notParent id _ hid⟩
    exact ⟨PosixPath.ofSegments_components fun c hc => (hset c hc).1,
      fun hmem => (hset _ hmem).2 rfl⟩

omit [Runtime] in
/-- A member goes where its components lead. -/
theorem place_of_components (hids : NamesIds taskIdMap) (h : AcceptedName members name info)
    (hrelative : (artifactPath name).absolute = false) :
    (memberDestination taskIdMap project name).place =
      project ++ memberComponents taskIdMap name := by
  have hkey : info.name = name := Directory.key_of_lookup h.found
  have hparent : ".." ∉ (artifactPath name).parts := by
    have hnot := h.accepted.noParent
    rw [parts_artifactPath h.accepted.prefixed, hkey] at hnot
    exact fun hmem => hnot (List.mem_cons_of_mem _ hmem)
  have hparts : ∀ c ∈ (artifactPath name).parts, PosixPath.IsComponent c := fun _ =>
    PosixPath.component_of_mem_parts
  obtain ⟨hpath, hdown⟩ := renumberedPath_relative hids hparts hparent
  have hsame : artifactPath name = ⟨false, (artifactPath name).parts⟩ := by
    rw [← hrelative]
  rw [memberDestination, hsame, hpath]
  exact resolve_eq_append hdown

omit [Runtime] in
/-- Under a map of ids the names tell which members can be extracted: each leads somewhere below
the project directory, and no two have the same components. -/
theorem extractable_iff_names (hids : NamesIds taskIdMap)
    (haccepted : ∀ n ∈ names, ∃ info, AcceptedName members n info) :
    Extractable files taskIdMap project names ↔
      AllWritable files taskIdMap project names ∧
        (∀ n ∈ names, (artifactPath n).parts ≠ []) ∧
        (names.map (memberComponents taskIdMap)).Nodup := by
  have hplace (hall : AllWritable files taskIdMap project names) :
      ∀ n ∈ names, (memberDestination taskIdMap project n).place =
        project ++ memberComponents taskIdMap n := fun n hn => by
    obtain ⟨info, hinfo⟩ := haccepted n hn
    exact place_of_components hids hinfo (hall.each n hn).relative
  have hplaces (hall : AllWritable files taskIdMap project names) :
      (names.map fun n => (memberDestination taskIdMap project n).place).Nodup ↔
        (names.map (memberComponents taskIdMap)).Nodup := by
    rw [List.map_congr_left (hplace hall)]
    show (names.map ((fun path => project ++ path) ∘ memberComponents taskIdMap)).Nodup ↔ _
    rw [← List.map_map]
    exact List.nodup_map_iff (List.append_right_injective project)
  constructor
  · rintro ⟨hall, hinside, hdistinct⟩
    refine ⟨hall, fun n hn hempty => ?_, (hplaces hall).1 hdistinct⟩
    have hsame := hplace hall n hn
    rw [memberComponents, renumberedParts_eq_nil.2 hempty, List.append_nil] at hsame
    exact (hinside n hn).2 hsame
  · rintro ⟨hall, hsome, hdistinct⟩
    refine ⟨hall, fun n hn => ?_, (hplaces hall).2 hdistinct⟩
    rw [hplace hall n hn]
    refine ⟨List.prefix_append _ _, fun hsame => hsome n hn ?_⟩
    exact renumberedParts_eq_nil.1 (List.append_right_eq_self.1 hsame)

omit [Runtime] in
/-- What was written of the accepted members is regular and within the limits. -/
theorem written_within_limits (taskIdMap : String → Option String) (project : List String)
    {infos : List TarMember}
    (hinfos : AcceptedArtifacts members.files infos)
    (hnames : names = sortedBy id (infos.map TarMember.name)) {done : List String}
    (hdone : done <+: names) :
    (∀ w ∈ done.map (writtenMember taskIdMap project), ∃ info, members.lookup w.name = some info ∧
      info.isFile = true ∧ info.size ≤ maxArtifactMemberBytes) ∧
      ((done.map (writtenMember taskIdMap project)).map fun w => memberSize members w.name).sum ≤
        maxTotalArtifactBytes := by
  have hnamed := hinfos.named
  constructor
  · intro w hw
    obtain ⟨n, hn, rfl⟩ := List.mem_map.1 hw
    have hmem := hdone.subset hn
    rw [hnames, mem_sortedBy] at hmem
    obtain ⟨info, hinfo, rfl⟩ := List.mem_map.1 hmem
    obtain ⟨hfound, haccepted⟩ := hnamed info hinfo
    exact ⟨info, hfound, haccepted.isFile, haccepted.size⟩
  · obtain ⟨others, hothers⟩ := hdone
    have hsizes : (infos.map TarMember.name).map (memberSize members) =
        infos.map TarMember.size := by
      rw [List.map_map]
      refine List.map_congr_left fun info hinfo => ?_
      show ((members.lookup info.name).map TarMember.size).getD 0 = info.size
      rw [(hnamed info hinfo).found]
      rfl
    have hall : (names.map (memberSize members)).sum = (infos.map TarMember.size).sum := by
      rw [← hsizes, hnames]
      exact ((List.perm_insertionSort _ _).map _).sum_eq
    rw [← hothers, List.map_append, List.sum_append] at hall
    have htotal := hinfos.total
    rw [List.map_map]
    show (done.map (memberSize members)).sum ≤ maxTotalArtifactBytes
    omega

omit [Runtime] in
theorem names_of_written (done : List String) :
    (done.map (writtenMember taskIdMap project)).map WrittenMember.name = done := by
  rw [List.map_map]
  exact List.map_id done

omit [Runtime] in
theorem places_of_written (done : List String) :
    (done.map (writtenMember taskIdMap project)).map WrittenMember.place =
      done.map fun n => (memberDestination taskIdMap project n).place := by
  rw [List.map_map]
  rfl

section Outcomes

variable {result : Except Raised Nat} {infos : List TarMember}
  (hinfos : AcceptedArtifacts members.files infos)
  (hsorted : names = sortedBy id (infos.map TarMember.name))

include hinfos hsorted

omit [Runtime] in
/-- When all members were written it is their places that count. -/
theorem safe_all_iff (hall : AllWritable files taskIdMap project names) :
    SafeExtraction members project names result (names.map (writtenMember taskIdMap project)) ↔
      (∀ n ∈ names.head?, ¬ Writable files taskIdMap project n) ∨
        Extractable files taskIdMap project names := by
  obtain ⟨hregular, htotal⟩ := written_within_limits taskIdMap project
    hinfos hsorted List.prefix_rfl
  constructor
  · intro hsafe
    have hdistinct := hsafe.distinct
    rw [places_of_written] at hdistinct
    have hinside : ∀ n ∈ names, project <+: (memberDestination taskIdMap project n).place ∧
        (memberDestination taskIdMap project n).place ≠ project := fun n hn =>
      hsafe.inside (writtenMember taskIdMap project n) (List.mem_map_of_mem hn)
    exact .inr ⟨hall, hinside, hdistinct⟩
  · intro hcondition
    have hextractable : Extractable files taskIdMap project names := by
      rcases hcondition with hrefused | hextractable
      · cases names with
        | nil => exact ⟨hall, nofun, List.nodup_nil⟩
        | cons n rest => exact absurd (hall.each n List.mem_cons_self) (hrefused n rfl)
      · exact hextractable
    refine ⟨hregular, htotal, fun w hw => ?_, ?_, .inr (names_of_written names)⟩
    · obtain ⟨n, hn, rfl⟩ := List.mem_map.1 hw
      exact hextractable.inside n hn
    · rw [places_of_written]
      exact hextractable.distinct

omit [Runtime] in
/-- When the loop stopped it must have stopped at the first member. -/
theorem safe_stopped_iff {done : List String} (hdone : done <+: names) (hne : done ≠ names)
    (hnot : ¬ AllWritable files taskIdMap project names) (herror : ∃ e, result = .error e)
    (hfirst : ∀ n ∈ names.head?, done = [] ↔ ¬ Writable files taskIdMap project n) :
    SafeExtraction members project names result (done.map (writtenMember taskIdMap project)) ↔
      (∀ n ∈ names.head?, ¬ Writable files taskIdMap project n) ∨
        Extractable files taskIdMap project names := by
  obtain ⟨hregular, htotal⟩ := written_within_limits taskIdMap project
    hinfos hsorted hdone
  constructor
  · intro hsafe
    rcases hsafe.complete with ⟨-, hnone⟩ | hcomplete
    · exact .inl fun n hn => (hfirst n hn).1 (List.map_eq_nil_iff.1 hnone)
    · rw [names_of_written] at hcomplete
      exact absurd hcomplete hne
  · rintro (hrefused | hextractable)
    · have hnone : done = [] := by
        cases hhead : names.head? with
        | none =>
          rw [List.head?_eq_none_iff] at hhead
          rw [hhead] at hdone
          exact List.prefix_nil.1 hdone
        | some n => exact (hfirst n hhead).2 (hrefused n hhead)
      subst hnone
      exact ⟨hregular, htotal, nofun, List.nodup_nil, .inl ⟨herror, rfl⟩⟩
    · exact absurd hextractable.writable hnot

end Outcomes

/-- The accepted members are extracted safely exactly when the first of them is refused, or there
is none, or they can be written to different places inside of the project directory; where the map
gives ids, the names of the members tell the places. -/
theorem extraction_is_safe_iff
    (hnames : validateArchiveMembers (membersByName tar) = .ok names)
    (hproject : files.node project = .dir) :
    ((extractArtifactMembers tar taskIdMap project names).Sat { files := files }
        (fun result after =>
          SafeExtraction (membersByName tar) project names result after.written) ↔
      (∀ n ∈ names.head?, ¬ Writable files taskIdMap project n) ∨
        Extractable files taskIdMap project names) ∧
    (NamesIds taskIdMap → (Extractable files taskIdMap project names ↔
      AllWritable files taskIdMap project names ∧
        (∀ n ∈ names, (artifactPath n).parts ≠ []) ∧
        (names.map (memberComponents taskIdMap)).Nodup)) := by
  obtain ⟨infos, hinfos, hsorted⟩ := validateArchiveMembers_eq_ok hnames
  have haccepted : ∀ n ∈ names, ∃ info, AcceptedName (membersByName tar) n info := by
    intro n hn
    rw [hsorted, mem_sortedBy] at hn
    obtain ⟨info, hinfo, rfl⟩ := List.mem_map.1 hn
    exact ⟨info, hinfos.named info hinfo⟩
  have hrun : (extractArtifactMembers tar taskIdMap project names).Sat { files := files }
      fun r after => SafeExtraction (membersByName tar) project names r after.written ↔
        (∀ n ∈ names.head?, ¬ Writable files taskIdMap project n) ∨
          Extractable files taskIdMap project names := by
    refine Sat.bind (sat_extractEach haccepted hproject) (fun e after h => ?_) fun _ after h => ?_
    · obtain ⟨done, hdone, hwritten, ⟨-, he, -⟩ | ⟨hnot, -, hne, hfirst⟩⟩ := h
      · cases he
      · rw [hwritten, List.nil_append]
        exact safe_stopped_iff hinfos hsorted hdone hne hnot ⟨e, rfl⟩ hfirst
    · obtain ⟨done, -, hwritten, ⟨hall, -, heq⟩ | ⟨-, ⟨e, he⟩, -⟩⟩ := h
      · rw [heq] at hwritten
        refine Sat.pure ?_
        rw [hwritten, List.nil_append]
        exact safe_all_iff hinfos hsorted hall
      · cases he
  exact ⟨hrun, fun hids => extractable_iff_names hids haccepted⟩

end Archives

-- ════════════════════════════════════════════════════════════════════════
-- Archives to evaluate
-- ════════════════════════════════════════════════════════════════════════

section Evaluation

attribute [local instance] plainRuntime

/-- The members that every archive has. -/
def requiredMembers : List TarMember :=
  [⟨manifestMember, true, 2, [123, 125]⟩, ⟨payloadMember, true, 2, [123, 125]⟩]

def artifactOf (name : String) : TarMember := ⟨name, true, 1, [10]⟩

def projectDir : List String := ["work", ".taskledger"]

/-- A project directory with nothing in it. -/
def emptyProject : FileSystem (List UInt8) := .bare projectDir

/-- One task was imported under another id. -/
def renumberedFirst : String → Option String := fun id =>
  if id = "task-0001" then some "task-0007" else none

def logArchive : List TarMember :=
  requiredMembers ++ [artifactOf "artifacts/tasks/task-0001/artifacts/run.log"]

theorem renumberedFirst_ids : NamesIds renumberedFirst := by
  have htarget {id target : String} (h : renumberedFirst id = some target) :
      target = "task-0007" := by
    unfold renumberedFirst at h
    split at h
    · exact (Option.some.inj h).symm
    · cases h
  constructor
  · intro id target h
    rw [htarget h]
    exact ⟨by decide, by decide, by decide⟩
  · intro id target h
    rw [htarget h]
    decide

theorem extraction_is_safe_log :
    (extractArtifactMembers logArchive renumberedFirst projectDir
      ["artifacts/tasks/task-0001/artifacts/run.log"]).Sat { files := emptyProject }
        fun result after =>
          SafeExtraction (membersByName logArchive) projectDir
            ["artifacts/tasks/task-0001/artifacts/run.log"] result after.written := by
  have hnames : validateArchiveMembers (membersByName logArchive) =
      .ok ["artifacts/tasks/task-0001/artifacts/run.log"] :=
    toOption_eq_some.1 (by decide)
  have hproject : emptyProject.node projectDir = .dir := rfl
  obtain ⟨hsafe, hextractable⟩ := extraction_is_safe_iff hnames hproject
  refine hsafe.2 (.inr ((hextractable renumberedFirst_ids).2 ⟨⟨?_, ?_⟩, ?_, ?_⟩))
  · refine List.forall_mem_singleton.2 ⟨by decide, ⟨?_, ?_, ?_, ?_⟩⟩
    · decide
    · unfold FileSystem.Clear
      decide
    · decide
    · decide
  · decide
  · decide
  · decide

def halfArchive : List TarMember :=
  requiredMembers ++ [artifactOf "artifacts/+notes", artifactOf "artifacts//etc/passwd"]

/-- The second member is refused after the first one was written. -/
theorem absolute_artifact_stops_midway :
    validateArchiveMembers (membersByName halfArchive) =
        .ok ["artifacts/+notes", "artifacts//etc/passwd"] ∧
      emptyProject.node projectDir = .dir ∧
      ¬ (extractArtifactMembers halfArchive (fun _ => none) projectDir
        ["artifacts/+notes", "artifacts//etc/passwd"]).Sat { files := emptyProject }
          fun result after =>
            SafeExtraction (membersByName halfArchive) projectDir
              ["artifacts/+notes", "artifacts//etc/passwd"] result after.written := by
  have hnames : validateArchiveMembers (membersByName halfArchive) =
      .ok ["artifacts/+notes", "artifacts//etc/passwd"] :=
    toOption_eq_some.1 (by decide)
  refine ⟨hnames, by rfl, fun hsafe => ?_⟩
  have hwritten : ((extractArtifactMembers halfArchive (fun _ => none) projectDir
      ["artifacts/+notes", "artifacts//etc/passwd"]).runOn { files := emptyProject }).2.written.map
        WrittenMember.name = ["artifacts/+notes"] := by decide
  rcases hsafe.complete with ⟨-, hnone⟩ | hall
  · rw [hnone] at hwritten
    cases hwritten
  · exact absurd (hwritten.symm.trans hall) (by decide)

end Evaluation

end Taskledger
