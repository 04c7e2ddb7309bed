import Mathlib.Data.List.Basic
import Mathlib.Logic.Function.Basic
import Taskledger.Library.Effect
import Taskledger.Library.Lines

/-!
# File systems without links

A place is the list of the names that lead to it from the root. What is not there has nothing
below it, and the directories above what is there are directories. A path is walked from a
directory component by component, and `..` leads up.
-/

namespace Library

-- ════════════════════════════════════════════════════════════════════════
-- Paths
-- ════════════════════════════════════════════════════════════════════════

/-- A POSIX path without its empty and its `.` components. -/
structure PosixPath where
  absolute : Bool
  parts : List String
  deriving DecidableEq

namespace PosixPath

def ofString (text : String) : PosixPath where
  absolute := Text.startsWith text "/"
  parts := (Text.splitOn '/' text).filter fun c => c ≠ "" && c ≠ "."

/-- `a / b`: an absolute path stands for itself. -/
def join (a b : PosixPath) : PosixPath :=
  if b.absolute then b else { a with parts := a.parts ++ b.parts }

/-- The path of several segments, each of which may be a path. -/
def ofSegments (segments : List String) : PosixPath :=
  segments.foldl (fun p segment => p.join (ofString segment)) ⟨false, []⟩

/-- A text that names one component of a path. -/
structure IsComponent (c : String) : Prop where
  noSeparator : '/' ∉ c.toList
  nonempty : c ≠ ""
  notHere : c ≠ "."

theorem ofString_component {c : String} (h : IsComponent c) : ofString c = ⟨false, [c]⟩ := by
  have hsplit : Text.splitOn '/' c = [c] := by
    rw [Text.splitOn, Text.splitAtChar_plain h.noSeparator]
    simp
  have habsolute : Text.startsWith c "/" = false := by
    rw [Text.startsWith, Bool.eq_false_iff, Ne, List.isPrefixOf_iff_prefix]
    intro hstart
    exact h.noSeparator (hstart.subset (List.mem_singleton_self '/'))
  rw [ofString, hsplit, habsolute]
  simp [h.nonempty, h.notHere]

theorem component_of_mem_parts {text c : String} (h : c ∈ (ofString text).parts) :
    IsComponent c := by
  obtain ⟨hc, hkept⟩ := List.mem_filter.1 h
  simp only [Bool.and_eq_true, decide_eq_true_eq] at hkept
  exact ⟨Text.not_mem_splitOn hc, hkept.1, hkept.2⟩

theorem ofSegments_components {cs : List String} (h : ∀ c ∈ cs, IsComponent c) :
    ofSegments cs = ⟨false, cs⟩ := by
  have hfold (before : List String) :
      cs.foldl (fun (p : PosixPath) segment => p.join (ofString segment)) ⟨false, before⟩ =
        ⟨false, before ++ cs⟩ := by
    induction cs generalizing before with
    | nil => rw [List.append_nil]; rfl
    | cons c rest ih =>
      obtain ⟨hc, hrest⟩ := List.forall_mem_cons.1 h
      have hjoin : join ⟨false, before⟩ (ofString c) = ⟨false, before ++ [c]⟩ := by
        rw [ofString_component hc]
        rfl
      rw [List.foldl_cons, hjoin, ih hrest, List.append_assoc]
      rfl
  exact hfold []

end PosixPath

/-- Where a component leads from a place. -/
def descend (here : List String) (component : String) : List String :=
  if component = ".." then here.dropLast else here ++ [component]

/-- Where a path leads from a place. -/
def resolve (here path : List String) : List String := path.foldl descend here

/-- The places that a path goes through. -/
def passed (here : List String) : List String → List (List String)
  | [] => []
  | component :: rest => descend here component :: passed (descend here component) rest

theorem resolve_snoc (here path : List String) (component : String) :
    resolve here (path ++ [component]) = descend (resolve here path) component :=
  List.foldl_concat _ _ _ _

/-- A path that does not lead up goes down by its components. -/
theorem resolve_eq_append {here path : List String} (h : ".." ∉ path) :
    resolve here path = here ++ path := by
  induction path generalizing here with
  | nil => exact (List.append_nil here).symm
  | cons component rest ih =>
    rw [List.mem_cons, not_or] at h
    have hfirst : descend here component = here ++ [component] := if_neg (Ne.symm h.1)
    rw [resolve, List.foldl_cons, hfirst]
    exact (ih h.2).trans (List.append_assoc here [component] rest)

theorem resolve_mem_passed {here path : List String} (h : path ≠ []) :
    resolve here path ∈ passed here path := by
  induction path generalizing here with
  | nil => exact absurd rfl h
  | cons component rest ih =>
    cases rest with
    | nil => exact List.mem_singleton_self _
    | cons next rest => exact List.mem_cons_of_mem _ (ih (List.cons_ne_nil _ _))

-- ════════════════════════════════════════════════════════════════════════
-- File systems
-- ════════════════════════════════════════════════════════════════════════

inductive FileNode (γ : Type) where
  | missing
  | file (content : γ)
  | dir

namespace FileNode

variable {γ : Type}

def isFile : FileNode γ → Bool
  | .file _ => true
  | _ => false

def isDir : FileNode γ → Bool
  | .dir => true
  | _ => false

theorem isDir_iff {x : FileNode γ} : x.isDir = true ↔ x = .dir := by
  cases x <;> simp [isDir]

end FileNode

structure FileSystem (γ : Type) where
  node : List String → FileNode γ
  root : node [] = .dir
  above : ∀ here name, node (here ++ [name]) ≠ .missing → node here = .dir

/-- Why a call on the file system is refused. -/
inductive Refusal where
  | fileExists
  | notDirectory
  | isDirectory
  | nullByte
  deriving DecidableEq

namespace FileSystem

variable {γ : Type} {fs : FileSystem γ} {here : List String} {name : String} {x : FileNode γ}

/-- A directory with nothing else but the directories above it. -/
def bare (place : List String) : FileSystem γ where
  node here := if here <+: place then .dir else .missing
  root := if_pos List.nil_prefix
  above here name h := by
    have hbelow : here ++ [name] <+: place := by
      by_contra hnot
      exact h (if_neg hnot)
    exact if_pos ((List.prefix_append _ _).trans hbelow)

/-- Put something in a directory, in the place of what is no directory. -/
def set (fs : FileSystem γ) (here : List String) (name : String) (x : FileNode γ) : FileSystem γ :=
  if h : (fs.node here).isDir = true ∧ (fs.node (here ++ [name])).isDir = false then
    { node := Function.update fs.node (here ++ [name]) x
      root := by
        rw [Function.update_of_ne (by simp)]
        exact fs.root
      above := by
        have hdir : fs.node here = .dir := FileNode.isDir_iff.1 h.1
        intro p n hp
        by_cases heq : p ++ [n] = here ++ [name]
        · obtain ⟨rfl, -⟩ := List.append_inj' heq rfl
          rw [Function.update_of_ne (by simp)]
          exact hdir
        · rw [Function.update_of_ne heq] at hp
          have hp := fs.above p n hp
          rw [Function.update_of_ne]
          · exact hp
          · rintro rfl
            rw [hp] at h
            cases h.2 }
  else fs

theorem node_set (hdir : fs.node here = .dir) (hnot : (fs.node (here ++ [name])).isDir = false)
    (p : List String) :
    (fs.set here name x).node p = if p = here ++ [name] then x else fs.node p := by
  rw [set, dif_pos ⟨FileNode.isDir_iff.2 hdir, hnot⟩]
  exact Function.update_apply _ _ _ _

/-- The directory above a directory. -/
theorem node_dropLast (h : fs.node here = .dir) : fs.node here.dropLast = .dir := by
  cases here using List.reverseRecOn with
  | nil => exact fs.root
  | append_singleton init name =>
    rw [List.dropLast_concat]
    refine fs.above init name ?_
    rw [h]
    nofun

-- ════════════════════════════════════════════════════════════════════════
-- Calls
-- ════════════════════════════════════════════════════════════════════════

/-- Enter a directory, which is made when it is not there, and tell whether it was. A file in
its place blocks the way. -/
def enter (here : List String) (component : String) (blocked : Refusal) :
    Action (FileSystem γ) Refusal (List String × Bool) := fun fs =>
  match fs.node (descend here component) with
  | .dir => (.ok (descend here component, false), fs)
  | .file _ => (.error blocked, fs)
  | .missing => (.ok (descend here component, true), fs.set here component .dir)

/-- Make the directories of a path that are not there; `made` tells whether one was made
already. The whole path is tried first, which a file on the way refuses; a file at its end is
one that exists, and so is one that comes up after the directories before it were made. -/
def mkdirs (made : Bool) (here : List String) :
    List String → Action (FileSystem γ) Refusal (List String)
  | [] => pure here
  | component :: rest => do
    let (next, new) ← enter here component
      (if made ∨ rest = [] then .fileExists else .notDirectory)
    mkdirs (made || new) next rest

def hasNull (component : String) : Bool := component.toList.contains (Char.ofNat 0)

/-- Write a file of a directory, which replaces the one of that name. -/
def writeInto (here : List String) (name : String) (content : γ) :
    Action (FileSystem γ) Refusal Unit := fun fs =>
  if hasNull name then (.error .nullByte, fs)
  else if (fs.node (descend here name)).isDir then (.error .isDirectory, fs)
  else (.ok (), fs.set here name (.file content))

/-- Make the directories above a path, then write the file. -/
def writeBelow (here path : List String) (content : γ) : Action (FileSystem γ) Refusal Unit := do
  raiseIf (path.dropLast.any hasNull = true) Refusal.nullByte
  let parent ← mkdirs false here path.dropLast
  match path.getLast? with
  | none => throw Refusal.isDirectory
  | some name => writeInto parent name content

-- ════════════════════════════════════════════════════════════════════════
-- What the calls do
-- ════════════════════════════════════════════════════════════════════════

open Library.Action

theorem sat_enter {component : String} {blocked : Refusal} (hdir : fs.node here = .dir) :
    (enter here component blocked).Sat fs fun r fs' =>
      ((fs.node (descend here component)).isFile = false ∧
        (∃ new, r = .ok (descend here component, new)) ∧
        ∀ p, fs'.node p = if p = descend here component then .dir else fs.node p) ∨
      ((fs.node (descend here component)).isFile = true ∧ ∃ e, r = .error e) := by
  unfold Sat runOn enter
  cases hnode : fs.node (descend here component) with
  | file content => exact .inr ⟨rfl, _, rfl⟩
  | dir =>
    refine .inl ⟨rfl, ⟨_, rfl⟩, fun p => ?_⟩
    by_cases hp : p = descend here component
    · rw [if_pos hp, hp]
      exact hnode
    · rw [if_neg hp]
  | missing =>
    refine .inl ⟨rfl, ⟨_, rfl⟩, fun p => ?_⟩
    by_cases hup : component = ".."
    · rw [descend, if_pos hup, node_dropLast hdir] at hnode
      cases hnode
    · rw [descend, if_neg hup] at hnode ⊢
      exact node_set hdir (by rw [hnode]; rfl) p

/-- No place that the path goes through is a file. -/
def Clear (fs : FileSystem γ) (here path : List String) : Prop :=
  ∀ p ∈ passed here path, (fs.node p).isFile = false

/-- The directories are made exactly when no file is in the way. -/
theorem sat_mkdirs {path : List String} {made : Bool} (hdir : fs.node here = .dir) :
    (mkdirs made here path).Sat fs fun r fs' =>
      (fs.Clear here path ∧ r = .ok (resolve here path) ∧
        ∀ p, fs'.node p = if p ∈ passed here path then .dir else fs.node p) ∨
      (¬ fs.Clear here path ∧ ∃ e, r = .error e) := by
  induction path generalizing fs here made with
  | nil => exact .inl ⟨nofun, rfl, fun p => rfl⟩
  | cons component rest ih =>
    refine Sat.bind (sat_enter hdir) (fun e fs' h => ?_) fun entered fs' h => ?_
    · rcases h with ⟨-, ⟨_, hr⟩, -⟩ | ⟨hfile, -⟩
      · cases hr
      · refine .inr ⟨fun hclear => ?_, e, rfl⟩
        rw [hclear _ List.mem_cons_self] at hfile
        cases hfile
    · rcases h with ⟨hfile, ⟨new, hentered⟩, hnodes⟩ | ⟨-, e, he⟩
      · cases Except.ok.inj hentered
        have hsame : ∀ p, (fs'.node p).isFile = (fs.node p).isFile := by
          intro p
          rw [hnodes]
          split
          · rename_i hp
            rw [hp, hfile]
            rfl
          · rfl
        have hclear : fs.Clear here (component :: rest) ↔
            fs'.Clear (descend here component) rest := by
          unfold Clear
          rw [passed, List.forall_mem_cons, and_iff_right hfile]
          simp only [hsame]
        have hdir' : fs'.node (descend here component) = .dir := by rw [hnodes, if_pos rfl]
        refine (ih hdir').mono fun r fs'' h => ?_
        rcases h with ⟨hrest, hr, hnodes'⟩ | ⟨hrest, he⟩
        · refine .inl ⟨hclear.2 hrest, hr, fun p => ?_⟩
          rw [hnodes', hnodes]
          by_cases hp : p = descend here component
          · simp [passed, hp]
          · simp [passed, hp]
        · exact .inr ⟨fun h => hrest (hclear.1 h), he⟩
      · cases he

/-- The path leads to a place where a file can be written. -/
structure Admits (fs : FileSystem γ) (here path : List String) : Prop where
  noNull : path.any hasNull = false
  clear : fs.Clear here path.dropLast
  notDir : (fs.node (resolve here path)).isDir = false
  notPassed : resolve here path ∉ passed here path.dropLast

theorem sat_writeInto {content : γ} (hdir : fs.node here = .dir) :
    (writeInto here name content).Sat fs fun r fs' =>
      (hasNull name = false ∧ (fs.node (descend here name)).isDir = false ∧ r = .ok () ∧
        ∀ p, fs'.node p = if p = descend here name then .file content else fs.node p) ∨
      ((hasNull name = true ∨ (fs.node (descend here name)).isDir = true) ∧
        ∃ e, r = .error e) := by
  unfold Sat runOn writeInto
  cases hnull : hasNull name with
  | true => exact .inr ⟨.inl rfl, _, rfl⟩
  | false =>
    cases hisDir : (fs.node (descend here name)).isDir with
    | true => exact .inr ⟨.inr rfl, _, rfl⟩
    | false =>
      refine .inl ⟨rfl, rfl, rfl, fun p => ?_⟩
      by_cases hup : name = ".."
      · rw [descend, if_pos hup, node_dropLast hdir] at hisDir
        cases hisDir
      · rw [descend, if_neg hup] at hisDir ⊢
        exact node_set hdir hisDir p

/-- The last of the directories of a path is there when they are made. -/
theorem node_resolve {fs' : FileSystem γ} {path : List String} (hdir : fs.node here = .dir)
    (hnodes : ∀ p, fs'.node p = if p ∈ passed here path then .dir else fs.node p) :
    fs'.node (resolve here path) = .dir := by
  rw [hnodes]
  by_cases hpath : path = []
  · subst hpath
    exact hdir
  · rw [if_pos (resolve_mem_passed hpath)]

/-- A file is written exactly when the path admits it; then the path has its directories. -/
theorem sat_writeBelow (path : List String) (content : γ) (hdir : fs.node here = .dir) :
    (writeBelow here path content).Sat fs fun r fs' =>
      (fs.Admits here path ∧ r = .ok () ∧
        ∀ p, fs'.node p = if p = resolve here path then .file content
          else if p ∈ passed here path.dropLast then .dir else fs.node p) ∨
      (¬ fs.Admits here path ∧ ∃ e, r = .error e) := by
  unfold writeBelow
  cases path using List.reverseRecOn with
  | nil =>
    refine .inr ⟨fun h => ?_, Refusal.isDirectory, rfl⟩
    have hnot := h.notDir
    rw [resolve, List.foldl_nil, hdir] at hnot
    cases hnot
  | append_singleton init name =>
    rw [List.dropLast_concat, List.getLast?_concat]
    refine Sat.guard (fun hnull => ?_) fun hnull => ?_
    · refine .inr ⟨fun h => ?_, _, rfl⟩
      have hall := h.noNull
      rw [List.any_append, hnull] at hall
      cases hall
    rw [Bool.not_eq_true] at hnull
    refine Sat.bind (sat_mkdirs hdir) (fun e fs' h => ?_) fun parent fs' h => ?_
    · rcases h with ⟨-, hr, -⟩ | ⟨hclear, -⟩
      · cases hr
      · refine .inr ⟨fun h => hclear ?_, e, rfl⟩
        have := h.clear
        rwa [List.dropLast_concat] at this
    · rcases h with ⟨hclear, hparent, hnodes⟩ | ⟨-, e, he⟩
      · cases Except.ok.inj hparent
        refine (sat_writeInto (node_resolve hdir hnodes)).mono fun r fs'' h => ?_
        rw [← resolve_snoc, hnodes] at h
        rcases h with ⟨hname, hnot, hr, hnodes'⟩ | ⟨hrefused, he⟩
        · have hpassed : resolve here (init ++ [name]) ∉ passed here init := by
            intro hmem
            rw [if_pos hmem] at hnot
            cases hnot
          rw [if_neg hpassed] at hnot
          refine .inl ⟨⟨?_, ?_, hnot, ?_⟩, hr, fun p => ?_⟩
          · rw [List.any_append, hnull, List.any_cons, hname]
            rfl
          · rwa [List.dropLast_concat]
          · rwa [List.dropLast_concat]
          · rw [hnodes', hnodes]
        · refine .inr ⟨fun h => ?_, he⟩
          obtain ⟨hall, -, hnot, hpassed⟩ := h
          rw [List.dropLast_concat] at hpassed
          rw [if_neg hpassed, hnot] at hrefused
          rw [List.any_append, List.any_cons, hrefused.resolve_right nofun, Bool.true_or,
            Bool.or_true] at hall
          cases hall
      · cases he

/-- What a file that was written changes for another path: it must not lie above the other one,
nor the other one above it. -/
theorem admits_after {fs' : FileSystem γ} {path : List String} {content : γ}
    (there other : List String)
    (h : fs.Admits here path)
    (hnodes : ∀ p, fs'.node p = if p = resolve here path then .file content
      else if p ∈ passed here path.dropLast then .dir else fs.node p) :
    fs'.Admits there other ↔ fs.Admits there other ∧
      resolve here path ∉ passed there other.dropLast ∧
      resolve there other ∉ passed here path.dropLast := by
  have hfile : ∀ p, (fs'.node p).isFile = false ↔
      (fs.node p).isFile = false ∧ p ≠ resolve here path := by
    intro p
    rw [hnodes]
    by_cases hp : p = resolve here path
    · rw [if_pos hp]
      exact ⟨nofun, fun h => absurd hp h.2⟩
    · rw [if_neg hp, and_iff_left hp]
      split
      · rename_i hmem
        exact ⟨fun _ => h.clear p hmem, fun _ => rfl⟩
      · rfl
  have hdir : ∀ p, (fs'.node p).isDir = false ↔
      (fs.node p).isDir = false ∧ p ∉ passed here path.dropLast := by
    intro p
    rw [hnodes]
    by_cases hp : p = resolve here path
    · rw [if_pos hp, hp]
      exact ⟨fun _ => ⟨h.notDir, h.notPassed⟩, fun _ => rfl⟩
    · rw [if_neg hp]
      split
      · rename_i hmem
        exact ⟨nofun, fun h => absurd hmem h.2⟩
      · rename_i hmem
        exact (and_iff_left hmem).symm
  constructor
  · rintro ⟨hnull, hclear, hnot, hpassed⟩
    obtain ⟨hnot, hbelow⟩ := (hdir _).1 hnot
    refine ⟨⟨hnull, fun p hp => ((hfile p).1 (hclear p hp)).1, hnot, hpassed⟩, ?_, hbelow⟩
    exact fun hmem => ((hfile _).1 (hclear _ hmem)).2 rfl
  · rintro ⟨⟨hnull, hclear, hnot, hpassed⟩, habove, hbelow⟩
    refine ⟨hnull, fun p hp => (hfile p).2 ⟨hclear p hp, ?_⟩, (hdir _).2 ⟨hnot, hbelow⟩, hpassed⟩
    rintro rfl
    exact habove hp

end FileSystem

end Library
