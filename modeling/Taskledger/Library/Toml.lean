import Mathlib.Algebra.GroupWithZero.Nat
import Taskledger.Library.Lines
import Taskledger.Library.Pieces

/-!
# TOML texts

A TOML text is read as its expressions: each is the shortest run of lines that is an
expression, and belongs to the root table or to the table of the last header. What one
expression says is left to the reader of expressions; here it is only known of the few forms
that are written.
-/

namespace Library

-- ════════════════════════════════════════════════════════════════════════
-- Documents
-- ════════════════════════════════════════════════════════════════════════

/-- The header of a table, or of an element of an array of tables. -/
structure TomlHeader where
  name : List String
  array : Bool

/-- An expression of a TOML text. -/
inductive TomlExpression
  | blank
  | header (header : TomlHeader)
  | assignment (path : List String) (value : Value)

/-- Assignments, each with the path of its key. -/
abbrev TomlTable : Type := List (List String × Value)

/-- The assignments of the root table, and those below each header. -/
structure TomlDocument where
  root : TomlTable
  tables : List (TomlHeader × TomlTable)

namespace TomlDocument

def empty : TomlDocument := ⟨[], []⟩

/-- The document with an expression in front. -/
def cons (e : TomlExpression) (d : TomlDocument) : TomlDocument :=
  match e with
  | .blank => d
  | .header h => ⟨[], (h, d.root) :: d.tables⟩
  | .assignment path value => ⟨(path, value) :: d.root, d.tables⟩

def ofExpressions : List TomlExpression → TomlDocument
  | [] => empty
  | e :: rest => cons e (ofExpressions rest)

/-- The table of the document has the key. -/
def HasKey (d : TomlDocument) (key : String) : Prop :=
  (∃ e ∈ d.root, e.1.head? = some key) ∨ ∃ t ∈ d.tables, t.1.name.head? = some key

instance (d : TomlDocument) (key : String) : Decidable (d.HasKey key) := by
  unfold HasKey
  infer_instance

/-- `data.get(key)`: of a table it matters only that it is one. -/
def get? (d : TomlDocument) (key : String) : Option Value :=
  match d.root.find? fun e => e.1 = [key] with
  | some e => some e.2
  | none => if d.HasKey key then some (.dict []) else none

/-- The keys that a document defines, table by table. -/
def rootPaths (d : TomlDocument) : List (List String) := d.root.map Prod.fst

def tablePaths (d : TomlDocument) : List (TomlHeader × List (List String)) :=
  d.tables.map fun t => (t.1, t.2.map Prod.fst)

/-- The assignments among expressions. -/
def assignments : List TomlExpression → TomlTable :=
  List.filterMap fun
    | .assignment path value => some (path, value)
    | _ => none

def isHeader : TomlExpression → Bool
  | .header _ => true
  | _ => false

/-- Expressions before the first header belong to the root table. -/
theorem ofExpressions_append {es fs : List TomlExpression} (h : ∀ e ∈ es, isHeader e = false) :
    ofExpressions (es ++ fs) =
      ⟨assignments es ++ (ofExpressions fs).root, (ofExpressions fs).tables⟩ := by
  induction es with
  | nil => rfl
  | cons e rest ih =>
    obtain ⟨he, hrest⟩ := List.forall_mem_cons.1 h
    rw [List.cons_append, ofExpressions, ih hrest]
    cases e with
    | blank => rfl
    | header header => cases he
    | assignment path value => rfl

theorem headers_of_tables {es : List TomlExpression} (h : (ofExpressions es).tables = []) :
    ∀ e ∈ es, isHeader e = false := by
  induction es with
  | nil => exact nofun
  | cons e rest ih =>
    cases e with
    | blank => exact List.forall_mem_cons.2 ⟨rfl, ih h⟩
    | header header => exact absurd h (List.cons_ne_nil _ _)
    | assignment path value => exact List.forall_mem_cons.2 ⟨rfl, ih h⟩

/-- What follows a header leaves the root table as it is. -/
theorem root_append {es fs : List TomlExpression} (h : (ofExpressions es).tables ≠ []) :
    (ofExpressions (es ++ fs)).root = (ofExpressions es).root := by
  induction es with
  | nil => exact absurd rfl h
  | cons e rest ih =>
    cases e with
    | blank => exact ih h
    | header header => rfl
    | assignment path value => exact congrArg ((path, value) :: ·) (ih h)

/-- The number of assignments below headers. -/
def tableSize (d : TomlDocument) : Nat := (d.tables.map fun t => t.2.length).sum

/-- Every assignment is in the root table or below a header. -/
theorem size_ofExpressions (es : List TomlExpression) :
    (ofExpressions es).root.length + (ofExpressions es).tableSize = (assignments es).length := by
  induction es with
  | nil => rfl
  | cons e rest ih =>
    cases e with
    | blank => exact ih
    | header header =>
      have hsize : (ofExpressions (.header header :: rest)).tableSize =
          (ofExpressions rest).root.length + (ofExpressions rest).tableSize := by
        simp [ofExpressions, cons, tableSize]
      rw [hsize, ih]
      simp [ofExpressions, cons, assignments]
    | assignment path value =>
      have hlist : assignments (.assignment path value :: rest) = (path, value) :: assignments rest :=
        rfl
      show ((path, value) :: (ofExpressions rest).root).length + (ofExpressions rest).tableSize = _
      rw [hlist, List.length_cons, List.length_cons, ← ih]
      omega

theorem tableSize_eq (d : TomlDocument) :
    d.tableSize = (d.tablePaths.map fun t => t.2.length).sum := by
  simp [tableSize, tablePaths, Function.comp_def]

theorem assignments_append (es fs : List TomlExpression) :
    assignments (es ++ fs) = assignments es ++ assignments fs :=
  List.filterMap_append

/-- The same expression, perhaps an assignment of another value. -/
inductive Revalued : TomlExpression → TomlExpression → Prop
  | same (e : TomlExpression) : Revalued e e
  | assignment (path : List String) (value value' : Value) :
    Revalued (.assignment path value) (.assignment path value')

section Revalued

variable {es fs : List TomlExpression}

/-- Other values leave the keys of a document. -/
theorem paths_of_revalued (h : List.Forall₂ Revalued es fs) :
    (ofExpressions fs).rootPaths = (ofExpressions es).rootPaths ∧
      (ofExpressions fs).tablePaths = (ofExpressions es).tablePaths := by
  induction h with
  | nil => exact ⟨rfl, rfl⟩
  | @cons e f es fs hef _ ih =>
    obtain ⟨hroot, htables⟩ := ih
    rw [ofExpressions, ofExpressions]
    cases hef with
    | same e =>
      cases e with
      | blank => exact ⟨hroot, htables⟩
      | header header => exact ⟨rfl, congrArg₂ List.cons (congrArg (Prod.mk header) hroot) htables⟩
      | assignment path value => exact ⟨congrArg (List.cons path) hroot, htables⟩
    | assignment path value value' => exact ⟨congrArg (List.cons path) hroot, htables⟩

/-- A document with other values is another document. -/
theorem ofExpressions_inj_of_revalued (h : List.Forall₂ Revalued es fs) :
    ofExpressions fs = ofExpressions es ↔ fs = es := by
  induction h with
  | nil => exact iff_of_true rfl rfl
  | @cons e f es fs hef _ ih =>
    refine ⟨fun heq => ?_, congrArg ofExpressions⟩
    rw [ofExpressions, ofExpressions] at heq
    cases hef with
    | same e =>
      refine congrArg (List.cons e) (ih.1 ?_)
      cases e with
      | blank => exact heq
      | header header =>
        simp only [cons, mk.injEq, List.cons.injEq, Prod.mk.injEq, true_and] at heq
        exact congrArg₂ mk heq.1 heq.2
      | assignment path value =>
        simp only [cons, mk.injEq, List.cons.injEq, true_and] at heq
        exact congrArg₂ mk heq.1 heq.2
    | assignment path value value' =>
      simp only [cons, mk.injEq, List.cons.injEq, Prod.mk.injEq, true_and] at heq
      obtain ⟨⟨rfl, hroot⟩, htables⟩ := heq
      rw [ih.1 (congrArg₂ mk hroot htables)]

end Revalued

/-- Whether a document has a key is told by its paths. -/
theorem hasKey_iff {d : TomlDocument} {key : String} :
    d.HasKey key ↔ (∃ path ∈ d.rootPaths, path.head? = some key) ∨
      ∃ t ∈ d.tablePaths, t.1.name.head? = some key := by
  simp [HasKey, rootPaths, tablePaths]

/-- The value of a key that the root table has once. -/
theorem get?_of_mem {d : TomlDocument} {key : String} {value : Value} (hnodup : d.rootPaths.Nodup)
    (h : ([key], value) ∈ d.root) : d.get? key = some value := by
  cases hfind : d.root.find? fun e => e.1 = [key] with
  | none =>
    have hnone := List.find?_eq_none.1 hfind _ h
    simp at hnone
  | some e =>
    have hpath : e.1 = [key] := by simpa using List.find?_some hfind
    have hsame := List.inj_on_of_nodup_map hnodup (List.mem_of_find?_eq_some hfind) h hpath
    rw [get?, hfind, hsame]

end TomlDocument

namespace Toml

/-- A character of a bare key. -/
def isBareChar (c : Char) : Bool := c.isAlphanum || c = '_' || c = '-'

/-- A key that needs no quotes. -/
def IsBareKey (k : String) : Prop := k ≠ "" ∧ ∀ c ∈ k.toList, isBareChar c = true

/-- A character that a basic string holds as it is. -/
def isPlainChar (c : Char) : Bool :=
  c ≠ '"' && c ≠ '\\' && (c = '\t' || 0x20 ≤ c.toNat) && c.toNat ≠ 0x7f

/-- A text that a basic string holds as it is. -/
def IsPlain (s : String) : Prop := ∀ c ∈ s.toList, isPlainChar c = true

-- Over the characters of the text: there are too many characters to go through them all.
instance (s : String) : Decidable (IsPlain s) :=
  List.decidableBAll (fun c => isPlainChar c = true) s.toList

instance (k : String) : Decidable (IsBareKey k) :=
  have := List.decidableBAll (fun c => isBareChar c = true) k.toList
  inferInstanceAs (Decidable (k ≠ "" ∧ ∀ c ∈ k.toList, isBareChar c = true))

end Toml

open Toml in
/-- The reading of single expressions, and the check that no key is defined twice. -/
class TomlReader where
  /-- What a text says that is one expression, of one line or of several. -/
  expression : String → Option TomlExpression
  /-- Why a text is refused. -/
  reason : String → String
  /-- The keys of a document are defined once, and none of them in two ways. -/
  consistent : List (List String) → List (TomlHeader × List (List String)) → Bool
  expression_empty : expression "" = some .blank
  expression_comment : ∀ s, IsPlain s → expression ("#" ++ s) = some .blank
  expression_string : ∀ k s, IsBareKey k → IsPlain s →
    expression (k ++ " = \"" ++ s ++ "\"") = some (.assignment [k] (.str s))
  expression_number : ∀ k n, IsBareKey k →
    expression (k ++ " = " ++ Nat.repr n) = some (.assignment [k] (.int n))
  /-- A bare key, and the sign after it. -/
  expression_bareKey : ∀ blanks k blanks' rest e, IsBareKey k →
    (∀ c ∈ blanks, Text.isSpace c = true) → (∀ c ∈ blanks', Text.isSpace c = true) →
    expression (String.ofList (blanks ++ (k.toList ++ (blanks' ++ '=' :: rest)))) = some e →
    ∃ v, e = .assignment [k] v
  consistent_empty : consistent [] [] = true
  consistent_nodup : ∀ root tables, consistent root tables = true → root.Nodup
  /-- A new key at the end of the root table. -/
  consistent_concat : ∀ root tables k, consistent root tables = true →
    (∀ path ∈ root, path.head? ≠ some k) → (∀ t ∈ tables, t.1.name.head? ≠ some k) →
    consistent (root ++ [[k]]) tables = true

section Reading

variable [TomlReader]

/-- The expressions of lines. -/
def tomlPieces (lines : List String) : Option (List (List String × TomlExpression)) :=
  cutLeast (fun piece => TomlReader.expression (Text.join "\n" piece)) lines

/-- `tomllib.loads`, as far as the assignments go. -/
def readToml (text : String) : Option TomlDocument :=
  match tomlPieces (Text.splitOn '\n' text) with
  | none => none
  | some pieces =>
    let d := TomlDocument.ofExpressions (pieces.map Prod.snd)
    if TomlReader.consistent d.rootPaths d.tablePaths then some d else none

theorem readToml_eq_some {text : String} {d : TomlDocument} :
    readToml text = some d ↔ ∃ pieces, tomlPieces (Text.splitOn '\n' text) = some pieces ∧
      d = .ofExpressions (pieces.map Prod.snd) ∧
      TomlReader.consistent d.rootPaths d.tablePaths = true := by
  unfold readToml
  cases tomlPieces (Text.splitOn '\n' text) with
  | none => simp
  | some pieces =>
    simp only [Option.ite_none_right_eq_some, Option.some.injEq]
    constructor
    · rintro ⟨hconsistent, rfl⟩
      exact ⟨pieces, rfl, rfl, hconsistent⟩
    · rintro ⟨_, rfl, rfl, hconsistent⟩
      exact ⟨hconsistent, rfl⟩

end Reading

end Library
