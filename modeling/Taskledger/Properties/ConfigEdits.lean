import Mathlib.Data.List.TakeWhile
import Taskledger.PlainToml
import Taskledger.Storage.LedgerConfig

/-!
# Edits of the ledger configuration

The edit goes line by line, and knows nothing of tables and of values of several lines. Where
every ledger key is assigned by a line of its own in the root table, the values are replaced and
nothing else changes. The keys that are missing go to the end of the text, which belongs to the
last table if there is one.
-/

namespace Taskledger

open Library TomlDocument

section ConfigEdits

variable [TomlReader] {path text : String} {config current : LedgerConfig}
  {patch : LedgerConfigPatch} {data : TomlDocument} {key line : String}

-- ════════════════════════════════════════════════════════════════════════
-- Valid configurations
-- ════════════════════════════════════════════════════════════════════════

/-- What the reader of a configuration makes sure of. -/
structure LedgerConfig.Valid (config : LedgerConfig) : Prop where
  ref : validateLedgerRef config.ref = .ok ()
  parentRef : config.parentRef ≠ some ""
  nextTaskNumber : ∀ n, config.nextTaskNumber = .int n → 1 ≤ n
  branchGuard : config.branchGuard ∈ branchGuards

omit [TomlReader] in
theorem validateLedgerRef_main : validateLedgerRef "main" = .ok () := rfl

omit [TomlReader] in
theorem valid_of_fromDict (h : ledgerConfigFromDict data = .ok config) : config.Valid := by
  obtain ⟨ref, href, h⟩ := bind_eq_ok.1 h
  obtain ⟨parent, hparent, h⟩ := bind_eq_ok.1 h
  obtain ⟨number, hnumber, h⟩ := bind_eq_ok.1 h
  obtain ⟨guard, hguard, h⟩ := bind_eq_ok.1 h
  cases pure_eq_ok.1 h
  refine ⟨?_, ?_, ?_, ?_⟩
  · unfold ledgerRefOf at href
    split at href
    · cases href
      exact validateLedgerRef_main
    · cases href
      exact validateLedgerRef_main
    · obtain ⟨_, hvalid, h⟩ := bind_eq_ok.1 href
      cases pure_eq_ok.1 h
      exact hvalid
    · cases href
  · unfold ledgerParentRefOf at hparent
    split at hparent
    · cases hparent
      exact nofun
    · cases hparent
      exact nofun
    · cases hparent
      split
      · exact nofun
      · rename_i hne
        simpa using hne
    · cases hparent
  · intro n hn
    unfold ledgerNextTaskNumberOf at hnumber
    split at hnumber
    · cases hnumber
      cases hn
      exact Nat.le_refl 1
    · cases hnumber
      cases hn
      exact Nat.le_refl 1
    · split at hnumber
      · cases hnumber
      · cases hnumber
        cases hn
        omega
    · cases hnumber
      cases hn
    · cases hnumber
  · unfold ledgerBranchGuardOf at hguard
    split at hguard
    · cases hguard
      exact List.mem_cons_self
    · cases hguard
      exact List.mem_cons_self
    · split at hguard
      · cases hguard
        assumption
      · cases hguard
    · cases hguard

omit [TomlReader] in
theorem valid_patchedConfig (hcurrent : current.Valid) (hpatch : checkPatch patch = .ok ()) :
    (patchedConfig current patch).Valid := by
  unfold checkPatch at hpatch
  obtain ⟨_, href, hpatch⟩ := bind_eq_ok.1 hpatch
  obtain ⟨_, hnumber, hguard⟩ := bind_eq_ok.1 hpatch
  rw [raiseIf_eq_ok] at hnumber hguard
  refine ⟨?_, ?_, ?_, ?_⟩
  · show validateLedgerRef (patch.ref.getD current.ref) = .ok ()
    cases hr : patch.ref with
    | none => exact hcurrent.ref
    | some ref =>
      rw [hr] at href
      exact href
  · show (if patch.parentRef.getD (current.parentRef.getD "") = "" then none else some _) ≠ some ""
    split
    · exact nofun
    · rename_i hne
      simpa using hne
  · intro n hn
    have hn' : (patch.nextTaskNumber.map fun n => TaskNumber.int n.toNat).getD
        current.nextTaskNumber = .int n := hn
    cases hi : patch.nextTaskNumber with
    | none =>
      rw [hi] at hn'
      exact hcurrent.nextTaskNumber n hn'
    | some i =>
      rw [hi] at hn' hnumber
      cases hn'
      simp only [Option.any_some, decide_eq_true_eq] at hnumber
      omega
  · show patch.branchGuard.getD current.branchGuard ∈ branchGuards
    cases hg : patch.branchGuard with
    | none => exact hcurrent.branchGuard
    | some guard =>
      rw [hg] at hguard
      simpa using hguard

-- ════════════════════════════════════════════════════════════════════════
-- Lines
-- ════════════════════════════════════════════════════════════════════════

omit [TomlReader] in
theorem bareKey_of_mem (h : key ∈ ledgerKeys) : Toml.IsBareKey key := by
  have hall : ∀ key ∈ ledgerKeys, Toml.IsBareKey key := by decide
  exact hall key h

omit [TomlReader] in
/-- A stripped text, and the blanks around it. -/
theorem toList_strip (s : String) : ∃ before after : List Char,
    s.toList = before ++ ((Text.strip s).toList ++ after) ∧
      ∀ c ∈ before, Text.isSpace c = true := by
  have hdrop := List.takeWhile_append_dropWhile (p := Text.isSpace) (l := s.toList)
  obtain ⟨after, hafter⟩ : ∃ after, s.toList.dropWhile Text.isSpace =
      Text.dropTrailing Text.isSpace (s.toList.dropWhile Text.isSpace) ++ after := by
    refine ⟨((s.toList.dropWhile Text.isSpace).reverse.takeWhile Text.isSpace).reverse, ?_⟩
    rw [Text.dropTrailing, ← List.reverse_append, List.takeWhile_append_dropWhile,
      List.reverse_reverse]
  refine ⟨s.toList.takeWhile Text.isSpace, after, ?_, fun c hc => List.mem_takeWhile_imp hc⟩
  rw [Text.strip, String.toList_ofList, ← hafter, hdrop]

/-- The line of a ledger key assigns it, when it is an expression of its own. -/
theorem expression_keyOfLine {e : TomlExpression} (hkey : keyOfLine line = some key)
    (he : TomlReader.expression line = some e) : ∃ v, e = .assignment [key] v := by
  have hmem := List.mem_of_find?_eq_some hkey
  have hline := List.find?_some hkey
  simp only [Bool.and_eq_true, isTomlKeyLine] at hline
  obtain ⟨hstart, ⟨-, -⟩, hsign⟩ := hline
  obtain ⟨before, after, htext, hbefore⟩ := toList_strip line
  have hstrip : Text.strip (Text.strip line) = Text.strip line := by
    by_cases hempty : Text.strip line = ""
    · rw [hempty]
      decide
    · obtain ⟨hs, ht⟩ := Text.solid_strip hempty
      exact (Text.strip_solid hs ht).2
  rw [hstrip] at hsign
  obtain ⟨rest, hrest⟩ : ∃ rest, (Text.strip line).toList = key.toList ++ rest := by
    have hinitial := List.isPrefixOf_iff_prefix.1 hstart
    exact ⟨_, hinitial.choose_spec.symm⟩
  have hdropped : (Text.strip line).toList.drop key.length = rest := by
    rw [hrest, ← String.length_toList, List.drop_left]
  rw [hdropped] at hsign
  obtain ⟨tail, htail⟩ : ∃ tail, rest.dropWhile Text.isSpace = '=' :: tail := by
    cases hd : rest.dropWhile Text.isSpace with
    | nil => simp [hd] at hsign
    | cons c tail =>
      rw [hd] at hsign
      obtain rfl : c = '=' := by simpa using hsign
      exact ⟨tail, rfl⟩
  have hsplit : rest = rest.takeWhile Text.isSpace ++ '=' :: tail := by
    rw [← htail, List.takeWhile_append_dropWhile]
  have hwhole : line = String.ofList (before ++ (key.toList ++
      (rest.takeWhile Text.isSpace ++ '=' :: (tail ++ after)))) := by
    apply String.toList_injective
    rw [String.toList_ofList, htext, hrest]
    conv_lhs => rw [hsplit]
    simp
  rw [hwhole] at he
  exact TomlReader.expression_bareKey _ _ _ _ _ (bareKey_of_mem hmem) hbefore
    (fun c hc => List.mem_takeWhile_imp hc) he

-- ════════════════════════════════════════════════════════════════════════
-- Pieces
-- ════════════════════════════════════════════════════════════════════════

/-- The value of a ledger key as it is read back. -/
def ledgerValue (config : LedgerConfig) (key : String) : Value :=
  if key = "ledger_next_task_number" then
    match config.nextTaskNumber with
    | .int n => .int n
    | .true => .bool true
  else
    .str (if key = "ledger_ref" then config.ref
      else if key = "ledger_parent_ref" then config.parentRef.getD ""
      else config.branchGuard)

/-- The values of a configuration can be written as they are. -/
structure LedgerConfig.Writable (config : LedgerConfig) : Prop where
  ref : Toml.IsPlain config.ref
  parentRef : Toml.IsPlain (config.parentRef.getD "")
  nextTaskNumber : ∃ n, config.nextTaskNumber = .int n

omit [TomlReader] in
theorem keyValue_plain (hvalid : config.Valid) (hwrite : config.Writable) :
    Toml.IsPlain (if key = "ledger_ref" then config.ref
      else if key = "ledger_parent_ref" then config.parentRef.getD ""
      else config.branchGuard) := by
  split
  · exact hwrite.ref
  · split
    · exact hwrite.parentRef
    · have hguards : ∀ guard ∈ branchGuards, Toml.IsPlain guard := by decide
      exact hguards _ hvalid.branchGuard

/-- A written line says the value of its key. -/
theorem expression_ledgerLine (hvalid : config.Valid) (hwrite : config.Writable)
    (hkey : key ∈ ledgerKeys) :
    TomlReader.expression (ledgerLine config key) =
      some (.assignment [key] (ledgerValue config key)) := by
  have hbare := bareKey_of_mem hkey
  unfold ledgerLine formattedValue ledgerValue
  by_cases hnumber : key = "ledger_next_task_number"
  · obtain ⟨n, hn⟩ := hwrite.nextTaskNumber
    rw [if_pos hnumber, if_pos hnumber, hn]
    exact TomlReader.expression_number key n hbare
  · rw [if_neg hnumber, if_neg hnumber]
    have hline (s : String) : key ++ " = " ++ ("\"" ++ s ++ "\"") = key ++ " = \"" ++ s ++ "\"" := by
      apply String.toList_injective
      simp
    rw [hline]
    exact TomlReader.expression_string key _ hbare (keyValue_plain hvalid hwrite)

/-- The ledger key whose line a piece is. -/
def pieceKey (p : List String × TomlExpression) : Option String :=
  match p.1 with
  | [line] => keyOfLine line
  | _ => none

/-- What an edited piece says. -/
def editedPiece (config : LedgerConfig) (p : List String × TomlExpression) : TomlExpression :=
  match pieceKey p with
  | some key => .assignment [key] (ledgerValue config key)
  | none => p.2

/-- A line that looks like the assignment of a ledger key is an expression of its own, or it
stands in a value of several lines just as it is written. -/
def LineLayout (config : LedgerConfig) (pieces : List (List String × TomlExpression)) : Prop :=
  ∀ p ∈ pieces, ∀ line ∈ p.1, keyOfLine line ≠ none → p.1 = [line] ∨ editLine config line = line

omit [TomlReader] in
theorem editLine_of_none (h : keyOfLine line = none) : editLine config line = line := by
  rw [editLine, h]

omit [TomlReader] in
theorem editLine_of_some (h : keyOfLine line = some key) :
    editLine config line = ledgerLine config key := by
  rw [editLine, h]

section Pieces

variable {lines : List String} {pieces : List (List String × TomlExpression)}
  {p : List String × TomlExpression}

omit [TomlReader] in
theorem pieceKey_eq_some :
    pieceKey p = some key ↔ ∃ line, p.1 = [line] ∧ keyOfLine line = some key := by
  unfold pieceKey
  split
  · rename_i line hline
    simp [hline]
  · rename_i hmany
    refine iff_of_false (by simp) ?_
    rintro ⟨line, hline, -⟩
    exact hmany line hline

omit [TomlReader] in
theorem editedPiece_of_some (h : pieceKey p = some key) :
    editedPiece config p = .assignment [key] (ledgerValue config key) := by
  rw [editedPiece, h]

omit [TomlReader] in
theorem editedPiece_of_none (h : pieceKey p = none) : editedPiece config p = p.2 := by
  rw [editedPiece, h]

/-- The line of a ledger key assigns it. -/
theorem assignment_of_pieceKey (hpieces : tomlPieces lines = some pieces) (hp : p ∈ pieces)
    (h : pieceKey p = some key) : key ∈ ledgerKeys ∧ ∃ v, p.2 = .assignment [key] v := by
  obtain ⟨line, hline, hkey⟩ := pieceKey_eq_some.1 h
  obtain ⟨-, hleast⟩ := cutLeast_eq_some_iff.1 hpieces
  have haccepted := (hleast p hp).accepted
  rw [hline] at haccepted
  exact ⟨List.mem_of_find?_eq_some hkey, expression_keyOfLine hkey haccepted⟩

theorem revalued_editedPiece (hpieces : tomlPieces lines = some pieces) (hp : p ∈ pieces) :
    Revalued p.2 (editedPiece config p) := by
  cases hkey : pieceKey p with
  | none =>
    rw [editedPiece_of_none hkey]
    exact .same _
  | some key =>
    obtain ⟨v, hv⟩ := (assignment_of_pieceKey hpieces hp hkey).2
    rw [editedPiece_of_some hkey, hv]
    exact .assignment _ _ _

/-- An edited piece is the least of its kind, and says the written value. -/
theorem leastPiece_edited (hvalid : config.Valid) (hwrite : config.Writable)
    (hlayout : LineLayout config pieces) (hp : p ∈ pieces)
    (hpiece : LeastPiece (fun piece => TomlReader.expression (Text.join "\n" piece)) p) :
    LeastPiece (fun piece => TomlReader.expression (Text.join "\n" piece))
      (p.1.map (editLine config), editedPiece config p) := by
  cases hkey : pieceKey p with
  | some key =>
    obtain ⟨line, hline, hkey'⟩ := pieceKey_eq_some.1 hkey
    have hstates := expression_ledgerLine hvalid hwrite (List.mem_of_find?_eq_some hkey')
    rw [← editLine_of_some hkey'] at hstates
    rw [hline, editedPiece_of_some hkey]
    exact LeastPiece.single ((congrArg TomlReader.expression Text.join_singleton).trans hstates)
  | none =>
    have hsame : p.1.map (editLine config) = p.1 := by
      refine (List.map_congr_left fun line hline => ?_).trans (List.map_id _)
      by_cases hnone : keyOfLine line = none
      · exact editLine_of_none hnone
      · refine (hlayout p hp line hline hnone).resolve_left fun halone => hnone ?_
        rw [pieceKey, halone] at hkey
        exact hkey
    rw [hsame, editedPiece_of_none hkey]
    exact hpiece

/-- Edited lines are cut as before, with other values of the ledger keys. -/
theorem tomlPieces_edited (hvalid : config.Valid) (hwrite : config.Writable)
    (hlayout : LineLayout config pieces) (hpieces : tomlPieces lines = some pieces) :
    tomlPieces (lines.map (editLine config)) =
      some (pieces.map fun p => (p.1.map (editLine config), editedPiece config p)) := by
  obtain ⟨-, hleast⟩ := cutLeast_eq_some_iff.1 hpieces
  exact cutLeast_map hpieces fun p hp => leastPiece_edited hvalid hwrite hlayout hp (hleast p hp)

omit [TomlReader] in
/-- A ledger key is missing when no line looks like its assignment. -/
theorem mem_missingKeys :
    key ∈ missingKeys lines ↔ key ∈ ledgerKeys ∧ ∀ line ∈ lines, keyOfLine line ≠ some key := by
  simp [missingKeys]

theorem not_missing_of_pieceKey (hpieces : tomlPieces lines = some pieces) (hp : p ∈ pieces)
    (h : pieceKey p = some key) : key ∉ missingKeys lines := by
  obtain ⟨line, hline, hkey⟩ := pieceKey_eq_some.1 h
  obtain ⟨hlines, -⟩ := cutLeast_eq_some_iff.1 hpieces
  refine fun hmissing => (mem_missingKeys.1 hmissing).2 line ?_ hkey
  rw [hlines]
  exact List.mem_flatten.2 ⟨p.1, List.mem_map_of_mem hp, by simp [hline]⟩

/-- What the appended lines say. -/
def blockExpressions (config : LedgerConfig) (lines missing : List String) : List TomlExpression :=
  if missing = [] then []
  else
    (if lines.getLast?.any fun line => !Text.isBlank line then [.blank] else [])
      ++ [.blank] ++ missing.map fun key => .assignment [key] (ledgerValue config key)

omit [TomlReader] in
theorem assignments_block {missing : List String} :
    assignments (blockExpressions config lines missing) =
      missing.map fun key => ([key], ledgerValue config key) := by
  unfold blockExpressions
  split
  · rename_i hnil
    rw [hnil]
    rfl
  · rw [assignments_append, assignments_append]
    have hkeys (ks : List String) :
        assignments (ks.map fun key => .assignment [key] (ledgerValue config key)) =
          ks.map fun key => ([key], ledgerValue config key) := by
      simp [assignments]
    rw [hkeys]
    split <;> rfl

omit [TomlReader] in
theorem headers_block {missing : List String} :
    ∀ e ∈ blockExpressions config lines missing, isHeader e = false := by
  intro e he
  unfold blockExpressions at he
  split at he
  · cases he
  · rcases List.mem_append.1 he with he | he
    · rcases List.mem_append.1 he with he | he
      · split at he
        · rw [List.mem_singleton.1 he]
          rfl
        · cases he
      · rw [List.mem_singleton.1 he]
        rfl
    · obtain ⟨key, -, rfl⟩ := List.mem_map.1 he
      rfl

/-- The appended lines are expressions one by one. -/
theorem tomlPieces_block {missing : List String} (hvalid : config.Valid) (hwrite : config.Writable)
    (hmissing : ∀ key ∈ missing, key ∈ ledgerKeys) :
    ∃ block, tomlPieces (ledgerBlock config lines missing) = some block ∧
      block.map Prod.snd = blockExpressions config lines missing := by
  have hblank : TomlReader.expression (Text.join "\n" [""]) = some .blank :=
    TomlReader.expression_empty
  have hcomment : TomlReader.expression (Text.join "\n" [ledgerBlockComment]) = some .blank :=
    TomlReader.expression_comment
      " Taskledger branch-scoped state. This block is intentionally safe to commit." (by decide)
  have hkeys : tomlPieces (missing.map (ledgerLine config)) =
      some (missing.map fun key =>
        ([ledgerLine config key], .assignment [key] (ledgerValue config key))) := by
    refine cutLeast_eq_some_iff.2 ⟨?_, fun p hp => ?_⟩
    · rw [List.map_map, ← List.flatMap_def]
      exact (List.flatMap_pure_eq_map _ _).symm
    · obtain ⟨key, hkey, rfl⟩ := List.mem_map.1 hp
      exact LeastPiece.single (expression_ledgerLine hvalid hwrite (hmissing key hkey))
  have hone {line : String} (h : TomlReader.expression (Text.join "\n" [line]) = some .blank) :
      tomlPieces [line] = some [([line], .blank)] :=
    cutLeast_singles (f := fun _ => TomlExpression.blank)
      (List.forall_mem_cons.2 ⟨h, nofun⟩)
  unfold ledgerBlock blockExpressions
  split
  · exact ⟨[], rfl, rfl⟩
  · split
    · refine ⟨_, cutLeast_append (cutLeast_append (hone hblank) (hone hcomment)) hkeys, ?_⟩
      simp
    · refine ⟨_, cutLeast_append (cutLeast_append rfl (hone hcomment)) hkeys, ?_⟩
      simp

/-- The edited lines, and those that are appended. -/
def writtenLines (config : LedgerConfig) (lines : List String) : List String :=
  lines.map (editLine config) ++
    ledgerBlock config (lines.map (editLine config)) (missingKeys lines)

/-- What the written lines say. -/
def writtenDocument (config : LedgerConfig) (lines : List String)
    (pieces : List (List String × TomlExpression)) : TomlDocument :=
  ofExpressions (pieces.map (editedPiece config) ++
    blockExpressions config (lines.map (editLine config)) (missingKeys lines))

theorem tomlPieces_written (hvalid : config.Valid) (hwrite : config.Writable)
    (hlayout : LineLayout config pieces) (hpieces : tomlPieces lines = some pieces) :
    ∃ written, tomlPieces (writtenLines config lines) = some written ∧
      ofExpressions (written.map Prod.snd) = writtenDocument config lines pieces := by
  have hmissing : ∀ key ∈ missingKeys lines, key ∈ ledgerKeys := fun key h =>
    (List.mem_filter.1 h).1
  obtain ⟨block, hblock, hstates⟩ :=
    @tomlPieces_block _ config (lines.map (editLine config)) _ hvalid hwrite hmissing
  refine ⟨_, cutLeast_append (tomlPieces_edited hvalid hwrite hlayout hpieces) hblock, ?_⟩
  rw [List.map_append, hstates, writtenDocument, List.map_map]
  rfl

end Pieces

-- ════════════════════════════════════════════════════════════════════════
-- The written text
-- ════════════════════════════════════════════════════════════════════════

/-- The text is a line of its own. -/
def OneLine (s : String) : Prop := ∀ c ∈ s.toList, c ≠ '\n' ∧ c ≠ '\r'

omit [TomlReader] in
theorem oneLine_of_plain {s : String} (h : Toml.IsPlain s) : OneLine s := by
  intro c hc
  have hplain := h c hc
  constructor
  · rintro rfl
    cases hplain
  · rintro rfl
    cases hplain

omit [TomlReader] in
theorem plain_of_digits (n : Nat) : Toml.IsPlain (Nat.repr n) := by
  intro c hc
  rw [Nat.toList_repr] at hc
  have hdigit := Nat.isDigit_of_mem_toDigits (by decide) (by decide) hc
  simp only [Char.isDigit, Bool.and_eq_true, decide_eq_true_eq] at hdigit
  have hrange : 48 ≤ c.toNat ∧ c.toNat ≤ 57 := by
    obtain ⟨hlow, hhigh⟩ := hdigit
    exact ⟨hlow, hhigh⟩
  have hne (d : Char) (hd : d.toNat < 48 ∨ 57 < d.toNat) : c ≠ d := by
    rintro rfl
    omega
  simp only [Toml.isPlainChar, Bool.and_eq_true, Bool.or_eq_true, decide_eq_true_eq]
  exact ⟨⟨⟨hne _ (by decide), hne _ (by decide)⟩, .inr (by omega)⟩, by omega⟩

omit [TomlReader] in
theorem oneLine_append {s t : String} (hs : OneLine s) (ht : OneLine t) : OneLine (s ++ t) := by
  intro c hc
  rw [String.toList_append, List.mem_append] at hc
  exact hc.elim (hs c) (ht c)

omit [TomlReader] in
/-- A written line is one line, and starts and ends with no blank. -/
theorem ledgerLine_text (hvalid : config.Valid) (hwrite : config.Writable)
    (hkey : key ∈ ledgerKeys) :
    OneLine (ledgerLine config key) ∧ Text.StartsSolid (ledgerLine config key) ∧
      Text.EndsSolid (ledgerLine config key) := by
  have hkeys : ∀ key ∈ ledgerKeys, Toml.IsPlain key := by decide
  have hstart : Text.StartsSolid key := by
    have hfirst : ∀ key ∈ ledgerKeys, key.toList.head? = some 'l' := by decide
    obtain ⟨cs, hcs⟩ := List.head?_eq_some_iff.1 (hfirst key hkey)
    exact ⟨'l', cs, hcs, by decide⟩
  have hsign : OneLine (key ++ " = ") :=
    oneLine_append (oneLine_of_plain (hkeys key hkey)) (oneLine_of_plain (by decide))
  have hvalue : OneLine (formattedValue config key) ∧ Text.EndsSolid (formattedValue config key) := by
    unfold formattedValue
    split
    · obtain ⟨n, hn⟩ := hwrite.nextTaskNumber
      rw [hn]
      refine ⟨oneLine_of_plain (plain_of_digits n), ?_⟩
      rcases List.eq_nil_or_concat (Nat.toDigits 10 n) with hnil | ⟨init, d, hd⟩
      · exact absurd hnil Nat.toDigits_ne_nil
      · rw [List.concat_eq_append] at hd
        refine ⟨init, d, Nat.toList_repr.trans hd, ?_⟩
        have hmem : d ∈ Nat.toDigits 10 n := by simp [hd]
        have hdigit := Nat.isDigit_of_mem_toDigits (by decide) (by decide) hmem
        simp only [Char.isDigit, Bool.and_eq_true, decide_eq_true_eq] at hdigit
        have hrange : 48 ≤ d.toNat ∧ d.toNat ≤ 57 := ⟨hdigit.1, hdigit.2⟩
        rw [Text.isSpace, decide_eq_false_iff_not]
        simp only [List.mem_cons, List.not_mem_nil, or_false, not_or]
        omega
    · refine ⟨?_, ?_⟩
      · have hquote : OneLine "\"" := by
          intro c hc
          obtain rfl : c = '"' := by simpa using hc
          decide
        exact oneLine_append (oneLine_append hquote
          (oneLine_of_plain (keyValue_plain hvalid hwrite))) hquote
      · exact ⟨_, '"', by rw [String.toList_append]; rfl, by decide⟩
  exact ⟨oneLine_append hsign hvalue.1, hstart.append.append, hvalue.2.append⟩

section Text

variable {file : String} {lines : List String}

omit [TomlReader] in
theorem join_configLines (hfile : lines = configLines (configText file)) (hne : lines ≠ []) :
    Text.StartsSolid (Text.join "\n" lines) ∧ Text.EndsSolid (Text.join "\n" lines) := by
  by_cases htext : configText file = ""
  · rw [configLines, if_pos htext] at hfile
    exact absurd hfile hne
  · rw [hfile, configLines, if_neg htext, Text.join_splitOn]
    exact Text.solid_strip htext

omit [TomlReader] in
/-- The lines of a configuration have solid ends. -/
theorem configLines_start {first : String} {rest : List String}
    (hfile : lines = configLines (configText file)) (hlines : lines = first :: rest) :
    Text.StartsSolid first := by
  obtain ⟨hstart, -⟩ := join_configLines hfile (by simp [hlines])
  rw [hlines] at hstart
  exact Text.startsSolid_of_join hstart

omit [TomlReader] in
theorem configLines_end {last : String} {init : List String}
    (hfile : lines = configLines (configText file)) (hlines : lines = init ++ [last]) :
    Text.EndsSolid last := by
  obtain ⟨-, hend⟩ := join_configLines hfile (by simp [hlines])
  rw [hlines] at hend
  exact Text.endsSolid_of_join hend

omit [TomlReader] in
theorem configLines_oneLine (hline : line ∈ configLines (configText file)) : OneLine line := by
  unfold configLines at hline
  split at hline
  · cases hline
  · refine fun c hc => ⟨?_, ?_⟩
    · rintro rfl
      exact Text.not_mem_splitOn hline hc
    · rintro rfl
      have htext := Text.mem_of_mem_strip (Text.mem_of_mem_splitOn hline hc)
      rw [Text.normalizeNewlines, String.toList_ofList] at htext
      exact Text.not_mem_unifyLineEnds _ _ htext

omit [TomlReader] in
theorem missingKeys_nil : missingKeys [] = ledgerKeys := rfl

omit [TomlReader] in
/-- An edited line keeps to one line, with the solid ends that it had. -/
theorem editLine_text (hvalid : config.Valid) (hwrite : config.Writable) :
    (OneLine line → OneLine (editLine config line)) ∧
      (Text.StartsSolid line → Text.StartsSolid (editLine config line)) ∧
      (Text.EndsSolid line → Text.EndsSolid (editLine config line)) := by
  cases hkey : keyOfLine line with
  | none =>
    rw [editLine_of_none hkey]
    exact ⟨id, id, id⟩
  | some key =>
    rw [editLine_of_some hkey]
    obtain ⟨hline, hstart, hend⟩ :=
      ledgerLine_text hvalid hwrite (List.mem_of_find?_eq_some hkey)
    exact ⟨fun _ => hline, fun _ => hstart, fun _ => hend⟩

omit [TomlReader] in
theorem writtenLines_oneLine (hvalid : config.Valid) (hwrite : config.Writable)
    (hline : line ∈ writtenLines config (configLines (configText file))) : OneLine line := by
  rcases List.mem_append.1 hline with hline | hline
  · obtain ⟨old, hold, rfl⟩ := List.mem_map.1 hline
    exact (editLine_text hvalid hwrite).1 (configLines_oneLine hold)
  · unfold ledgerBlock at hline
    split at hline
    · cases hline
    · rcases List.mem_append.1 hline with hline | hline
      · rcases List.mem_append.1 hline with hline | hline
        · split at hline
          · rw [List.mem_singleton.1 hline]
            exact nofun
          · cases hline
        · rw [List.mem_singleton.1 hline]
          exact oneLine_of_plain (by decide)
      · obtain ⟨key, hmissing, rfl⟩ := List.mem_map.1 hline
        exact (ledgerLine_text hvalid hwrite (List.mem_filter.1 hmissing).1).1

omit [TomlReader] in
/-- The written lines start with no blank. -/
theorem writtenLines_start (hvalid : config.Valid) (hwrite : config.Writable)
    (hfile : lines = configLines (configText file)) :
    ∃ first rest, writtenLines config lines = first :: rest ∧ Text.StartsSolid first := by
  cases hlines : lines with
  | nil => exact ⟨ledgerBlockComment, _, rfl, '#', _, rfl, by decide⟩
  | cons first rest =>
    have hstart := configLines_start hfile hlines
    exact ⟨editLine config first, _, rfl, (editLine_text hvalid hwrite).2.1 hstart⟩

omit [TomlReader] in
/-- The written lines end with no blank. -/
theorem writtenLines_end (hvalid : config.Valid) (hwrite : config.Writable)
    (hfile : lines = configLines (configText file)) :
    ∃ init last, writtenLines config lines = init ++ [last] ∧ Text.EndsSolid last := by
  rcases List.eq_nil_or_concat (missingKeys lines) with hnone | ⟨others, key, hmissing⟩
  · rcases List.eq_nil_or_concat lines with hempty | ⟨init, last, hlines⟩
    · rw [hempty, missingKeys_nil] at hnone
      cases hnone
    · rw [List.concat_eq_append] at hlines
      have hend := configLines_end hfile hlines
      refine ⟨init.map (editLine config), editLine config last, ?_,
        (editLine_text hvalid hwrite).2.2 hend⟩
      rw [writtenLines, hnone, ledgerBlock, if_pos rfl, List.append_nil, hlines, List.map_append]
      rfl
  · rw [List.concat_eq_append] at hmissing
    have hkey : key ∈ missingKeys lines := by simp [hmissing]
    have hlast := (ledgerLine_text hvalid hwrite (List.mem_filter.1 hkey).1).2.2
    have hwritten : ∃ init, writtenLines config lines = init ++ [ledgerLine config key] := by
      rw [writtenLines, hmissing, ledgerBlock, if_neg (by simp), List.map_append,
        List.map_singleton, ← List.append_assoc, ← List.append_assoc]
      exact ⟨_, rfl⟩
    obtain ⟨init, hinit⟩ := hwritten
    exact ⟨init, _, hinit, hlast⟩

omit [TomlReader] in
theorem applyLedgerPatch_eq : applyLedgerPatch text config =
    joinTomlLines (writtenLines config (configLines text)) := rfl

omit [TomlReader] in
/-- A joined text with solid ends is read as it was before the last line end. -/
theorem configText_joinTomlLines (hstart : Text.StartsSolid (Text.join "\n" lines))
    (hend : Text.EndsSolid (Text.join "\n" lines)) (hone : ∀ l ∈ lines, OneLine l) :
    configText (joinTomlLines lines) = Text.join "\n" lines := by
  have hr : '\r' ∉ (Text.join "\n" lines).toList := by
    intro hmem
    rcases Text.mem_join hmem with hend | ⟨l, hl, hc⟩
    · cases hend
    · exact (hone l hl _ hc).2 rfl
  have hread := Text.strip_normalizeNewlines hstart hend hr
  unfold joinTomlLines configText
  generalize Text.join "\n" lines = joined at hread
  dsimp only
  split
  · exact hread.2
  · exact hread.1

omit [TomlReader] in
/-- What is written is read back line by line. -/
theorem splitOn_written (hvalid : config.Valid) (hwrite : config.Writable) :
    configText (applyLedgerPatch (configText file) config) ≠ "" ∧
      Text.splitOn '\n' (configText (applyLedgerPatch (configText file) config)) =
        writtenLines config (configLines (configText file)) := by
  generalize hlines : configLines (configText file) = lines
  obtain ⟨first, rest, hfirst, hsolid⟩ := writtenLines_start hvalid hwrite hlines.symm
  obtain ⟨init, last, hlast, hsolid'⟩ := writtenLines_end hvalid hwrite hlines.symm
  have hone : ∀ l ∈ writtenLines config lines, OneLine l := fun l hl =>
    writtenLines_oneLine hvalid hwrite (hlines ▸ hl)
  have hstart : Text.StartsSolid (Text.join "\n" (writtenLines config lines)) := by
    rw [hfirst]
    exact Text.startsSolid_join hsolid
  have hend : Text.EndsSolid (Text.join "\n" (writtenLines config lines)) := by
    rw [hlast]
    exact Text.endsSolid_join hsolid'
  have htext : configText (applyLedgerPatch (configText file) config) =
      Text.join "\n" (writtenLines config lines) := by
    rw [applyLedgerPatch_eq, hlines]
    exact configText_joinTomlLines hstart hend hone
  rw [htext]
  constructor
  · intro hempty
    obtain ⟨c, cs, hcs, -⟩ := hstart
    rw [hempty] at hcs
    cases hcs
  · refine Text.splitOn_join ?_ fun l hl hn => (hone l hl _ hn).1 rfl
    rw [hfirst]
    exact List.cons_ne_nil _ _

end Text

-- ════════════════════════════════════════════════════════════════════════
-- Reading the values back
-- ════════════════════════════════════════════════════════════════════════

omit [TomlReader] in
theorem fromDict_eq_ok : ledgerConfigFromDict data = .ok config ↔
    ledgerRefOf (data.get? "ledger_ref") = .ok config.ref ∧
      ledgerParentRefOf (data.get? "ledger_parent_ref") = .ok config.parentRef ∧
      ledgerNextTaskNumberOf (data.get? "ledger_next_task_number") = .ok config.nextTaskNumber ∧
      ledgerBranchGuardOf (data.get? "ledger_branch_guard") = .ok config.branchGuard := by
  constructor
  · intro h
    obtain ⟨ref, href, h⟩ := bind_eq_ok.1 h
    obtain ⟨parent, hparent, h⟩ := bind_eq_ok.1 h
    obtain ⟨number, hnumber, h⟩ := bind_eq_ok.1 h
    obtain ⟨guard, hguard, h⟩ := bind_eq_ok.1 h
    cases pure_eq_ok.1 h
    exact ⟨href, hparent, hnumber, hguard⟩
  · rintro ⟨href, hparent, hnumber, hguard⟩
    rw [ledgerConfigFromDict, href, hparent, hnumber, hguard]
    rfl

/-- Another document gives a key its value in a configuration: as it is written, or as it was
read before. -/
def Gives (data data' : TomlDocument) (current config : LedgerConfig) (key : String) : Prop :=
  data'.get? key = some (ledgerValue config key) ∨
    data'.get? key = data.get? key ∧ ledgerValue config key = ledgerValue current key

omit [TomlReader] in
/-- A parent is told by its text, which is empty when there is none. -/
theorem parentRef_eq (hvalid : config.Valid) (hcurrent : current.Valid)
    (h : config.parentRef.getD "" = current.parentRef.getD "") :
    config.parentRef = current.parentRef := by
  have hne := hvalid.parentRef
  have hne' := hcurrent.parentRef
  cases hp : config.parentRef with
  | none =>
    cases hq : current.parentRef with
    | none => rfl
    | some ref =>
      rw [hp, hq] at h
      exact absurd (hq.trans (congrArg some h.symm)) hne'
  | some ref =>
    cases hq : current.parentRef with
    | none =>
      rw [hp, hq] at h
      exact absurd (hp.trans (congrArg some h)) hne
    | some ref' =>
      rw [hp, hq] at h
      exact congrArg some h

omit [TomlReader] in
/-- A document that gives every ledger key its value is read as the configuration. -/
theorem fromDict_of_gives {data' : TomlDocument} (hcurrent : ledgerConfigFromDict data = .ok current)
    (hvalid : config.Valid) (hwrite : config.Writable)
    (h : ∀ key ∈ ledgerKeys, Gives data data' current config key) :
    ledgerConfigFromDict data' = .ok config := by
  obtain ⟨href, hparent, hnumber, hguard⟩ := fromDict_eq_ok.1 hcurrent
  refine fromDict_eq_ok.2 ⟨?_, ?_, ?_, ?_⟩
  · rcases h "ledger_ref" (by decide) with h | ⟨h, hsame⟩
    · rw [h]
      exact bind_eq_ok.2 ⟨(), hvalid.ref, rfl⟩
    · rw [h, href]
      exact congrArg Except.ok (Value.str.inj hsame).symm
  · rcases h "ledger_parent_ref" (by decide) with h | ⟨h, hsame⟩
    · rw [h]
      show Except.ok (if config.parentRef.getD "" = "" then none else _) = _
      cases hp : config.parentRef with
      | none => rfl
      | some ref =>
        have hne : ref ≠ "" := fun hempty => hvalid.parentRef (hp.trans (by rw [hempty]))
        exact congrArg Except.ok (if_neg hne)
    · rw [h, hparent]
      have htext := Value.str.inj hsame
      rw [parentRef_eq hvalid (valid_of_fromDict hcurrent) htext]
  · obtain ⟨n, hn⟩ := hwrite.nextTaskNumber
    have hpos := hvalid.nextTaskNumber n hn
    have hvalue : ledgerValue config "ledger_next_task_number" = .int n := by
      simp [ledgerValue, hn]
    rcases h "ledger_next_task_number" (by decide) with h | ⟨h, hsame⟩
    · rw [h, hvalue, hn]
      exact if_neg (by omega)
    · rw [h, hnumber, hn]
      rw [hvalue] at hsame
      cases hm : current.nextTaskNumber with
      | int m =>
        simp only [ledgerValue, hm, if_true] at hsame
        have hint : (n : Int) = m := Value.int.inj hsame
        rw [show n = m by omega]
      | true =>
        simp only [ledgerValue, hm, if_true] at hsame
        cases hsame
  · rcases h "ledger_branch_guard" (by decide) with h | ⟨h, hsame⟩
    · rw [h]
      exact if_pos hvalid.branchGuard
    · rw [h, hguard]
      exact congrArg Except.ok (Value.str.inj hsame).symm

omit [TomlReader] in
/-- A ledger key that is read as before has the value that it had. -/
theorem ledgerValue_of_get? {data' : TomlDocument} (hcurrent : ledgerConfigFromDict data = .ok current)
    (hconfig : ledgerConfigFromDict data' = .ok config) (hkey : key ∈ ledgerKeys)
    (hget : data'.get? key = data.get? key) : ledgerValue config key = ledgerValue current key := by
  obtain ⟨href, hparent, hnumber, hguard⟩ := fromDict_eq_ok.1 hcurrent
  obtain ⟨href', hparent', hnumber', hguard'⟩ := fromDict_eq_ok.1 hconfig
  simp only [ledgerKeys, List.mem_cons, List.not_mem_nil, or_false] at hkey
  rcases hkey with rfl | rfl | rfl | rfl
  · rw [hget, href] at href'
    exact congrArg Value.str (Except.ok.inj href').symm
  · rw [hget, hparent] at hparent'
    exact congrArg (fun parent => Value.str (parent.getD "")) (Except.ok.inj hparent').symm
  · rw [hget, hnumber] at hnumber'
    simp only [ledgerValue, if_true, Except.ok.inj hnumber']
  · rw [hget, hguard] at hguard'
    exact congrArg Value.str (Except.ok.inj hguard').symm

omit [TomlReader] in
/-- A ledger key that the root table does not assign is not set at all. -/
theorem unset_of_absent (h : ledgerConfigFromDict data = .ok current) (hkey : key ∈ ledgerKeys)
    (habsent : ∀ v, ([key], v) ∉ data.root) : ¬ data.HasKey key := by
  have hfind : (data.root.find? fun e => e.1 = [key]) = none := by
    refine List.find?_eq_none.2 fun e he hpath => habsent e.2 ?_
    have hpath : e.1 = [key] := by simpa using hpath
    rw [← hpath]
    exact he
  obtain ⟨href, hparent, hnumber, hguard⟩ := fromDict_eq_ok.1 h
  intro htable
  have hget : data.get? key = some (.dict []) := by
    rw [get?, hfind]
    exact if_pos htable
  simp only [ledgerKeys, List.mem_cons, List.not_mem_nil, or_false] at hkey
  rcases hkey with rfl | rfl | rfl | rfl
  · rw [hget] at href
    cases href
  · rw [hget] at hparent
    cases hparent
  · rw [hget] at hnumber
    cases hnumber
  · rw [hget] at hguard
    cases hguard

-- ════════════════════════════════════════════════════════════════════════
-- Faithful updates
-- ════════════════════════════════════════════════════════════════════════

/-- The entries of a table that are no ledger keys. -/
def otherEntries (table : TomlTable) : TomlTable :=
  table.filter fun e => decide (∀ key ∈ ledgerKeys, e.1 ≠ [key])

/-- The update writes a text that is read as the configuration it returns; no table below a
header changes, and in the root table nothing but the ledger keys. -/
def FaithfulUpdate (path : String) (file : Option String) (patch : LedgerConfigPatch)
    (data : TomlDocument) : Prop :=
  ∃ written config, updateLedgerConfig file patch = .ok (written, config) ∧
    loadLedgerConfig path (some written) = .ok config ∧
    ∃ data', readToml (configText written) = some data' ∧ data'.tables = data.tables ∧
      otherEntries data'.root = otherEntries data.root

/-- The pieces above the first header. -/
def rootPieces (pieces : List (List String × TomlExpression)) : List (List String × TomlExpression) :=
  pieces.takeWhile fun p => !isHeader p.2

/-- The first header and what comes after it. -/
def tablePieces (pieces : List (List String × TomlExpression)) : List (List String × TomlExpression) :=
  pieces.dropWhile fun p => !isHeader p.2

/-- The lines that look like the assignment of the key stand where the edit takes them to be. Those
below a header have the value that is written; and the key has a line in the root table, or there is
no header and the key is nowhere, or else it keeps its value. -/
structure WellPlaced (current config : LedgerConfig) (lines : List String)
    (pieces : List (List String × TomlExpression)) (key : String) : Prop where
  tables : ∀ p ∈ tablePieces pieces, pieceKey p = some key →
    p.2 = .assignment [key] (ledgerValue config key)
  root : (∃ p ∈ rootPieces pieces, pieceKey p = some key) ∨
    (tablePieces pieces = [] ∧ key ∈ missingKeys lines ∧
      ∀ p ∈ rootPieces pieces, ∀ v, p.2 ≠ .assignment [key] v) ∨
    (key ∉ missingKeys lines ∧ ledgerValue config key = ledgerValue current key)

theorem readToml_empty : readToml "" = some .empty := by
  have hlines : Text.splitOn '\n' "" = [""] := rfl
  have hpieces : tomlPieces [""] = some [([""], .blank)] :=
    cutLeast_singles (f := fun _ => TomlExpression.blank)
      (List.forall_mem_cons.2 ⟨TomlReader.expression_empty, nofun⟩)
  exact readToml_eq_some.2 ⟨_, hlines ▸ hpieces, rfl, TomlReader.consistent_empty⟩

/-- The document of a text comes from the expressions of its lines. -/
theorem pieces_of_readToml (h : readToml text = some data) :
    ∃ pieces, tomlPieces (configLines text) = some pieces ∧
      data = ofExpressions (pieces.map Prod.snd) ∧
      TomlReader.consistent data.rootPaths data.tablePaths = true := by
  by_cases hempty : text = ""
  · rw [hempty, readToml_empty] at h
    cases h
    rw [hempty]
    exact ⟨[], rfl, rfl, TomlReader.consistent_empty⟩
  · obtain ⟨pieces, hpieces, hdata, hconsistent⟩ := readToml_eq_some.1 h
    rw [configLines, if_neg hempty]
    exact ⟨pieces, hpieces, hdata, hconsistent⟩

theorem currentConfig_of_readToml (h : readToml text = some data) :
    currentConfig text = ledgerConfigFromDict data := by
  unfold currentConfig
  split
  · rename_i hempty
    rw [hempty, readToml_empty] at h
    cases h
    rfl
  · rw [h]

section Written

variable {file : String} {lines : List String} {pieces : List (List String × TomlExpression)}

/-- The written text says the written document, if that defines no key twice. -/
theorem readToml_written (hvalid : config.Valid) (hwrite : config.Writable)
    (hlayout : LineLayout config pieces)
    (hpieces : tomlPieces (configLines (configText file)) = some pieces) :
    readToml (configText (applyLedgerPatch (configText file) config)) = some data ↔
      data = writtenDocument config (configLines (configText file)) pieces ∧
        TomlReader.consistent data.rootPaths data.tablePaths = true := by
  obtain ⟨written, hwritten, hdocument⟩ := tomlPieces_written hvalid hwrite hlayout hpieces
  rw [readToml_eq_some, (splitOn_written hvalid hwrite).2, hwritten]
  constructor
  · rintro ⟨_, hsame, rfl, hconsistent⟩
    cases hsame
    exact ⟨hdocument, hconsistent⟩
  · rintro ⟨rfl, hconsistent⟩
    exact ⟨written, rfl, hdocument.symm, hconsistent⟩

section Parts

variable {f : List String × TomlExpression → TomlExpression}

omit [TomlReader] in
theorem pieces_eq : pieces = rootPieces pieces ++ tablePieces pieces :=
  (List.takeWhile_append_dropWhile).symm

omit [TomlReader] in
theorem isHeader_rootPieces {p : List String × TomlExpression} (h : p ∈ rootPieces pieces) :
    isHeader p.2 = false := by
  simpa using List.mem_takeWhile_imp h

omit [TomlReader] in
/-- Below the root table stands a header, if anything. -/
theorem tablePieces_cases : tablePieces pieces = [] ∨
    ∃ p rest, tablePieces pieces = p :: rest ∧ isHeader p.2 = true := by
  unfold tablePieces
  cases h : pieces.dropWhile fun p => !isHeader p.2 with
  | nil => exact .inl rfl
  | cons p rest =>
    refine .inr ⟨p, rest, rfl, ?_⟩
    have hhead := List.head?_dropWhile_not (fun p : List String × TomlExpression => !isHeader p.2) pieces
    rw [h] at hhead
    simpa using hhead

omit [TomlReader] in
/-- What stands below a header is not in the root table. -/
theorem root_tablePieces (hf : ∀ p ∈ pieces, isHeader (f p) = isHeader p.2) :
    (ofExpressions ((tablePieces pieces).map f)).root = [] := by
  rcases @tablePieces_cases pieces with htables | ⟨p, rest, htables, hheader⟩
  · rw [htables]
    rfl
  · have hp : p ∈ tablePieces pieces := by simp [htables]
    have htells := (hf p ((List.dropWhile_suffix _).subset hp)).trans hheader
    rw [htables, List.map_cons, ofExpressions]
    cases hfp : f p with
    | header header => rfl
    | blank =>
      rw [hfp] at htells
      cases htells
    | assignment path value =>
      rw [hfp] at htells
      cases htells

omit [TomlReader] in
/-- The document of pieces, and of lines that are appended where there is no header. -/
theorem ofExpressions_pieces {fs : List TomlExpression}
    (hf : ∀ p ∈ pieces, isHeader (f p) = isHeader p.2) (hfs : ∀ e ∈ fs, isHeader e = false)
    (h : tablePieces pieces = [] ∨ fs = []) :
    ofExpressions (pieces.map f ++ fs) =
      ⟨assignments ((rootPieces pieces).map f) ++ assignments fs,
        (ofExpressions ((tablePieces pieces).map f)).tables⟩ := by
  have hroot : ∀ e ∈ (rootPieces pieces).map f, isHeader e = false := by
    intro e he
    obtain ⟨p, hp, rfl⟩ := List.mem_map.1 he
    rw [hf p ((List.takeWhile_prefix _).subset hp)]
    exact isHeader_rootPieces hp
  conv_lhs => rw [@pieces_eq pieces, List.map_append, List.append_assoc,
    ofExpressions_append hroot]
  rcases h with htables | rfl
  · have hflat := @ofExpressions_append fs [] hfs
    rw [List.append_nil] at hflat
    rw [htables, List.map_nil, List.nil_append, hflat]
    simp [ofExpressions, empty]
  · rw [List.append_nil, root_tablePieces hf]
    rfl

end Parts

omit [TomlReader] in
theorem otherEntries_append (s t : TomlTable) :
    otherEntries (s ++ t) = otherEntries s ++ otherEntries t :=
  List.filter_append ..

omit [TomlReader] in
theorem otherEntries_ledgerKey {v : Value} (hkey : key ∈ ledgerKeys) :
    otherEntries (assignments [.assignment [key] v]) = [] := by
  refine List.filter_eq_nil_iff.2 fun e he => ?_
  rw [List.mem_singleton.1 he, decide_eq_true_eq]
  exact fun h => h key hkey rfl

omit [TomlReader] in
theorem assignments_cons (e : TomlExpression) (es : List TomlExpression) :
    assignments (e :: es) = assignments [e] ++ assignments es := assignments_append [e] es

/-- The edit leaves the other entries. -/
theorem otherEntries_edited (hpieces : tomlPieces lines = some pieces)
    {some : List (List String × TomlExpression)} (hsome : ∀ p ∈ some, p ∈ pieces) :
    otherEntries (assignments (some.map (editedPiece config))) =
      otherEntries (assignments (some.map Prod.snd)) := by
  induction some with
  | nil => rfl
  | cons p rest ih =>
    obtain ⟨hp, hrest⟩ := List.forall_mem_cons.1 hsome
    rw [List.map_cons, List.map_cons, assignments_cons, assignments_cons p.2, otherEntries_append,
      otherEntries_append, ih hrest]
    congr 1
    cases hkey : pieceKey p with
    | none => rw [editedPiece_of_none hkey]
    | some key =>
      obtain ⟨hmem, v, hv⟩ := assignment_of_pieceKey hpieces hp hkey
      rw [editedPiece_of_some hkey, hv, otherEntries_ledgerKey hmem, otherEntries_ledgerKey hmem]

/-- The edit leaves a key of which none of the pieces is the line. -/
theorem find?_edited (hpieces : tomlPieces lines = some pieces)
    {some : List (List String × TomlExpression)} (hsome : ∀ p ∈ some, p ∈ pieces)
    (hnone : ∀ p ∈ some, pieceKey p ≠ .some key) :
    (assignments (some.map (editedPiece config))).find? (fun e => e.1 = [key]) =
      (assignments (some.map Prod.snd)).find? fun e => e.1 = [key] := by
  induction some with
  | nil => rfl
  | cons p rest ih =>
    obtain ⟨hp, hrest⟩ := List.forall_mem_cons.1 hsome
    obtain ⟨hkey, hothers⟩ := List.forall_mem_cons.1 hnone
    rw [List.map_cons, List.map_cons, assignments_cons, assignments_cons p.2, List.find?_append,
      List.find?_append, ih hrest hothers]
    congr 1
    cases hpiece : pieceKey p with
    | none => rw [editedPiece_of_none hpiece]
    | some other =>
      obtain ⟨-, v, hv⟩ := assignment_of_pieceKey hpieces hp hpiece
      have hne : other ≠ key := fun heq => hkey (heq ▸ hpiece)
      rw [editedPiece_of_some hpiece, hv]
      simp [assignments, hne]

theorem revalued_edited (hpieces : tomlPieces lines = some pieces)
    {some : List (List String × TomlExpression)} (hsome : ∀ p ∈ some, p ∈ pieces) :
    List.Forall₂ Revalued (some.map Prod.snd) (some.map (editedPiece config)) := by
  rw [List.forall₂_map_left_iff, List.forall₂_map_right_iff, List.forall₂_same]
  exact fun p hp => revalued_editedPiece hpieces (hsome p hp)

theorem isHeader_edited (hpieces : tomlPieces lines = some pieces) :
    ∀ p ∈ pieces, isHeader (editedPiece config p) = isHeader p.2 := by
  intro p hp
  cases hkey : pieceKey p with
  | none => rw [editedPiece_of_none hkey]
  | some key =>
    obtain ⟨-, v, hv⟩ := assignment_of_pieceKey hpieces hp hkey
    rw [editedPiece_of_some hkey, hv]
    rfl

/-- Where nothing goes below a header, the missing keys go to the end of the root table. -/
theorem writtenDocument_eq (hpieces : tomlPieces lines = some pieces)
    (h : tablePieces pieces = [] ∨ missingKeys lines = []) :
    writtenDocument config lines pieces =
      ⟨assignments ((rootPieces pieces).map (editedPiece config)) ++
          (missingKeys lines).map fun key => ([key], ledgerValue config key),
        (ofExpressions ((tablePieces pieces).map (editedPiece config))).tables⟩ := by
  have hblock : tablePieces pieces = [] ∨
      blockExpressions config (lines.map (editLine config)) (missingKeys lines) = [] :=
    h.imp_right fun hmissing => by rw [hmissing, blockExpressions, if_pos rfl]
  rw [writtenDocument, ofExpressions_pieces (isHeader_edited hpieces) headers_block hblock,
    assignments_block]

omit [TomlReader] in
theorem readDocument_eq : ofExpressions (pieces.map Prod.snd) =
    ⟨assignments ((rootPieces pieces).map Prod.snd),
      (ofExpressions ((tablePieces pieces).map Prod.snd)).tables⟩ := by
  have h := @ofExpressions_pieces pieces Prod.snd [] (fun _ _ => rfl) nofun (.inr rfl)
  rwa [List.append_nil, show assignments [] = [] from rfl, List.append_nil] at h

/-- The keys of the written document. -/
theorem paths_written (hpieces : tomlPieces lines = some pieces)
    (h : tablePieces pieces = [] ∨ missingKeys lines = []) :
    (writtenDocument config lines pieces).rootPaths =
        (ofExpressions (pieces.map Prod.snd)).rootPaths ++ (missingKeys lines).map ([·]) ∧
      (writtenDocument config lines pieces).tablePaths =
        (ofExpressions (pieces.map Prod.snd)).tablePaths := by
  obtain ⟨hroot, htables⟩ := paths_of_revalued
    (@revalued_edited _ config lines pieces hpieces pieces fun _ hp => hp)
  have hedited := @ofExpressions_pieces pieces (editedPiece config) []
    (isHeader_edited hpieces) nofun (.inr rfl)
  rw [List.append_nil, show assignments [] = [] from rfl, List.append_nil] at hedited
  rw [hedited] at hroot htables
  rw [writtenDocument_eq hpieces h, ← hroot, ← htables]
  simp [rootPaths, tablePaths, Function.comp_def]

/-- Tables below headers stay when the lines of ledger keys in them say what is written. -/
theorem tables_written_iff (hpieces : tomlPieces lines = some pieces)
    (h : tablePieces pieces = [] ∨ missingKeys lines = []) :
    (writtenDocument config lines pieces).tables = (ofExpressions (pieces.map Prod.snd)).tables ↔
      ∀ p ∈ tablePieces pieces, editedPiece config p = p.2 := by
  have hbelow : ∀ p ∈ tablePieces pieces, p ∈ pieces := (List.dropWhile_suffix _).subset
  have hsame := ofExpressions_inj_of_revalued
    (@revalued_edited _ config lines pieces hpieces (tablePieces pieces) hbelow)
  have hheaders : ∀ p ∈ pieces, isHeader (editedPiece config p) = isHeader p.2 :=
    isHeader_edited hpieces
  have hroot := root_tablePieces hheaders
  have hroot' := @root_tablePieces pieces Prod.snd fun _ _ => rfl
  rw [writtenDocument_eq hpieces h, readDocument_eq, ← List.map_inj_left, ← hsame]
  exact ⟨fun htables => congrArg₂ mk (hroot.trans hroot'.symm) htables,
    fun hdocument => show (ofExpressions _).tables = (ofExpressions _).tables from
      congrArg TomlDocument.tables hdocument⟩

/-- What is appended below a header is in no table where it was. -/
theorem tables_ne_of_appended (hpieces : tomlPieces lines = some pieces)
    (htables : tablePieces pieces ≠ []) (hmissing : missingKeys lines ≠ []) :
    (writtenDocument config lines pieces).tables ≠ (ofExpressions (pieces.map Prod.snd)).tables := by
  obtain ⟨hroot, hpaths⟩ := paths_of_revalued
    (@revalued_edited _ config lines pieces hpieces pieces fun _ hp => hp)
  have hheader : (ofExpressions (pieces.map (editedPiece config))).tables ≠ [] := by
    have hedited := @ofExpressions_pieces pieces (editedPiece config) []
      (isHeader_edited hpieces) nofun (.inr rfl)
    rw [List.append_nil] at hedited
    rw [hedited]
    obtain ⟨p, rest, hcons, hp⟩ := tablePieces_cases.resolve_left htables
    intro hnone
    have hall := headers_of_tables hnone _ (List.mem_map_of_mem (f := editedPiece config)
      (by simp [hcons] : p ∈ tablePieces pieces))
    rw [isHeader_edited hpieces p ((List.dropWhile_suffix _).subset
      (by simp [hcons] : p ∈ tablePieces pieces)), hp] at hall
    cases hall
  have hsize := size_ofExpressions (pieces.map (editedPiece config) ++
    blockExpressions config (lines.map (editLine config)) (missingKeys lines))
  have hbefore := size_ofExpressions (pieces.map (editedPiece config))
  rw [root_append hheader, assignments_append, assignments_block, List.length_append,
    List.length_map] at hsize
  rw [tableSize_eq, hpaths, ← tableSize_eq] at hbefore
  have hpos := List.length_pos_iff.2 hmissing
  intro hsame
  have hsizes : (writtenDocument config lines pieces).tableSize =
      (ofExpressions (pieces.map Prod.snd)).tableSize := by rw [tableSize, tableSize, hsame]
  rw [writtenDocument] at hsizes
  omega

/-- New keys at the end of the root table keep it consistent. -/
theorem consistent_append {root : List (List String)}
    {tables : List (TomlHeader × List (List String))} {keys : List String}
    (h : TomlReader.consistent root tables = true) (hnodup : keys.Nodup)
    (hroot : ∀ path ∈ root, ∀ key ∈ keys, path.head? ≠ some key)
    (htables : ∀ t ∈ tables, ∀ key ∈ keys, t.1.name.head? ≠ some key) :
    TomlReader.consistent (root ++ keys.map fun key => [key]) tables = true := by
  induction keys generalizing root with
  | nil => simpa using h
  | cons key rest ih =>
    obtain ⟨hfresh, hnodup⟩ := List.nodup_cons.1 hnodup
    have hone := TomlReader.consistent_concat root tables key h
      (fun path hpath => hroot path hpath key List.mem_cons_self)
      (fun t ht => htables t ht key List.mem_cons_self)
    rw [List.map_cons, ← List.singleton_append, ← List.append_assoc]
    refine ih hone hnodup (fun path hpath k hk => ?_) fun t ht k hk =>
      htables t ht k (List.mem_cons_of_mem _ hk)
    rcases List.mem_append.1 hpath with hpath | hpath
    · exact hroot path hpath k (List.mem_cons_of_mem _ hk)
    · rw [List.mem_singleton.1 hpath]
      rintro heq
      cases heq
      exact hfresh hk

/-- A key that has a line, but not in the root table, is read as before. -/
theorem get?_kept (hpieces : tomlPieces lines = some pieces)
    (h : tablePieces pieces = [] ∨ missingKeys lines = [])
    (hroot : ∀ p ∈ rootPieces pieces, pieceKey p ≠ some key) (hkey : key ∉ missingKeys lines) :
    (writtenDocument config lines pieces).get? key =
      (ofExpressions (pieces.map Prod.snd)).get? key := by
  have habove : ∀ p ∈ rootPieces pieces, p ∈ pieces := (List.takeWhile_prefix _).subset
  have hother : ((missingKeys lines).map fun key => ([key], ledgerValue config key)).find?
      (fun e => e.1 = [key]) = none := by
    refine List.find?_eq_none.2 fun e he hpath => hkey ?_
    obtain ⟨other, hmem, rfl⟩ := List.mem_map.1 he
    have heq : other = key := by simpa using hpath
    rwa [← heq]
  have hfind : (writtenDocument config lines pieces).root.find? (fun e => e.1 = [key]) =
      (ofExpressions (pieces.map Prod.snd)).root.find? fun e => e.1 = [key] := by
    rw [writtenDocument_eq hpieces h, readDocument_eq, List.find?_append, hother, Option.or_none]
    exact find?_edited hpieces habove hroot
  have hhas : (writtenDocument config lines pieces).HasKey key ↔
      (ofExpressions (pieces.map Prod.snd)).HasKey key := by
    obtain ⟨hpaths, htables⟩ := @paths_written _ config lines pieces hpieces h
    rw [hasKey_iff, hasKey_iff, hpaths, htables]
    have hnone : ∀ path ∈ (missingKeys lines).map ([·]), path.head? ≠ some key := by
      intro path hpath heq
      obtain ⟨other, hmem, rfl⟩ := List.mem_map.1 hpath
      cases heq
      exact hkey hmem
    refine or_congr_left ⟨?_, ?_⟩
    · rintro ⟨path, hpath, hhead⟩
      rcases List.mem_append.1 hpath with hpath | hpath
      · exact ⟨path, hpath, hhead⟩
      · exact absurd hhead (hnone path hpath)
    · rintro ⟨path, hpath, hhead⟩
      exact ⟨path, List.mem_append_left _ hpath, hhead⟩
  rw [get?, get?, hfind]
  simp only [hhas]

/-- A key that is written in the root table is read as it is written. -/
theorem get?_written (hpieces : tomlPieces lines = some pieces)
    (h : tablePieces pieces = [] ∨ missingKeys lines = [])
    (hconsistent : TomlReader.consistent (writtenDocument config lines pieces).rootPaths
      (writtenDocument config lines pieces).tablePaths = true)
    (hkey : (∃ p ∈ rootPieces pieces, pieceKey p = some key) ∨ key ∈ missingKeys lines) :
    (writtenDocument config lines pieces).get? key = some (ledgerValue config key) := by
  refine get?_of_mem (TomlReader.consistent_nodup _ _ hconsistent) ?_
  rw [writtenDocument_eq hpieces h]
  rcases hkey with ⟨p, hp, hpiece⟩ | hmissing
  · refine List.mem_append_left _ (List.mem_filterMap.2 ⟨_, List.mem_map_of_mem hp, ?_⟩)
    rw [editedPiece_of_some hpiece]
  · exact List.mem_append_right _ (List.mem_map_of_mem hmissing)

end Written

theorem updateLedgerConfig_ok {file : Option String}
    (hdata : readToml (configText (file.getD "")) = some data)
    (hcurrent : ledgerConfigFromDict data = .ok current) (hpatch : checkPatch patch = .ok ()) :
    updateLedgerConfig file patch = .ok (applyLedgerPatch (configText (file.getD ""))
      (patchedConfig current patch), patchedConfig current patch) := by
  have hbefore := (currentConfig_of_readToml hdata).trans hcurrent
  unfold updateLedgerConfig
  dsimp only
  exact bind_eq_ok.2 ⟨(), hpatch, bind_eq_ok.2 ⟨current, hbefore, rfl⟩⟩

/-- A text is read as a configuration when its document gives every ledger key its value. -/
theorem loadLedgerConfig_of_readToml {written : String} (hne : configText written ≠ "")
    (h : readToml (configText written) = some data) :
    loadLedgerConfig path (some written) = ledgerConfigFromDict data := by
  unfold loadLedgerConfig
  dsimp only
  rw [if_neg hne, h]

section Faithful

variable {file : Option String} {pieces : List (List String × TomlExpression)}

/-- A faithful update has its lines where it takes them to be. -/
theorem wellPlaced_of_faithful (hdata : readToml (configText (file.getD "")) = some data)
    (hcurrent : ledgerConfigFromDict data = .ok current) (hpatch : checkPatch patch = .ok ())
    (hpieces : tomlPieces (configLines (configText (file.getD ""))) = some pieces)
    (hlayout : LineLayout (patchedConfig current patch) pieces)
    (hwrite : (patchedConfig current patch).Writable) (h : FaithfulUpdate path file patch data) :
    ∀ key ∈ ledgerKeys, WellPlaced current (patchedConfig current patch)
      (configLines (configText (file.getD ""))) pieces key := by
  have hupdate := updateLedgerConfig_ok hdata hcurrent hpatch
  have hvalid := valid_patchedConfig (valid_of_fromDict hcurrent) hpatch
  generalize patchedConfig current patch = config at hlayout hwrite hupdate hvalid ⊢
  obtain ⟨pieces', hpieces', hexpressions, -⟩ := pieces_of_readToml hdata
  cases hpieces.symm.trans hpieces'
  obtain ⟨hne, -⟩ := @splitOn_written config (file.getD "") hvalid hwrite
  have hread (data' : TomlDocument) :=
    @readToml_written _ config data' _ _ hvalid hwrite hlayout hpieces
  generalize configText (file.getD "") = text at hupdate hpieces hread hne ⊢
  obtain ⟨written, config', hupdate', hload, data', hread', htables, -⟩ := h
  obtain ⟨rfl, rfl⟩ : applyLedgerPatch text config = written ∧ config = config' := by
    rw [hupdate] at hupdate'
    exact Prod.mk.inj (Except.ok.inj hupdate')
  obtain ⟨rfl, hconsistent⟩ := (hread data').1 hread'
  rw [loadLedgerConfig_of_readToml hne hread'] at hload
  subst hexpressions
  have hplace : tablePieces pieces = [] ∨ missingKeys (configLines text) = [] := by
    by_contra hboth
    obtain ⟨hbelow, hmissing⟩ := not_or.1 hboth
    exact tables_ne_of_appended hpieces hbelow hmissing htables
  refine fun key hkey => ⟨fun p hp hpiece => ?_, ?_⟩
  · have hsame := (tables_written_iff hpieces hplace).1 htables p hp
    rw [editedPiece_of_some hpiece] at hsame
    exact hsame.symm
  · by_cases hroot : ∃ p ∈ rootPieces pieces, pieceKey p = some key
    · exact .inl hroot
    by_cases hmissing : key ∈ missingKeys (configLines text)
    · refine .inr (.inl ⟨hplace.resolve_right (List.ne_nil_of_mem hmissing), hmissing,
        fun p hp v hv => ?_⟩)
      -- the key would be defined twice
      have hnodup := TomlReader.consistent_nodup _ _ hconsistent
      rw [(paths_written hpieces hplace).1, readDocument_eq] at hnodup
      refine (List.nodup_append.1 hnodup).2.2 [key] ?_ [key] (List.mem_map_of_mem hmissing) rfl
      refine List.mem_map.2 ⟨([key], v), List.mem_filterMap.2 ⟨_, List.mem_map_of_mem hp, ?_⟩, rfl⟩
      rw [hv]
    · refine .inr (.inr ⟨hmissing, ledgerValue_of_get? hcurrent hload hkey ?_⟩)
      exact get?_kept hpieces hplace (fun p hp hpiece => hroot ⟨p, hp, hpiece⟩) hmissing

theorem faithful_of_wellPlaced (hdata : readToml (configText (file.getD "")) = some data)
    (hcurrent : ledgerConfigFromDict data = .ok current) (hpatch : checkPatch patch = .ok ())
    (hpieces : tomlPieces (configLines (configText (file.getD ""))) = some pieces)
    (hlayout : LineLayout (patchedConfig current patch) pieces)
    (hwrite : (patchedConfig current patch).Writable)
    (h : ∀ key ∈ ledgerKeys, WellPlaced current (patchedConfig current patch)
      (configLines (configText (file.getD ""))) pieces key) :
    FaithfulUpdate path file patch data := by
  have hupdate := updateLedgerConfig_ok hdata hcurrent hpatch
  have hvalid := valid_patchedConfig (valid_of_fromDict hcurrent) hpatch
  generalize patchedConfig current patch = config at hlayout hwrite hupdate hvalid h
  obtain ⟨pieces', hpieces', hexpressions, hconsistent⟩ := pieces_of_readToml hdata
  cases hpieces.symm.trans hpieces'
  obtain ⟨hne, -⟩ := @splitOn_written config (file.getD "") hvalid hwrite
  have hread (data' : TomlDocument) :=
    @readToml_written _ config data' _ _ hvalid hwrite hlayout hpieces
  generalize configLines (configText (file.getD "")) = lines at hpieces hread h
  subst hexpressions
  have hnotMissing {p : List String × TomlExpression} {key : String} (hp : p ∈ rootPieces pieces)
      (hpiece : pieceKey p = some key) : key ∉ missingKeys lines :=
    not_missing_of_pieceKey hpieces ((List.takeWhile_prefix _).subset hp) hpiece
  have hledger {key : String} (hkey : key ∈ missingKeys lines) : key ∈ ledgerKeys :=
    (mem_missingKeys.1 hkey).1
  have hplace : tablePieces pieces = [] ∨ missingKeys lines = [] := by
    by_cases hmissing : missingKeys lines = []
    · exact .inr hmissing
    · obtain ⟨key, hkey⟩ := List.exists_mem_of_ne_nil _ hmissing
      rcases (h key (hledger hkey)).root with ⟨p, hp, hpiece⟩ | ⟨hflat, -⟩ | ⟨hline, -⟩
      · exact absurd hkey (hnotMissing hp hpiece)
      · exact .inl hflat
      · exact absurd hkey hline
  have hunset : ∀ key ∈ missingKeys lines, ¬ (ofExpressions (pieces.map Prod.snd)).HasKey key := by
    intro key hkey
    refine unset_of_absent hcurrent (hledger hkey) fun v hv => ?_
    rcases (h key (hledger hkey)).root with ⟨p, hp, hpiece⟩ | ⟨-, -, hnone⟩ | ⟨hline, -⟩
    · exact hnotMissing hp hpiece hkey
    · rw [readDocument_eq] at hv
      obtain ⟨e, he, hentry⟩ := List.mem_filterMap.1 hv
      obtain ⟨p, hp, rfl⟩ := List.mem_map.1 he
      refine hnone p hp v ?_
      cases htells : p.2 with
      | blank =>
        rw [htells] at hentry
        cases hentry
      | header header =>
        rw [htells] at hentry
        cases hentry
      | assignment path value =>
        rw [htells] at hentry
        cases hentry
        rfl
    · exact hline hkey
  obtain ⟨hpaths, htablePaths⟩ := @paths_written _ config lines pieces hpieces hplace
  have hconsistent' : TomlReader.consistent (writtenDocument config lines pieces).rootPaths
      (writtenDocument config lines pieces).tablePaths = true := by
    rw [hpaths, htablePaths]
    have hnodup : (missingKeys lines).Nodup := List.Nodup.filter _ (by decide)
    exact consistent_append hconsistent hnodup
      (fun path hpath key hkey hhead => hunset key hkey (hasKey_iff.2 (.inl ⟨path, hpath, hhead⟩)))
      fun t ht key hkey hhead => hunset key hkey (hasKey_iff.2 (.inr ⟨t, ht, hhead⟩))
  have hread' := (hread _).2 ⟨rfl, hconsistent'⟩
  refine ⟨_, config, hupdate, ?_, _, hread', ?_, ?_⟩
  · rw [loadLedgerConfig_of_readToml hne hread']
    refine fromDict_of_gives hcurrent hvalid hwrite fun key hkey => ?_
    by_cases hroot : ∃ p ∈ rootPieces pieces, pieceKey p = some key
    · exact .inl (get?_written hpieces hplace hconsistent' (.inl hroot))
    · rcases (h key hkey).root with hroot' | ⟨-, hmissing, -⟩ | ⟨hline, hsame⟩
      · exact absurd hroot' hroot
      · exact .inl (get?_written hpieces hplace hconsistent' (.inr hmissing))
      · have hnone : ∀ p ∈ rootPieces pieces, pieceKey p ≠ some key :=
          fun p hp hpiece => hroot ⟨p, hp, hpiece⟩
        exact .inr ⟨get?_kept hpieces hplace hnone hline, hsame⟩
  · refine (tables_written_iff hpieces hplace).2 fun p hp => ?_
    cases hpiece : pieceKey p with
    | none => exact editedPiece_of_none hpiece
    | some key =>
      have hkey := (assignment_of_pieceKey hpieces ((List.dropWhile_suffix _).subset hp) hpiece).1
      rw [editedPiece_of_some hpiece]
      exact ((h key hkey).tables p hp hpiece).symm
  · rw [writtenDocument_eq hpieces hplace, readDocument_eq, otherEntries_append]
    have hothers : otherEntries ((missingKeys lines).map fun key =>
        ([key], ledgerValue config key)) = [] := by
      refine List.filter_eq_nil_iff.2 fun e he => ?_
      obtain ⟨key, hkey, rfl⟩ := List.mem_map.1 he
      rw [decide_eq_true_eq]
      exact fun hother => hother key (hledger hkey) rfl
    rw [hothers, List.append_nil]
    exact otherEntries_edited hpieces (List.takeWhile_prefix _).subset

/-- Where the lines that look like assignments of ledger keys are such assignments, or stay, and
the new values can be written, an update is faithful exactly if every ledger key is well placed. -/
theorem ledger_update_faithful_iff (hdata : readToml (configText (file.getD "")) = some data)
    (hcurrent : ledgerConfigFromDict data = .ok current) (hpatch : checkPatch patch = .ok ())
    (hpieces : tomlPieces (configLines (configText (file.getD ""))) = some pieces)
    (hlayout : LineLayout (patchedConfig current patch) pieces)
    (hwrite : (patchedConfig current patch).Writable) :
    FaithfulUpdate path file patch data ↔
      ∀ key ∈ ledgerKeys, WellPlaced current (patchedConfig current patch)
        (configLines (configText (file.getD ""))) pieces key :=
  ⟨wellPlaced_of_faithful hdata hcurrent hpatch hpieces hlayout hwrite,
    faithful_of_wellPlaced hdata hcurrent hpatch hpieces hlayout hwrite⟩

end Faithful

end ConfigEdits

section Evaluation

attribute [local instance] plainToml

/-- A configuration whose ledger is set in the root table, before another key. -/
def plainConfigText : String := "ledger_ref = \"main\"\nname = \"demo\""

theorem plainConfigText_lines :
    configLines (configText plainConfigText) = ["ledger_ref = \"main\"", "name = \"demo\""] ∧
      Text.splitOn '\n' (configText plainConfigText) =
        ["ledger_ref = \"main\"", "name = \"demo\""] := by
  decide

theorem plainConfigText_pieces :
    tomlPieces ["ledger_ref = \"main\"", "name = \"demo\""] =
      some [(["ledger_ref = \"main\""], .assignment ["ledger_ref"] (.str "main")),
        (["name = \"demo\""], .assignment ["name"] (.str "demo"))] := by
  have href := TomlReader.expression_string "ledger_ref" "main" (by decide) (by decide)
  have hname := TomlReader.expression_string "name" "demo" (by decide) (by decide)
  refine cutLeast_eq_some_iff.2 ⟨rfl, ?_⟩
  exact List.forall_mem_cons.2 ⟨.single href, List.forall_mem_cons.2 ⟨.single hname, nofun⟩⟩

theorem readToml_plainConfigText : readToml (configText plainConfigText) =
    some ⟨[(["ledger_ref"], .str "main"), (["name"], .str "demo")], []⟩ := by
  have hconsistent : PlainToml.consistent [["ledger_ref"], ["name"]] [] = true := by decide
  exact readToml_eq_some.2
    ⟨_, (congrArg tomlPieces plainConfigText_lines.2).trans plainConfigText_pieces, rfl, hconsistent⟩

/-- Pieces of one line each are laid out. -/
theorem lineLayout_single {config : LedgerConfig} {pieces : List (List String × TomlExpression)}
    (h : ∀ p ∈ pieces, p.1.length = 1) : LineLayout config pieces := by
  intro p hp line hline _
  obtain ⟨only, honly⟩ := List.length_eq_one_iff.1 (h p hp)
  rw [honly, List.mem_singleton] at hline
  exact .inl (by rw [honly, hline])

theorem ledger_update_faithful_plain :
    FaithfulUpdate "taskledger.toml" (some plainConfigText) { ref := some "feature" }
      ⟨[(["ledger_ref"], .str "main"), (["name"], .str "demo")], []⟩ := by
  have hread : (ledgerConfigFromDict
      ⟨[(["ledger_ref"], .str "main"), (["name"], .str "demo")], []⟩).toOption = some {} := by
    decide
  have hcheck : (checkPatch { ref := some "feature" }).toOption = some () := by decide
  have hwrite : (patchedConfig {} { ref := some "feature" }).Writable :=
    ⟨by decide, by decide, 1, rfl⟩
  have hpieces := (congrArg tomlPieces plainConfigText_lines.1).trans plainConfigText_pieces
  have hworks := @ledger_update_faithful_iff plainToml "taskledger.toml" {}
    { ref := some "feature" } _ (some plainConfigText) _ readToml_plainConfigText
    (toOption_eq_some.1 hread) (toOption_eq_some.1 hcheck) hpieces (lineLayout_single (by simp))
    hwrite
  refine hworks.2 fun key hkey => ?_
  refine ⟨fun p hp => ?_, ?_⟩
  · simp [tablePieces, isHeader] at hp
  · by_cases href : key = "ledger_ref"
    · have hline : keyOfLine "ledger_ref = \"main\"" = some "ledger_ref" := by decide
      exact .inl ⟨_, List.mem_cons_self, pieceKey_eq_some.2 ⟨_, rfl, href ▸ hline⟩⟩
    · refine .inr (.inl ⟨rfl, ?_, ?_⟩)
      · have hmissing : missingKeys (configLines (configText plainConfigText)) =
            ["ledger_parent_ref", "ledger_next_task_number", "ledger_branch_guard"] := by decide
        show key ∈ missingKeys (configLines (configText plainConfigText))
        rw [hmissing]
        simpa [ledgerKeys, href] using hkey
      · have hname : key ≠ "name" := by
          rintro rfl
          revert hkey
          decide
        simp [rootPieces, isHeader, Ne.symm href, Ne.symm hname]

/-- A configuration that ends with a table, and has no ledger keys. -/
def tableConfigText : String := "[worker]\nname = \"codex\""

theorem tableConfigText_lines :
    configLines (configText tableConfigText) = ["[worker]", "name = \"codex\""] ∧
      Text.splitOn '\n' (configText tableConfigText) = ["[worker]", "name = \"codex\""] := by
  decide

theorem tableConfigText_pieces : tomlPieces ["[worker]", "name = \"codex\""] =
    some [(["[worker]"], .header ⟨["worker"], false⟩),
      (["name = \"codex\""], .assignment ["name"] (.str "codex"))] := by
  have hheader : TomlReader.expression "[worker]" = some (.header ⟨["worker"], false⟩) := rfl
  have hname := TomlReader.expression_string "name" "codex" (by decide) (by decide)
  refine cutLeast_eq_some_iff.2 ⟨rfl, ?_⟩
  exact List.forall_mem_cons.2 ⟨.single hheader, List.forall_mem_cons.2 ⟨.single hname, nofun⟩⟩

theorem readToml_tableConfigText : readToml (configText tableConfigText) =
    some ⟨[], [(⟨["worker"], false⟩, [(["name"], .str "codex")])]⟩ := by
  have hconsistent : PlainToml.consistent [] [(⟨["worker"], false⟩, [["name"]])] = true := by
    decide
  exact readToml_eq_some.2
    ⟨_, (congrArg tomlPieces tableConfigText_lines.2).trans tableConfigText_pieces, rfl, hconsistent⟩

/-- The keys are appended to the table, where they are not read. -/
theorem appended_keys_are_lost : ∃ data,
    readToml (configText tableConfigText) = some data ∧
    ledgerConfigFromDict data = .ok {} ∧
    checkPatch { ref := some "feature" } = .ok () ∧
    ¬ FaithfulUpdate "taskledger.toml" (some tableConfigText) { ref := some "feature" } data := by
  have hread : (ledgerConfigFromDict
      ⟨[], [(⟨["worker"], false⟩, [(["name"], .str "codex")])]⟩).toOption = some {} := by
    decide
  have hcheck : (checkPatch { ref := some "feature" }).toOption = some () := by decide
  have hwrite : (patchedConfig {} { ref := some "feature" }).Writable :=
    ⟨by decide, by decide, 1, rfl⟩
  refine ⟨_, readToml_tableConfigText, toOption_eq_some.1 hread, toOption_eq_some.1 hcheck,
    fun h => ?_⟩
  have hpieces := (congrArg tomlPieces tableConfigText_lines.1).trans tableConfigText_pieces
  have hplaced := @wellPlaced_of_faithful plainToml "taskledger.toml" {}
    { ref := some "feature" } _ (some tableConfigText) _ readToml_tableConfigText
    (toOption_eq_some.1 hread) (toOption_eq_some.1 hcheck) hpieces (lineLayout_single (by simp))
    hwrite h
  have hmissing : "ledger_ref" ∈ missingKeys (configLines (configText tableConfigText)) := by decide
  rcases (hplaced "ledger_ref" (by decide)).root with ⟨p, hp, -⟩ | ⟨hflat, -⟩ | ⟨hline, -⟩
  · simp [rootPieces, isHeader] at hp
  · simp [tablePieces, isHeader] at hflat
  · exact hline hmissing

end Evaluation

end Taskledger
