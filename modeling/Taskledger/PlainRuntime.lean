import Mathlib.Order.Lattice
import Taskledger.Services.Operations

/-!
# A runtime to evaluate with

Ids are read and written as the ledger's files have them. Instants, hashes and
YAML are spelled out only as far as runs need them.
-/

namespace Taskledger

open Library

namespace PlainRuntime

def lowerChar (c : Char) : Char :=
  if 'A' ≤ c ∧ c ≤ 'Z' then Char.ofNat (c.toNat + 32) else c

def lower (s : String) : String := String.ofList (s.toList.map lowerChar)

/-- At least four decimal digits. -/
def digits (n : Nat) : List Char :=
  List.replicate (4 - (Nat.toDigits 10 n).length) '0' ++ Nat.toDigits 10 n

def formatId (kind : String) (n : Nat) : String := kind ++ "-" ++ String.ofList (digits n)

def parseNumber (kind text : String) : Option Nat :=
  let number := text.toList.drop (kind ++ "-").length
  if Text.startsWith text (kind ++ "-") ∧ 4 ≤ number.length ∧ number.all Char.isDigit then
    some (Nat.ofDigitChars 10 number 0)
  else none

def nextId (kind : String) (existing : List String) : String :=
  formatId kind ((existing.filterMap (parseNumber kind)).foldl max 0 + 1)

/-- Runs of other characters than letters and digits become one hyphen. -/
def slugify (text empty : String) : String :=
  let words := Text.splitOnWhere (fun c => !(c.isAlphanum)) [] (lower text).toList
  if words.isEmpty then empty else Text.join "-" (words.map String.ofList)

/-- Python's `str`; the other kinds of values are not read by the runs. -/
def strOf : Value → String
  | .str s => s
  | .int i => Int.repr i
  | .bool b => if b then "True" else "False"
  | _ => "None"

/-- The front matter of a plan whose criterion has a blank id. -/
def blankCriterionFrontMatter : String := "acceptance_criteria:\n- id: ' '\n  text: it works"

def safeLoad (text : String) : Except String Value :=
  if text = blankCriterionFrontMatter then
    .ok (.dict [("acceptance_criteria",
      .list [.dict [("id", .str " "), ("text", .str "it works")]])])
  else .ok (.str text)

/-- A character of a JSON string. -/
def dumpChar (c : Char) : List Char :=
  if c = '"' ∨ c = '\\' then ['\\', c] else if c = '\n' then ['\\', 'n'] else [c]

def dumpString (s : String) : String :=
  "\"" ++ String.ofList (s.toList.flatMap dumpChar) ++ "\""

mutual

/-- `json.dumps` with sorted keys and without blanks. -/
def dumpJson : Value → String
  | .null => "null"
  | .bool b => if b then "true" else "false"
  | .int i => Int.repr i
  | .scalar text _ => text
  | .str s => dumpString s
  | .list items => "[" ++ Text.join "," (dumpItems items) ++ "]"
  | .dict entries =>
    "\x7b" ++ Text.join "," ((sortedBy Prod.fst (dumpEntries entries)).map Prod.snd) ++ "\x7d"

def dumpItems : List Value → List String
  | [] => []
  | v :: rest => dumpJson v :: dumpItems rest

/-- Each key with the text of its entry. -/
def dumpEntries : List (String × Value) → List (String × String)
  | [] => []
  | (key, v) :: rest => (key, dumpString key ++ ":" ++ dumpJson v) :: dumpEntries rest

end

/-- The first instant, and the one two hours later, have their real texts. -/
def isoformat (t : Nat) : String :=
  if t = 0 then "1970-01-01T00:00:00+00:00"
  else if t = 7200000000 then "1970-01-01T02:00:00+00:00"
  else "+" ++ String.ofList (Nat.toDigits 10 t)

def fromisoformat (text : String) : Option Nat :=
  if text = "1970-01-01T00:00:00+00:00" then some 0
  else if text = "1970-01-01T02:00:00+00:00" then some 7200000000
  else if Text.startsWith text "+" then some (Nat.ofDigitChars 10 (text.toList.drop 1) 0)
  else none

def parseLocalId (kind text : String) : Except String String :=
  match parseNumber kind text with
  | some _ => .ok text
  | none => .error ("not a " ++ kind ++ " reference")

-- ════════════════════════════════════════════════════════════════════════
-- Laws
-- ════════════════════════════════════════════════════════════════════════

theorem isDigit_of_mem_digits {n : Nat} {c : Char} (h : c ∈ digits n) : c.isDigit = true := by
  rcases List.mem_append.1 h with h | h
  · obtain rfl := List.eq_of_mem_replicate h
    decide
  · exact Nat.isDigit_of_mem_toDigits (by decide) (by decide) h

theorem length_digits (n : Nat) : 4 ≤ (digits n).length := by
  simp [digits]
  omega

theorem ofDigitChars_digits (n : Nat) : Nat.ofDigitChars 10 (digits n) 0 = n := by
  simp [digits, Nat.ofDigitChars_append]

theorem toList_formatId (kind : String) (n : Nat) :
    (formatId kind n).toList = (kind ++ "-").toList ++ digits n := by
  simp [formatId]

theorem parseNumber_formatId (kind : String) (n : Nat) :
    parseNumber kind (formatId kind n) = some n := by
  have hdrop : (formatId kind n).toList.drop (kind ++ "-").length = digits n := by
    rw [toList_formatId, ← String.length_toList, List.drop_left]
  have hstart : Text.startsWith (formatId kind n) (kind ++ "-") = true := by
    rw [Text.startsWith, toList_formatId, List.isPrefixOf_iff_prefix]
    exact List.prefix_append _ _
  have hdigits : (digits n).all Char.isDigit = true :=
    List.all_eq_true.2 fun _ hc => isDigit_of_mem_digits hc
  rw [parseNumber, hdrop, if_pos ⟨hstart, length_digits n, hdigits⟩, ofDigitChars_digits]

theorem foldl_max_bounds (l : List Nat) (init : Nat) :
    init ≤ l.foldl max init ∧ ∀ m ∈ l, m ≤ l.foldl max init := by
  induction l generalizing init with
  | nil => simp
  | cons m rest ih =>
    obtain ⟨hle, hrest⟩ := ih (max init m)
    refine ⟨(le_max_left _ _).trans hle, ?_⟩
    exact List.forall_mem_cons.2 ⟨(le_max_right _ _).trans hle, hrest⟩

theorem nextId_fresh (kind : String) (ids : List String) : nextId kind ids ∉ ids := by
  intro h
  have hmem := List.mem_filterMap.2 ⟨_, h, parseNumber_formatId kind _⟩
  have hle := (foldl_max_bounds (ids.filterMap (parseNumber kind)) 0).2 _ hmem
  omega

theorem lowerChar_digit {c : Char} (h : c.isDigit = true) : lowerChar c = c := by
  have hlt : ¬ 'A' ≤ c := by
    intro ha
    simp only [Char.isDigit, Bool.and_eq_true, decide_eq_true_eq, UInt32.le_iff_toNat_le,
      ge_iff_le] at h
    have hA : 'A'.val.toNat ≤ c.val.toNat := ha
    have h65 : 'A'.val.toNat = 65 := rfl
    have h57 : '9'.val.toNat = 57 := rfl
    omega
  rw [lowerChar, if_neg fun hc => hlt hc.1]

theorem isSpace_digit {c : Char} (h : c.isDigit = true) : Text.isSpace c = false := by
  have hrange : 48 ≤ c.toNat ∧ c.toNat ≤ 57 := by
    simp only [Char.isDigit, Bool.and_eq_true, decide_eq_true_eq, UInt32.le_iff_toNat_le, ge_iff_le]
      at h
    exact h
  simp only [Text.isSpace, List.mem_cons, List.not_mem_nil, decide_eq_false_iff_not, or_false]
  omega

theorem lower_formatId : ∀ kind ∈ idKinds, ∀ n, lower (formatId kind n) = formatId kind n := by
  intro kind hkind n
  have hlower : (kind ++ "-").toList.map lowerChar = (kind ++ "-").toList := by
    revert kind
    decide
  have hdigits : (digits n).map lowerChar = digits n := by
    refine (List.map_congr_left fun c hc => ?_).trans (List.map_id _)
    exact lowerChar_digit (isDigit_of_mem_digits hc)
  rw [lower, toList_formatId, List.map_append, hlower, hdigits, String.ofList_append,
    String.ofList_toList]
  rfl

theorem strip_formatId : ∀ kind ∈ idKinds, ∀ n,
    Text.strip (formatId kind n) = formatId kind n := by
  intro kind hkind n
  have hhead : ∀ kind ∈ idKinds, (kind ++ "-").toList ≠ [] ∧
      (kind ++ "-").toList.head?.all (fun c => !Text.isSpace c) = true := by
    decide
  obtain ⟨hne, hblank⟩ := hhead kind hkind
  obtain ⟨c, cs, hcs⟩ := List.exists_cons_of_ne_nil hne
  have hspace : Text.isSpace c = false := by simpa [hcs] using hblank
  obtain ⟨front, last, hlast⟩ : ∃ front last, digits n = front ++ [last] := by
    have hne : digits n ≠ [] := fun h => by simpa [h] using length_digits n
    exact ⟨_, _, (List.dropLast_append_getLast hne).symm⟩
  have hdigit : Text.isSpace last = false :=
    isSpace_digit (isDigit_of_mem_digits (hlast ▸ List.mem_append_right _ (List.mem_singleton_self _)))
  have htext : (formatId kind n).toList = c :: cs ++ (front ++ [last]) := by
    rw [toList_formatId, hcs, hlast]
  rw [Text.strip, htext, List.cons_append, List.dropWhile_cons_of_neg (by simp [hspace]),
    Text.dropTrailing, ← List.cons_append, ← List.append_assoc, List.reverse_concat,
    List.dropWhile_cons_of_neg (by simp [hdigit]), List.reverse_cons, List.reverse_reverse,
    List.append_assoc, ← htext, String.ofList_toList]

theorem startsWith_formatId : ∀ kind ∈ idKinds, ∀ n,
    Text.startsWith (formatId kind n) (kind ++ "-") = true := by
  intro kind _ n
  rw [Text.startsWith, toList_formatId, List.isPrefixOf_iff_prefix]
  exact List.prefix_append _ _

theorem strOf_ne : ∀ v : Value, v.truthy = true → strOf v ≠ "" := by
  intro v hv
  cases v with
  | str s => simpa [Value.truthy, strOf] using hv
  | int i =>
    intro h
    have hlist := congrArg String.toList h
    cases i with
    | ofNat n => simp [strOf, Int.repr, Nat.toDigits_ne_nil] at hlist
    | negSucc n => simp [strOf, Int.repr] at hlist
  | bool b => cases b <;> simp [strOf]
  | _ => simp [strOf]

theorem fromisoformat_isoformat (t : Nat) : fromisoformat (isoformat t) = some t := by
  by_cases h₀ : t = 0
  · subst h₀
    decide
  by_cases h₂ : t = 7200000000
  · subst h₂
    decide
  have htext : isoformat t = "+" ++ String.ofList (Nat.toDigits 10 t) := by
    rw [isoformat, if_neg h₀, if_neg h₂]
  have hlist : (isoformat t).toList = '+' :: Nat.toDigits 10 t := by simp [htext]
  have hne (s : String) (c : Char) (cs : List Char) (hs : s.toList = c :: cs) (hc : c ≠ '+') :
      isoformat t ≠ s := by
    intro h
    rw [h, hs] at hlist
    exact hc (List.cons.inj hlist).1
  rw [fromisoformat, if_neg (hne _ '1' _ rfl (by decide)), if_neg (hne _ '1' _ rfl (by decide)),
    Text.startsWith, hlist, if_pos (by rfl), List.drop_one, List.tail_cons,
    Nat.ofDigitChars_ten_toDigits]

theorem isoformat_ne (t : Nat) : isoformat t ≠ "" := by
  intro h
  have ht := fromisoformat_isoformat t
  have hempty : fromisoformat "" = none := by decide
  rw [h, hempty] at ht
  cases ht

end PlainRuntime

/-- The runtime to evaluate with. -/
@[reducible]
def plainRuntime : Runtime where
  repr s := "'" ++ s ++ "'"
  strOf := PlainRuntime.strOf
  strOf_str _ := rfl
  strOf_ne := PlainRuntime.strOf_ne
  lower := PlainRuntime.lower
  upper s := String.ofList (s.toList.map Char.toUpper)
  isDigit := Char.isDigit
  casefold := PlainRuntime.lower
  parseInt := String.toInt?
  safeLoad := PlainRuntime.safeLoad
  safeDump _ := ""
  dumpJson := PlainRuntime.dumpJson
  isWord c := c.isAlphanum || c = '_'
  slugifyRef := PlainRuntime.slugify
  formatId := PlainRuntime.formatId
  lower_formatId := PlainRuntime.lower_formatId
  strip_formatId := PlainRuntime.strip_formatId
  startsWith_formatId := PlainRuntime.startsWith_formatId
  parseNumber := PlainRuntime.parseNumber
  parseNumber_formatId kind _ := PlainRuntime.parseNumber_formatId kind
  nextId := PlainRuntime.nextId
  nextId_fresh := PlainRuntime.nextId_fresh
  nextId_format kind ids := ⟨_, rfl⟩
  parseLocalId := PlainRuntime.parseLocalId
  parseLocalId_formatId kind _ n := by
    rw [PlainRuntime.parseLocalId, PlainRuntime.parseNumber_formatId]
  globalRef text := text
  fileRef text := text
  normalizeNewlines := Text.normalizeNewlines
  normalizeNewlines_eq _ := rfl
  contentHash text := text
  utcNowIso t := PlainRuntime.isoformat t
  utcNowIso_ne := PlainRuntime.isoformat_ne
  isoformat := PlainRuntime.isoformat
  isoformat_ne := PlainRuntime.isoformat_ne
  fromisoformat := PlainRuntime.fromisoformat
  fromisoformat_isoformat := PlainRuntime.fromisoformat_isoformat
  lockStamp t := if t = 0 then "lock-19700101T000000Z" else "lock-" ++ Nat.repr t

/-- A harness of a process without a session. -/
def plainHarness : NamedHarness where
  harnessId := "harness-cli"
  name := "cli"
  createdAt := "1970-01-01T00:00:00+00:00"
  harnessId_ne := by decide
  name_ne := by decide

/-- The process the steps of a run are taken in. -/
def plainEnv : Env where
  now := 0
  user := "user"
  hostname := "host"
  pid := 1
  cwd := "/work"
  uuid := Nat.repr
  resolvedActor := {}
  resolvedHarness := plainHarness

/-- An approval by a user of a plan without todos. -/
def plainApproval : ApprovalRequest where
  note := some "fine"
  reason := some "trivial"
  allowEmptyTodos := true
  allowLintErrors := true
  approvalSource := some "explicit_chat"

/-- A task with an approved plan. -/
def approvedOps : List Op :=
  [.createTask { title := "A", description := "d" }, .startPlanning "task-0001" none none,
    .proposePlan "task-0001" "Do it." ["it works"], .approvePlan "task-0001" 1 plainApproval]

/-- The user who uncancels. -/
def plainUser : ActorRef where
  actorType := .user
  actorName := "user"

end Taskledger
