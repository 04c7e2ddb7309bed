import Mathlib.Data.List.Basic
import Mathlib.Data.List.Nodup
import Mathlib.Data.List.Induction

/-!
# Plain data and text

The values a YAML or JSON document can hold, mappings in insertion order, and
the text operations of the modelled program's language.
-/

namespace Library

/-- A plain value. A mapping keeps its keys as their text, and a scalar of a
type not listed (a float, a date) is known by its text and its truth value. -/
inductive Value where
  | null
  | bool (b : Bool)
  | int (i : Int)
  | scalar (text : String) (truthy : Bool)
  | str (s : String)
  | list (items : List Value)
  | dict (entries : List (String × Value))

-- Named here, so that membership among optional texts is decided in one way everywhere.
instance lawfulBEqOptionString : LawfulBEq (Option String) := inferInstance

/-- A mapping from text keys, in insertion order. -/
abbrev Dict : Type := List (String × Value)

namespace Dict

/-- `data.get(key)` as an option: `none` when the key is absent. -/
def get? (d : Dict) (k : String) : Option Value :=
  d.lookup k

/-- `data.get(key)`: absent keys read as null. -/
def get (d : Dict) (k : String) : Value :=
  (d.get? k).getD .null

/-- `data[key] = value`: in place when the key is there, at the end otherwise. -/
def set (d : Dict) (k : String) (v : Value) : Dict :=
  match d with
  | [] => [(k, v)]
  | (k', v') :: rest => if k' = k then (k, v) :: rest else (k', v') :: set rest k v

/-- `data.pop(key, None)`, the value dropped. -/
def pop (d : Dict) (k : String) : Dict :=
  d.filter fun entry => entry.1 ≠ k

theorem get?_cons (k : String) (v : Value) (d : Dict) (key : String) :
    Dict.get? ((k, v) :: d) key = if key = k then some v else d.get? key := by
  unfold get?
  by_cases h : key = k
  · simp [h]
  · simp [List.lookup_cons, beq_eq_false_iff_ne.2 h, h]

theorem get_cons (k : String) (v : Value) (d : Dict) (key : String) :
    Dict.get ((k, v) :: d) key = if key = k then v else d.get key := by
  unfold get
  rw [get?_cons]
  split <;> rfl

@[simp]
theorem get_nil (key : String) : Dict.get [] key = .null := rfl

@[simp]
theorem get?_nil (key : String) : Dict.get? [] key = none := rfl

/-- The other keys of a mapping stay when one is dropped. -/
theorem get?_pop (d : Dict) (k key : String) :
    (d.pop k).get? key = if key = k then none else d.get? key := by
  induction d with
  | nil =>
    show none = if key = k then none else none
    split <;> rfl
  | cons entry rest ih =>
    obtain ⟨k', v⟩ := entry
    unfold pop at ih ⊢
    by_cases hk : k' = k
    · rw [List.filter_cons_of_neg (by simpa using hk), ih, get?_cons]
      by_cases h : key = k
      · rw [if_pos h, if_pos h]
      · rw [if_neg h, if_neg h, if_neg (hk ▸ h)]
    · rw [List.filter_cons_of_pos (by simpa using hk), get?_cons, get?_cons, ih]
      by_cases h : key = k
      · simp [h, Ne.symm hk]
      · simp [h]

/-- What `data.get(key)` finds after `data[k] = value`. -/
theorem get?_set (d : Dict) (k key : String) (v : Value) :
    (d.set k v).get? key = if key = k then some v else d.get? key := by
  induction d with
  | nil => exact get?_cons k v [] key
  | cons entry rest ih =>
    obtain ⟨k', v'⟩ := entry
    by_cases hk : k' = k
    · rw [set, if_pos hk, get?_cons, get?_cons]
      by_cases h : key = k
      · rw [if_pos h, if_pos h]
      · rw [if_neg h, if_neg h, if_neg (hk ▸ h)]
    · rw [set, if_neg hk, get?_cons, get?_cons, ih]
      by_cases h : key = k
      · simp [h, Ne.symm hk]
      · simp [h]

/-- `data[key]` after `data[k] = value`. -/
theorem get_set (d : Dict) (k key : String) (v : Value) :
    (d.set k v).get key = if key = k then v else d.get key := by
  unfold get
  rw [get?_set]
  split <;> rfl

theorem get_pop (d : Dict) (k key : String) :
    (d.pop k).get key = if key = k then .null else d.get key := by
  unfold get
  rw [get?_pop]
  split <;> rfl

end Dict

namespace Value

/-- Python's truth value. -/
def truthy : Value → Bool
  | null => false
  | bool b => b
  | int i => i ≠ 0
  | scalar _ t => t
  | str s => s ≠ ""
  | list items => !items.isEmpty
  | dict entries => !entries.isEmpty

/-- The value itself when it is a string. -/
def asString? : Value → Option String
  | str s => some s
  | _ => none

theorem asString?_eq_some {v : Value} {text : String} : v.asString? = some text ↔ v = str text := by
  cases v <;> simp [asString?]

/-- The value itself when it is an integer; `True` and `False` are integers. -/
def asInt? : Value → Option Int
  | int i => some i
  | bool b => some (if b then 1 else 0)
  | _ => none

/-- An optional string as a value. -/
def ofOption : Option String → Value
  | none => null
  | some s => str s

/-- An optional natural number as a value. -/
def ofNat? : Option Nat → Value
  | none => null
  | some n => int n

/-- An optional truth value as a value. -/
def ofBool? : Option Bool → Value
  | none => null
  | some b => bool b

/-- A sequence of strings as a value. -/
def ofStrings (items : List String) : Value :=
  list (items.map str)

/-- An optional mapping as a value. -/
def ofDict? : Option Dict → Value
  | none => null
  | some d => dict d

end Value

namespace Text

/-- `str.isspace` of one character. -/
def isSpace (c : Char) : Bool :=
  c.toNat ∈ [0x09, 0x0a, 0x0b, 0x0c, 0x0d, 0x1c, 0x1d, 0x1e, 0x1f, 0x20, 0x85, 0xa0, 0x1680,
    0x2000, 0x2001, 0x2002, 0x2003, 0x2004, 0x2005, 0x2006, 0x2007, 0x2008, 0x2009, 0x200a,
    0x2028, 0x2029, 0x202f, 0x205f, 0x3000]

/-- Trailing characters meeting `p` dropped. -/
def dropTrailing (p : Char → Bool) (cs : List Char) : List Char :=
  (cs.reverse.dropWhile p).reverse

/-- `text.rstrip()`. -/
def rstrip (s : String) : String :=
  String.ofList (dropTrailing isSpace s.toList)

/-- `text.rstrip("\n")`. -/
def rstripNewlines (s : String) : String :=
  String.ofList (dropTrailing (· == '\n') s.toList)

/-- Line ends `\r\n` and `\r` written as `\n`; `afterCr` says that a carriage return was just
written. -/
def unifyLineEnds (afterCr : Bool) : List Char → List Char
  | [] => []
  | c :: cs =>
    if c = '\r' then '\n' :: unifyLineEnds true cs
    else if c = '\n' ∧ afterCr = true then unifyLineEnds false cs
    else c :: unifyLineEnds false cs

/-- `text` with every line end written as `\n`. -/
def normalizeNewlines (s : String) : String :=
  String.ofList (unifyLineEnds false s.toList)

/-- `text.strip()`. -/
def strip (s : String) : String :=
  String.ofList (dropTrailing isSpace (s.toList.dropWhile isSpace))

/-- `not text.strip()`. -/
def isBlank (s : String) : Bool :=
  strip s = ""

/-- The maximal runs of characters not meeting `p`; `word` is the current one,
reversed. -/
def splitOnWhere (p : Char → Bool) (word : List Char) : List Char → List (List Char)
  | [] => if word.isEmpty then [] else [word.reverse]
  | c :: cs =>
    if p c then
      if word.isEmpty then splitOnWhere p [] cs else word.reverse :: splitOnWhere p [] cs
    else splitOnWhere p (c :: word) cs

/-- `text.split()`. -/
def split (s : String) : List String :=
  (splitOnWhere isSpace [] s.toList).map String.ofList

/-- The parts between the characters `sep`; `part` is the current one, reversed. -/
def splitAtChar (sep : Char) (part : List Char) : List Char → List (List Char)
  | [] => [part.reverse]
  | c :: cs =>
    if c = sep then part.reverse :: splitAtChar sep [] cs else splitAtChar sep (c :: part) cs

/-- `text.split(sep)` for a single character. -/
def splitOn (sep : Char) (s : String) : List String :=
  (splitAtChar sep [] s.toList).map String.ofList

/-- The line boundaries of `str.splitlines` other than `\r\n`. -/
def isLineBreak (c : Char) : Bool :=
  c.toNat ∈ [0x0a, 0x0b, 0x0c, 0x0d, 0x1c, 0x1d, 0x1e, 0x85, 0x2028, 0x2029]

/-- Lines of `cs`; `line` is the current one, reversed, and `afterCr` says that a
carriage return just ended a line. -/
def linesFrom (line : List Char) (afterCr : Bool) : List Char → List (List Char)
  | [] => if line.isEmpty then [] else [line.reverse]
  | c :: cs =>
    if afterCr && c == '\n' then linesFrom [] false cs
    else if isLineBreak c then line.reverse :: linesFrom [] (c == '\r') cs
    else linesFrom (c :: line) false cs

/-- `text.splitlines()`. -/
def splitlines (s : String) : List String :=
  (linesFrom [] false s.toList).map String.ofList

/-- `sep.join(parts)`. -/
def join (sep : String) : List String → String
  | [] => ""
  | [part] => part
  | part :: rest => part ++ sep ++ join sep rest

/-- `text.startswith(start)`. -/
def startsWith (s start : String) : Bool :=
  start.toList.isPrefixOf s.toList

/-- `text.removeprefix(start)`. -/
def dropStart (s start : String) : String :=
  if startsWith s start then String.ofList (s.toList.drop start.length) else s

/-- `text.endswith(tail)`. -/
def endsWith (s tail : String) : Bool :=
  tail.toList.reverse.isPrefixOf s.toList.reverse

/-- `part in text`. -/
def contains (part s : String) : Bool :=
  s.toList.tails.any fun cs => part.toList.isPrefixOf cs

/-- `text.replace(old, "")` for a single character. -/
def without (old : Char) (s : String) : String :=
  String.ofList (s.toList.filter (· ≠ old))

/-- `text or default`. -/
def orElse (s fallback : String) : String :=
  if s = "" then fallback else s

/-- `n` in decimal, padded with zeros to four places. -/
def fourDigits (n : Nat) : String :=
  String.ofList (List.replicate (4 - (Nat.repr n).length) '0') ++ Nat.repr n

-- ════════════════════════════════════════════════════════════════════════
-- Trailing characters and line ends
-- ════════════════════════════════════════════════════════════════════════

theorem dropTrailing_concat (p : Char → Bool) (cs : List Char) (c : Char) :
    dropTrailing p (cs ++ [c]) = if p c then dropTrailing p cs else cs ++ [c] := by
  simp only [dropTrailing, List.reverse_append, List.reverse_singleton, List.singleton_append,
    List.dropWhile_cons]
  split <;> simp

/-- What is left of a text ends with a character that is kept. -/
theorem dropTrailing_last (p : Char → Bool) (cs : List Char) :
    dropTrailing p cs = [] ∨ ∃ init c, dropTrailing p cs = init ++ [c] ∧ p c = false := by
  induction cs using List.reverseRecOn with
  | nil => exact .inl rfl
  | append_singleton init c ih =>
    rw [dropTrailing_concat]
    cases hp : p c with
    | true => simpa using ih
    | false => exact .inr ⟨init, c, by simp, hp⟩

theorem mem_of_mem_dropTrailing {p : Char → Bool} {cs : List Char} {c : Char}
    (h : c ∈ dropTrailing p cs) : c ∈ cs := by
  unfold dropTrailing at h
  rw [List.mem_reverse] at h
  exact List.mem_reverse.1 ((List.dropWhile_sublist _).mem h)

/-- Only characters meeting `p` are dropped. -/
theorem mem_dropTrailing_or {p : Char → Bool} {cs : List Char} {c : Char} (h : c ∈ cs) :
    c ∈ dropTrailing p cs ∨ p c = true := by
  induction cs using List.reverseRecOn with
  | nil => cases h
  | append_singleton init d ih =>
    rw [dropTrailing_concat]
    cases hd : p d with
    | true =>
      rcases List.mem_append.1 h with hinit | hlast
      · exact ih hinit
      · rw [List.mem_singleton.1 hlast]
        exact .inr hd
    | false => exact .inl (by simpa using h)

theorem dropTrailing_dropTrailing (p : Char → Bool) (cs : List Char) :
    dropTrailing p (dropTrailing p cs) = dropTrailing p cs := by
  rcases dropTrailing_last p cs with hnil | ⟨init, c, hlast, hc⟩
  · rw [hnil]
    rfl
  · rw [hlast, dropTrailing_concat, if_neg (by simp [hc])]

theorem not_mem_unifyLineEnds (afterCr : Bool) (cs : List Char) :
    '\r' ∉ unifyLineEnds afterCr cs := by
  induction cs generalizing afterCr with
  | nil => simp [unifyLineEnds]
  | cons c cs ih =>
    rw [unifyLineEnds]
    split
    · simpa using ih true
    · split
      · exact ih false
      · rename_i hr _
        simpa [Ne.symm hr] using ih false

/-- A text without carriage returns stays. -/
theorem unifyLineEnds_of_not_mem {cs : List Char} (h : '\r' ∉ cs) : unifyLineEnds false cs = cs := by
  induction cs with
  | nil => rfl
  | cons c cs ih =>
    rw [List.mem_cons, not_or] at h
    rw [unifyLineEnds, if_neg (Ne.symm h.1), if_neg (by simp), ih h.2]

/-- After a character that is no carriage return the line ends are written anew. -/
theorem unifyLineEnds_append {afterCr : Bool} {cs ds : List Char} {c : Char} (hc : c ≠ '\r') :
    unifyLineEnds afterCr (cs ++ c :: ds) =
      unifyLineEnds afterCr (cs ++ [c]) ++ unifyLineEnds false ds := by
  induction cs generalizing afterCr with
  | nil =>
    simp only [List.nil_append, unifyLineEnds, if_neg hc]
    split <;> simp
  | cons d cs ih =>
    simp only [List.cons_append, unifyLineEnds]
    split
    · simp [ih]
    · split <;> simp [ih]

/-- A last character that is no line end stays the last. -/
theorem unifyLineEnds_concat {afterCr : Bool} {cs : List Char} {c : Char} (hr : c ≠ '\r')
    (hn : c ≠ '\n') :
    unifyLineEnds afterCr (cs ++ [c]) = unifyLineEnds afterCr cs ++ [c] := by
  induction cs generalizing afterCr with
  | nil => simp [unifyLineEnds, hr, hn]
  | cons d cs ih =>
    simp only [List.cons_append, unifyLineEnds]
    split
    · simp [ih]
    · split <;> simp [ih]

example : strip "  a b\n" = "a b" := by decide

example : splitlines "---\r\ngoal: x\n\n---" = ["---", "goal: x", "", "---"] := by decide

end Text

/-- An enumeration written to documents by the text of its members. -/
class Enumeration (α : Type) where
  members : List α
  value : α → String
  complete : ∀ a, a ∈ members
  distinct : (members.map value).Nodup

namespace Enumeration

variable {α : Type} [Enumeration α]

/-- The member with this text. -/
def ofValue? (s : String) : Option α :=
  members.find? fun a => value a = s

theorem value_injective : Function.Injective (value : α → String) := by
  intro a b h
  exact List.inj_on_of_nodup_map distinct (complete a) (complete b) h

@[simp]
theorem ofValue?_value (a : α) : ofValue? (value a) = some a := by
  cases h : (ofValue? (value a) : Option α) with
  | none =>
    have hnone : ∀ b ∈ (members : List α), value b ≠ value a := by simpa [ofValue?] using h
    exact absurd rfl (hnone a (complete a))
  | some b =>
    have hb : value b = value a := by simpa [ofValue?] using List.find?_some h
    rw [value_injective hb]

end Enumeration

end Library
