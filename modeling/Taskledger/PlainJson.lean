import Taskledger.Storage.EventLog

/-!
# JSON to evaluate with

Mappings are written with their texts and whole numbers, character by character as numbers. Other
values are left out.
-/

namespace Taskledger

open Library

namespace PlainJson

def textCode (cs : List Char) : List Char := cs.flatMap fun c => Nat.toDigits 10 c.toNat ++ [',']

def textOfCode (code : List Char) : List Char :=
  (Text.splitAtChar ',' [] code).dropLast.map fun part => Char.ofNat (Nat.ofDigitChars 10 part 0)

/-- The code of a value that is written. -/
def valueCode : Value → Option (List Char)
  | .str s => some (textCode s.toList)
  | .int (.ofNat n) => some ('=' :: Nat.toDigits 10 n)
  | _ => none

def valueOfCode : List Char → Value
  | '=' :: digits => .int (Nat.ofDigitChars 10 digits 0)
  | code => .str (String.ofList (textOfCode code))

def entryCode (entry : String × Value) : Option (List Char) :=
  (valueCode entry.2).map fun code => textCode entry.1.toList ++ ':' :: code

def entryOfCode (code : List Char) : Option (String × Value) :=
  match Text.splitAtChar ':' [] code with
  | [key, value] => some (String.ofList (textOfCode key), valueOfCode value)
  | _ => none

def dumps (d : Dict) : String :=
  String.ofList ('{' :: (d.filterMap entryCode).flatMap fun code => code ++ [';'])

def loads (text : String) : Except String Value :=
  match text.toList with
  | '{' :: code => .ok (.dict ((Text.splitAtChar ';' [] code).dropLast.filterMap entryOfCode))
  | _ => .error "Expecting value"

-- ════════════════════════════════════════════════════════════════════════
-- Characters of codes
-- ════════════════════════════════════════════════════════════════════════

/-- Codes consist of digits and a few signs. -/
def isCodeChar (c : Char) : Bool := c.isDigit || c = ',' || c = ':' || c = '=' || c = ';' || c = '{'

theorem isLineBreak_codeChar {c : Char} (h : isCodeChar c = true) : Text.isLineBreak c = false := by
  rw [Text.isLineBreak, decide_eq_false_iff_not]
  simp only [isCodeChar, Bool.or_eq_true, decide_eq_true_eq] at h
  rcases h with ((((hdigit | rfl) | rfl) | rfl) | rfl) | rfl
  · simp only [Char.isDigit, Bool.and_eq_true, decide_eq_true_eq] at hdigit
    have hrange : 48 ≤ c.toNat ∧ c.toNat ≤ 57 := ⟨hdigit.1, hdigit.2⟩
    simp only [List.mem_cons, List.not_mem_nil, or_false, not_or]
    omega
  all_goals decide

theorem isDigit_of_mem {n : Nat} {c : Char} (h : c ∈ Nat.toDigits 10 n) : c.isDigit = true :=
  Nat.isDigit_of_mem_toDigits (by decide) (by decide) h

theorem textCode_chars {cs : List Char} {c : Char} (h : c ∈ textCode cs) :
    c.isDigit = true ∨ c = ',' := by
  obtain ⟨d, -, h⟩ := List.mem_flatMap.1 h
  rcases List.mem_append.1 h with h | h
  · exact .inl (isDigit_of_mem h)
  · exact .inr (List.mem_singleton.1 h)

theorem valueCode_chars {v : Value} {code : List Char} {c : Char} (hcode : valueCode v = some code)
    (h : c ∈ code) : c.isDigit = true ∨ c = ',' ∨ c = '=' := by
  unfold valueCode at hcode
  split at hcode
  · cases hcode
    exact (textCode_chars h).imp_right .inl
  · cases hcode
    rcases List.mem_cons.1 h with rfl | h
    · exact .inr (.inr rfl)
    · exact .inl (isDigit_of_mem h)
  · cases hcode

theorem not_mem_textCode {cs : List Char} {sep : Char} (hdigit : sep.isDigit = false)
    (hcomma : sep ≠ ',') : sep ∉ textCode cs := by
  intro h
  rcases textCode_chars h with h | h
  · rw [hdigit] at h
    cases h
  · exact hcomma h

theorem entryCode_chars {entry : String × Value} {code : List Char} {c : Char}
    (hcode : entryCode entry = some code) (h : c ∈ code) :
    c.isDigit = true ∨ c = ',' ∨ c = '=' ∨ c = ':' := by
  obtain ⟨value, hvalue, rfl⟩ := Option.map_eq_some_iff.1 hcode
  rcases List.mem_append.1 h with h | h
  · exact (textCode_chars h).imp_right .inl
  · rcases List.mem_cons.1 h with rfl | h
    · exact .inr (.inr (.inr rfl))
    · rcases valueCode_chars hvalue h with h | h | h
      · exact .inl h
      · exact .inr (.inl h)
      · exact .inr (.inr (.inl h))

-- ════════════════════════════════════════════════════════════════════════
-- Codes are read back
-- ════════════════════════════════════════════════════════════════════════

theorem textOfCode_textCode (cs : List Char) : textOfCode (textCode cs) = cs := by
  have hsplit : Text.splitAtChar ',' [] (textCode cs) =
      (cs.map fun c => Nat.toDigits 10 c.toNat) ++ [[]] := by
    induction cs with
    | nil => rfl
    | cons c rest ih =>
      have hplain : ',' ∉ Nat.toDigits 10 c.toNat := fun h => by
        have hdigit := isDigit_of_mem h
        cases hdigit
      rw [textCode] at ih
      rw [textCode, List.flatMap_cons, List.append_assoc, List.singleton_append,
        Text.splitAtChar_append hplain, ih]
      rfl
  rw [textOfCode, hsplit, List.dropLast_concat, List.map_map]
  refine (List.map_congr_left fun c _ => ?_).trans (List.map_id _)
  show Char.ofNat (Nat.ofDigitChars 10 (Nat.toDigits 10 c.toNat) 0) = c
  rw [Nat.ofDigitChars_ten_toDigits, Char.ofNat_toNat]

theorem valueOfCode_valueCode {v : Value} {code : List Char} (h : valueCode v = some code) :
    valueOfCode code = v := by
  unfold valueCode at h
  split at h
  · rename_i s
    cases h
    unfold valueOfCode
    split
    · rename_i digits heq
      have hsign : '=' ∈ textCode s.toList := by simp [heq]
      exact absurd hsign (not_mem_textCode (by decide) (by decide))
    · rw [textOfCode_textCode, String.ofList_toList]
  · cases h
    rw [valueOfCode, Nat.ofDigitChars_ten_toDigits]
    rfl
  · cases h

theorem entryOfCode_entryCode {entry : String × Value} {code : List Char}
    (h : entryCode entry = some code) : entryOfCode code = some entry := by
  obtain ⟨value, hvalue, rfl⟩ := Option.map_eq_some_iff.1 h
  have hkey : ':' ∉ textCode entry.1.toList := not_mem_textCode (by decide) (by decide)
  have hplain : ':' ∉ value := fun hmem => by
    rcases valueCode_chars hvalue hmem with h | h | h <;> cases h
  rw [entryOfCode, Text.splitAtChar_append hkey, Text.splitAtChar_plain hplain]
  simp only [List.reverse_nil, List.nil_append, textOfCode_textCode, String.ofList_toList,
    valueOfCode_valueCode hvalue]

/-- The entries that are written. -/
def written (d : Dict) : Dict := d.filter fun entry => (entryCode entry).isSome

theorem entries_back (d : Dict) : (d.filterMap entryCode).filterMap entryOfCode = written d := by
  induction d with
  | nil => rfl
  | cons entry rest ih =>
    rw [written] at ih ⊢
    cases hcode : entryCode entry with
    | none => rw [List.filterMap_cons_none hcode, List.filter_cons_of_neg (by simp [hcode]), ih]
    | some code =>
      rw [List.filterMap_cons_some hcode, List.filterMap_cons_some (entryOfCode_entryCode hcode),
        List.filter_cons_of_pos (by simp [hcode]), ih]

theorem loads_dumps (d : Dict) : loads (dumps d) = .ok (.dict (written d)) := by
  have hsplit : Text.splitAtChar ';' []
      ((d.filterMap entryCode).flatMap fun code => code ++ [';']) = d.filterMap entryCode ++ [[]] := by
    induction d with
    | nil => rfl
    | cons entry rest ih =>
      cases hcode : entryCode entry with
      | none => rw [List.filterMap_cons_none hcode, ih]
      | some code =>
        have hplain : ';' ∉ code := fun h => by
          rcases entryCode_chars hcode h with h | h | h | h <;> cases h
        rw [List.filterMap_cons_some hcode, List.flatMap_cons, List.append_assoc,
          List.singleton_append, Text.splitAtChar_append hplain, ih]
        rfl
  rw [loads, dumps, String.toList_ofList]
  simp only [hsplit, List.dropLast_concat, entries_back]

theorem get_written {d : Dict} {key s : String} (h : Dict.get d key = .str s) :
    Dict.get (written d) key = .str s := by
  induction d with
  | nil => exact h
  | cons entry rest ih =>
    obtain ⟨k, v⟩ := entry
    rw [Dict.get_cons] at h
    by_cases hkey : key = k
    · rw [if_pos hkey] at h
      rw [written, List.filter_cons_of_pos (by simp [entryCode, valueCode, h]), Dict.get_cons,
        if_pos hkey, h]
    · rw [if_neg hkey] at h
      have hlater := ih h
      rw [written, List.filter_cons]
      split
      · rw [Dict.get_cons, if_neg hkey]
        exact hlater
      · exact hlater

theorem dumps_chars {d : Dict} {c : Char} (h : c ∈ (dumps d).toList) : isCodeChar c = true := by
  rw [dumps, String.toList_ofList] at h
  rcases List.mem_cons.1 h with rfl | h
  · decide
  · obtain ⟨code, hcode, h⟩ := List.mem_flatMap.1 h
    obtain ⟨entry, -, hcode⟩ := List.mem_filterMap.1 hcode
    rcases List.mem_append.1 h with h | h
    · rcases entryCode_chars hcode h with h | rfl | rfl | rfl
      · simp [isCodeChar, h]
      all_goals decide
    · rw [List.mem_singleton.1 h]
      decide

end PlainJson

/-- A reader and writer of plain mappings. -/
@[reducible] def plainJson : EventJson where
  loads := PlainJson.loads
  dumps := PlainJson.dumps
  dumps_ne_blank d := by
    have hstart : Text.StartsSolid (PlainJson.dumps d) :=
      ⟨'{', _, String.toList_ofList, by decide⟩
    rw [Text.isBlank, decide_eq_false_iff_not]
    exact Text.strip_ne_of_startsSolid hstart
  dumps_line d c h := PlainJson.isLineBreak_codeChar (PlainJson.dumps_chars h)
  loads_dumps d := ⟨_, PlainJson.loads_dumps d, fun _ _ => PlainJson.get_written⟩

end Taskledger
