import Taskledger.Library.Toml

/-!
# A reader of TOML to evaluate with

Expressions of one line: bare keys, plain strings, whole numbers, and headers of one name.
-/

namespace Taskledger

open Library

namespace PlainToml

/-- What a value says; `text` is the rest of its line. -/
def valueOf (text : List Char) : Option Value :=
  match text with
  | '"' :: more =>
    if more.getLast? = some '"' ∧ more.dropLast.all Toml.isPlainChar then
      some (.str (String.ofList more.dropLast))
    else none
  | digits =>
    if digits ≠ [] ∧ digits.all Char.isDigit then some (.int (Nat.ofDigitChars 10 digits 0))
    else none

def headerOf (text : List Char) : Option TomlExpression :=
  if text.getLast? = some ']' ∧ text.dropLast ≠ [] ∧ text.dropLast.all Toml.isBareChar then
    some (.header ⟨[String.ofList text.dropLast], false⟩)
  else none

/-- What follows a key: the sign, and a value. -/
def assignmentOf (key : List Char) : List Char → Option TomlExpression
  | '=' :: value =>
    (valueOf (value.dropWhile Text.isSpace)).map (.assignment [String.ofList key])
  | _ => none

/-- A line that starts with no blank. -/
def lineOf : List Char → Option TomlExpression
  | [] => some .blank
  | '#' :: comment => if '\n' ∉ comment then some .blank else none
  | '[' :: header => headerOf header
  | line =>
    assignmentOf (line.takeWhile Toml.isBareChar)
      ((line.dropWhile Toml.isBareChar).dropWhile Text.isSpace)

def expression (text : String) : Option TomlExpression :=
  lineOf (text.toList.dropWhile Text.isSpace)

/-- Keys are defined once, and so are tables, under names that are no keys. -/
def consistent (root : List (List String)) (tables : List (TomlHeader × List (List String))) :
    Bool :=
  decide (root.Nodup ∧ (tables.map fun t => t.1.name).Nodup ∧
    ∀ t ∈ tables, t.2.Nodup ∧ t.1.name.head? ∉ root.map List.head?)

theorem not_isSpace_of_isBareChar {c : Char} (h : Toml.isBareChar c = true) :
    Text.isSpace c = false := by
  rw [Text.isSpace, decide_eq_false_iff_not]
  delta Toml.isBareChar Char.isAlphanum Char.isAlpha Char.isUpper Char.isLower Char.isDigit at h
  simp only [Bool.or_eq_true, decide_eq_true_eq, Bool.and_eq_true] at h
  simp only [List.mem_cons, List.not_mem_nil, or_false, not_or]
  rcases h with ((((⟨hlow, hhigh⟩ | ⟨hlow, hhigh⟩) | ⟨hlow, hhigh⟩) | rfl) | rfl)
  · have hrange : 65 ≤ c.toNat ∧ c.toNat ≤ 90 := ⟨hlow, hhigh⟩
    omega
  · have hrange : 97 ≤ c.toNat ∧ c.toNat ≤ 122 := ⟨hlow, hhigh⟩
    omega
  · have hrange : 48 ≤ c.toNat ∧ c.toNat ≤ 57 := ⟨hlow, hhigh⟩
    omega
  · decide
  · decide

/-- A bare key and the sign are found. -/
theorem expression_bareKey {blanks blanks' rest : List Char} {k : String} (hkey : Toml.IsBareKey k)
    (hblanks : ∀ c ∈ blanks, Text.isSpace c = true)
    (hblanks' : ∀ c ∈ blanks', Text.isSpace c = true) :
    expression (String.ofList (blanks ++ (k.toList ++ (blanks' ++ '=' :: rest)))) =
      (valueOf (rest.dropWhile Text.isSpace)).map (.assignment [k]) := by
  obtain ⟨hne, hbare⟩ := hkey
  have hkeep : (k.toList ++ (blanks' ++ '=' :: rest)).takeWhile Toml.isBareChar = k.toList ∧
      (k.toList ++ (blanks' ++ '=' :: rest)).dropWhile Toml.isBareChar = blanks' ++ '=' :: rest := by
    rw [List.takeWhile_append_of_pos hbare, List.dropWhile_append_of_pos hbare]
    cases blanks' with
    | nil => exact ⟨List.append_nil _, rfl⟩
    | cons b others =>
      have hb : Toml.isBareChar b = false := by
        by_contra hbare'
        rw [Bool.not_eq_false] at hbare'
        have hsolid := not_isSpace_of_isBareChar hbare'
        rw [hblanks' b List.mem_cons_self] at hsolid
        cases hsolid
      rw [List.cons_append, List.takeWhile_cons_of_neg (by simp [hb]),
        List.dropWhile_cons_of_neg (by simp [hb])]
      exact ⟨List.append_nil _, rfl⟩
  have hsign : (blanks' ++ '=' :: rest).dropWhile Text.isSpace = '=' :: rest := by
    rw [List.dropWhile_append_of_pos hblanks']
    rfl
  cases hk : k.toList with
  | nil => exact absurd (String.toList_injective hk) hne
  | cons c cs =>
    have hc := hbare c (by simp [hk])
    rw [hk] at hkeep
    have hline : lineOf (c :: cs ++ (blanks' ++ '=' :: rest)) =
        assignmentOf (c :: cs) ('=' :: rest) := by
      rw [List.cons_append, lineOf]
      · rw [List.cons_append] at hkeep
        rw [hkeep.1, hkeep.2, hsign]
      · exact nofun
      · rintro comment heq
        cases heq
        cases hc
      · rintro header heq
        cases heq
        cases hc
    rw [expression, String.toList_ofList, List.dropWhile_append_of_pos hblanks, List.cons_append,
      List.dropWhile_cons_of_neg (by simp [not_isSpace_of_isBareChar hc]), ← List.cons_append,
      hline, assignmentOf, ← hk, String.ofList_toList]

theorem isSpace_of_mem : ∀ c ∈ [' '], Text.isSpace c = true := by
  intro c hc
  rw [List.mem_singleton.1 hc]
  decide

theorem valueOf_string {s : String} (h : Toml.IsPlain s) :
    valueOf ('"' :: (s.toList ++ ['"'])) = some (.str s) := by
  rw [valueOf, if_pos]
  · simp
  · refine ⟨by simp, ?_⟩
    rw [List.dropLast_concat, List.all_eq_true]
    exact h

theorem valueOf_number (n : Nat) : valueOf (Nat.toDigits 10 n) = some (.int n) := by
  have hdigits : ∀ c ∈ Nat.toDigits 10 n, c.isDigit = true := fun c hc =>
    Nat.isDigit_of_mem_toDigits (by decide) (by decide) hc
  unfold valueOf
  split
  · rename_i more heq
    have hquote := hdigits '"' (by simp [heq])
    cases hquote
  · rw [if_pos ⟨Nat.toDigits_ne_nil, List.all_eq_true.2 hdigits⟩, Nat.ofDigitChars_ten_toDigits]

end PlainToml

/-- A reader of plain lines. -/
@[reducible] def plainToml : TomlReader where
  expression := PlainToml.expression
  reason text := text
  consistent := PlainToml.consistent
  expression_empty := rfl
  expression_comment s hs := by
    have hline : '\n' ∉ s.toList := fun hmem => by cases hs _ hmem
    have htext : ("#" ++ s).toList = '#' :: s.toList := by simp
    rw [PlainToml.expression, htext, List.dropWhile_cons_of_neg (by decide), PlainToml.lineOf,
      if_pos hline]
  expression_string k s hk hs := by
    have htext : k ++ " = \"" ++ s ++ "\"" = String.ofList ([] ++ (k.toList ++ ([' '] ++
        '=' :: (' ' :: '"' :: (s.toList ++ ['"']))))) := by
      apply String.toList_injective
      simp
    rw [htext, PlainToml.expression_bareKey hk (List.forall_mem_nil _) PlainToml.isSpace_of_mem,
      List.dropWhile_cons_of_pos (by decide), List.dropWhile_cons_of_neg (by decide),
      PlainToml.valueOf_string hs]
    rfl
  expression_number k n hk := by
    have htext : k ++ " = " ++ Nat.repr n = String.ofList ([] ++ (k.toList ++ ([' '] ++
        '=' :: (' ' :: Nat.toDigits 10 n)))) := by
      apply String.toList_injective
      simp
    have hdrop : (Nat.toDigits 10 n).dropWhile Text.isSpace = Nat.toDigits 10 n := by
      cases hdigits : Nat.toDigits 10 n with
      | nil => rfl
      | cons c cs =>
        have hdigit : c.isDigit = true :=
          Nat.isDigit_of_mem_toDigits (n := n) (b := 10) (by decide) (by decide) (by simp [hdigits])
        have hbare : Toml.isBareChar c = true := by simp [Toml.isBareChar, Char.isAlphanum, hdigit]
        exact List.dropWhile_cons_of_neg (by simp [PlainToml.not_isSpace_of_isBareChar hbare])
    rw [htext, PlainToml.expression_bareKey hk (List.forall_mem_nil _) PlainToml.isSpace_of_mem,
      List.dropWhile_cons_of_pos (by decide), hdrop, PlainToml.valueOf_number]
    rfl
  expression_bareKey blanks k blanks' rest e hk hblanks hblanks' he := by
    rw [PlainToml.expression_bareKey hk hblanks hblanks'] at he
    obtain ⟨v, -, rfl⟩ := Option.map_eq_some_iff.1 he
    exact ⟨v, rfl⟩
  consistent_empty := rfl
  consistent_nodup root tables h := by
    simp only [PlainToml.consistent, decide_eq_true_eq] at h
    exact h.1
  consistent_concat root tables k h hroot htables := by
    simp only [PlainToml.consistent, decide_eq_true_eq] at h ⊢
    obtain ⟨hnodup, hnames, hall⟩ := h
    refine ⟨?_, hnames, fun t ht => ⟨(hall t ht).1, ?_⟩⟩
    · refine List.nodup_append.2 ⟨hnodup, List.nodup_singleton _, fun a ha b hb heq => ?_⟩
      refine hroot a ha ?_
      rw [heq, List.mem_singleton.1 hb]
      rfl
    · rw [List.map_append, List.mem_append, not_or]
      refine ⟨(hall t ht).2, fun hmem => htables t ht ?_⟩
      simpa using hmem

end Taskledger
