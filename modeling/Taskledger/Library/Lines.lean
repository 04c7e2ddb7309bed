import Taskledger.Library.PlainData

/-!
# Lines of a text

Texts as lines that were joined, as lines that were appended one by one, and with solid ends.
-/

namespace Library

namespace Text

-- ════════════════════════════════════════════════════════════════════════
-- Lines
-- ════════════════════════════════════════════════════════════════════════

theorem splitAtChar_plain {sep : Char} {part xs : List Char} (h : sep ∉ xs) :
    splitAtChar sep part xs = [part.reverse ++ xs] := by
  induction xs generalizing part with
  | nil => simp [splitAtChar]
  | cons c cs ih =>
    rw [List.mem_cons, not_or] at h
    rw [splitAtChar, if_neg (Ne.symm h.1), ih h.2]
    simp

theorem splitAtChar_append {sep : Char} {part xs ys : List Char} (h : sep ∉ xs) :
    splitAtChar sep part (xs ++ sep :: ys) = (part.reverse ++ xs) :: splitAtChar sep [] ys := by
  induction xs generalizing part with
  | nil => simp [splitAtChar]
  | cons c cs ih =>
    rw [List.mem_cons, not_or] at h
    rw [List.cons_append, splitAtChar, if_neg (Ne.symm h.1), ih h.2]
    simp

theorem join_singleton {sep a : String} : join sep [a] = a := rfl

theorem join_cons {sep a : String} {rest : List String} (h : rest ≠ []) :
    join sep (a :: rest) = a ++ sep ++ join sep rest := by
  cases rest with
  | nil => exact absurd rfl h
  | cons b rest => rfl

/-- Lines that were joined are found again. -/
theorem splitOn_join {ls : List String} (hne : ls ≠ []) (h : ∀ l ∈ ls, '\n' ∉ l.toList) :
    splitOn '\n' (join "\n" ls) = ls := by
  induction ls with
  | nil => exact absurd rfl hne
  | cons a rest ih =>
    obtain ⟨ha, hrest⟩ := List.forall_mem_cons.1 h
    cases rest with
    | nil => simp [join, splitOn, splitAtChar_plain ha]
    | cons b rest =>
      have hjoin : (join "\n" (a :: b :: rest)).toList =
          a.toList ++ '\n' :: (join "\n" (b :: rest)).toList := by
        rw [join_cons (List.cons_ne_nil _ _)]
        simp
      have hlater := ih (List.cons_ne_nil _ _) hrest
      rw [splitOn, hjoin, splitAtChar_append ha, List.map_cons]
      rw [splitOn] at hlater
      rw [hlater]
      simp

theorem splitAtChar_ne_nil {sep : Char} {part cs : List Char} : splitAtChar sep part cs ≠ [] := by
  induction cs generalizing part with
  | nil => simp [splitAtChar]
  | cons c cs ih =>
    rw [splitAtChar]
    split
    · exact List.cons_ne_nil _ _
    · exact ih

theorem splitOn_ne_nil {sep : Char} {s : String} : splitOn sep s ≠ [] := by
  rw [splitOn, Ne, List.map_eq_nil_iff]
  exact splitAtChar_ne_nil

/-- A text that is split in two was cut at its only separator. -/
theorem splitOn_eq_pair {sep : Char} {s a b : String} : splitOn sep s = [a, b] ↔
    s = a ++ String.singleton sep ++ b ∧ sep ∉ a.toList ∧ sep ∉ b.toList := by
  have htexts : s = a ++ String.singleton sep ++ b ↔
      s.toList = a.toList ++ sep :: b.toList := by
    rw [← String.toList_inj]
    simp
  rw [htexts]
  constructor
  · intro h
    by_cases hs : sep ∈ s.toList
    · obtain ⟨xs, ys, hsplit, hxs⟩ := List.eq_append_cons_of_mem hs
      rw [splitOn, hsplit, splitAtChar_append hxs, List.map_cons] at h
      obtain ⟨hfirst, hrest⟩ := List.cons.inj h
      by_cases hys : sep ∈ ys
      · obtain ⟨xs', ys', rfl, hxs'⟩ := List.eq_append_cons_of_mem hys
        rw [splitAtChar_append hxs', List.map_cons] at hrest
        exact absurd (List.map_eq_nil_iff.1 (List.cons.inj hrest).2) splitAtChar_ne_nil
      · rw [splitAtChar_plain hys, List.map_singleton] at hrest
        subst hfirst
        cases hrest
        refine ⟨?_, ?_, ?_⟩
        · simpa using hsplit
        · simpa using hxs
        · simpa using hys
    · rw [splitOn, splitAtChar_plain hs] at h
      cases h
  · rintro ⟨hs, ha, hb⟩
    rw [splitOn, hs, splitAtChar_append ha, splitAtChar_plain hb]
    simp

/-- The lines of a text, joined, are the text. -/
theorem join_splitAtChar {part cs : List Char} :
    join "\n" ((splitAtChar '\n' part cs).map String.ofList) =
      String.ofList (part.reverse ++ cs) := by
  induction cs generalizing part with
  | nil => simp [splitAtChar, join]
  | cons c cs ih =>
    rw [splitAtChar]
    split
    · rename_i hc
      have hne : (splitAtChar '\n' [] cs).map String.ofList ≠ [] := by
        rw [Ne, List.map_eq_nil_iff]
        exact splitAtChar_ne_nil
      rw [List.map_cons, join_cons hne, ih, hc]
      apply String.toList_injective
      simp
    · rw [ih]
      simp

theorem join_splitOn {s : String} : join "\n" (splitOn '\n' s) = s := by
  rw [splitOn, join_splitAtChar]
  simp

/-- No part of a text that was split has the separator: no line has a line end. -/
theorem not_mem_splitOn {sep : Char} {s l : String} (h : l ∈ splitOn sep s) : sep ∉ l.toList := by
  have hparts (part cs : List Char) (hpart : sep ∉ part) :
      ∀ p ∈ splitAtChar sep part cs, sep ∉ p := by
    induction cs generalizing part with
    | nil => simpa [splitAtChar] using hpart
    | cons c cs ih =>
      rw [splitAtChar]
      split
      · exact List.forall_mem_cons.2 ⟨by simpa using hpart, ih [] (by simp)⟩
      · rename_i hc
        exact ih (c :: part) (by simpa [hpart] using Ne.symm hc)
  obtain ⟨p, hp, rfl⟩ := List.mem_map.1 h
  simpa using hparts [] s.toList (by simp) p hp

/-- A character of joined lines is a line end, or stands in a line. -/
theorem mem_join {ls : List String} {c : Char} (h : c ∈ (join "\n" ls).toList) :
    c = '\n' ∨ ∃ l ∈ ls, c ∈ l.toList := by
  induction ls with
  | nil => simp [join] at h
  | cons a rest ih =>
    cases rest with
    | nil => exact .inr ⟨a, List.mem_cons_self, h⟩
    | cons b rest =>
      rw [join_cons (List.cons_ne_nil _ _)] at h
      simp only [String.toList_append, List.mem_append] at h
      rcases h with (ha | hsep) | hrest
      · exact .inr ⟨a, List.mem_cons_self, ha⟩
      · exact .inl (by simpa using hsep)
      · rcases ih hrest with hend | ⟨l, hl, hc⟩
        · exact .inl hend
        · exact .inr ⟨l, List.mem_cons_of_mem _ hl, hc⟩

/-- Characters of the lines of a text are characters of the text. -/
theorem mem_of_mem_splitOn {s l : String} {c : Char} (hl : l ∈ splitOn '\n' s) (hc : c ∈ l.toList) :
    c ∈ s.toList := by
  have hparts (part cs : List Char) :
      ∀ p ∈ splitAtChar '\n' part cs, ∀ c ∈ p, c ∈ part ∨ c ∈ cs := by
    induction cs generalizing part with
    | nil => simp [splitAtChar]
    | cons d cs ih =>
      intro p hp c hc
      rw [splitAtChar] at hp
      split at hp
      · rcases List.mem_cons.1 hp with rfl | hp
        · exact .inl (List.mem_reverse.1 hc)
        · have hlater := ih [] p hp c hc
          simp only [List.not_mem_nil, false_or] at hlater
          exact .inr (List.mem_cons_of_mem _ hlater)
      · rcases ih (d :: part) p hp c hc with hc | hc
        · rcases List.mem_cons.1 hc with rfl | hc
          · exact .inr List.mem_cons_self
          · exact .inl hc
        · exact .inr (List.mem_cons_of_mem _ hc)
  obtain ⟨p, hp, rfl⟩ := List.mem_map.1 hl
  rw [String.toList_ofList] at hc
  simpa using hparts [] s.toList p hp c hc

theorem normalizeNewlines_of_not_mem {s : String} (h : '\r' ∉ s.toList) :
    normalizeNewlines s = s := by
  rw [normalizeNewlines, unifyLineEnds_of_not_mem h, String.ofList_toList]

theorem mem_of_mem_strip {s : String} {c : Char} (h : c ∈ (strip s).toList) : c ∈ s.toList := by
  rw [strip, String.toList_ofList, dropTrailing, List.mem_reverse] at h
  have hlast := (List.dropWhile_suffix _).mem h
  exact (List.dropWhile_suffix _).mem (List.mem_reverse.1 hlast)

-- ════════════════════════════════════════════════════════════════════════
-- Solid ends
-- ════════════════════════════════════════════════════════════════════════

/-- The text starts with a character that is no blank. -/
def StartsSolid (s : String) : Prop := ∃ c cs, s.toList = c :: cs ∧ isSpace c = false

/-- The text ends with a character that is no blank. -/
def EndsSolid (s : String) : Prop := ∃ cs c, s.toList = cs ++ [c] ∧ isSpace c = false

/-- A text with solid ends, and a line end, is stripped to the text. -/
theorem strip_solid {s : String} (hstart : StartsSolid s) (hend : EndsSolid s) :
    strip (s ++ "\n") = s ∧ strip s = s := by
  obtain ⟨c, cs, hcs, hc⟩ := hstart
  obtain ⟨ds, d, hds, hd⟩ := hend
  have hdrop (tail : List Char) : (s.toList ++ tail).dropWhile isSpace = s.toList ++ tail := by
    rw [hcs, List.cons_append, List.dropWhile_cons_of_neg (by simp [hc])]
  constructor
  · have htext : (s ++ "\n").toList = s.toList ++ ['\n'] := by simp
    rw [strip, htext, hdrop, dropTrailing_concat, if_pos (by decide), hds, dropTrailing_concat,
      if_neg (by simp [hd]), ← hds, String.ofList_toList]
  · have hself := hdrop []
    rw [List.append_nil] at hself
    rw [strip, hself, hds, dropTrailing_concat, if_neg (by simp [hd]), ← hds, String.ofList_toList]

/-- A first character that is kept stays the first. -/
theorem dropTrailing_cons {p : Char → Bool} {c : Char} {cs : List Char} (hc : p c = false) :
    dropTrailing p (c :: cs) = c :: dropTrailing p cs := by
  induction cs using List.reverseRecOn with
  | nil => simp [dropTrailing, hc]
  | append_singleton init d ih =>
    rw [← List.cons_append, dropTrailing_concat, dropTrailing_concat, ih]
    split <;> rfl

/-- A text with a solid start is not blank. -/
theorem strip_ne_of_startsSolid {s : String} (h : StartsSolid s) : strip s ≠ "" := by
  obtain ⟨c, cs, hcs, hc⟩ := h
  intro hempty
  have hlist := congrArg String.toList hempty
  rw [strip, String.toList_ofList, hcs, List.dropWhile_cons_of_neg (by simp [hc]),
    dropTrailing_cons hc] at hlist
  cases hlist

/-- A stripped text that is not empty has solid ends. -/
theorem solid_strip {s : String} (h : strip s ≠ "") :
    StartsSolid (strip s) ∧ EndsSolid (strip s) := by
  have hlist : (strip s).toList = dropTrailing isSpace (s.toList.dropWhile isSpace) := by
    simp [strip]
  have hne : dropTrailing isSpace (s.toList.dropWhile isSpace) ≠ [] := by
    intro hnil
    exact h (by rw [strip, hnil])
  constructor
  · cases hdrop : s.toList.dropWhile isSpace with
    | nil =>
      rw [hdrop] at hne
      exact absurd rfl hne
    | cons c cs =>
      have hc : isSpace c = false := by
        have hhead := List.head?_dropWhile_not isSpace s.toList
        rw [hdrop] at hhead
        simpa using hhead
      refine ⟨c, dropTrailing isSpace cs, ?_, hc⟩
      rw [hlist, hdrop, dropTrailing_cons hc]
  · rcases dropTrailing_last isSpace (s.toList.dropWhile isSpace) with hnil | ⟨init, c, hlast, hc⟩
    · exact absurd hnil hne
    · exact ⟨init, c, hlist.trans hlast, hc⟩

@[simp]
theorem strip_strip (s : String) : strip (strip s) = strip s := by
  by_cases h : strip s = ""
  · rw [h]
    rfl
  · obtain ⟨hstart, hend⟩ := solid_strip h
    exact (strip_solid hstart hend).2

theorem isSpace_of_isDigit {c : Char} (h : c.isDigit = true) : isSpace c = false := by
  have hrange : 48 ≤ c.toNat ∧ c.toNat ≤ 57 := by
    simpa [Char.isDigit, UInt32.le_iff_toNat_le] using h
  unfold isSpace
  simp only [decide_eq_false_iff_not, List.mem_cons, List.not_mem_nil, or_false]
  omega

/-- A number ends with a digit. -/
theorem endsSolid_fourDigits (n : Nat) : EndsSolid (fourDigits n) := by
  have hne : (Nat.toDigits 10 n) ≠ [] := Nat.toDigits_ne_nil
  have hlast := List.dropLast_append_getLast hne
  refine ⟨List.replicate (4 - (Nat.repr n).length) '0' ++ (Nat.toDigits 10 n).dropLast,
    (Nat.toDigits 10 n).getLast hne, ?_, isSpace_of_isDigit ?_⟩
  · rw [List.append_assoc, hlast]
    simp [fourDigits, Nat.repr]
  · exact Nat.isDigit_of_mem_toDigits (by decide) (by decide) (List.getLast_mem hne)

theorem StartsSolid.append {s t : String} (h : StartsSolid s) : StartsSolid (s ++ t) := by
  obtain ⟨c, cs, hcs, hc⟩ := h
  exact ⟨c, cs ++ t.toList, by simp [hcs], hc⟩

theorem EndsSolid.append {s t : String} (h : EndsSolid t) : EndsSolid (s ++ t) := by
  obtain ⟨cs, c, hcs, hc⟩ := h
  exact ⟨s.toList ++ cs, c, by simp [hcs], hc⟩

/-- Joined lines start as the first line does, and end as the last one does. -/
theorem startsSolid_join {a : String} {rest : List String} (h : StartsSolid a) :
    StartsSolid (join "\n" (a :: rest)) := by
  cases rest with
  | nil => exact h
  | cons b rest =>
    rw [join_cons (List.cons_ne_nil _ _), String.append_assoc]
    exact h.append

theorem endsSolid_join {ls : List String} {a : String} (h : EndsSolid a) :
    EndsSolid (join "\n" (ls ++ [a])) := by
  induction ls with
  | nil => exact h
  | cons b rest ih =>
    rw [List.cons_append, join_cons (by simp)]
    exact ih.append

theorem startsSolid_of_join {a : String} {rest : List String}
    (h : StartsSolid (join "\n" (a :: rest))) : StartsSolid a := by
  cases rest with
  | nil => exact h
  | cons b rest =>
    obtain ⟨c, cs, hcs, hc⟩ := h
    rw [join_cons (List.cons_ne_nil _ _)] at hcs
    cases ha : a.toList with
    | nil =>
      rw [String.toList_append, String.toList_append, ha] at hcs
      cases hcs
      cases hc
    | cons d ds =>
      rw [String.toList_append, String.toList_append, ha] at hcs
      cases hcs
      exact ⟨c, ds, ha, hc⟩

theorem endsSolid_of_join {ls : List String} {a : String} (h : EndsSolid (join "\n" (ls ++ [a]))) :
    EndsSolid a := by
  induction ls with
  | nil => exact h
  | cons b rest ih =>
    rw [List.cons_append, join_cons (by simp)] at h
    refine ih ?_
    obtain ⟨cs, c, hcs, hc⟩ := h
    rw [String.toList_append, String.toList_append] at hcs
    rcases List.eq_nil_or_concat (join "\n" (rest ++ [a])).toList with hnil | ⟨ds, d, hds⟩
    · rw [hnil, List.append_nil] at hcs
      obtain ⟨-, hlast⟩ := List.append_inj' hcs rfl
      cases hlast
      cases hc
    · rw [List.concat_eq_append] at hds
      rw [hds, ← List.append_assoc] at hcs
      obtain ⟨-, hlast⟩ := List.append_inj' hcs rfl
      cases hlast
      exact ⟨ds, _, hds, hc⟩

/-- A text with solid ends is read back, with or without a line end. -/
theorem strip_normalizeNewlines {s : String} (hstart : StartsSolid s) (hend : EndsSolid s)
    (hr : '\r' ∉ s.toList) :
    strip (normalizeNewlines s) = s ∧ strip (normalizeNewlines (s ++ "\n")) = s := by
  have hr' : '\r' ∉ (s ++ "\n").toList := by simpa using hr
  rw [normalizeNewlines_of_not_mem hr, normalizeNewlines_of_not_mem hr']
  exact ⟨(strip_solid hstart hend).2, (strip_solid hstart hend).1⟩

-- ════════════════════════════════════════════════════════════════════════
-- Appended lines
-- ════════════════════════════════════════════════════════════════════════

/-- What stands before a line end and what follows it are lines of their own. -/
theorem linesFrom_append {line cs ds : List Char} {afterCr : Bool} :
    linesFrom line afterCr (cs ++ '\n' :: ds) =
      linesFrom line afterCr (cs ++ ['\n']) ++ linesFrom [] false ds := by
  induction cs generalizing line afterCr with
  | nil =>
    simp only [List.nil_append, linesFrom]
    split
    · rfl
    · have hbreak : isLineBreak '\n' = true := by decide
      simp [hbreak]
  | cons c cs ih =>
    simp only [List.cons_append, linesFrom, ih]
    split
    · rfl
    · split
      · rw [List.cons_append]
      · rfl

theorem linesFrom_line {line ds : List Char} (h : ∀ c ∈ ds, isLineBreak c = false) :
    linesFrom line false (ds ++ ['\n']) = [line.reverse ++ ds] := by
  induction ds generalizing line with
  | nil =>
    have hbreak : isLineBreak '\n' = true := by decide
    simp [linesFrom, hbreak]
  | cons d ds ih =>
    obtain ⟨hd, hds⟩ := List.forall_mem_cons.1 h
    rw [List.cons_append, linesFrom, Bool.false_and, if_neg Bool.false_ne_true, hd,
      if_neg Bool.false_ne_true, ih hds]
    simp

/-- The text is empty, or its last line has ended. -/
def WholeLines (s : String) : Prop := s = "" ∨ ∃ init, s = init ++ "\n"

theorem wholeLines_append {s line : String} : WholeLines (s ++ line ++ "\n") := .inr ⟨_, rfl⟩

/-- A line that is appended to whole lines is the last one. -/
theorem splitlines_append {s line : String} (hs : WholeLines s)
    (h : ∀ c ∈ line.toList, isLineBreak c = false) :
    splitlines (s ++ line ++ "\n") = splitlines s ++ [line] := by
  have hline : linesFrom [] false (line.toList ++ ['\n']) = [line.toList] := linesFrom_line h
  rcases hs with rfl | ⟨init, rfl⟩
  · have htext : ("" ++ line ++ "\n").toList = line.toList ++ ['\n'] := by simp
    rw [splitlines, htext, hline]
    simp [splitlines, linesFrom]
  · have htext : (init ++ "\n" ++ line ++ "\n").toList =
        init.toList ++ '\n' :: (line.toList ++ ['\n']) := by simp
    have hinit : (init ++ "\n").toList = init.toList ++ ['\n'] := by simp
    rw [splitlines, splitlines, htext, hinit, linesFrom_append, hline, List.map_append]
    simp

end Text

end Library
