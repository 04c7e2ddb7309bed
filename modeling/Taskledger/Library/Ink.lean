import Taskledger.Library.Lines

/-!
# Ink and line breaks

The characters of a text that are no blanks are kept when it is stripped, cut into lines and
joined again. A text comes back from its lines when newlines are its only line breaks.
-/

namespace Library

namespace Text

variable {s t : String}

-- ════════════════════════════════════════════════════════════════════════
-- Ink
-- ════════════════════════════════════════════════════════════════════════

/-- The characters of a text that are no blanks. -/
def ink (s : String) : List Char := s.toList.filter fun c => !isSpace c

@[simp]
theorem ink_append (s t : String) : ink (s ++ t) = ink s ++ ink t := by
  simp [ink]

theorem filter_dropWhile {p q : Char → Bool} (h : ∀ c, q c = true → p c = false) (cs : List Char) :
    (cs.dropWhile q).filter p = cs.filter p := by
  induction cs with
  | nil => rfl
  | cons c cs ih =>
    by_cases hc : q c = true
    · rw [List.dropWhile_cons_of_pos hc, ih, List.filter_cons_of_neg (by simp [h c hc])]
    · rw [List.dropWhile_cons_of_neg hc]

theorem filter_dropTrailing {p q : Char → Bool} (h : ∀ c, q c = true → p c = false)
    (cs : List Char) : (dropTrailing q cs).filter p = cs.filter p := by
  rw [dropTrailing, List.filter_reverse, filter_dropWhile h, List.filter_reverse,
    List.reverse_reverse]

@[simp]
theorem ink_strip (s : String) : ink (strip s) = ink s := by
  have hspace : ∀ c, isSpace c = true → (!isSpace c) = false := fun c hc => by simp [hc]
  rw [ink, strip, String.toList_ofList, filter_dropTrailing hspace, filter_dropWhile hspace, ink]

@[simp]
theorem ink_rstrip (s : String) : ink (rstrip s) = ink s := by
  have hspace : ∀ c, isSpace c = true → (!isSpace c) = false := fun c hc => by simp [hc]
  rw [ink, rstrip, String.toList_ofList, filter_dropTrailing hspace, ink]

@[simp]
theorem ink_normalizeNewlines (s : String) : ink (normalizeNewlines s) = ink s := by
  have hcr : isSpace '\r' = true := by decide
  have hlf : isSpace '\n' = true := by decide
  have hfilter (afterCr : Bool) (cs : List Char) :
      (unifyLineEnds afterCr cs).filter (fun c => !isSpace c) = cs.filter fun c => !isSpace c := by
    induction cs generalizing afterCr with
    | nil => rfl
    | cons c cs ih =>
      rw [unifyLineEnds]
      split
      · rename_i hc
        simp [hc, hcr, hlf, ih]
      · split
        · rename_i hc
          simp [hc.1, hlf, ih]
        · simp [List.filter_cons, ih]
  rw [ink, normalizeNewlines, String.toList_ofList, hfilter, ink]

/-- The line ends of joined lines are blanks. -/
theorem ink_join (ls : List String) : ink (join "\n" ls) = ls.flatMap ink := by
  induction ls with
  | nil => rfl
  | cons a rest ih =>
    cases rest with
    | nil => simp [join]
    | cons b rest =>
      have hend : ink "\n" = [] := by decide
      rw [join_cons (List.cons_ne_nil _ _), ink_append, ink_append, hend, List.append_nil, ih]
      rfl

theorem isSpace_of_isLineBreak {c : Char} (h : isLineBreak c = true) : isSpace c = true := by
  have hmem : c.toNat ∈ [0x0a, 0x0b, 0x0c, 0x0d, 0x1c, 0x1d, 0x1e, 0x85, 0x2028, 0x2029] := by
    simpa [isLineBreak] using h
  unfold isSpace
  simp only [decide_eq_true_eq, List.mem_cons, List.not_mem_nil, or_false] at hmem ⊢
  omega

/-- Cutting a text into its lines loses no ink. -/
theorem ink_splitlines (s : String) : (splitlines s).flatMap ink = ink s := by
  -- a line that ended with a carriage return is already there when its newline comes
  have hlines (line : List Char) (afterCr : Bool) (cs : List Char)
      (hline : afterCr = true → line = []) :
      (linesFrom line afterCr cs).flatMap (fun l => l.filter fun c => !isSpace c) =
        (line.reverse ++ cs).filter fun c => !isSpace c := by
    induction cs generalizing line afterCr with
    | nil =>
      cases line with
      | nil => rfl
      | cons c line => simp [linesFrom]
    | cons c cs ih =>
      rw [linesFrom]
      split
      · rename_i hend
        rw [Bool.and_eq_true, beq_iff_eq] at hend
        have hlf : isSpace '\n' = true := by decide
        rw [ih [] false (by simp), hline hend.1, hend.2]
        simp [hlf]
      · split
        · rename_i hbreak
          rw [List.flatMap_cons, ih [] _ (by simp)]
          simp [isSpace_of_isLineBreak hbreak]
        · rw [ih (c :: line) false (by simp)]
          simp
  have hall := hlines [] false s.toList (by simp)
  rw [splitlines, List.flatMap_map]
  simpa [ink, Function.comp_def] using hall

-- ════════════════════════════════════════════════════════════════════════
-- Line breaks
-- ════════════════════════════════════════════════════════════════════════

/-- Newlines are the only line breaks of the text. -/
def OnlyNewlines (s : String) : Prop := ∀ c ∈ s.toList, isLineBreak c = true → c = '\n'

instance : Decidable (OnlyNewlines s) :=
  List.decidableBAll (fun c => isLineBreak c = true → c = '\n') s.toList

/-- No line of a text has a line break in it. -/
theorem isLineBreak_of_mem_splitlines {l : String} (hl : l ∈ splitlines s) :
    ∀ c ∈ l.toList, isLineBreak c = false := by
  have hlines (line : List Char) (afterCr : Bool) (cs : List Char)
      (hline : ∀ c ∈ line, isLineBreak c = false) :
      ∀ l ∈ linesFrom line afterCr cs, ∀ c ∈ l, isLineBreak c = false := by
    induction cs generalizing line afterCr with
    | nil =>
      rw [linesFrom]
      split
      · simp
      · simpa using hline
    | cons c cs ih =>
      rw [linesFrom]
      split
      · exact ih [] false (by simp)
      · split
        · exact List.forall_mem_cons.2 ⟨by simpa using hline, ih [] _ (by simp)⟩
        · rename_i hbreak
          exact ih (c :: line) false (List.forall_mem_cons.2 ⟨by simpa using hbreak, hline⟩)
  obtain ⟨cs, hcs, rfl⟩ := List.mem_map.1 hl
  simpa using hlines [] false s.toList (by simp) cs hcs

theorem onlyNewlines_join {ls : List String}
    (h : ∀ l ∈ ls, ∀ c ∈ l.toList, isLineBreak c = false) : OnlyNewlines (join "\n" ls) := by
  intro c hc hbreak
  rcases mem_join hc with rfl | ⟨l, hl, hcl⟩
  · rfl
  · rw [h l hl c hcl] at hbreak
    cases hbreak

/-- The lines before a newline and those after it. -/
theorem splitlines_newline (s t : String) :
    splitlines (s ++ "\n" ++ t) = splitlines (s ++ "\n") ++ splitlines t := by
  have htext : (s ++ "\n" ++ t).toList = s.toList ++ '\n' :: t.toList := by simp
  have hfirst : (s ++ "\n").toList = s.toList ++ ['\n'] := by simp
  rw [splitlines, splitlines, splitlines, htext, hfirst, linesFrom_append, List.map_append]

/-- A text whose only line breaks are newlines is cut at them. -/
theorem splitlines_of_onlyNewlines (h : OnlyNewlines s) :
    splitlines (s ++ "\n") = splitOn '\n' s := by
  have hlines (line cs : List Char) (hcs : ∀ c ∈ cs, isLineBreak c = true → c = '\n') :
      linesFrom line false (cs ++ ['\n']) = splitAtChar '\n' line cs := by
    have hlf : isLineBreak '\n' = true := by decide
    induction cs generalizing line with
    | nil => simp [linesFrom, splitAtChar, hlf]
    | cons c cs ih =>
      obtain ⟨hc, hrest⟩ := List.forall_mem_cons.1 hcs
      rw [List.cons_append, linesFrom, splitAtChar, Bool.false_and, if_neg Bool.false_ne_true]
      by_cases hnew : c = '\n'
      · subst hnew
        have hcr : ('\n' == '\r') = false := by decide
        rw [if_pos hlf, if_pos rfl, hcr, ih [] hrest]
      · rw [if_neg (fun hbreak => hnew (hc hbreak)), if_neg hnew, ih (c :: line) hrest]
  have hfirst : (s ++ "\n").toList = s.toList ++ ['\n'] := by simp
  rw [splitlines, splitOn, hfirst, hlines [] s.toList h]

/-- A text comes back from its lines exactly when newlines are its only line breaks. -/
theorem join_splitlines_iff : join "\n" (splitlines (s ++ "\n")) = s ↔ OnlyNewlines s := by
  constructor
  · intro h
    rw [← h]
    exact onlyNewlines_join fun l hl => isLineBreak_of_mem_splitlines hl
  · intro h
    rw [splitlines_of_onlyNewlines h, join_splitOn]

-- ════════════════════════════════════════════════════════════════════════
-- Stripped texts
-- ════════════════════════════════════════════════════════════════════════

theorem EndsSolid.rstrip_eq (h : EndsSolid s) : rstrip s = s := by
  obtain ⟨cs, c, hcs, hc⟩ := h
  rw [rstrip, hcs, dropTrailing_concat, if_neg (by simp [hc]), ← hcs, String.ofList_toList]

/-- A line end before a text is a blank. -/
theorem strip_newline_append (s : String) : strip ("\n" ++ s) = strip s := by
  have hlf : isSpace '\n' = true := by decide
  have htext : ("\n" ++ s).toList = '\n' :: s.toList := by simp
  rw [strip, strip, htext, List.dropWhile_cons_of_pos hlf]

/-- A character that is no blank is no line end. -/
theorem ne_of_not_isSpace {c : Char} (h : isSpace c = false) : c ≠ '\r' ∧ c ≠ '\n' := by
  constructor
  · rintro rfl
    revert h
    decide
  · rintro rfl
    revert h
    decide

theorem StartsSolid.normalizeNewlines (h : StartsSolid s) : StartsSolid (normalizeNewlines s) := by
  obtain ⟨c, cs, hcs, hc⟩ := h
  refine ⟨c, unifyLineEnds false cs, ?_, hc⟩
  rw [Text.normalizeNewlines, String.toList_ofList, hcs, unifyLineEnds,
    if_neg (ne_of_not_isSpace hc).1, if_neg (fun h => (ne_of_not_isSpace hc).2 h.1)]

theorem EndsSolid.normalizeNewlines (h : EndsSolid s) : EndsSolid (normalizeNewlines s) := by
  obtain ⟨cs, c, hcs, hc⟩ := h
  refine ⟨unifyLineEnds false cs, c, ?_, hc⟩
  rw [Text.normalizeNewlines, String.toList_ofList, hcs,
    unifyLineEnds_concat (ne_of_not_isSpace hc).1 (ne_of_not_isSpace hc).2]

/-- A text that is stripped already is empty or has solid ends. -/
theorem solid_of_strip_eq (h : strip s = s) : s = "" ∨ StartsSolid s ∧ EndsSolid s := by
  by_cases hempty : s = ""
  · exact .inl hempty
  · have hsolid := solid_strip (h.symm ▸ hempty)
    rw [h] at hsolid
    exact .inr hsolid

end Text

end Library
