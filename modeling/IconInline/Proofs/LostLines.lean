import IconInline.Text.LostLines
import Mathlib.Data.List.Count
import Mathlib.Tactic.Common

/-!
# The report on lost lines

A line that one text holds more often than another is reported as often as it is in excess, and it
is the last occurrences that are reported. So a text that has only lost lines loses, up to their
order, the lines of the report.
-/

namespace IconInline.Proofs
open Text

/-- The entries of a list that come after as many equal ones as `kept` has, in their order. -/
def surplus (kept old : List (List Char)) : List (List Char) :=
  (old.zipIdx.filter fun e => kept.count e.1 ≤ (old.take e.2).count e.1).map Prod.fst

/-- A text loses whole lines, each with the line feed that ends it. -/
inductive LosesLines : List Char → List Char → List (List Char) → Prop where
  | nil : LosesLines [] [] []
  | keep {line before after : List Char} {lost : List (List Char)} (one_line : '\n' ∉ line)
    (rest : LosesLines before after lost) :
    LosesLines (line ++ '\n' :: before) (line ++ '\n' :: after) lost
  | lose {line before after : List Char} {lost : List (List Char)} (one_line : '\n' ∉ line)
    (rest : LosesLines before after lost) :
    LosesLines (line ++ '\n' :: before) after (dropReturn line :: lost)
  | keepLast {line : List Char} (one_line : '\n' ∉ line) : LosesLines line line []
  | loseLast {line : List Char} (one_line : '\n' ∉ line) (nonempty : line ≠ []) :
    LosesLines line [] [line]

/-- The entries of a report: what stands before each of its line feeds. -/
def reported (report : String) : List (List Char) := (report.toList.splitOn '\n').dropLast

/-- The entry that reports a line. -/
def entryOn (line : List Char) : List Char := '-' :: ' ' :: line

section Unmatched

variable {kept left old passed : List (List Char)} {line : List Char}

lemma unmatched_cons_of_mem (h : line ∈ kept) (rest : List (List Char)) :
    unmatched kept (line :: rest) = unmatched (kept.erase line) rest := by
  rw [unmatched, if_pos (List.contains_iff_mem.mpr h)]

lemma unmatched_cons_of_not_mem (h : line ∉ kept) (rest : List (List Char)) :
    unmatched kept (line :: rest) = line :: unmatched kept rest := by
  rw [unmatched, if_neg (mt List.contains_iff_mem.mp h)]

lemma count_unmatched (kept old : List (List Char)) (line : List Char) :
    (unmatched kept old).count line = old.count line - kept.count line := by
  induction old generalizing kept with
  | nil => simp [unmatched]
  | cons first rest ih =>
    by_cases hmem : first ∈ kept
    · have hpos := List.count_pos_iff.mpr hmem
      rw [unmatched_cons_of_mem hmem, ih, List.count_erase, List.count_cons]
      by_cases hline : first = line
      · subst hline
        simp only [beq_self_eq_true, if_true]
        omega
      · simp [hline]
    · have hzero := List.count_eq_zero.mpr hmem
      rw [unmatched_cons_of_not_mem hmem, List.count_cons, ih, List.count_cons]
      by_cases hline : first = line
      · subst hline
        rw [hzero]
        omega
      · simp [hline]

/-- Once some entries are passed, what is left to match are those of `kept` that they have not
claimed. -/
lemma unmatched_eq_filter (hleft : ∀ x, left.count x = kept.count x - passed.count x)
    (rest : List (List Char)) :
    unmatched left rest = ((rest.zipIdx passed.length).filter fun e =>
      kept.count e.1 ≤ ((passed ++ rest).take e.2).count e.1).map Prod.fst := by
  induction rest generalizing left passed with
  | nil => rfl
  | cons line rest ih =>
    have hpassed : passed ++ line :: rest = (passed ++ [line]) ++ rest := by simp
    have hlength : passed.length + 1 = (passed ++ [line]).length := by simp
    have hline := hleft line
    rw [List.zipIdx_cons, List.filter_cons, List.take_left, hpassed, hlength]
    by_cases hmem : line ∈ left
    · have hpos := List.count_pos_iff.mpr hmem
      rw [unmatched_cons_of_mem hmem, if_neg (by simp only [decide_eq_true_eq]; omega)]
      refine ih fun x => ?_
      rw [List.count_erase, List.count_append, List.count_singleton, hleft x]
      omega
    · have hzero := List.count_eq_zero.mpr hmem
      rw [unmatched_cons_of_not_mem hmem, if_pos (by simp only [decide_eq_true_eq]; omega),
        List.map_cons]
      congr 1
      refine ih fun x => ?_
      rw [List.count_append, List.count_singleton, hleft x]
      by_cases hx : x = line
      · subst hx
        omega
      · simp [Ne.symm hx]

lemma unmatched_eq_surplus (kept old : List (List Char)) :
    unmatched kept old = surplus kept old := by
  have hnone : ∀ x, kept.count x = kept.count x - ([] : List (List Char)).count x :=
    fun _ => (Nat.sub_zero _).symm
  exact unmatched_eq_filter hnone old

lemma unmatched_eq_nil_iff :
    unmatched kept old = [] ↔ ∀ line, old.count line ≤ kept.count line := by
  rw [List.eq_nil_iff_forall_not_mem]
  refine forall_congr' fun line => ?_
  rw [← List.count_eq_zero, count_unmatched, Nat.sub_eq_zero_iff_le]

lemma unmatched_perm {lost : List (List Char)} (h : old.Perm (kept ++ lost)) :
    (unmatched kept old).Perm lost := by
  rw [List.perm_iff_count]
  intro line
  rw [count_unmatched, h.count_eq, List.count_append, Nat.add_sub_cancel_left]

end Unmatched

section Lines

variable {line before after : List Char} {lost : List (List Char)}

lemma lines_append (one_line : '\n' ∉ line) (rest : List Char) :
    lines (line ++ '\n' :: rest) = dropReturn line :: lines rest := by
  obtain ⟨first, more, hrest⟩ := List.exists_cons_of_ne_nil (List.splitOn_ne_nil '\n' rest)
  simp [lines, splitOn_eq_listSplitOn, List.splitOn_append_cons_self,
    List.splitOn_eq_singleton one_line, hrest]

lemma lines_of_one (one_line : '\n' ∉ line) (nonempty : line ≠ []) : lines line = [line] := by
  simp [lines, splitOn_eq_listSplitOn, List.splitOn_eq_singleton one_line, nonempty]

lemma LosesLines.perm (h : LosesLines before after lost) :
    (lines before).Perm (lines after ++ lost) := by
  induction h with
  | nil => exact List.Perm.refl _
  | keep one_line rest ih =>
    rw [lines_append one_line, lines_append one_line]
    exact ih.cons _
  | lose one_line rest ih =>
    rw [lines_append one_line]
    exact (ih.cons _).trans List.perm_middle.symm
  | keepLast one_line => rw [List.append_nil]
  | loseLast one_line nonempty =>
    rw [lines_of_one one_line nonempty]
    exact List.Perm.refl _

lemma not_mem_dropReturn (one_line : '\n' ∉ line) : '\n' ∉ dropReturn line := by
  rw [dropReturn]
  split
  · exact fun hmem => one_line (List.dropLast_subset line hmem)
  · exact one_line

lemma not_mem_of_mem_lines {text : List Char} (h : line ∈ lines text) : '\n' ∉ line := by
  rw [lines, splitOn_eq_listSplitOn] at h
  rcases List.mem_append.mp h with hended | hlast
  · obtain ⟨piece, hpiece, rfl⟩ := List.mem_map.mp hended
    exact not_mem_dropReturn (not_mem_of_mem_splitOn (List.dropLast_subset _ hpiece))
  · rw [List.getLast?_eq_some_getLast (List.splitOn_ne_nil '\n' text), Option.getD_some] at hlast
    split at hlast
    · cases hlast
    · rw [List.mem_singleton.mp hlast]
      exact not_mem_of_mem_splitOn (List.getLast_mem _)

end Lines

section Entries

variable {before after line : List Char} {missing lost : List (List Char)}

lemma not_mem_of_mem_missingLines (h : line ∈ missingLines before after) : '\n' ∉ line := by
  have hcount := List.count_pos_iff.mpr h
  rw [missingLines, count_unmatched] at hcount
  exact not_mem_of_mem_lines (List.count_pos_iff.mp (Nat.lt_of_lt_of_le hcount (Nat.sub_le _ _)))

lemma splitOn_report (h : ∀ line ∈ missing, '\n' ∉ line) :
    (missing.flatMap fun line => entryOn line ++ ['\n']).splitOn '\n' =
      missing.map entryOn ++ [[]] := by
  induction missing with
  | nil => rfl
  | cons line rest ih =>
    obtain ⟨hline, hrest⟩ := List.forall_mem_cons.mp h
    have hentry : '\n' ∉ entryOn line := by simp [entryOn, hline]
    rw [List.flatMap_cons, List.append_assoc, List.singleton_append,
      List.splitOn_append_cons_self, List.splitOn_eq_singleton hentry, ih hrest]
    rfl

lemma reported_eq_map (before after : String) :
    reported (lostLines before after) =
      (missingLines before.toList after.toList).map entryOn := by
  have hlines : ∀ line ∈ missingLines before.toList after.toList, '\n' ∉ line :=
    fun _ => not_mem_of_mem_missingLines
  rw [reported, lostLines, String.toList_ofList]
  exact (congrArg List.dropLast (splitOn_report hlines)).trans List.dropLast_concat

lemma lostLines_eq_empty_iff (before after : String) :
    lostLines before after = "" ↔ missingLines before.toList after.toList = [] := by
  rw [lostLines, ← String.toList_inj, String.toList_ofList, String.toList_empty,
    List.flatMap_eq_nil_iff]
  constructor
  · intro h
    refine List.eq_nil_iff_forall_not_mem.mpr fun line hline => ?_
    cases h line hline
  · intro h
    rw [h]
    exact fun _ hmem => absurd hmem List.not_mem_nil

lemma entryOn_injective : Function.Injective entryOn := by
  intro a b h
  exact List.cons_inj_right _ |>.mp (List.cons_inj_right _ |>.mp h)

end Entries

/-- The report lists, in their order, the lines of a text that come after as many equal ones as the
other text holds: each line as often as it is in excess. It is empty just if no line is in excess,
and if lines were lost and no others came, it lists those. -/
theorem reported_lostLines (before after : String) :
    let old := lines before.toList
    let new := lines after.toList
    reported (lostLines before after) = (surplus new old).map entryOn ∧
      (∀ line, (reported (lostLines before after)).count (entryOn line) =
        old.count line - new.count line) ∧
      (lostLines before after = "" ↔ ∀ line, old.count line ≤ new.count line) ∧
      (∀ lost, old.Perm (new ++ lost) →
        (reported (lostLines before after)).Perm (lost.map entryOn)) ∧
      ∀ lost, LosesLines before.toList after.toList lost →
        (reported (lostLines before after)).Perm (lost.map entryOn) := by
  intro old new
  have hreported := reported_eq_map before after
  have hperm : ∀ lost, old.Perm (new ++ lost) →
      (reported (lostLines before after)).Perm (lost.map entryOn) := by
    intro lost hlost
    rw [hreported]
    exact (unmatched_perm hlost).map entryOn
  refine ⟨?_, ?_, ?_, hperm, fun lost hlost => hperm lost hlost.perm⟩
  · rw [hreported, missingLines, unmatched_eq_surplus]
  · intro line
    rw [hreported, List.count_map_of_injective _ _ entryOn_injective]
    exact count_unmatched new old line
  · rw [lostLines_eq_empty_iff, missingLines, unmatched_eq_nil_iff]

/-- The first of three equal lines is lost, and so is the last line, which no line feed ends. -/
theorem reported_lostLines_equalLines :
    let before := "x\ny\nx\r\nx\nz"
    let after := "y\nx\r\nx\n"
    let lost := [['x'], ['z']]
    LosesLines before.toList after.toList lost ∧
      (lines before.toList).Perm (lines after.toList ++ lost) ∧
      reported (lostLines before after) =
        (surplus (lines after.toList) (lines before.toList)).map entryOn ∧
      (∀ line, (reported (lostLines before after)).count (entryOn line) =
        (lines before.toList).count line - (lines after.toList).count line) ∧
      (reported (lostLines before after)).Perm (lost.map entryOn) := by
  intro before after lost
  have hbefore : before.toList = ['x'] ++ '\n' :: (['y'] ++ '\n' :: (['x', '\r'] ++ '\n' ::
      (['x'] ++ '\n' :: ['z']))) := by decide
  have hafter : after.toList = ['y'] ++ '\n' :: (['x', '\r'] ++ '\n' :: (['x'] ++ '\n' :: [])) := by
    decide
  have hloses : LosesLines before.toList after.toList lost := by
    rw [hbefore, hafter]
    refine .lose (by decide) (.keep (by decide) (.keep (by decide) (.keep (by decide) ?_)))
    exact .loseLast (by decide) (by decide)
  obtain ⟨hreported, hcount, -, -, hlost⟩ := reported_lostLines before after
  exact ⟨hloses, hloses.perm, hreported, hcount, hlost lost hloses⟩

example : lostLines "x\ny\nx\r\nx\nz" "y\nx\r\nx\n" = "- x\n- z\n" := by decide

end IconInline.Proofs
