/-!
# Cutting a text at a separator

`splitOn` cuts at every separator and keeps empty pieces, so that a text with `n` separators
has `n + 1` pieces. `lines` cuts a text into lines that end in a line feed, with or without a
carriage return before it.
-/

namespace IconInline.Text

/-- The pieces of a text between the characters that satisfy `p`. -/
def splitBy (p : Char → Bool) : List Char → List (List Char)
  | [] => [[]]
  | c :: rest =>
    if p c then [] :: splitBy p rest
    else match splitBy p rest with
      | [] => [[c]]
      | piece :: more => (c :: piece) :: more

/-- The pieces of a text between its separators. -/
def splitOn (sep : Char) (cs : List Char) : List (List Char) := splitBy (· == sep) cs

theorem splitBy_eq_splitOnP (p : Char → Bool) (cs : List Char) :
    splitBy p cs = cs.splitOnP p := by
  induction cs with
  | nil => rfl
  | cons c rest ih =>
    rw [splitBy, List.splitOnP_cons_eq_if_modifyHead, ih]
    cases h : rest.splitOnP p with
    | nil => exact absurd h (List.splitOnP_ne_nil p rest)
    | cons piece more => rfl

theorem splitOn_eq_listSplitOn (sep : Char) (cs : List Char) : splitOn sep cs = cs.splitOn sep :=
  splitBy_eq_splitOnP _ cs

theorem subset_of_mem_splitBy {p : Char → Bool} {cs piece : List Char}
    (h : piece ∈ splitBy p cs) : piece ⊆ cs := by
  induction cs generalizing piece with
  | nil =>
    rw [splitBy, List.mem_singleton] at h
    rw [h]
    exact List.Subset.refl _
  | cons d rest ih =>
    rw [splitBy] at h
    split at h
    · rcases List.mem_cons.mp h with rfl | hrest
      · exact List.nil_subset _
      · exact List.subset_cons_of_subset d (ih hrest)
    · split at h
      · next hnil => exact absurd (splitBy_eq_splitOnP p rest ▸ hnil) (List.splitOnP_ne_nil p rest)
      · next first more hsplit =>
        rw [hsplit] at ih
        rcases List.mem_cons.mp h with rfl | hmore
        · exact List.cons_subset_cons d (ih List.mem_cons_self)
        · exact List.subset_cons_of_subset d (ih (List.mem_cons_of_mem _ hmore))

theorem not_of_mem_of_mem_splitOnP {p : Char → Bool} {cs piece : List Char}
    (h : piece ∈ cs.splitOnP p) {c : Char} (hc : c ∈ piece) : p c = false := by
  induction cs generalizing piece with
  | nil =>
    rw [List.splitOnP_nil, List.mem_singleton] at h
    rw [h] at hc
    cases hc
  | cons d rest ih =>
    rw [List.splitOnP_cons_eq_if_modifyHead] at h
    split at h
    · rcases List.mem_cons.mp h with rfl | hrest
      · cases hc
      · exact ih hrest hc
    · next hd =>
      cases hsplit : rest.splitOnP p with
      | nil => exact absurd hsplit (List.splitOnP_ne_nil p rest)
      | cons first more =>
        rw [hsplit] at h ih
        rcases List.mem_cons.mp h with rfl | hmore
        · rcases List.mem_cons.mp hc with rfl | hfirst
          · simpa using hd
          · exact ih List.mem_cons_self hfirst
        · exact ih (List.mem_cons_of_mem _ hmore) hc

theorem not_mem_of_mem_splitOn {sep : Char} {cs piece : List Char}
    (h : piece ∈ cs.splitOn sep) : sep ∉ piece := by
  intro hsep
  have hne : (sep == sep) = false := not_of_mem_of_mem_splitOnP h hsep
  rw [beq_self_eq_true] at hne
  cases hne

/-- The part before the first character that satisfies `p`. -/
def before (p : Char → Bool) (cs : List Char) : List Char := cs.takeWhile (fun c => !p c)

/-- A line without the carriage return at its end. -/
def dropReturn (line : List Char) : List Char :=
  if line.getLast? = some '\r' then line.dropLast else line

/-- The lines of a text: the line feed, and a carriage return right before it, end a line and
belong to none. What follows the last line feed is a line unless it is empty. -/
def lines (cs : List Char) : List (List Char) :=
  let pieces := splitOn '\n' cs
  let last := pieces.getLast?.getD []
  pieces.dropLast.map dropReturn ++ (if last.isEmpty then [] else [last])

end IconInline.Text
