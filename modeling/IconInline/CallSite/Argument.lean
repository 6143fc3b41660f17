import IconInline.Text.Blank
import IconInline.Text.Pieces

/-!
# The icon that a call's argument names

`icons.faAt`, `'faAt'` and ` faAt ` all name the icon `faAt`: the argument is trimmed, a pair
of equal quotes around it is removed, and the last piece between dots, trimmed again, is the
identifier.
-/

namespace IconInline.CallSite

/-- A text without the quotes around it, if both its ends are the quote `q`. -/
def unquoted? (q : Char) : List Char → Option (List Char)
  | [] => none
  | c :: rest => if c = q ∧ rest.getLast? = some q then some rest.dropLast else none

/-- The identifier of the icon that an argument names. -/
def namedIcon (argument : List Char) : List Char :=
  let argument := Text.trim argument
  let reference := (['\'', '"', '`'].findSome? (unquoted? · argument)).getD argument
  Text.trim ((Text.splitOn '.' reference).getLast?.getD reference)

theorem unquoted?_subset {q : Char} {cs body : List Char} (h : unquoted? q cs = some body) :
    body ⊆ cs := by
  cases cs with
  | nil => cases h
  | cons c rest =>
    rw [unquoted?] at h
    split at h
    · cases h
      exact List.subset_cons_of_subset c (List.dropLast_subset rest)
    · cases h

/-- A name has no characters but those of the argument. -/
theorem namedIcon_subset (argument : List Char) : namedIcon argument ⊆ argument := by
  have hreference : (['\'', '"', '`'].findSome? (unquoted? · (Text.trim argument))).getD
      (Text.trim argument) ⊆ argument := by
    cases hquoted : ['\'', '"', '`'].findSome? (unquoted? · (Text.trim argument)) with
    | none => exact Text.trim_subset argument
    | some body =>
      obtain ⟨q, -, hbody⟩ := List.exists_of_findSome?_eq_some hquoted
      exact List.Subset.trans (unquoted?_subset hbody) (Text.trim_subset argument)
  rw [namedIcon]
  refine List.Subset.trans (Text.trim_subset _) (List.Subset.trans ?_ hreference)
  cases hlast : (Text.splitOn '.' _).getLast? with
  | none => exact List.Subset.refl _
  | some piece => exact Text.subset_of_mem_splitBy (List.mem_of_getLast? hlast)

end IconInline.CallSite
