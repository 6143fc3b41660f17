/-!
# Abbreviated texts

A text of more than fifty characters is shown by its first forty-nine and an ellipsis.
-/

namespace IconInline.Text

/-- The most characters that an abbreviated text has. -/
def abbreviationLimit : Nat := 50

/-- A text of at most fifty characters, ending in an ellipsis when something was cut. -/
def abbreviate (s : String) : String :=
  let cs := s.toList
  if cs.length > abbreviationLimit then
    String.ofList (cs.take (abbreviationLimit - 1) ++ ['…'])
  else s

theorem mem_or_eq_of_mem_abbreviate {s : String} {c : Char} (h : c ∈ (abbreviate s).toList) :
    c ∈ s.toList ∨ c = '…' := by
  rw [abbreviate] at h
  split at h
  · rw [String.toList_ofList, List.mem_append, List.mem_singleton] at h
    exact h.imp_left List.mem_of_mem_take
  · exact Or.inl h

end IconInline.Text
