import IconInline.Text.Pieces

/-!
# Lines that disappeared

`lostLines before after` lists the lines of `before` that `after` no longer holds. Equal
lines are matched one to one from the front, so a line that `after` holds `n` times is
reported from its `n + 1`st occurrence on.
-/

namespace IconInline.Text

/-- The entries of a list that remain once each entry of `kept` has claimed its first match. -/
def unmatched (kept : List (List Char)) : List (List Char) → List (List Char)
  | [] => []
  | line :: rest =>
    if kept.contains line then unmatched (kept.erase line) rest
    else line :: unmatched kept rest

/-- The lines of `before` that are missing in `after`. -/
def missingLines (before after : List Char) : List (List Char) :=
  unmatched (lines after) (lines before)

/-- The report on missing lines: each on a line of its own behind `- `. -/
def lostLines (before after : String) : String :=
  String.ofList ((missingLines before.toList after.toList).flatMap
    fun line => '-' :: ' ' :: line ++ ['\n'])

end IconInline.Text
