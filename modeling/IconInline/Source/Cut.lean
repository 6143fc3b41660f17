import IconInline.Source.Span
import IconInline.Text.ByteSize

/-!
# Removing spans from a text

Spans are removed in one sweep from front to back. A span that begins inside what is already
removed, or ends beyond the text, is passed over. One line feed directly behind a removed span
goes with it.
-/

namespace IconInline.Source

/-- The offset at which the text continues behind a removed span. -/
def resume (cs : List Char) (stop : Nat) : Nat :=
  if (dropBytes stop cs).bind List.head? = some '\n' then stop + 1 else stop

/-- Removes ascending spans from the part of a text that begins at `next`. There is no result
if the sweep would cut a character in two. -/
def sweep (cs : List Char) (size : Nat) : (next : Nat) → List Span → Option (List Char)
  | next, [] => dropBytes next cs
  | next, span :: rest =>
    if span.start < next ∨ size < span.stop then sweep cs size next rest
    else do
      let kept ← slice next span.start cs
      let tail ← sweep cs size (resume cs span.stop) rest
      return kept ++ tail

/-- Removes spans, given in any order, from a text. -/
def cut (cs : List Char) (spans : List Span) : Option (List Char) :=
  sweep cs (Text.byteSize cs) 0 (spans.mergeSort (fun a b => decide (a.start ≤ b.start)))

end IconInline.Source
