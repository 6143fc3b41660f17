/-!
# Spans

A span is a half-open range of byte offsets into the UTF-8 form of a text. A text is a list of
characters here, so the byte offset of a position is the size of the characters before it.
-/

namespace IconInline.Source

/-- A half-open range of byte offsets. -/
structure Span where
  start : Nat
  stop : Nat
  deriving DecidableEq, Repr

/-- The number of bytes in a span; an inverted span holds none. -/
def Span.size (s : Span) : Nat := s.stop - s.start

/-- The text from a byte offset on, if the offset lies on a character boundary. -/
def dropBytes : Nat → List Char → Option (List Char)
  | 0, cs => some cs
  | _ + 1, [] => none
  | n + 1, c :: rest => if c.utf8Size ≤ n + 1 then dropBytes (n + 1 - c.utf8Size) rest else none

/-- The text up to a byte offset, if the offset lies on a character boundary. -/
def takeBytes : Nat → List Char → Option (List Char)
  | 0, _ => some []
  | _ + 1, [] => none
  | n + 1, c :: rest =>
    if c.utf8Size ≤ n + 1 then (takeBytes (n + 1 - c.utf8Size) rest).map (c :: ·) else none

/-- The text between two byte offsets, if both lie on character boundaries in this order. -/
def slice (start stop : Nat) (cs : List Char) : Option (List Char) :=
  if start ≤ stop then (dropBytes start cs).bind (takeBytes (stop - start)) else none

end IconInline.Source
