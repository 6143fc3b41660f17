/-!
# Gaps between tokens

Blanks, line ends and comments separate tokens. Whether a line ends in a gap matters to the
grammar; the lines inside a comment count.
-/

namespace IconInline.Script

/-- Ends a line. -/
def isLineEnd (c : Char) : Bool := c == '\n' || c == '\r' || c == '\u2028' || c == '\u2029'

/-- Separates tokens without ending a line. -/
def isSpace (c : Char) : Bool :=
  let n := c.toNat
  n == 0x09 || n == 0x0b || n == 0x0c || n == 0x20 || n == 0x85 || n == 0xa0 || n == 0xfeff
    || n == 0x1680 || (0x2000 ≤ n && n ≤ 0x200b) || n == 0x202f || n == 0x205f || n == 0x3000

/-- What stands before a token: its size in bytes, whether a line ends in it, the text behind
it, and whether it breaks off inside a comment. -/
structure Gap where
  size : Nat
  newline : Bool
  rest : List Char
  unclosed : Bool := false
  deriving DecidableEq, Repr

/-- Where the scan of a gap stands. -/
inductive GapMode where
  | between
  | line
  | block
  deriving DecidableEq, Repr

/-- Scans a gap: `size` bytes of it have been passed. -/
def scanGap : GapMode → (newline : Bool) → (size : Nat) → List Char → Gap
  | .block, newline, size, [] => ⟨size, newline, [], true⟩
  | .between, newline, size, [] | .line, newline, size, [] => ⟨size, newline, [], false⟩
  | .between, newline, size, '/' :: '/' :: rest => scanGap .line newline (size + 2) rest
  | .between, newline, size, '/' :: '*' :: rest => scanGap .block newline (size + 2) rest
  | .between, newline, size, c :: rest =>
    if isLineEnd c then scanGap .between true (size + c.utf8Size) rest
    else if isSpace c then scanGap .between newline (size + c.utf8Size) rest
    else ⟨size, newline, c :: rest, false⟩
  | .line, newline, size, c :: rest =>
    if isLineEnd c then scanGap .between true (size + c.utf8Size) rest
    else scanGap .line newline (size + c.utf8Size) rest
  | .block, newline, size, '*' :: '/' :: rest => scanGap .between newline (size + 2) rest
  | .block, newline, size, c :: rest =>
    scanGap .block (newline || isLineEnd c) (size + c.utf8Size) rest

end IconInline.Script
