/-!
# Glob patterns

A glob pattern is a sequence of parts. Patterns and paths are compared byte by byte, and no part
stops at a slash unless it says so.
-/

namespace IconInline.Glob

/-- A part of a glob pattern. -/
inductive Part where
  /-- A character as it is. -/
  | literal (c : Char)
  /-- `?`: one byte. -/
  | anyByte
  /-- `*`: any bytes. -/
  | anyBytes
  /-- `**` at the front: nothing, or directories with the slash behind them. -/
  | leadingDirs
  /-- `**` at the end: a slash and all that follows. -/
  | trailingDirs
  /-- `**` between slashes: a slash, or directories between slashes. -/
  | innerDirs
  /-- `[…]`: one byte of some ranges, or one outside of them. -/
  | class (negated : Bool) (ranges : List (Char × Char))
  /-- `{…}`: one of several patterns. -/
  | choice (branches : List (List Part))
  deriving Repr

/-- Why a pattern is refused. -/
inductive Fault where
  | unclosedClass
  | invertedRange (low high : Char)
  | unclosedChoice
  | unopenedChoice
  | danglingEscape
  deriving DecidableEq, Repr

/-- The text of a fault. -/
def Fault.message : Fault → String
  | unclosedClass => "unclosed character class; missing ']'"
  | invertedRange low high =>
    "invalid range; '" ++ low.toString ++ "' > '" ++ high.toString ++ "'"
  | unclosedChoice =>
    "unclosed alternate group; missing '\x7d' (maybe escape '\x7b' with '[\x7b]'?)"
  | unopenedChoice =>
    "unopened alternate group; missing '\x7b' (maybe escape '\x7d' with '[\x7d]'?)"
  | danglingEscape => "dangling '\\'"

end IconInline.Glob
