import IconInline.Icon.Code

/-!
# Encoded icons as script literals

An encoded icon is embedded as a string literal in single quotes. Quote and backslash stand
behind a backslash, line feed and carriage return are written `\n` and `\r`, and every other
character stands for itself.
-/

namespace IconInline.Literal

/-- How one character is written between single quotes. -/
def escape : Char → List Char
  | '\'' => ['\\', '\'']
  | '\\' => ['\\', '\\']
  | '\n' => ['\\', 'n']
  | '\r' => ['\\', 'r']
  | c => [c]

/-- A text as a literal in single quotes. -/
def quote (cs : List Char) : List Char := '\'' :: cs.flatMap escape ++ ['\'']

end IconInline.Literal

namespace IconInline

/-- The literal that stands for an encoded icon. -/
def IconCode.literal (icon : IconCode) : String :=
  String.ofList (Literal.quote icon.text.toList)

end IconInline
