import IconInline.Json.Value

/-!
# Writing JSON text

Values are written on one line without gaps, or with each item and member on a line of its own,
indented by two blanks per level. A string writes quote, backslash and control characters
escaped and everything else as it is.
-/

namespace IconInline.Json

/-- A hexadecimal digit. -/
def hexChar (n : Nat) : Char := (Nat.toDigits 16 (n % 16)).headD '0'

/-- How a character is written inside a string. -/
def writeChar (c : Char) : List Char :=
  match c with
  | '"' => ['\\', '"']
  | '\\' => ['\\', '\\']
  | '\x08' => ['\\', 'b']
  | '\x0c' => ['\\', 'f']
  | '\n' => ['\\', 'n']
  | '\r' => ['\\', 'r']
  | '\t' => ['\\', 't']
  | c =>
    if c.val < 0x20 then ['\\', 'u', '0', '0', hexChar (c.toNat / 16), hexChar c.toNat] else [c]

/-- A string between quotes. -/
def writeString (s : String) : String :=
  String.ofList ('"' :: s.toList.flatMap writeChar ++ ['"'])

/-- The text of a number. -/
def JsonNumber.write : JsonNumber → String
  | .whole n => toString n
  | .floating x => x.text

mutual

/-- A value on one line. -/
def write : Json → String
  | .null => "null"
  | .bool b => if b then "true" else "false"
  | .number n => JsonNumber.write n
  | .string s => writeString s
  | .array items => "[" ++ writeItems true items ++ "]"
  | .object members => "\x7b" ++ writeMembers true members ++ "\x7d"

/-- Items, with a comma before each but the first. -/
def writeItems (first : Bool) : List Json → String
  | [] => ""
  | v :: rest => (if first then "" else ",") ++ write v ++ writeItems false rest

/-- Members, with a comma before each but the first. -/
def writeMembers (first : Bool) : List (String × Json) → String
  | [] => ""
  | (name, v) :: rest =>
    (if first then "" else ",") ++ writeString name ++ ":" ++ write v ++ writeMembers false rest

end

/-- Line feed and indentation of a level. -/
def newline (level : Nat) : String := String.ofList ('\n' :: List.replicate (2 * level) ' ')

/-- An ordered list of members or items between brackets, one to a line. -/
def block (level : Nat) (opening closing : String) (entries : List String) : String :=
  if entries.isEmpty then opening ++ closing
  else
    opening ++ ",".intercalate (entries.map (newline (level + 1) ++ ·))
      ++ newline level ++ closing

/-- A list of texts, one to a line. -/
def strings (level : Nat) (items : List String) : String :=
  block level "[" "]" (items.map writeString)

/-- An object with given members in their order, one to a line. -/
def fields (level : Nat) (members : List (String × String)) : String :=
  block level "\x7b" "\x7d" (members.map fun m => writeString m.1 ++ ": " ++ m.2)

end IconInline.Json
