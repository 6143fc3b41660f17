import IconInline.Json.Value
import IconInline.Text.Shown

/-!
# Why JSON is refused

A fault has a cause and, when it was found in a text, the byte offset up to which the text had
been read. Line and column are derived from the offset.
-/

namespace IconInline.Json

/-- What was found where something else was expected. -/
inductive Found where
  | null
  | bool (value : Bool)
  | number (value : JsonNumber)
  | string (value : String)
  | sequence
  | map
  deriving DecidableEq, Repr

/-- The description of what was found. -/
def Found.text : Found → String
  | null => "null"
  | bool true => "boolean `true`"
  | bool false => "boolean `false`"
  | number (.whole n) => "integer `" ++ toString n ++ "`"
  | number (.floating x) => "floating point `" ++ x.text ++ "`"
  | string s => "string " ++ Text.shown s
  | sequence => "sequence"
  | map => "map"

/-- The causes for which a text or a value is refused. -/
inductive Cause where
  | endInValue
  | endInList
  | endInObject
  | endInString
  | colonExpected
  | listEndExpected
  | objectEndExpected
  | wordExpected
  | valueExpected
  | badEscape
  | badNumber
  | numberTooLarge
  | controlCharacter
  | keyExpected
  | loneSurrogate
  | halfSurrogate
  | trailingComma
  | trailingCharacters
  | tooDeep
  | wrongType (found : Found) (expected : String)
  | wrongValue (found : Found) (expected : String)
  | wrongLength (length : Nat) (expected : String)
  | unknownVariant (found : String) (known : List String)
  | missingField (name : String)
  | duplicateField (name : String)
  | noVariant (name : String)
  deriving DecidableEq, Repr

/-- Two known names, as a message lists them. -/
def listed : List String → String
  | [] => "there are no variants"
  | [a] => "expected `" ++ a ++ "`"
  | [a, b] => "expected `" ++ a ++ "` or `" ++ b ++ "`"
  | names => "expected one of " ++ ", ".intercalate (names.map fun n => "`" ++ n ++ "`")

/-- The text of a cause. -/
def Cause.message : Cause → String
  | endInValue => "EOF while parsing a value"
  | endInList => "EOF while parsing a list"
  | endInObject => "EOF while parsing an object"
  | endInString => "EOF while parsing a string"
  | colonExpected => "expected `:`"
  | listEndExpected => "expected `,` or `]`"
  | objectEndExpected => "expected `,` or `\x7d`"
  | wordExpected => "expected ident"
  | valueExpected => "expected value"
  | badEscape => "invalid escape"
  | badNumber => "invalid number"
  | numberTooLarge => "number out of range"
  | controlCharacter => "control character (\\u0000-\\u001F) found while parsing a string"
  | keyExpected => "key must be a string"
  | loneSurrogate => "lone leading surrogate in hex escape"
  | halfSurrogate => "unexpected end of hex escape"
  | trailingComma => "trailing comma"
  | trailingCharacters => "trailing characters"
  | tooDeep => "recursion limit exceeded"
  | wrongType found expected => "invalid type: " ++ found.text ++ ", expected " ++ expected
  | wrongValue found expected => "invalid value: " ++ found.text ++ ", expected " ++ expected
  | wrongLength n expected => "invalid length " ++ toString n ++ ", expected " ++ expected
  | unknownVariant found known => "unknown variant `" ++ found ++ "`, " ++ listed known
  | missingField name => "missing field `" ++ name ++ "`"
  | duplicateField name => "duplicate field `" ++ name ++ "`"
  | noVariant name => "data did not match any variant of untagged enum " ++ name

/-- A cause and the place at which a text is refused. -/
structure Fault where
  cause : Cause
  offset : Option Nat
  deriving DecidableEq, Repr

/-- Line, from one, and column in bytes of a byte offset. -/
def lineAndColumn (offset : Nat) : (line column position : Nat) → List Char → Nat × Nat
  | line, column, _, [] => (line, column)
  | line, column, position, c :: rest =>
    if offset ≤ position then (line, column)
    else
      let size := min c.utf8Size (offset - position)
      if c = '\n' then lineAndColumn offset (line + 1) 0 (position + 1) rest
      else lineAndColumn offset line (column + size) (position + c.utf8Size) rest

/-- The text of a fault found in a text. -/
def Fault.message (source : String) (fault : Fault) : String :=
  match fault.offset with
  | none => fault.cause.message
  | some offset =>
    let (line, column) := lineAndColumn offset 1 0 0 source.toList
    fault.cause.message ++ " at line " ++ toString line ++ " column " ++ toString column

end IconInline.Json
