import IconInline.Icon.Attributes
import IconInline.Text.Pieces

/-!
# The encoded form of an icon

`SVG;<view box>;<path>;<fill>;<stroke width>;<fill rule>`: the tag `SVG` and the five fields,
joined by semicolons. A semicolon inside a field would move every later field, so it is left
out when fields are written.
-/

namespace IconInline

/-- A text in the encoded form. -/
structure IconCode where
  text : String
  deriving DecidableEq, Repr

namespace IconCode

/-- The tag that opens every encoded icon. -/
def tag : String := "SVG"

/-- Stands between the parts of an encoded icon. -/
def separator : Char := ';'

/-- The number of parts of an encoded icon, the tag included. -/
def partCount : Nat := 6

/-- A field as it is written: without any separator. -/
def written (field : String) : List Char := field.toList.filter (· != separator)

/-- The encoded form of five fields. -/
def ofFields (fields : IconAttributes) : IconCode :=
  ⟨String.ofList (tag.toList ++ fields.toList.flatMap fun field => separator :: written field)⟩

/-- The parts of a text between its separators. -/
def parts (text : String) : List String :=
  (Text.splitOn separator text.toList).map String.ofList

/-- Reads a text as an encoded icon: it has six parts of which the first is the tag. -/
def ofText? (text : String) : Option IconCode :=
  let found := parts text
  if found.length = partCount ∧ found.head? = some tag then some ⟨text⟩ else none

/-- The five fields of an encoded icon. -/
def fields (icon : IconCode) : IconAttributes :=
  let found := (parts icon.text).tail
  ⟨found.getD 0 "", found.getD 1 "", found.getD 2 "", found.getD 3 "", found.getD 4 ""⟩

end IconCode

/-- The encoded form of an icon under a strategy. -/
def Strategy.encode (strategy : Strategy) (icon : Icon) : IconCode :=
  .ofFields (strategy.fields icon)

end IconInline
