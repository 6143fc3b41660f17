import IconInline.Script.Rule

/-!
# Patterns and property names

A declaration binds a name, or takes a value apart by an array or an object pattern. Every part
of a pattern may have a default, and a rest part stands last. The names that a pattern declares
are handed back.
-/

namespace IconInline.Script

/-- How the name of a property is written. -/
inductive KeyForm where
  | name
  | string
  | number
  | computed
  | privateName
  deriving DecidableEq, Repr

/-- The name of a property. -/
structure Key where
  form : KeyForm
  text : List Char := []
  /-- It could be the name of a variable. -/
  binds : Bool := false
  deriving DecidableEq, Repr

namespace Key

/-- Is the name written out, and is it this one? -/
def isCalled (key : Key) (name : String) : Bool :=
  (key.form == .name || key.form == .string) && key.text == name.toList

end Key

namespace Parser

/-- Reads the name of a property. -/
def key (g : Rules) : Parser Key := do
  let t ← token
  match t.kind with
  | .string =>
    advance
    return { form := .string, text := t.text }
  | .number =>
    advance
    return { form := .number }
  | .punct .openBracket =>
    advance
    let _ ← g.innerAssignment
    require Punct.closeBracket
    return { form := .computed }
  | k =>
    let text ← propertyName
    return { form := .name, text, binds := isBinding k }

/-- Reads a type behind a colon, in the typed language. -/
def typeAnnotation (g : Rules) : Parser Unit := do
  if ← typed then
    if ← accept Punct.colon then g.typeRef

/-- Reads a default behind an equals sign; tells whether there is one. -/
def initializer (g : Rules) : Parser Bool := do
  if ← accept Punct.assign then
    let _ ← g.innerAssignment
    return true
  else return false

/-- Reads a name or a pattern with the type behind it. In the typed language a question mark may
stand between them if `optional`. -/
def typedBinding (g : Rules) (optional : Bool) : Parser (Shape × Bool) := do
  let shape ← g.binding
  let mut isOptional := false
  if optional then
    if ← typed then isOptional ← accept Punct.question
  typeAnnotation g
  return (shape, isOptional)

/-- Reads a part of a pattern. -/
def bindingElement (g : Rules) : Parser Shape := do
  let (shape, _) ← typedBinding g true
  let _ ← initializer g
  return shape

/-- Reads a rest part, which has neither a default nor, in the typed language, a question mark. -/
def restElement (g : Rules) : Parser Shape := do
  advance
  let shape ← g.binding
  if ← typed then
    if ← accept Punct.question then fault
  typeAnnotation g
  if ← initializer g then fault
  return shape

/-- Reads the property of an object pattern. -/
def bindingProperty (g : Rules) : Parser Shape := do
  let key ← key g
  if key.binds ∧ !(← sees Punct.colon) then
    let _ ← initializer g
    return { names := [key.text] }
  else
    require Punct.colon
    bindingElement g

/-- Reads parts up to a closing token, which is left. The last part may be a rest part, and
then no comma follows it. The shape of the rest part is handed back beside the names. -/
def partsWithRest (bound : Nat) (close : Punct) (item rest : Parser Shape) :
    Parser (List (List Char) × Option Shape) := do
  let rec go : Nat → Bool → List (List Char) → Parser (List (List Char) × Option Shape)
    | 0, _, _ => fail
    | bound + 1, first, names => do
      if ← sees close then return (names, none)
      unless first do
        require Punct.comma
      if ← sees close then return (names, none)
      if ← sees Punct.ellipsis then
        let shape ← rest
        if ← sees Punct.comma then fault
        return (names ++ shape.names, some shape)
      else
        let shape ← item
        go bound false (names ++ shape.names)
  go bound true []

/-- Reads a pattern or a name. -/
def binding (g : Rules) : Parser Shape := do
  match ← kind with
  | .punct .openBrace =>
    advance
    let (names, rest) ← partsWithRest g.bound .closeBrace (bindingProperty g) (restElement g)
    faultIf (rest.any (·.pattern))
    require Punct.closeBrace
    return { pattern := true, names }
  | .punct .openBracket =>
    advance
    let element : Parser Shape := do
      if ← sees Punct.comma then return {} else bindingElement g
    let (names, _) ← partsWithRest g.bound .closeBracket element (restElement g)
    require Punct.closeBracket
    return { pattern := true, names }
  | _ =>
    let name ← bindingName
    return { names := [name] }

end Parser

end IconInline.Script
