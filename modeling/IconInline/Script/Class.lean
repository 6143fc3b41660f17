import IconInline.Script.Function

/-!
# Classes

A class has an optional name, what it extends and implements, and elements: methods, accessors,
fields, static blocks and, in the typed language, index signatures.
-/

namespace IconInline.Script.Parser

/-- What stands before the name of a class element. -/
structure ElementHead where
  modifiers : Modifiers
  isGenerator : Bool
  /-- It is read or written like a field. -/
  isAccess : Bool
  deriving Repr

namespace ElementHead

/-- Has a modifier. -/
def has (head : ElementHead) (w : Word) : Bool := head.modifiers.contains w

/-- Is more than a plain method. -/
def isSpecial (head : ElementHead) : Bool :=
  head.isAccess || head.isGenerator || head.has .async_

end ElementHead

/-- May modify an element of a class. -/
def isElementModifier (w : Word) : Bool :=
  isAccessibility w || w == .static_ || w == .declare_ || w == .abstract_ || w == .override_
    || w == .readonly_ || w == .async_ || w == .accessor_

/-- Reads the name of a class element. -/
def elementKey (g : Rules) : Parser Key := do
  let t ← token
  if t.kind == .privateName then
    advance
    faultIf (t.text == "constructor".toList)
    return { form := .privateName, text := t.text }
  else key g

/-- Can the name of a class element begin with a token of this kind? -/
def beginsElementKey (k : Kind) : Bool :=
  isLiteralName k || k == .privateName || k == Punct.openBracket

/-- Reads what stands before the name of a class element. -/
def elementHead (modifiers : Modifiers) : Parser ElementHead := do
  let isGenerator ← accept Punct.star
  let isAccess ←
    if ((← sees Word.get_) || (← sees Word.set_)) && beginsElementKey (← peek) then
      advance
      pure true
    else pure false
  return { modifiers, isGenerator, isAccess }

/-- Marks names that a class element may not have. -/
def checkElementKey (head : ElementHead) (key : Key) (isMethod : Bool) : Parser Unit := do
  let isAmbient := (← context).ambient
  faultIf (head.has .static_ && key.isCalled "prototype" && !isAmbient)
  if key.isCalled "constructor" then
    faultIf (!isMethod || (!head.has .static_ && head.isSpecial))
  faultIf ((← typed) && key.form == .privateName && head.modifiers.any isAccessibility)

/-- Marks a constructor with type parameters or a parameter `this`. -/
def checkConstructor (head : ElementHead) (key : Key) : Parser Unit := do
  if key.isCalled "constructor" && !head.has .static_ then
    faultIf (← sees Punct.less)
    faultIf ((← sees Punct.openParen) && (← peek) == Word.this_)

/-- Reads a field behind its name and marks. -/
def fieldRest (g : Rules) : Parser Unit := do
  typeAnnotation g
  placeDecorators
  if ← accept Punct.assign then
    let _ ← within (fun c => { c with inOperator := true, await := false, yield := false })
      g.expression
  endStatement

/-- Reads a static block. -/
def staticBlock (g : Rules) : Parser Unit := do
  advance
  require Punct.openBrace
  within (fun c => { c with await := true, yield := false, inFunction := false }) (statements g)
  require Punct.closeBrace

/-- Reads an element of a class behind its modifiers. -/
def elementRest (g : Rules) (modifiers : Modifiers) : Parser Unit := do
  let isTyped ← typed
  if isTyped && (← atIndexSignature) then indexSignature g
  else
    let head ← elementHead modifiers
    let key ← elementKey g
    let isOptional ← if isTyped then accept Punct.question else pure false
    let isDefinite ← if isTyped then accept Punct.bang else pure false
    faultIf (isOptional && isDefinite)
    let isMethod := !head.has .accessor_
      && ((← sees Punct.openParen) || (← sees Punct.less) || head.has .async_
        || head.isGenerator)
    checkElementKey head key isMethod
    if isMethod then
      placeDecorators
      checkConstructor head key
      functionRest g { isAsync := head.has .async_, isGenerator := head.isGenerator }
    else
      ensure (!head.isAccess)
      fieldRest g

/-- Reads an element of a class. -/
def classElement (g : Rules) : Parser Unit := do
  unless ← accept Punct.semicolon do
    readDecorators g
    let found ← modifiers g true true
    allowOnly isElementModifier found
    if (← sees Word.static_) && (← peek) == Punct.openBrace then staticBlock g
    else elementRest g found

/-- Reads what a class extends, with type arguments. -/
def superclass (g : Rules) : Parser Unit := do
  let _ ← g.run .leftHandSide
  if ← typed then typeArguments g

/-- Reads what a class extends and implements. -/
def heritage (g : Rules) : Parser Unit := do
  let rec go : Nat → (extended implemented : Bool) → Parser Unit
    | 0, _, _ => fail
    | bound + 1, extended, implemented => do
      if ← accept Word.extends_ then
        faultIf (extended || implemented)
        superclass g
        repeatWhile g.bound (do
          if ← accept Punct.comma then
            let _ ← gathered (superclass g)
            return true
          else return false)
        go bound true implemented
      else if ← accept Word.implements_ then
        faultIf implemented
        namedType g
        repeatWhile g.bound (do
          if ← accept Punct.comma then
            namedType g
            return true
          else return false)
        go bound extended true
  go g.bound false false

/-- Reads a class, whose word stands next; hands back its name if it has one. -/
def classRest (g : Rules) : Parser (Option (List Char)) := do
  require Word.class_
  placeDecorators
  let name ←
    if isBinding (← kind) && !(← sees Word.implements_) then
      let name ← bindingName
      pure (some name)
    else pure none
  typeParameters g
  heritage g
  require Punct.openBrace
  upTo g.bound Punct.closeBrace (classElement g)
  return name

end IconInline.Script.Parser
