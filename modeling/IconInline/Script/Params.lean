import IconInline.Script.Pattern

/-!
# Decorators, modifiers and parameters

Decorators are read before what they decorate; their outline waits in the state until that
place is known. Modifiers are words before a member or a parameter; whether such a word is a
modifier or a name is told by what follows it.
-/

namespace IconInline.Script.Parser

/-! ## Decorators -/

/-- Reads decorators if there are any; they take the place of pending ones. -/
def readDecorators (g : Rules) : Parser Unit := do
  if ← sees Punct.at then
    let ((), inner) ← gathered (repeatWhile g.bound (do
      if ← accept Punct.at then
        let _ ← within (fun c => { c with decorator := true }) (g.run .leftHandSide)
        return true
      else return false))
    note fun n => { n with decorators := inner }

/-! ## Modifiers -/

/-- The words before a declaration or a member. -/
abbrev Modifiers := List Word

/-- Is a modifier of visibility. -/
def isAccessibility : Word → Bool
  | .public_ | .private_ | .protected_ => true
  | _ => false

/-- Marks the module as ill-formed if a modifier is not among the allowed ones. -/
def allowOnly (allowed : Word → Bool) (modifiers : Modifiers) : Parser Unit :=
  faultIf (!modifiers.all allowed)

/-- Can the name of a property, written out, begin with a token of this kind? -/
def isLiteralName : Kind → Bool
  | .string | .number => true
  | k => isPropertyName k

/-- Is a word that may stand before a parameter. -/
def isParameterModifier : Word → Bool
  | .public_ | .private_ | .protected_ | .static_ | .abstract_ | .readonly_ | .declare_
  | .override_ | .export_ => true
  | _ => false

/-- Is the present word a modifier of a parameter? -/
def atParameterModifier : Parser Bool := do
  match ← kind with
  | .word w =>
    let next ← peekToken 1
    return isParameterModifier w && !next.newline
      && (isLiteralName next.kind || next.kind == .privateName
        || next.kind == Punct.openBracket || next.kind == Punct.openBrace
        || next.kind == Punct.ellipsis)
  | _ => return false

/-- Reads the modifiers of a parameter. -/
def parameterModifiers (g : Rules) : Parser Unit := do
  if ← typed then
    repeatWhile g.bound (do
      if ← atParameterModifier then
        match ← kind with
        | .word w => faultIf !(isAccessibility w || w == .readonly_ || w == .override_)
        | _ => pure ()
        advance
        return true
      else return false)

/-! ## Parameters -/

/-- Reads one parameter. -/
def parameter (g : Rules) : Parser Shape := do
  readDecorators g
  parameterModifiers g
  let shape ← bindingElement g
  placeDecorators
  return shape

/-- Reads the parameters of a function between their parentheses. In the typed language `this`
may come first, except for an arrow function. -/
def parametersOf (g : Rules) (ofArrow : Bool) : Parser Unit := do
  require Punct.openParen
  let isTyped ← typed
  if isTyped && (← sees Word.this_) then
    faultIf ofArrow
    advance
    typeAnnotation g
    unless ← sees Punct.closeParen do require Punct.comma
  let _ ← partsWithRest g.bound .closeParen (parameter g) (restElement g)
  require Punct.closeParen

/-- Reads the parameters of a function that is not an arrow function. -/
def parameters (g : Rules) : Parser Unit := parametersOf g false

end IconInline.Script.Parser
