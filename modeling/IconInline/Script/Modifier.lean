import IconInline.Script.Params

/-!
# Modifiers of declarations and members

A word is a modifier if what follows it can be modified by it. Modifiers are read greedily, and
a modifier that is repeated makes the module ill-formed.
-/

namespace IconInline.Script.Parser

/-- Can the present token follow a modifier? -/
def canFollowModifier : Parser Bool := do
  let k ← kind
  return k == Punct.openBracket || k == Punct.openBrace || k == Punct.star
    || k == Punct.ellipsis || k == .privateName || isLiteralName k

/-- Moves on; can the token there, on the same line, follow a modifier? -/
def sameLineFollows : Parser Bool := do
  advance
  if ← onNewLine then return false
  canFollowModifier

/-- Moves on; can the token there follow `default`? -/
def canFollowDefault : Parser Bool := do
  advance
  match ← kind with
  | .word .class_ | .word .function_ | .word .interface_ | .punct .at => return true
  | .word .abstract_ =>
    let next ← peekToken 1
    return next.kind == Word.class_ && !next.newline
  | .word .async_ =>
    let next ← peekToken 1
    return next.kind == Word.function_ && !next.newline
  | _ => return false

/-- Can the present token follow `export` as a modifier? -/
def canFollowExport : Parser Bool := do
  let k ← kind
  if k == Punct.at then return true
  return k != Punct.star && k != Word.as_ && k != Punct.openBrace && (← canFollowModifier)

/-- Moves on from the word `w`; can it modify the token there? -/
def modifiesNext (w : Word) : Parser Bool := do
  match w with
  | .const_ =>
    advance
    sees Word.enum_
  | .export_ =>
    advance
    match ← kind with
    | .word .default_ => foresee canFollowDefault
    | .word .type_ => foresee (do
        advance
        canFollowExport)
    | _ => canFollowExport
  | .default_ => canFollowDefault
  | .static_ | .get_ | .set_ =>
    advance
    canFollowModifier
  | _ => sameLineFollows

/-- Is the word `w`, which stands next, a modifier behind the modifiers `seen`? -/
def isModifierHere (seen : Modifiers) (constAllowed stopAtStaticBlock : Bool) (w : Word) :
    Parser Bool := do
  if w == .const_ && constAllowed then foresee sameLineFollows
  else if w == .static_ && seen.contains .static_ then return false
  else if w == .static_ && stopAtStaticBlock && (← peek) == Punct.openBrace then return false
  else if w.isModifier then foresee (modifiesNext w)
  else return false

/-- Reads modifiers. `const` is one before a type parameter and in a class; `static` is none
before the brace of a static block. -/
def modifiers (g : Rules) (constAllowed stopAtStaticBlock : Bool) : Parser Modifiers := do
  let rec go : Nat → Modifiers → Parser Modifiers
    | 0, _ => fail
    | bound + 1, seen => do
      match ← kind with
      | .word w =>
        if ← isModifierHere seen constAllowed stopAtStaticBlock w then
          advance
          faultIf (seen.contains w)
          go bound (w :: seen)
        else return seen.reverse
      | _ => return seen.reverse
  go g.bound []

end IconInline.Script.Parser
