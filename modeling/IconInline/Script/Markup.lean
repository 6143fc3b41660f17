import IconInline.Script.TypeRef

/-!
# Markup

An element has a name, attributes, and children up to the tag that closes it. Between tags every
character counts as text, so the token behind a tag is read differently depending on what the
tag stands in.
-/

namespace IconInline.Script.Parser

/-- Moves on from a token of a kind to one of an element's children. -/
def requireChild (k : Kind) : Parser Unit := do
  unless ← sees k do fail
  advanceToChild

/-- Moves on from a token of a kind: to a child if the present element is itself a child. -/
def requireWithin (inChild : Bool) (k : Kind) : Parser Unit :=
  if inChild then requireChild k else require k

/-- Reads a name of markup. -/
def markupName : Parser (List Char) := do
  ensure (isPropertyName (← kind))
  extendName
  let t ← token
  advance
  return t.text

/-- Reads a name of markup with, perhaps, a name behind a colon. -/
def qualifiedName : Parser (List Char) := do
  let name ← markupName
  if ← accept Punct.colon then
    let rest ← markupName
    return name ++ ':' :: rest
  else return name

/-- Reads the name of an element. -/
def elementName (g : Rules) : Parser (List Char) := do
  let first ← qualifiedName
  if first.contains ':' then return first
  let rec go : Nat → List Char → Parser (List Char)
    | 0, _ => fail
    | bound + 1, name => do
      if ← accept Punct.dot then
        let part ← markupName
        faultIf (part.contains '-')
        go bound (name ++ '.' :: part)
      else return name
  go g.bound first

/-- Reads an expression inside markup. -/
def markupExpression (g : Rules) : Parser Unit := do
  let _ ← within (fun c => { inOperator := true, await := c.await, yield := false }) g.expression

/-- Reads an expression between braces; it may be missing. -/
def container (g : Rules) (inChild : Bool) : Parser Unit := do
  require Punct.openBrace
  unless ← sees Punct.closeBrace do markupExpression g
  requireWithin inChild Punct.closeBrace

/-- Reads the value of an attribute. -/
def attributeValue (g : Rules) : Parser Unit := do
  match ← kind with
  | .string => advance
  | .punct .openBrace => container g false
  | .punct .less =>
    let _ ← g.run .element
  | _ => fail

/-- Reads an attribute. -/
def markupAttribute (g : Rules) : Parser Unit := do
  if ← accept Punct.openBrace then
    require Punct.ellipsis
    let _ ← g.expression
    require Punct.closeBrace
  else
    let _ ← qualifiedName
    if ← sees Punct.assign then
      advanceInTag
      attributeValue g

/-- Reads attributes up to the end of a tag. -/
def attributes (g : Rules) : Parser Unit := do
  repeatWhile g.bound (do
    match ← kind with
    | .eof | .punct .less | .punct .greater | .punct .slash => return false
    | _ =>
      markupAttribute g
      return true)

/-- Reads children up to a closing tag; `nested` reads an element among them. -/
def children (g : Rules) (nested : Parser Unit) : Parser Unit := do
  repeatWhile g.bound (do
    match ← kind with
    | .punct .less =>
      if (← peek) == Punct.slash then return false
      nested
      return true
    | .punct .openBrace =>
      if (← peek) == Punct.ellipsis then
        advance
        advance
        markupExpression g
        requireChild Punct.closeBrace
      else container g true
      return true
    | .markupText =>
      advanceToChild
      return true
    | _ => fail)

/-- Reads an element or a fragment; at most `depth` of them are nested. -/
def element (g : Rules) : (depth : Nat) → (inChild : Bool) → Parser Unit
  | 0, _ => fail
  | depth + 1, inChild => do
    require Punct.less
    if ← sees Punct.greater then
      requireChild Punct.greater
      children g (element g depth true)
      require Punct.less
      require Punct.slash
      requireWithin inChild Punct.greater
    else
      let name ← elementName g
      if ← typed then typeArguments g
      attributes g
      if ← accept Punct.slash then requireWithin inChild Punct.greater
      else
        requireChild Punct.greater
        children g (element g depth true)
        require Punct.less
        require Punct.slash
        let closing ← elementName g
        faultIf (closing != name)
        requireWithin inChild Punct.greater

end IconInline.Script.Parser
