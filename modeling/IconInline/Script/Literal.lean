import IconInline.Script.Class

/-!
# Arrays, objects, templates and calls

An array or an object is read as an expression first. Whether it could be read as a pattern, so
that a value can be assigned to it, is noted along the way, together with the shorthand
properties with a default that only a pattern may have.
-/

namespace IconInline.Script.Parser

/-! ## Arrays and objects -/

/-- A part of an array or an object: how it would do as a part of a pattern. -/
structure Part where
  fits : Bool
  isRest : Bool := false
  defaults : List Nat := []
  deriving DecidableEq, Repr

/-- The shape of an array or an object with given parts, the last one first. A rest part of a
pattern stands last and no comma follows it. -/
def collection (parts : List Part) (trailingComma : Bool) : Shape :=
  let restLast := parts.tail.all (!·.isRest) && !(trailingComma && parts.head?.any (·.isRest))
  { form := .collection
    pattern := restLast && parts.all (·.fits)
    defaults := parts.flatMap (·.defaults) }

/-- Reads parts with commas between them up to a closing token. -/
def parts (g : Rules) (close : Punct) (part : Parser Part) : Parser Shape := do
  let rec go : Nat → List Part → Parser Shape
    | 0, _ => fail
    | bound + 1, read => do
      if ← sees close then return collection read false
      unless read.isEmpty do
        require Punct.comma
      if ← sees close then return collection read true
      let next ← part
      go bound (next :: read)
  let shape ← within (fun c => { c with inOperator := true }) (go g.bound [])
  require close
  return shape

/-- Reads an element of an array. -/
def arrayPart (g : Rules) : Parser Part := do
  match ← kind with
  | .punct .comma => return { fits := true }
  | .punct .ellipsis =>
    advance
    let shape ← g.assignment
    return { fits := shape.assignable, isRest := true, defaults := shape.defaults }
  | _ =>
    let shape ← g.assignment
    return { fits := shape.element, defaults := shape.defaults }

/-- Reads a method of an object behind its name. -/
def methodRest (g : Rules) (form : FunctionForm) : Parser Part := do
  functionRest g form
  return { fits := false }

/-- Reads a shorthand property, perhaps with a default. -/
def shorthand (g : Rules) : Parser Part := do
  let start := (← token).start
  let _ ← bindingName
  if ← accept Punct.assign then
    let _ ← g.assignment
    note fun n => { n with openDefaults := start :: n.openDefaults }
    return { fits := true, defaults := [start] }
  else return { fits := true }

/-- Can a shorthand property not end before a token of this kind? -/
def endsNoShorthand (k : Kind) : Bool :=
  k == Punct.openParen || k == Punct.colon || k == Punct.less || k == Punct.shiftLeft
    || k == Punct.question || k == Punct.bang || k == Punct.dot

/-- Reads a property of an object. -/
def objectPart (g : Rules) : Parser Part := do
  let next ← peekToken 1
  let named := beginsElementKey next.kind
  let k ← kind
  if k == Punct.ellipsis then
    advance
    let shape ← g.assignment
    return { fits := shape.target && shape.form != .collection, isRest := true }
  else if (k == Word.get_ || k == Word.set_) && named then
    advance
    let _ ← key g
    methodRest g {}
  else if k == Word.async_ && (named || next.kind == Punct.star) && !next.newline then
    advance
    let isGenerator ← accept Punct.star
    let _ ← key g
    methodRest g { isAsync := true, isGenerator }
  else if k == Punct.star && named then
    advance
    let _ ← key g
    methodRest g { isGenerator := true }
  else if isBinding k && !endsNoShorthand next.kind then shorthand g
  else
    let _ ← key g
    if ← accept Punct.colon then
      let shape ← g.assignment
      return { fits := shape.element, defaults := shape.defaults }
    else
      ensure ((← sees Punct.openParen) || (← sees Punct.less) || (← sees Punct.shiftLeft))
      methodRest g {}

/-! ## Templates -/

/-- Reads a piece of a template. Only behind a tag may its escapes be ill-formed. -/
def templatePiece (tagged : Bool) : Parser Unit := do
  faultIf (!tagged && (← token).escaped)
  advance

/-- Reads a template. -/
def template (g : Rules) (tagged : Bool) : Parser Unit := do
  if ← sees .template then templatePiece tagged
  else
    templatePiece tagged
    let substitution : Parser Unit := do
      let _ ← g.inner
      if ← sees Punct.closeBrace then rereadTemplate
    substitution
    repeatWhile g.bound (do
      match ← kind with
      | .templateTail =>
        templatePiece tagged
        return false
      | .templateMiddle =>
        templatePiece tagged
        return true
      | _ =>
        substitution
        return true)

/-! ## Calls -/

/-- Reads the arguments of a call behind the opening parenthesis. -/
def arguments (g : Rules) : Parser Unit := do
  within (fun c => { c with inOperator := true, decorator := false })
    (separated g.bound Punct.closeParen Punct.comma true (do
      let _ ← accept Punct.ellipsis
      let _ ← g.assignment))
  require Punct.closeParen

/-- Reads a dynamic import from its parenthesis on. -/
def importCall (g : Rules) : Parser Shape := do
  require Punct.openParen
  if ← sees Punct.closeParen then fail
  let source ← g.innerAssignment
  if source.form == .string then record (.imported (String.ofList source.text))
  if ← accept Punct.comma then
    unless ← sees Punct.closeParen do
      let _ ← g.innerAssignment
  let _ ← accept Punct.comma
  require Punct.closeParen
  return { form := .importCall }

/-- Reads what begins with the word `import` inside an expression. -/
def importExpression (g : Rules) : Parser Shape := do
  advance
  if ← accept Punct.dot then
    match ← kind with
    | .word .meta_ =>
      advance
      return {}
    | .word .source_ | .word .defer_ =>
      advance
      importCall g
    | _ => fail
  else importCall g

end IconInline.Script.Parser
