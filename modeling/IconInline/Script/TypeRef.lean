import IconInline.Script.Modifier

/-!
# Types

The types of the typed language: functions, conditions, unions, operators, and the shapes below
them. Types leave nothing in the outline but what computed names inside them hold.
-/

namespace IconInline.Script.Parser

/-! ## Parameters and arguments -/

/-- Reads one type parameter. -/
def typeParameter (g : Rules) : Parser Unit := do
  let found ← modifiers g true false
  allowOnly (fun w => w == .in_ || w == .out_ || w == .const_) found
  let _ ← bindingName
  if ← accept Word.extends_ then g.typeRef
  if ← accept Punct.assign then g.typeRef

/-- Reads type parameters if there are any. -/
def typeParameters (g : Rules) : Parser Unit := do
  if ← typed then
    if ← accept Punct.less then
      separated g.bound Punct.greater Punct.comma true (typeParameter g)
      require Punct.greater

/-- Reads type arguments behind the name of a type, if there are any on its line. -/
def typeArguments (g : Rules) : Parser Unit := do
  splitLess
  unless ← onNewLine do
    if ← accept Punct.less then
      separated g.bound Punct.greater Punct.comma true g.typeRef
      require Punct.greater

/-! ## Names, predicates and function types -/

/-- Reads a name of a type: names with dots between them. -/
def typeName (g : Rules) : Parser Unit := do
  let _ ← propertyName
  repeatWhile g.bound (do
    if ← accept Punct.dot then
      let _ ← propertyName
      return true
    else return false)

/-- Reads a type, or a name and what is claimed of it. -/
def typeOrPredicate (g : Rules) : Parser Unit := do
  if isPropertyName (← kind) then
    let _ ← attempt (do
      let _ ← propertyName
      ensure (!(← onNewLine))
      require Word.is_)
  g.typeRef

/-- Reads the type that a function returns, if it is given. -/
def returnType (g : Rules) : Parser Unit := do
  if ← typed then
    if ← accept Punct.colon then typeOrPredicate g

/-- Passes over what a parameter begins with, if it can. -/
def skipParameterStart (g : Rules) : Parser Bool := do
  let _ ← modifiers g false false
  let k ← kind
  if isVariable k || k == Word.this_ then
    advanceName
    return true
  else if k == Punct.openBrace || k == Punct.openBracket then
    let before ← isFaulty
    let _ ← g.binding
    return (← isFaulty) == before
  else return false

/-- Does a parenthesis here begin the parameters of a function type? -/
def beginsFunctionType (g : Rules) : Parser Bool := foresee do
  advance
  if (← sees Punct.closeParen) || (← sees Punct.ellipsis) then return true
  if ← skipParameterStart g then
    match ← kind with
    | .punct .colon | .punct .comma | .punct .question | .punct .assign => return true
    | .punct .closeParen => return (← peek) == Punct.arrow
    | _ => return false
  else return false

/-- Does a function or constructor type begin here? -/
def atFunctionType (g : Rules) : Parser Bool := do
  match ← kind with
  | .punct .less | .word .new_ => return true
  | .punct .openParen => beginsFunctionType g
  | .word .abstract_ => return (← peek) == Word.new_
  | _ => return false

/-- Reads a function or constructor type. -/
def functionType (g : Rules) : Parser Unit := do
  let _ ← accept Word.abstract_
  let _ ← accept Word.new_
  typeParameters g
  parameters g
  require Punct.arrow
  typeOrPredicate g

/-! ## Members -/

/-- Is the token `n` places ahead a modifier of a member? -/
def isMemberModifier (n : Nat) : Parser Bool := do
  let t ← if n = 0 then token else peekToken n
  let next ← peekToken (n + 1)
  match t.kind with
  | .word w =>
    return isParameterModifier w && !next.newline
      && (next.kind == .privateName || next.kind == Punct.openBracket
        || isLiteralName next.kind || next.kind == Punct.openBrace || next.kind == Punct.star)
  | _ => return false

/-- How many modifiers of a member stand here? -/
def memberModifiers : (bound n : Nat) → Parser Nat
  | 0, n => return n
  | bound + 1, n => do
    if ← isMemberModifier n then memberModifiers bound (n + 1) else return n

/-- Does an index signature begin here? -/
def atIndexSignature : Parser Bool := do
  let n ← memberModifiers 20 0
  let t ← if n = 0 then token else peekToken n
  if t.kind != Punct.openBracket then return false
  let name ← peekToken (n + 1)
  let colon ← peekToken (n + 2)
  return isVariable name.kind && colon.kind == Punct.colon

/-- Reads the end of a member: a comma or a semicolon or nothing. -/
def memberEnd : Parser Unit := do
  unless ← accept Punct.comma do
    let _ ← accept Punct.semicolon

/-- Reads an index signature. -/
def indexSignature (g : Rules) : Parser Unit := do
  let _ ← modifiers g true false
  require Punct.openBracket
  let _ ← propertyName
  require Punct.colon
  g.typeRef
  require Punct.closeBracket
  require Punct.colon
  g.typeRef
  memberEnd

/-- Can the name of a property stand behind the present word? -/
def nextIsPropertyName : Parser Bool := do
  let k ← peek
  return isLiteralName k || k == Punct.openBracket || k == .privateName

/-- Reads type parameters, parameters and the type that is returned. -/
def signature (g : Rules) : Parser Unit := do
  typeParameters g
  parameters g
  returnType g

/-- Reads a member of an object type. -/
def typeMember (g : Rules) : Parser Unit := do
  if ← atIndexSignature then indexSignature g
  else
    match ← kind with
    | .punct .openParen | .punct .less =>
      signature g
      memberEnd
    | k =>
      let next ← peek
      if k == Word.new_ && (next == Punct.openParen || next == Punct.less) then
        advance
        signature g
        memberEnd
      else if (k == Word.get_ || k == Word.set_) && (← nextIsPropertyName) then
        advance
        let _ ← key g
        parameters g
        returnType g
        memberEnd
      else
        if k == Word.readonly_ && (← nextIsPropertyName) then advance
        let _ ← key g
        let _ ← accept Punct.question
        if (← sees Punct.openParen) || (← sees Punct.less) then signature g else typeAnnotation g
        memberEnd

/-- Reads the members of an object type between braces. -/
def typeMembers (g : Rules) : Parser Unit := do
  require Punct.openBrace
  upTo g.bound Punct.closeBrace (typeMember g)

/-- Does a mapped type begin here? -/
def atMappedType : Parser Bool := foresee do
  advance
  if (← sees Punct.plus) || (← sees Punct.minus) then
    advance
    sees Word.readonly_
  else
    let _ ← accept Word.readonly_
    require Punct.openBracket
    let _ ← propertyName
    sees Word.in_

/-- Reads a sign before a word or a mark of a mapped type, or the word or mark alone. -/
def signed (k : Kind) : Parser Unit := do
  if (← sees Punct.plus) || (← sees Punct.minus) then
    advance
    require k
  else
    let _ ← accept k

/-- Reads a mapped type. -/
def mappedType (g : Rules) : Parser Unit := do
  require Punct.openBrace
  signed Word.readonly_
  require Punct.openBracket
  let _ ← propertyName
  require Word.in_
  g.typeRef
  if ← accept Word.as_ then g.typeRef
  require Punct.closeBracket
  signed Punct.question
  typeAnnotation g
  let _ ← accept Punct.semicolon
  require Punct.closeBrace

/-! ## Elements of tuples -/

/-- Does a name with a colon, perhaps with a question mark in between, stand here? -/
def atTupleName : Parser Bool := foresee do
  let _ ← accept Punct.ellipsis
  let _ ← propertyName
  let _ ← accept Punct.question
  sees Punct.colon

/-- Reads an element of a tuple type. -/
def tupleElement (g : Rules) : Parser Unit := do
  if ← atTupleName then
    let _ ← accept Punct.ellipsis
    let _ ← propertyName
    let _ ← accept Punct.question
    require Punct.colon
  let _ ← accept Punct.ellipsis
  g.typeRef

/-! ## Shapes -/

/-- Reads attributes of an import inside a type. -/
def typeImportAttributes (g : Rules) : Parser Unit := do
  require Punct.openBrace
  unless ← accept Word.assert_ do require Word.with_
  require Punct.colon
  require Punct.openBrace
  separated g.bound Punct.closeBrace Punct.comma true (do
    if ← sees .string then advance
    else
      let _ ← propertyName
    require Punct.colon
    let _ ← g.expression)
  require Punct.closeBrace
  let _ ← accept Punct.comma
  require Punct.closeBrace

/-- Reads an import inside a type. -/
def typeImport (g : Rules) : Parser Unit := do
  let _ ← accept Word.typeof_
  require Word.import_
  require Punct.openParen
  g.typeRef
  if ← accept Punct.comma then
    unless ← sees Punct.closeParen do typeImportAttributes g
  require Punct.closeParen
  if ← accept Punct.dot then typeName g
  typeArguments g

/-- Reads the name of a type and its arguments. -/
def namedType (g : Rules) : Parser Unit := do
  typeName g
  typeArguments g

/-- Reads a template type. -/
def templateType (g : Rules) : Parser Unit := do
  advance
  repeatWhile g.bound (do
    g.typeRef
    unless ← sees Punct.closeBrace do fail
    rereadTemplate
    let k ← kind
    advance
    if k == .templateTail then return false
    ensure (k == .templateMiddle)
    return true)

/-- Is the word the name of a type that everything else is built from? -/
def isBasicType : Word → Bool
  | .any_ | .unknown_ | .string_ | .number_ | .bigint_ | .symbol_ | .boolean_ | .undefined_
  | .never_ | .object_ | .null_ => true
  | _ => false

/-- Reads a type that begins with a word. -/
def wordType (g : Rules) (w : Word) : Parser Unit := do
  let next ← peekToken 1
  match w with
  | .true_ | .false_ | .void_ => advance
  | .this_ =>
    advance
    if (← sees Word.is_) && !(← onNewLine) then
      advance
      g.typeRef
  | .typeof_ =>
    if next.kind == Word.import_ then typeImport g
    else
      advance
      namedType g
  | .import_ => typeImport g
  | .asserts_ =>
    if isPropertyName next.kind && !next.newline then
      advance
      let _ ← propertyName
      if ← accept Word.is_ then g.typeRef
    else namedType g
  | _ =>
    if isBasicType w && next.kind != Punct.dot then advance else namedType g

/-- Reads a type without anything behind it. -/
def plainType (g : Rules) : Parser Unit := do
  match ← kind with
  | .string | .number | .template => advance
  | .templateHead => templateType g
  | .word w => wordType g w
  | .punct .minus =>
    advance
    require .number
  | .punct .question =>
    advance
    match ← kind with
    | .punct .comma | .punct .closeBrace | .punct .closeParen | .punct .greater
    | .punct .assign | .punct .bar => pure ()
    | _ => g.typeRef
  | .punct .bang =>
    advance
    let _ ← g.run .typeOperand
  | .punct .openBrace => if ← atMappedType then mappedType g else typeMembers g
  | .punct .openBracket =>
    advance
    separated g.bound Punct.closeBracket Punct.comma true (tupleElement g)
    require Punct.closeBracket
  | .punct .openParen =>
    advance
    g.typeRef
    require Punct.closeParen
  | _ => namedType g

/-- Can a type begin here? -/
def beginsType : Parser Bool := do
  match ← kind with
  | .string | .number | .template | .templateHead | .name => return true
  | .punct p =>
    return p == .openBrace || p == .openBracket || p == .less || p == .bar || p == .ampersand
      || p == .openParen || p == .star || p == .question || p == .bang || p == .ellipsis
      || (p == .minus && (← peek) == .number)
  | .word w =>
    return !w.isReserved || isBasicType w || w == .void_ || w == .this_ || w == .typeof_
      || w == .new_ || w == .true_ || w == .false_ || w == .import_ || w == .function_
  | _ => return false

/-- Reads what may follow a type on its line: marks and brackets. -/
def typeSuffixes (g : Rules) : Parser Unit := do
  repeatWhile g.bound (do
    if ← onNewLine then return false
    match ← kind with
    | .punct .bang =>
      advance
      return true
    | .punct .question =>
      if ← foresee (do
          advance
          beginsType) then return false
      advance
      return true
    | .punct .openBracket =>
      advance
      unless ← sees Punct.closeBracket do g.typeRef
      require Punct.closeBracket
      return true
    | _ => return false)

/-- Reads the bound of an inferred type, unless it begins a conditional type. -/
def inferredBound (g : Rules) : Parser Unit := do
  require Word.extends_
  within (fun c => { c with noConditionalType := true }) g.typeRef
  ensure ((← context).noConditionalType || !(← sees Punct.question))

/-- Reads a type with operators before and marks behind it. -/
def typeOperand (g : Rules) : Parser Unit := do
  match ← kind with
  | .word .keyof_ | .word .unique_ | .word .readonly_ =>
    advance
    let _ ← g.run .typeOperand
  | .word .infer_ =>
    advance
    let _ ← bindingName
    let _ ← attempt (inferredBound g)
  | _ =>
    within (fun c => { c with noConditionalType := false }) do
      plainType g
      typeSuffixes g

/-- Reads types with an operator between them, and perhaps one before the first. -/
def joinedTypes (g : Rules) (operator : Punct) (item : Parser Unit) : Parser Unit := do
  let _ ← accept operator
  item
  repeatWhile g.bound (do
    if ← accept operator then
      item
      return true
    else return false)

/-- Reads a type. -/
def typeRef (g : Rules) : Parser Unit := do
  if ← atFunctionType g then functionType g
  else
    joinedTypes g .bar (joinedTypes g .ampersand (typeOperand g))
    if !(← context).noConditionalType && !(← onNewLine) && (← sees Word.extends_) then
      advance
      within (fun c => { c with noConditionalType := true }) g.typeRef
      require Punct.question
      within (fun c => { c with noConditionalType := false }) g.typeRef
      require Punct.colon
      within (fun c => { c with noConditionalType := false }) g.typeRef

end IconInline.Script.Parser
