import IconInline.Script.Literal
import IconInline.Script.Markup

/-!
# Expressions

Expressions are read from the operands outwards: primary expressions, their members and calls,
unary and binary operators, conditions and assignments. A parenthesis may begin the parameters
of an arrow function; where that cannot be told at once, the parameters are read tentatively.
-/

namespace IconInline.Script.Parser

/-! ## Type arguments in expressions -/

/-- How strongly a binary operator binds; `none` if the token is no such operator. -/
def precedence? (typed : Bool) : Kind → Option Nat
  | .punct p =>
    match p with
    | .nullish => some 1
    | .either => some 2
    | .both => some 3
    | .bar => some 4
    | .caret => some 5
    | .ampersand => some 6
    | .equal | .notEqual | .same | .notSame => some 7
    | .less | .greater | .lessEqual | .greaterEqual => some 8
    | .shiftLeft | .shiftRight | .shiftRightZero => some 9
    | .plus | .minus => some 10
    | .star | .slash | .percent => some 11
    | .power => some 12
    | _ => none
  | .word .instanceof_ | .word .in_ => some 8
  | .word .as_ | .word .satisfies_ => if typed then some 8 else none
  | _ => none

/-- Can an expression begin here? -/
def beginsExpression : Parser Bool := do
  match ← kind with
  | .name | .privateName | .number | .string | .regex | .template | .templateHead => return true
  | .punct p =>
    return p == .openParen || p == .openBracket || p == .openBrace || p == .slash
      || p == .assignSlash || p == .plus || p == .minus || p == .bang || p == .tilde
      || p == .increment || p == .decrement || p == .less || p == .at
      || (precedence? false (.punct p)).isSome
  | .word .import_ =>
    let k ← peek
    return k == Punct.openParen || k == Punct.less || k == Punct.dot
  | .word w =>
    return !w.isReserved || w == .this_ || w == .super_ || w == .null_ || w == .true_
      || w == .false_ || w == .function_ || w == .class_ || w == .new_ || w == .typeof_
      || w == .void_ || w == .delete_ || w == .await_ || w == .yield_ || w == .instanceof_
      || w == .in_
  | _ => return false

/-- Can the present token follow type arguments in an expression? -/
def followsTypeArguments : Parser Bool := do
  let k ← kind
  match k with
  | .punct .openParen | .template | .templateHead => return true
  | .punct .less | .punct .greater | .punct .plus | .punct .minus => return false
  | _ =>
    if ← onNewLine then return true
    let isOperator := (precedence? (← typed) k).isSome
      && !(k == Word.in_ && (← context).inOperator)
    return isOperator || !(← beginsExpression)

/-- Reads type arguments inside an expression, if what follows shows that they are such. -/
def expressionTypeArguments (g : Rules) : Parser Bool := do
  if !(← typed) then return false
  let read ← attempt (do
    splitLess
    require Punct.less
    separated g.bound Punct.greater Punct.comma false g.typeRef
    joinGreater
    require Punct.greater
    ensure (← followsTypeArguments))
  return read.isSome

/-! ## Members and calls -/

/-- Reads the name behind a dot. -/
def memberName : Parser Unit := do
  if ← sees .privateName then advance
  else
    let _ ← propertyName

/-- Reads the expression of a member between brackets, the opening one of which was read. -/
def memberIndex (g : Rules) : Parser Unit := do
  let _ ← g.inner
  require Punct.closeBracket

/-- Reads members, tagged templates, marks and type arguments behind an expression. -/
def membersRest (g : Rules) : (bound : Nat) → Shape → Parser Shape
  | 0, _ => fail
  | bound + 1, shape => do
    match ← kind with
    | .punct .dot =>
      advance
      memberName
      membersRest g bound (.member shape.optional)
    | .punct .optional =>
      let next ← peek
      if next == Punct.openBracket && !(← context).decorator then
        advance
        advance
        memberIndex g
        membersRest g bound (.member true)
      else if isPropertyName next || next == .privateName then
        advance
        memberName
        membersRest g bound (.member true)
      else return shape
    | .punct .openBracket =>
      if (← context).decorator then return shape
      else
        advance
        memberIndex g
        membersRest g bound (.member shape.optional)
    | .template | .templateHead =>
      faultIf shape.optional
      template g true
      membersRest g bound { optional := shape.optional }
    | .punct .less | .punct .shiftLeft =>
      if ← expressionTypeArguments g then
        membersRest g bound { form := .instantiation, optional := shape.optional }
      else return shape
    | .punct .bang =>
      if (← typed) && !(← onNewLine) then
        advance
        membersRest g bound { shape with form := .other, pattern := false }
      else return shape
    | _ => return shape

/-- Reads members and calls behind an expression. -/
def callsRest (g : Rules) : (bound : Nat) → Shape → Parser Shape
  | 0, _ => fail
  | bound + 1, shape => do
    let shape ← membersRest g g.bound shape
    if ← accept Punct.optional then
      let _ ← expressionTypeArguments g
      if (← sees .template) || (← sees .templateHead) then
        fault
        template g true
        callsRest g bound { optional := true }
      else
        require Punct.openParen
        arguments g
        callsRest g bound { optional := true }
    else if ← accept Punct.openParen then
      arguments g
      callsRest g bound { optional := shape.optional }
    else return shape

/-! ## Primary expressions -/

/-- Reads expressions between parentheses. -/
def parenthesized (g : Rules) : Parser Shape := do
  advance
  let shape ← within (fun c => { c with inOperator := true, decorator := false }) g.expression
  require Punct.closeParen
  return { form := .parenthesized, place := shape.place
           target := shape.target && shape.form != .collection }

/-- Does a function begin here, perhaps an asynchronous one? -/
def atFunction : Parser Bool := do
  if ← sees Word.function_ then return true
  else if ← sees Word.async_ then
    let next ← peekToken 1
    return next.kind == Word.function_ && !next.newline
  else return false

/-- Reads a class expression behind its decorators. -/
def classExpression (g : Rules) : Parser Shape := do
  let _ ← classRest g
  return {}

/-- Reads a primary expression; `new` stands for the rule of object creation. -/
def primaryWith (g : Rules) (creation : Parser Shape) : Parser Shape := do
  if ← atFunction then
    let isAsync ← accept Word.async_
    functionExpression g isAsync
    return {}
  let t ← token
  match t.kind with
  | .name =>
    let text ← bindingName
    return .reference text
  | .punct .slash | .punct .assignSlash =>
    rereadRegex
    advance
    return {}
  | .number | .regex =>
    advance
    return {}
  | .string =>
    advance
    return { form := .string, text := t.text }
  | .template | .templateHead =>
    template g false
    return {}
  | .punct .openBracket =>
    advance
    parts g .closeBracket (arrayPart g)
  | .punct .openBrace =>
    advance
    parts g .closeBrace (objectPart g)
  | .punct .openParen => parenthesized g
  | .punct .at =>
    readDecorators g
    classExpression g
  | .punct .less =>
    ensure (← markup)
    let _ ← g.run .element
    return {}
  | .word .class_ => classExpression g
  | .word .this_ | .word .null_ | .word .true_ | .word .false_ =>
    advance
    return {}
  | .word .new_ => creation
  | .word .super_ =>
    advance
    let k ← kind
    faultIf !(k == Punct.dot || k == Punct.openParen || k == Punct.openBracket)
    return {}
  | .word .import_ => importExpression g
  | .word _ =>
    let text ← bindingName
    return .reference text
  | _ => fail

/-- Reads the creation of an object; at most `depth` of them are nested in one another's
callee. -/
def creation (g : Rules) : (depth : Nat) → Parser Shape
  | 0 => fail
  | depth + 1 => do
    advance
    if ← accept Punct.dot then
      require Word.target_
      return {}
    let first ← primaryWith g (creation g depth)
    let callee ← membersRest g g.bound first
    if ← accept Punct.openParen then arguments g
    faultIf (callee.form == .importCall || callee.optional)
    return {}

/-- Reads a primary expression. -/
def primary (g : Rules) : Parser Shape := primaryWith g (creation g g.bound)

/-- Reads an expression with its members and calls. -/
def leftHandSide (g : Rules) : Parser Shape := do
  let first ← primary g
  let shape ← callsRest g g.bound first
  if shape.optional then return { shape with target := false, place := false }
  else return shape

/-! ## Operators -/

/-- Is an operator before its operand. -/
def isUnaryOperator : Kind → Bool
  | .punct p => p == .plus || p == .minus || p == .bang || p == .tilde
  | .word w => w == .typeof_ || w == .void_ || w == .delete_
  | _ => false

/-- Is an operator that counts up or down. -/
def isUpdateOperator (k : Kind) : Bool := k == Punct.increment || k == Punct.decrement

/-- Does an operand that is no operator stand behind a word, on the same line? -/
def operandFollows : Parser Bool := do
  let next ← peekToken 1
  return !next.newline && (isPropertyName next.kind || next.kind == .number
    || next.kind == .string)

/-- Does `await` begin an expression here? -/
def atAwait : Parser Bool := do
  if !(← sees Word.await_) then return false
  if (← context).await then return (← peek) != Punct.arrow
  operandFollows

/-- Reads an operand with what stands before it. -/
def unary (g : Rules) : Parser Shape := do
  let k ← kind
  if isUpdateOperator k then
    advance
    let operand ← g.run .unary
    ensure operand.target
    return {}
  else if isUnaryOperator k then
    advance
    let _ ← g.run .unary
    return {}
  else if k == Punct.less then
    if ← markup then
      let _ ← g.run .element
      return {}
    else
      ensure (← typed)
      advance
      g.typeRef
      require Punct.greater
      let operand ← g.run .unary
      return { place := operand.place, target := operand.place }
  else if ← atAwait then
    faultIf !(← context).await
    advance
    let _ ← within (fun c => { c with await := true }) (g.run .unary)
    return {}
  else
    let shape ← leftHandSide g
    if isUpdateOperator (← kind) && !(← onNewLine) then
      advance
      ensure shape.target
      return {}
    else return shape

/-- Reads operators and operands that bind more strongly than `least`. -/
def binaryRest (g : Rules) (least : Nat) : (bound : Nat) → Shape → Parser Shape
  | 0, _ => fail
  | bound + 1, left => do
    joinGreater
    let k ← kind
    let isTyped ← typed
    match precedence? isTyped k with
    | none => return left
    | some p =>
      let stops := if k == Punct.power then p < least else p ≤ least
      if stops || (k == Word.in_ && !(← context).inOperator) then return left
      else if isTyped && (k == Word.as_ || k == Word.satisfies_) then
        if ← onNewLine then return left
        else
          advance
          g.typeRef
          binaryRest g least bound { place := left.place, target := left.place }
      else
        advance
        let _ ← g.run (.binary p)
        binaryRest g least bound {}

/-- Reads a binary expression of operators that bind more strongly than `least`. -/
def binary (g : Rules) (least : Nat) : Parser Shape := do
  let first ←
    if ← sees .privateName then
      advance
      ensure (← context).inOperator
      require Word.in_
      let _ ← g.run .unary
      pure {}
    else g.run .unary
  binaryRest g least g.bound first

/-! ## Arrow functions -/

/-- Whether an arrow function stands somewhere. -/
inductive Likelihood where
  | yes
  | no
  | perhaps
  deriving DecidableEq, Repr

/-- Judges a parenthesis by the tokens behind it. -/
def judgeParenthesis : Parser Likelihood := do
  let second ← peekToken 1
  let third ← peekToken 2
  let fourth ← peekToken 3
  match second.kind with
  | .punct .closeParen =>
    match third.kind with
    | .punct .arrow | .punct .openBrace => return .yes
    | .punct .colon => return if ← typed then .perhaps else .no
    | _ => return .no
  | .punct .openBracket | .punct .openBrace => return .perhaps
  | .punct .ellipsis =>
    match third.kind with
    | .string | .number | .template | .word .true_ | .word .false_ | .word .null_ => return .no
    | k => return if isBinding k then .yes else .perhaps
  | k =>
    let isModifier := match k with
      | .word w => w.isModifier && w != .async_
      | _ => false
    if isModifier && isBinding third.kind then
      return if third.kind == Word.as_ then .no else .yes
    else if !isBinding k && k != Word.this_ then return .no
    else
      match third.kind with
      | .punct .colon => return .yes
      | .punct .comma | .punct .assign | .punct .closeParen => return .perhaps
      | .punct .question =>
        match fourth.kind with
        | .punct .colon | .punct .comma | .punct .assign | .punct .closeParen => return .yes
        | _ => return .no
      | _ => return .no

/-- Judges a `<` in a module with markup, where only what cannot be an element counts. -/
def judgeAngleInMarkup : Parser Likelihood := do
  let offset := if (← peek) == Word.const_ then 2 else 1
  let third ← peekToken (offset + 1)
  let fourth ← peekToken (offset + 2)
  match third.kind with
  | .word .extends_ =>
    match fourth.kind with
    | .punct .assign | .punct .greater | .punct .slash => return .no
    | _ => return .yes
  | .punct .comma | .punct .assign => return .yes
  | _ => return .no

/-- Judges whether an arrow function with parentheses or type parameters begins here; `async`
has been passed. -/
def judgeArrow : Parser Likelihood := do
  match ← kind with
  | .punct .openParen => judgeParenthesis
  | .punct .less =>
    let k ← peek
    if !isVariable k && k != Word.const_ then return .no
    else if ← markup then judgeAngleInMarkup
    else return .perhaps
  | _ => return .no

/-- Judges whether an arrow function with parentheses or type parameters begins here. -/
def judgeArrowHere : Parser Likelihood := do
  if ← sees Word.async_ then
    let next ← peekToken 1
    if next.newline || !(next.kind == Punct.openParen || next.kind == Punct.less) then return .no
    else
      glance do
        advance
        judgeArrow
  else judgeArrow

/-- Reads the body of an arrow function behind its arrow. -/
def arrowBody (g : Rules) (isAsync returnTypes : Bool) : Parser Unit :=
  within (fun c => { c with await := isAsync, yield := false }) do
    if ← sees Punct.openBrace then functionBody g
    else
      let _ ← g.run (.assignment returnTypes)

/-- Reads an arrow function up to its arrow; tells whether it is asynchronous, and whether the
type that it returns is given. -/
def arrowHead (g : Rules) : Parser (Bool × Bool) := do
  let isAsync ← accept Word.async_
  let hasType ← within (fun c => { c with await := c.await || isAsync }) do
    typeParameters g
    parametersOf g true
    let hasType := (← typed) && (← sees Punct.colon)
    returnType g
    return hasType
  faultIf (← onNewLine)
  require Punct.arrow
  return (isAsync, hasType)

/-- Reads an arrow function with parentheses tentatively. In the middle of a conditional
expression one with a type must be followed by the colon of the condition. -/
def possibleArrow (g : Rules) (returnTypes : Bool) : Parser (Option Shape) := do
  let start := (← token).start
  if (← notes).notArrow.contains start then return none
  else
    match ← attempt (arrowHead g) with
    | none =>
      note fun n => { n with notArrow := start :: n.notArrow }
      return none
    | some (isAsync, hasType) =>
      arrowBody g isAsync returnTypes
      if !returnTypes && hasType then
        if ← sees Punct.colon then return some {} else fail
      else return some {}

/-- Reads an arrow function with parentheses or type parameters if one begins here. -/
def arrow? (g : Rules) (returnTypes : Bool) : Parser (Option Shape) := do
  match ← judgeArrowHere with
  | .no => return none
  | .yes =>
    let (isAsync, _) ← arrowHead g
    arrowBody g isAsync true
    return some {}
  | .perhaps =>
    if returnTypes then possibleArrow g true
    else
      match ← attempt (possibleArrow g false) with
      | some answer => return answer
      | none => return none

/-- Does an asynchronous arrow function with a single bare parameter begin here? -/
def atAsyncArrow : Parser Bool := do
  if !(← sees Word.async_) then return false
  let name ← peekToken 1
  let arrow ← peekToken 2
  return isBinding name.kind && !name.newline && arrow.kind == Punct.arrow && !arrow.newline

/-- Reads the rest of an arrow function with a single bare parameter. -/
def bareArrow (g : Rules) (isAsync returnTypes : Bool) : Parser Shape := do
  faultIf (← onNewLine)
  require Punct.arrow
  arrowBody g isAsync returnTypes
  return {}

/-! ## Assignments -/

/-- Does `yield` begin an expression here? -/
def atYield : Parser Bool := do
  if !(← sees Word.yield_) then return false
  if (← context).yield then return true
  operandFollows

/-- Can an expression not follow `yield` before a token of this kind? -/
def endsYield (k : Kind) : Bool :=
  k == Punct.semicolon || k == .eof || k == Punct.closeBrace || k == Punct.closeParen
    || k == Punct.closeBracket || k == Punct.colon || k == Punct.comma || k == Word.in_

/-- Reads a `yield` expression. -/
def yieldExpression (g : Rules) : Parser Shape := do
  advance
  faultIf !(← context).yield
  unless ← onNewLine do
    let delegates ← accept Punct.star
    if delegates || !endsYield (← kind) then
      let _ ← within (fun c => { c with yield := true }) g.assignment
  return {}

/-- Is an assignment that combines two values. -/
def isCompoundAssignment : Kind → Bool
  | .punct p =>
    match p with
    | .assignPlus | .assignMinus | .assignStar | .assignPower | .assignSlash | .assignPercent
    | .assignShiftLeft | .assignShiftRight | .assignShiftRightZero | .assignAmpersand
    | .assignBar | .assignCaret | .assignBoth | .assignEither | .assignNullish => true
    | _ => false
  | _ => false

/-- Makes an expression the left side of an assignment by `=`; its shorthand properties with a
default become parts of a pattern. -/
def makePattern (shape : Shape) : Parser Unit := do
  ensure shape.assignable
  note fun n =>
    { n with openDefaults := n.openDefaults.filter (!shape.defaults.contains ·) }

/-- Reads an assignment expression. -/
def assignment (g : Rules) (returnTypes : Bool) : Parser Shape := do
  if ← atYield then yieldExpression g
  else
    match ← arrow? g returnTypes with
    | some shape => return shape
    | none =>
      if ← atAsyncArrow then
        advance
        let _ ← within (fun c => { c with await := true }) bindingName
        bareArrow g true returnTypes
      else
        let left ← g.run (.binary 0)
        let k ← kind
        if left.form == .name && k == Punct.arrow then bareArrow g false returnTypes
        else if k == Punct.assign then
          makePattern left
          advance
          let _ ← g.run (.assignment returnTypes)
          return { form := .assignment }
        else if isCompoundAssignment k then
          ensure left.target
          advance
          let _ ← g.run (.assignment returnTypes)
          return {}
        else if k == Punct.question then
          advance
          let _ ← within (fun c => { c with inOperator := true }) (g.run (.assignment false))
          require Punct.colon
          let _ ← g.run (.assignment returnTypes)
          return {}
        else return left

end IconInline.Script.Parser
