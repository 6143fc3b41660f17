import IconInline.Script.ModuleItem

/-!
# Statements

Statements and the whole module. An import or an export may be read wherever a statement may
stand; only the imports at the top level are handed back.
-/

namespace IconInline.Script.Parser

/-- Reads an expression between parentheses. -/
def condition (g : Rules) : Parser Unit := do
  require Punct.openParen
  let _ ← g.inner
  require Punct.closeParen

/-! ## Loops -/

/-- Reads the rest of a loop with three parts, behind the first of them. -/
def countingLoop (g : Rules) (isAwait : Bool) : Parser Unit := do
  require Punct.semicolon
  unless (← sees Punct.semicolon) || (← sees Punct.closeParen) do
    let _ ← g.inner
  require Punct.semicolon
  unless ← sees Punct.closeParen do
    let _ ← g.inner
  require Punct.closeParen
  faultIf isAwait
  g.statement .single

/-- Reads the rest of a loop over something, whose word stands next. -/
def iteratingLoop (g : Rules) (isAwait : Bool) : Parser Unit := do
  let isIn ← sees Word.in_
  advance
  let _ ← if isIn then g.expression else g.assignment
  require Punct.closeParen
  faultIf (isAwait && isIn)
  g.statement .single

/-- Does the word that goes on a loop over something stand next? -/
def atIteration : Parser Bool := return (← sees Word.in_) || (← sees Word.of_)

/-- Does `let` in the head of a loop declare variables? -/
def letDeclares : Parser Bool := do
  if !(← sees Word.let_) then return false
  match ← peek with
  | .punct .openBrace | .punct .openBracket | .name => return true
  | .word w => return w != .in_
  | _ => return false

/-- Reads a loop whose head declares variables. -/
def declaringLoop (g : Rules) (isAwait : Bool) : Parser Unit := do
  let start := (← token).start
  let (kind, found) ←
    within (fun c => { c with inOperator := false }) (variableDeclaration g start .loop)
  if ← atIteration then
    faultIf (kind == .disposable && (← sees Word.in_))
    iteratingLoop g isAwait
  else
    checkValues kind found
    countingLoop g isAwait

/-- Reads a loop that begins with `for`. -/
def forStatement (g : Rules) : Parser Unit := do
  advance
  let isAwait ← sees Word.await_
  if isAwait then
    faultIf !(← context).await
    advance
  require Punct.openParen
  if ← sees Punct.semicolon then countingLoop g isAwait
  else if (← sees Word.const_) || (← sees Word.var_) || (← letDeclares) then
    declaringLoop g isAwait
  else if (← atUsing) && (← peek) != Word.of_ then declaringLoop g isAwait
  else
    let next ← peek
    let isLetOf := (← sees Word.let_) && next == Word.of_
    let isAsyncOf := (← sees Word.async_) && next == Word.of_
    let shape ← within (fun c => { c with inOperator := false }) g.expression
    if ← atIteration then
      makePattern shape
      faultIf (isLetOf || (isAsyncOf && !isAwait))
      iteratingLoop g isAwait
    else countingLoop g isAwait

/-! ## Other statements -/

/-- Reads a conditional statement. -/
def ifStatement (g : Rules) : Parser Unit := do
  advance
  condition g
  g.statement .single
  if ← accept Word.else_ then g.statement .single

/-- Reads a loop that begins with its body. -/
def doStatement (g : Rules) : Parser Unit := do
  advance
  g.statement .single
  require Word.while_
  condition g
  let _ ← accept Punct.semicolon

/-- Reads a jump with, perhaps, a label. -/
def jumpStatement : Parser Unit := do
  advance
  unless ← canEnd do
    let _ ← bindingName
  endStatement

/-- Reads the return from a function. -/
def returnStatement (g : Rules) : Parser Unit := do
  advance
  unless ← accept Punct.semicolon do
    unless ← canEnd do
      let _ ← g.inner
      endStatement
  faultIf !(← context).inFunction

/-- Reads the throw of an exception, which begins on the line of its word. -/
def throwStatement (g : Rules) : Parser Unit := do
  advance
  faultIf (← onNewLine)
  let _ ← g.expression
  endStatement

/-- Reads the cases of a `switch`. -/
def switchStatement (g : Rules) : Parser Unit := do
  advance
  condition g
  require Punct.openBrace
  upTo g.bound Punct.closeBrace (do
    unless ← accept Word.default_ do
      require Word.case_
      let _ ← g.expression
    require Punct.colon
    repeatWhile g.bound (do
      passOmitted g
      match ← kind with
      | .word .case_ | .word .default_ | .punct .closeBrace | .eof => return false
      | _ =>
        g.statement .list
        return true))

/-- Reads a block with what is done if it fails and what is done in any case. -/
def tryStatement (g : Rules) : Parser Unit := do
  advance
  block g
  let caught ← accept Word.catch_
  if caught then
    if ← accept Punct.openParen then
      let _ ← typedBinding g false
      require Punct.closeParen
    block g
  let final ← accept Word.finally_
  if final then block g
  faultIf !(caught || final)

/-- Reads an expression, or a label and its statement. -/
def expressionStatement (g : Rules) : Parser Unit := do
  let shape ← g.expression
  let labels ← if shape.form == .name then accept Punct.colon else pure false
  if labels then g.statement .single else endStatement

/-- Reads a declaration of variables, which may stand among statements only if it declares plain
variables in the old way. -/
def variableStatement (g : Rules) (place : Place) : Parser Unit := do
  let isVar ← sees Word.var_
  let _ ← variableDeclaration g (← token).start .statement
  faultIf (place == .single && !isVar)

/-- Reads what begins with `let`, which may be a variable. -/
def letStatement (g : Rules) (place : Place) : Parser Unit := do
  let next ← peek
  let operates := match next with
    | .punct .assign => true
    | k => isCompoundAssignment k || (precedence? false k).any (4 ≤ ·)
  if operates then
    let _ ← g.assignment
    endStatement
  else if next == Punct.dot || next == Punct.openParen then
    let _ ← g.expression
  else if (place == .single && next != Punct.openBracket) || next == Punct.semicolon then
    let _ ← bindingName
    endStatement
  else variableStatement g place

/-- Reads a declaration of a function as a statement. -/
def functionStatement (g : Rules) (place : Place) : Parser Unit := do
  let (form, _) ← functionDeclaration g true false
  faultIf (place == .single && (form.isAsync || form.isGenerator))

/-- Reads a statement that begins with a word of its own, if one does. -/
def wordStatement? (g : Rules) (place : Place) (w : Word) : Parser Bool := do
  match w with
  | .if_ => ifStatement g; return true
  | .for_ => forStatement g; return true
  | .do_ => doStatement g; return true
  | .while_ | .with_ =>
    advance
    condition g
    g.statement .single
    return true
  | .break_ | .continue_ => jumpStatement; return true
  | .return_ => returnStatement g; return true
  | .throw_ => throwStatement g; return true
  | .switch_ => switchStatement g; return true
  | .try_ => tryStatement g; return true
  | .debugger_ =>
    advance
    endStatement
    return true
  | .var_ => variableStatement g place; return true
  | .const_ =>
    if (← typed) && (← peek) == Word.enum_ then return false
    else
      variableStatement g place
      return true
  | .let_ =>
    if (← token).escaped then return false
    else
      letStatement g place
      return true
  | .class_ =>
    let _ ← classDeclaration g
    faultIf (place == .single)
    return true
  | .import_ =>
    let next ← peek
    if next == Punct.dot || next == Punct.openParen then return false
    else
      let _ ← importDeclaration g
      return true
  | .export_ => exportDeclaration g; return true
  | _ => return false

/-- Reads a statement that no word of its own tells apart. -/
def otherStatement (g : Rules) (place : Place) : Parser Unit := do
  if ← atFunction then functionStatement g place
  else if ← atUsing then variableStatement g place
  else if (← typed) && (← atTypedDeclaration g.bound) then typedDeclaration g
  else expressionStatement g

/-- Reads a statement. -/
def statement (g : Rules) (place : Place) : Parser Unit := do
  readDecorators g
  match ← kind with
  | .punct .openBrace => block g
  | .punct .semicolon => advance
  | .word w => unless ← wordStatement? g place w do otherStatement g place
  | _ => otherStatement g place

/-! ## Modules -/

/-- Reads the items of a module up to its end; hands back the imports at the top level. -/
def moduleItems (g : Rules) : Parser (List (String × Source.Span)) := do
  let rec go : Nat → List (String × Source.Span) → Parser (List (String × Source.Span))
    | 0, _ => fail
    | bound + 1, found => do
      passOmitted g
      match ← kind with
      | .eof => return found.reverse
      | .punct .at =>
        readDecorators g
        faultIf (← sees .eof)
        go bound found
      | .word .import_ =>
        let next ← peek
        if next == Punct.dot || next == Punct.openParen then
          g.statement .list
          go bound found
        else
          match ← importDeclaration g with
          | some i => go bound (i :: found)
          | none => go bound found
      | _ =>
        g.statement .list
        go bound found
  if ← sees .hashbang then advance
  go g.bound []

end IconInline.Script.Parser
