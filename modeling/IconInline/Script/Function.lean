import IconInline.Script.TypeRef

/-!
# Functions

A function is its type parameters, its parameters, the type that it returns and its body. Only
the typed language lets the body be missing.
-/

namespace IconInline.Script.Parser

/-- Reads statements up to a closing brace, which is left, or the end of the module. `pause` comes
before each of them. -/
def statementsWith (g : Rules) (pause : Parser Unit) : Parser Unit := do
  repeatWhile g.bound (do
    pause
    match ← kind with
    | .eof | .punct .closeBrace => return false
    | .punct .at =>
      readDecorators g
      return true
    | _ =>
      g.statement .list
      return true)

/-- Goes on behind statements that are left out here, if any are. -/
def passOmitted (g : Rules) : Parser Unit := resume (statementsWith g (pure ()))

/-- Reads statements up to a closing brace, which is left, or the end of the module. -/
def statements (g : Rules) : Parser Unit := statementsWith g (passOmitted g)

/-- Reads the body of a function. -/
def functionBody (g : Rules) : Parser Unit := do
  require Punct.openBrace
  within (fun c => { c with inFunction := true }) (statements g)
  require Punct.closeBrace

/-- How a function may be written. -/
structure FunctionForm where
  isAsync : Bool := false
  isGenerator : Bool := false
  /-- It is declared without being defined. -/
  declared : Bool := false
  deriving DecidableEq, Repr

/-- What a function's parts see around them. -/
def FunctionForm.surroundings (form : FunctionForm) (c : Context) : Context :=
  { c with inOperator := true, await := form.isAsync, yield := form.isGenerator }

/-- Reads a function from its type parameters on. -/
def functionRest (g : Rules) (form : FunctionForm) : Parser Unit := do
  let hasBody ← within form.surroundings do
    typeParameters g
    parameters g
    returnType g
    if ← sees Punct.openBrace then
      functionBody g
      return true
    else return false
  if hasBody then faultIf (form.declared && (← context).ambient)
  else
    ensure (← typed)
    endStatement

/-- Reads a function expression, whose word `function` stands next. -/
def functionExpression (g : Rules) (isAsync : Bool) : Parser Unit := do
  require Word.function_
  let isGenerator ← accept Punct.star
  let form : FunctionForm := { isAsync, isGenerator }
  if isBinding (← kind) then
    let _ ← within (fun c => { c with await := isAsync, yield := isGenerator }) bindingName
  functionRest g form

end IconInline.Script.Parser
