import IconInline.Script.Expression

/-!
# Declarations

Declarations of variables, functions and classes, and those of the typed language: types,
enumerations, interfaces, namespaces and names for imported modules. A declaration hands back
the names that it declares.
-/

namespace IconInline.Script.Parser

/-! ## Variables -/

/-- Where a declaration of variables stands. -/
inductive VariablePlace where
  | statement
  /-- The head of a loop. -/
  | loop
  deriving DecidableEq, Repr

/-- One declared variable, as far as the absence of a value matters. -/
structure Variable where
  names : List (List Char)
  isPattern : Bool
  hasValue : Bool
  deriving DecidableEq, Repr

/-- How variables are declared. -/
inductive VariableKind where
  | plain
  | constant
  /-- Disposed of at the end of its block. -/
  | disposable
  deriving DecidableEq, Repr

/-- Reads one declared variable. -/
def variableRest (g : Rules) : Parser Variable := do
  let shape ← g.binding
  if ← typed then
    if !shape.pattern && !(← onNewLine) then
      let _ ← accept Punct.bang
    let _ ← accept Punct.question
    typeAnnotation g
  let hasValue ← accept Punct.assign
  if hasValue then
    let _ ← g.assignment
  return { names := shape.names, isPattern := shape.pattern, hasValue }

/-- Marks variables that lack a value. A pattern needs one, and so does a constant unless
nothing is defined here. -/
def checkValues (kind : VariableKind) (found : List Variable) : Parser Unit := do
  let isAmbient := (← context).ambient
  faultIf (found.any fun v =>
    !v.hasValue && (v.isPattern || kind == .disposable || (kind == .constant && !isAmbient)))

/-- Reads the word, or the words, that declare variables. -/
def variableKind : Parser VariableKind := do
  if ← accept Word.const_ then return .constant
  else if (← sees Word.var_) || (← sees Word.let_) then
    advance
    return .plain
  else
    let _ ← accept Word.await_
    require Word.using_
    faultIf (← onNewLine)
    faultIf (← sees Word.await_)
    return .disposable

/-- Reads variables behind the word that declares them, with commas between them. -/
def variableList (g : Rules) : Parser (List Variable) := do
  let rec go : Nat → List Variable → Parser (List Variable)
    | 0, _ => fail
    | bound + 1, read => do
      let v ← variableRest g
      if ← accept Punct.comma then go bound (v :: read) else return (v :: read).reverse
  go g.bound []

/-- Reads a declaration of variables. Its outline begins at `start` and, for disposable
variables, ends before the semicolon. -/
def variableDeclaration (g : Rules) (start : Nat) (place : VariablePlace) :
    Parser (VariableKind × List Variable) := do
  let (kind, found) ← declaring start do
    let kind ← variableKind
    let found ← variableList g
    faultIf (kind == .disposable && found.any (·.isPattern))
    if place == .statement then
      checkValues kind found
      if kind != .disposable then endStatement
    return (kind, found)
  if place == .statement && kind == .disposable then endStatement
  return (kind, found)

/-- Does a declaration of disposable variables begin here? -/
def atUsing : Parser Bool := do
  if ← sees Word.using_ then return isBinding (← peek)
  else if ← sees Word.await_ then
    let name ← peekToken 2
    return (← peek) == Word.using_ && isBinding name.kind
  else return false

/-! ## Functions and classes -/

/-- Reads a declaration of a function. Only the function of a default export may have no
name. -/
def functionDeclaration (g : Rules) (named declared : Bool) :
    Parser (FunctionForm × List (List Char)) := do
  let isAsync ← accept Word.async_
  require Word.function_
  let isGenerator ← accept Punct.star
  let names ←
    if isBinding (← kind) then
      let name ← bindingName
      pure [name]
    else
      ensure (!named)
      pure []
  let form : FunctionForm := { isAsync, isGenerator, declared }
  functionRest g form
  return (form, names)

/-- Reads a declaration of a class. -/
def classDeclaration (g : Rules) : Parser (List (List Char)) := do
  return (← classRest g).toList

/-! ## Declarations of the typed language -/

/-- Reads a name for a type. -/
def typeAlias (g : Rules) : Parser Unit := do
  advance
  let _ ← bindingName
  typeParameters g
  require Punct.assign
  g.typeRef
  endStatement

/-- Reads a member of an enumeration, whose name is a name or a string. -/
def enumMember (g : Rules) : Parser Unit := do
  match ← kind with
  | .string => advance
  | .punct .openBracket =>
    advance
    ensure ((← sees .string) || (← sees .template))
    let shape ← g.innerAssignment
    ensure (shape.form == .string || shape == {})
    require Punct.closeBracket
  | _ =>
    let _ ← propertyName
  if ← accept Punct.assign then
    let _ ← g.assignment

/-- Reads an enumeration. -/
def enumDeclaration (g : Rules) : Parser Unit := do
  advance
  let _ ← bindingName
  require Punct.openBrace
  separated g.bound Punct.closeBrace Punct.comma true (enumMember g)
  require Punct.closeBrace

/-- Reads an interface. -/
def interfaceDeclaration (g : Rules) : Parser Unit := do
  advance
  let _ ← bindingName
  typeParameters g
  heritage g
  typeMembers g

/-- Reads statements between braces. -/
def block (g : Rules) : Parser Unit := do
  require Punct.openBrace
  statements g
  require Punct.closeBrace

/-- Reads a namespace behind its word. -/
def namespaceRest (g : Rules) : Parser Unit := do
  if ← sees .string then advance
  else
    let _ ← bindingName
    repeatWhile g.bound (do
      if ← accept Punct.dot then
        let _ ← bindingName
        return true
      else return false)
  if ← sees Punct.openBrace then block g

/-- Reads a name for an imported module or a member of a namespace, behind `import`. -/
def importAlias (g : Rules) : Parser Unit := do
  if (← sees Word.type_) && (← peek) != Punct.assign then advance
  let _ ← bindingName
  require Punct.assign
  if ← accept Word.require_ then
    require Punct.openParen
    require .string
    require Punct.closeParen
  else typeName g
  endStatement

/-- Marks modifiers that a declaration cannot have. -/
def declarable (also : List Word) (modifiers : Modifiers) : Parser Unit :=
  allowOnly (fun w => w == .declare_ || also.contains w) modifiers

/-- Does a declaration of variables begin here? -/
def atVariables : Parser Bool := do
  if (← sees Word.var_) || (← sees Word.let_) || (← sees Word.const_) then return true
  else atUsing

/-- Reads a declaration behind its modifiers, the first of which stands at `start`. -/
def declaration (g : Rules) (start : Nat) (modifiers : Modifiers) :
    Parser (List (List Char)) := do
  match ← kind with
  | .word .namespace_ | .word .module_ =>
    declarable [] modifiers
    advance
    namespaceRest g
    return []
  | .word .global_ =>
    declarable [] modifiers
    advance
    if ← sees Punct.openBrace then block g
    return []
  | .word .type_ =>
    declarable [] modifiers
    typeAlias g
    return []
  | .word .enum_ =>
    declarable [.const_] modifiers
    enumDeclaration g
    return []
  | .word .interface_ =>
    declarable [] modifiers
    interfaceDeclaration g
    return []
  | .word .class_ =>
    declarable [.abstract_] modifiers
    classDeclaration g
  | .word .import_ =>
    advance
    importAlias g
    return []
  | _ =>
    if ← atFunction then
      declarable [.async_] modifiers
      let (_, names) ← functionDeclaration g true (modifiers.contains .declare_)
      return names
    else if ← atVariables then
      declarable [] modifiers
      let (_, found) ← variableDeclaration g start .statement
      return found.flatMap (·.names)
    else fail

/-- Does a declaration of the typed language begin here? -/
def atTypedDeclaration (bound : Nat) : Parser Bool := foresee do
  let rec go : Nat → Parser Bool
    | 0 => return false
    | bound + 1 => do
      match ← kind with
      | .word w =>
        match w with
        | .var_ | .let_ | .const_ | .function_ | .class_ | .enum_ => return true
        | .interface_ | .type_ =>
          advance
          return isBinding (← kind) && !(← onNewLine)
        | .module_ | .namespace_ =>
          advance
          return !(← onNewLine) && (isBinding (← kind) || (← sees .string))
        | .abstract_ | .accessor_ | .async_ | .declare_ | .private_ | .protected_ | .public_
        | .readonly_ =>
          advance
          if ← onNewLine then return false else go bound
        | .global_ =>
          advance
          return (← sees .name) || (← sees Punct.openBrace) || (← sees Word.export_)
        | .import_ =>
          advance
          return (← sees .string) || (← sees Punct.star) || (← sees Punct.openBrace)
            || isVariable (← kind)
        | .export_ =>
          advance
          match ← kind with
          | .punct .assign | .punct .star | .punct .openBrace | .punct .at
          | .word .default_ | .word .as_ => return true
          | _ => go bound
        | .static_ =>
          advance
          go bound
        | _ => return false
      | _ => return false
  go bound

/-- Reads a declaration of the typed language with its modifiers. -/
def typedDeclaration (g : Rules) : Parser Unit := do
  let start := (← token).start
  let found ← modifiers g false false
  let change (c : Context) : Context :=
    { c with ambient := c.ambient || found.contains .declare_, await := false }
  let _ ← within change (declaration g start found)

end IconInline.Script.Parser
