import IconInline.Script.Declaration

/-!
# Imports and exports

The declarations by which a module imports from other modules and exports to them. Names that
the module exports are collected, since none may be exported twice.
-/

namespace IconInline.Script.Parser

/-- Notes exported names. -/
def exporting (names : List (List Char)) : Parser Unit := note fun n =>
  { n with exported := names.map String.ofList ++ n.exported }

/-- Reads a string that must stand here. -/
def stringValue : Parser String := do
  let t ← token
  require .string
  return String.ofList t.text

/-! ## Attributes -/

/-- Reads one attribute of an import; hands back its name. -/
def importAttribute : Parser (List Char) := do
  let t ← token
  let name ← if t.kind == .string then do advance; pure t.text else propertyName
  require Punct.colon
  let _ ← stringValue
  return name

/-- Reads the attributes of an import if there are any; no name may occur twice. -/
def importAttributes (g : Rules) : Parser Unit := do
  if (← sees Word.with_) || ((← sees Word.assert_) && !(← onNewLine)) then
    advanceName
    require Punct.openBrace
    let rec go : Nat → List (List Char) → Parser Unit
      | 0, _ => fail
      | bound + 1, seen => do
        if ← sees Punct.closeBrace then return
        unless seen.isEmpty do require Punct.comma
        if ← sees Punct.closeBrace then return
        let name ← importAttribute
        faultIf (seen.contains name)
        go bound (name :: seen)
    go g.bound []
    require Punct.closeBrace

/-! ## Names in lists -/

/-- Reads a name in a list of imports or exports: a name, a word or a string. -/
def moduleName : Parser (Token × List Char) := do
  let t ← token
  if t.kind == .string then
    advance
    return (t, t.text)
  else
    let text ← propertyName
    return (t, text)

/-- Passes over the word `type` before a name in a list, where it is not the name itself. -/
def skipTypeMark : Parser Unit := do
  if (← typed) && (← sees Word.type_) then
    let second ← peekToken 1
    let third ← peekToken 2
    let fourth ← peekToken 3
    let isMark :=
      if second.kind == Word.as_ then
        if third.kind == Word.as_ then isPropertyName fourth.kind || fourth.kind == .string
        else !(isPropertyName third.kind || third.kind == .string)
      else isPropertyName second.kind || second.kind == .string
    if isMark then advance

/-- Passes over the word `type` before the names of an import or export. -/
def skipTypeWord : Parser Unit := do
  if (← typed) && (← sees Word.type_) then
    let second ← peekToken 1
    let third ← peekToken 2
    let named := match second.kind with
      | .name => true
      | .word w => !w.isReserved
      | _ => false
    if second.kind == Punct.openBrace || second.kind == Punct.star
        || (named && (second.kind != Word.from_ || third.kind == Word.from_)) then
      advance

/-! ## Imports -/

/-- Reads one name in a list of imports. -/
def importSpecifier : Parser Unit := do
  skipTypeMark
  if (← peek) == Word.as_ || (← sees .string) then
    let _ ← moduleName
    require Word.as_
  let _ ← bindingName

/-- Reads names of imports between braces. -/
def importList (g : Rules) : Parser Unit := do
  require Punct.openBrace
  separated g.bound Punct.closeBrace Punct.comma true importSpecifier
  require Punct.closeBrace

/-- Reads the name that a whole module is imported under. -/
def importNamespace : Parser Unit := do
  require Punct.star
  require Word.as_
  let _ ← bindingName

/-- Reads what is imported. -/
def importClause (g : Rules) : Parser Unit := do
  if isBinding (← kind) then
    let _ ← bindingName
    if ← accept Punct.comma then
      if ← sees Punct.star then importNamespace else importList g
  else if ← sees Punct.star then importNamespace
  else if ← sees Punct.openBrace then importList g
  require Word.from_

/-- Passes over the word that says in which phase a module is imported. -/
def skipPhase : Parser Unit := do
  if ← sees Word.source_ then
    let third ← peekToken 2
    if isBinding (← peek) && third.kind == Word.from_ then advance
  else if ← sees Word.defer_ then
    if (← peek) == Punct.star then advance

/-- Does a name for an imported module follow `import`? -/
def atImportAlias : Parser Bool := do
  if !(← typed) then return false
  let second ← peekToken 1
  let third ← peekToken 2
  let k ← kind
  return (isBinding k && second.kind == Punct.assign)
    || (k == Word.type_ && isBinding second.kind && third.kind == Punct.assign)

/-- Reads an import declaration; hands back its specifier and span, unless it only gives a name
to a module. -/
def importDeclaration (g : Rules) : Parser (Option (String × Source.Span)) := do
  let start := (← token).start
  advance
  if ← atImportAlias then
    importAlias g
    return none
  else
    skipPhase
    skipTypeWord
    unless ← sees .string do importClause g
    let specifier ← stringValue
    importAttributes g
    endStatement
    return some (specifier, ⟨start, (← notes).lastStop⟩)

/-! ## Exports -/

/-- Reads one name in a list of exports: the local name's token and the exported name. -/
def exportSpecifier : Parser (Token × List Char) := do
  skipTypeMark
  let (local_, name) ← moduleName
  if ← accept Word.as_ then
    let (_, name) ← moduleName
    return (local_, name)
  else return (local_, name)

/-- Is no name of a variable that could be exported. -/
def isUnexportable (t : Token) : Bool :=
  match t.kind with
  | .string => true
  | .word w => w.isReserved || w.isFutureReserved
  | _ => false

/-- Reads a list of exports, perhaps from another module. -/
def exportList (g : Rules) : Parser Unit := do
  skipTypeWord
  require Punct.openBrace
  let rec go : Nat → List (Token × List Char) → Parser (List (Token × List Char))
    | 0, _ => fail
    | bound + 1, read => do
      if ← sees Punct.closeBrace then return read
      unless read.isEmpty do require Punct.comma
      if ← sees Punct.closeBrace then return read
      let next ← exportSpecifier
      go bound (next :: read)
  let found ← go g.bound []
  require Punct.closeBrace
  let isFrom ← accept Word.from_
  match ← kind with
  | .string | .number | .regex | .word .true_ | .word .false_ | .word .null_ =>
    if isFrom then
      let _ ← stringValue
      importAttributes g
    else faultIf (found.any (isUnexportable ·.1))
  | _ => faultIf (found.any (isUnexportable ·.1))
  endStatement
  exporting (found.map (·.2))

/-- Reads the export of everything from another module. -/
def exportAll (g : Rules) : Parser Unit := do
  skipTypeWord
  require Punct.star
  if ← accept Word.as_ then
    let (_, name) ← moduleName
    exporting [name]
  require Word.from_
  let _ ← stringValue
  importAttributes g
  endStatement

/-- Reads a default export. -/
def exportDefault (g : Rules) : Parser Unit := do
  advance
  readDecorators g
  let isTyped ← typed
  let next ← peekToken 1
  if ← sees Word.class_ then
    let _ ← classDeclaration g
  else if isTyped && (← sees Word.abstract_) && next.kind == Word.class_ then
    advance
    let _ ← classDeclaration g
  else if isTyped && (← sees Word.interface_) && !next.newline then interfaceDeclaration g
  else if ← atFunction then
    let _ ← functionDeclaration g false false
  else
    let _ ← g.assignment
    endStatement
  exporting ["default".toList]

/-- Reads the export of a declaration. -/
def exportNamed (g : Rules) : Parser Unit := do
  readDecorators g
  let start := (← token).start
  let found ← if ← typed then modifiers g false false else pure []
  let change (c : Context) : Context :=
    { c with ambient := c.ambient || found.contains .declare_ }
  exporting (← within change (declaration g start found))

/-- Reads an export declaration. -/
def exportDeclaration (g : Rules) : Parser Unit := do
  advance
  let isTyped ← typed
  let next ← peek
  match ← kind with
  | .word .import_ =>
    advance
    importAlias g
  | .word .default_ => exportDefault g
  | .punct .star => exportAll g
  | .punct .openBrace => exportList g
  | k =>
    if isTyped && k == Punct.assign then
      advance
      let _ ← g.expression
      endStatement
    else if isTyped && k == Word.as_ && next == Word.namespace_ then
      advance
      advance
      let _ ← propertyName
      endStatement
    else if isTyped && k == Word.type_ && next == Punct.openBrace then exportList g
    else if isTyped && k == Word.type_ && next == Punct.star then exportAll g
    else exportNamed g

end IconInline.Script.Parser
