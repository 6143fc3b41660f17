import IconInline.Files.Path

/-!
# Dialects

A module is written in the plain language or in its typed variant, with or without markup. The
extension of the module's name decides; a typed module may be a definition file, which declares
names without defining them.
-/

namespace IconInline.Script

/-- The language that a module is written in. -/
structure Dialect where
  typed : Bool := false
  markup : Bool := false
  definitions : Bool := false
  deriving DecidableEq, Repr

namespace Dialect

/-- Is the stem of a file in the typed language the name of a definition file? Its last piece
or the one before is `d`. -/
def definesPlain (stem : List Char) : Bool :=
  ((Text.splitOn '.' stem).reverse.take 2).contains ['d']

/-- Is the stem of a module file in the typed language the name of a definition file? -/
def definesModule (stem : List Char) : Bool := ['.', 'd'].isSuffixOf stem

/-- The dialect of a file of a given extension. -/
def ofExtension (stem : List Char) : String → Dialect
  | "js" | "mjs" | "cjs" | "jsx" => { markup := true }
  | "ts" => { typed := true, definitions := definesPlain stem }
  | "mts" | "cts" => { typed := true, definitions := definesModule stem }
  | "tsx" => { typed := true, markup := true }
  | _ => {}

/-- The dialect of a module. -/
def ofModuleId (id : String) : Dialect :=
  match (modulePath id).fileName? with
  | none => {}
  | some name =>
    match splitExtension name with
    | (stem, some ext) => ofExtension stem (String.ofList ext)
    | (_, none) => {}

end Dialect

end IconInline.Script
