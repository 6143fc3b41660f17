/-!
# Words of the script language

The words with a meaning of their own. Some are reserved and name nothing; the others are names
wherever the grammar does not ask for the word. A word is called by its spelling with an
underscore behind it.
-/

namespace IconInline.Script

/-- A word with a meaning of its own. -/
inductive Word where
  | await_ | break_ | case_ | catch_ | class_ | const_ | continue_ | debugger_ | default_
  | delete_ | do_ | else_ | enum_ | export_ | extends_ | false_ | finally_ | for_ | function_
  | if_ | import_ | in_ | instanceof_ | new_ | null_ | return_ | super_ | switch_ | this_
  | throw_ | true_ | try_ | typeof_ | var_ | void_ | while_ | with_ | yield_ | let_ | static_
  | implements_ | interface_ | package_ | private_ | protected_ | public_ | async_ | from_
  | get_ | meta_ | of_ | set_ | target_ | accessor_ | abstract_ | as_ | asserts_ | assert_
  | any_ | boolean_ | constructor_ | declare_ | infer_ | intrinsic_ | is_ | keyof_ | module_
  | namespace_ | never_ | out_ | readonly_ | require_ | number_ | object_ | satisfies_
  | string_ | symbol_ | type_ | undefined_ | unique_ | using_ | unknown_ | global_ | bigint_
  | override_ | source_ | defer_
  deriving DecidableEq, Repr

namespace Word

/-- The reserved words with their spellings. -/
def reserved : List (String × Word) :=
  [("await", await_), ("break", break_), ("case", case_), ("catch", catch_),
    ("class", class_), ("const", const_), ("continue", continue_), ("debugger", debugger_),
    ("default", default_), ("delete", delete_), ("do", do_), ("else", else_), ("enum", enum_),
    ("export", export_), ("extends", extends_), ("false", false_), ("finally", finally_),
    ("for", for_), ("function", function_), ("if", if_), ("import", import_), ("in", in_),
    ("instanceof", instanceof_), ("new", new_), ("null", null_), ("return", return_),
    ("super", super_), ("switch", switch_), ("this", this_), ("throw", throw_),
    ("true", true_), ("try", try_), ("typeof", typeof_), ("var", var_), ("void", void_),
    ("while", while_), ("with", with_), ("yield", yield_)]

/-- The other words with their spellings. -/
def contextual : List (String × Word) :=
  [("let", let_), ("static", static_), ("implements", implements_), ("interface", interface_),
    ("package", package_), ("private", private_), ("protected", protected_),
    ("public", public_), ("async", async_), ("from", from_), ("get", get_), ("meta", meta_),
    ("of", of_), ("set", set_), ("target", target_), ("accessor", accessor_),
    ("abstract", abstract_), ("as", as_), ("asserts", asserts_), ("assert", assert_),
    ("any", any_), ("boolean", boolean_), ("constructor", constructor_), ("declare", declare_),
    ("infer", infer_), ("intrinsic", intrinsic_), ("is", is_), ("keyof", keyof_),
    ("module", module_), ("namespace", namespace_), ("never", never_), ("out", out_),
    ("readonly", readonly_), ("require", require_), ("number", number_), ("object", object_),
    ("satisfies", satisfies_), ("string", string_), ("symbol", symbol_), ("type", type_),
    ("undefined", undefined_), ("unique", unique_), ("using", using_), ("unknown", unknown_),
    ("global", global_), ("bigint", bigint_), ("override", override_), ("source", source_),
    ("defer", defer_)]

/-- The word with a spelling. -/
def ofText? (s : String) : Option Word := (reserved.lookup s).or (contextual.lookup s)

/-- The spelling of a word. -/
def text (w : Word) : String :=
  (((reserved ++ contextual).find? (·.2 == w)).map Prod.fst).getD ""

/-- Is never a name. -/
def isReserved (w : Word) : Bool := reserved.any (·.2 == w)

/-- Is kept for later use in strict code. -/
def isFutureReserved : Word → Bool
  | implements_ | interface_ | package_ | private_ | protected_ | public_ | static_ => true
  | _ => false

/-- May modify a declaration or a member. -/
def isModifier : Word → Bool
  | abstract_ | accessor_ | async_ | const_ | declare_ | default_ | export_ | in_ | out_
  | public_ | private_ | protected_ | readonly_ | static_ | override_ => true
  | _ => false

end Word

end IconInline.Script
