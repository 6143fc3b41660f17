import IconInline.Text.Pieces

/-!
# Paths

A path is a text whose components stand between slashes. Repeated slashes, slashes at the end
and the component `.` mean nothing, except for a slash or a `.` at the very front. Components
are compared as a whole, so `a/b` sorts before `a-b`.
-/

namespace IconInline

/-- A path, absolute or relative. -/
structure Path where
  chars : List Char
  deriving DecidableEq, Repr

namespace Path

/-- The path with a given text. -/
def ofString (text : String) : Path := ⟨text.toList⟩

/-- The text of a path. -/
def text (p : Path) : String := String.ofList p.chars

/-- A part of a path that means something. -/
inductive Component where
  /-- The root of all paths, at the front of an absolute path. -/
  | root
  /-- A `.` at the front of a path. -/
  | here
  /-- A step upwards. -/
  | up
  | name (chars : List Char)
  deriving DecidableEq, Repr

/-- The component that a piece between slashes stands for, if it means something. -/
def component? : List Char → Option Component
  | [] | ['.'] => none
  | ['.', '.'] => some .up
  | piece => some (.name piece)

/-- The component at the front of a path. -/
def frontComponent? : List Char → Option Component
  | [] => some .root
  | ['.'] => some .here
  | piece => component? piece

/-- The components of a path in their order. -/
def components (p : Path) : List Component :=
  if p.chars = [] then []
  else
    match Text.splitOn '/' p.chars with
    | [] => []
    | front :: rest => (frontComponent? front).toList ++ rest.filterMap component?

/-- The name at the end of a path, if it ends in a name. -/
def fileName? (p : Path) : Option (List Char) :=
  match p.components.getLast? with
  | some (.name n) => some n
  | _ => none

/-- Goes on from a path by a piece, without another slash if the path ends in one. An absolute
piece starts anew. -/
def push (p : Path) (piece : List Char) : Path :=
  if piece.head? = some '/' ∨ p.chars = [] then ⟨piece⟩
  else if p.chars.getLast? = some '/' then ⟨p.chars ++ piece⟩
  else ⟨p.chars ++ '/' :: piece⟩

/-- A reversed text without the pieces in front that mean nothing. -/
def dropEmptyPieces : List Char → List Char
  | '/' :: rest => dropEmptyPieces rest
  | '.' :: '/' :: rest => dropEmptyPieces rest
  | cs => cs

/-- The components of a path behind those of `base`, if it begins with these. -/
def below? (base p : Path) : Option (List Component) :=
  if base.components.isPrefixOf p.components then some (p.components.drop base.components.length)
  else none

/-- The text of a component. -/
def Component.chars : Component → List Char
  | root => []
  | here => ['.']
  | up => ['.', '.']
  | name n => n

/-- The path with given components. -/
def ofComponents (components : List Component) : Path :=
  if components = [.root] then ⟨['/']⟩
  else ⟨['/'].intercalate (components.map Component.chars)⟩

/-- The path without its last component, unless there is none to drop. -/
def parent? (p : Path) : Option Path :=
  match p.components.getLast? with
  | none | some .root => none
  | some _ => some (ofComponents p.components.dropLast)

/-- What a component is sorted by. -/
def Component.rank : Component → List Nat
  | root => [0]
  | here => [1]
  | up => [2]
  | name n => 3 :: n.map Char.toNat

/-- Does a path sort before another, or is it the same? -/
def sortsBefore (p q : Path) : Bool :=
  !decide (q.components.map Component.rank < p.components.map Component.rank)

end Path

/-- A file name up to its last dot, and what follows the dot. A dot at the front does not
count. -/
def splitExtension (name : List Char) : List Char × Option (List Char) :=
  let tail := name.reverse.takeWhile (· != '.')
  let stem := name.take (name.length - tail.length - 1)
  if tail.length = name.length ∨ stem = [] then (name, none) else (stem, some tail.reverse)

namespace Path

/-- The extension of the name at the end of a path, if it ends in a name that has one. -/
def extension? (p : Path) : Option (List Char) :=
  match p.fileName? with
  | some name => (splitExtension name).2
  | none => none

/-- Gives the name at the end of a path another extension, or none if that is empty. A path that
does not end in a name stays as it is. -/
def setExtension (extension : List Char) (p : Path) : Path :=
  match p.fileName? with
  | none => p
  | some name =>
    let whole := (dropEmptyPieces p.chars.reverse).reverse
    let stem := whole.take (whole.length - name.length) ++ (splitExtension name).1
    if extension = [] then ⟨stem⟩ else ⟨stem ++ '.' :: extension⟩

end Path

/-- The path in a module's identifier: what stands before a query or a fragment. -/
def modulePath (id : String) : Path := ⟨id.toList.takeWhile (fun c => c != '?' && c != '#')⟩

end IconInline
