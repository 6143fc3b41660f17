/-!
# Icons

An icon is what a dataset holds under one identifier: its size, its outline as one path or as
several layers, and the attributes it may carry.
-/

namespace IconInline

/-- The outline of an icon. -/
inductive Drawing where
  | single (path : String)
  | layered (paths : List String)
  deriving DecidableEq, Repr

/-- The paths of an outline, the lowest layer first. -/
def Drawing.paths : Drawing → List String
  | .single path => [path]
  | .layered paths => paths

/-- An icon of a dataset. -/
structure Icon where
  family : Option String
  name : Option String
  width : UInt32
  height : UInt32
  ligatures : List String
  glyph : String
  path : Drawing
  viewBox : Option String
  fill : Option String
  strokeWidth : Option String
  fillRule : Option String
  deriving DecidableEq, Repr

/-- An icon of a size and a single path, without any attribute. -/
def Icon.plain (width height : UInt32) (path : String) : Icon :=
  ⟨none, none, width, height, [], "", .single path, none, none, none, none⟩

/-- The paths of an icon, the lowest layer first. -/
def Icon.paths (icon : Icon) : List String := icon.path.paths

/-- The icons of one exported binding by their identifiers, in ascending order of these. -/
abbrev IconSet := List (String × Icon)

/-- The icon under an identifier. -/
def IconSet.find? (icons : IconSet) (identifier : String) : Option Icon :=
  List.lookup identifier icons

end IconInline
