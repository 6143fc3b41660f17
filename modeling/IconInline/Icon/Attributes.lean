import IconInline.Icon

/-!
# Attributes of an inlined icon

An inlined icon carries five texts: view box, path, fill, stroke width and fill rule. A
strategy says which of them are taken from the icon; an empty text leaves the choice to the
renderer.
-/

namespace IconInline

/-- The five texts of an inlined icon. -/
structure IconAttributes where
  viewBox : String := ""
  path : String := ""
  fill : String := ""
  strokeWidth : String := ""
  fillRule : String := ""
  deriving DecidableEq, Repr

namespace IconAttributes

/-- The five texts in the order in which they are written. -/
def toList (f : IconAttributes) : List String :=
  [f.viewBox, f.path, f.fill, f.strokeWidth, f.fillRule]

/-- The view box and the joined paths of an icon. An icon without a view box of its own has
the one that its size implies. -/
def outline (icon : Icon) : IconAttributes where
  viewBox := icon.viewBox.getD
    ("0 0 " ++ toString icon.width.toNat ++ " " ++ toString icon.height.toNat)
  path := " ".intercalate icon.paths

/-- The outline of an icon and every attribute that it carries. -/
def full (icon : Icon) : IconAttributes :=
  { outline icon with
    fill := icon.fill.getD ""
    strokeWidth := icon.strokeWidth.getD ""
    fillRule := icon.fillRule.getD "" }

end IconAttributes

/-- How the attributes of an icon are chosen. -/
inductive Strategy where
  | standard
  | pathOnly
  | custom (fields : Icon → IconAttributes)

namespace Strategy

/-- The names under which strategies are configured. -/
def names : List String := ["standard", "path-only"]

/-- The strategy with a configured name. -/
def ofName? : String → Option Strategy
  | "standard" => some .standard
  | "path-only" => some .pathOnly
  | _ => none

/-- The attributes that a strategy takes from an icon. -/
def fields : Strategy → Icon → IconAttributes
  | .standard => .full
  | .pathOnly => .outline
  | .custom fields => fields

/-- A strategy as shown to a developer. -/
def label : Strategy → String
  | .standard => "Standard"
  | .pathOnly => "PathOnly"
  | .custom _ => "Custom(..)"

end Strategy

end IconInline
