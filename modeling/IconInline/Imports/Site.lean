import IconInline.Script.Outline

/-!
# Where a module imports

An import site is a place at which a module names another one, with the part of the module that
goes when this import is removed. A static import goes whole. A dynamic import takes the
innermost variable declaration around it along; outside of any declaration nothing goes.
-/

namespace IconInline.Imports

open Script (Outline Outlines)
open Source (Span)

/-- A place at which a module imports another one. -/
structure Site where
  specifier : String
  /-- What is removed with the import. -/
  region : Option Span
  deriving DecidableEq, Repr

mutual

/-- The dynamic imports in a part of a module, whose innermost declaration is `around`. -/
def dynamicSites (around : Option Span) : Outline → List Site
  | .imported specifier => [⟨specifier, around⟩]
  | .declaration span body => dynamicSitesIn (some span) body

/-- The dynamic imports in parts of a module that follow each other. -/
def dynamicSitesIn (around : Option Span) : List Outline → List Site
  | [] => []
  | part :: rest => dynamicSites around part ++ dynamicSitesIn around rest

end

/-- The static imports of a module. -/
def staticSites (module : Outlines) : List Site :=
  module.imports.map fun (specifier, span) => ⟨specifier, some span⟩

/-- The import sites of a module in the order in which they are considered: the static ones
first. -/
def sites (module : Outlines) : List Site :=
  staticSites module ++ dynamicSitesIn none module.body

end IconInline.Imports
