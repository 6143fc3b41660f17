import IconInline.CallSite.Segment
import IconInline.Dataset
import IconInline.Icon.Attributes

/-!
# Options

What an inliner is told: which modules it transforms, which datasets it pairs with which
functions, and what else happens to a module.
-/

namespace IconInline

/-- The phases in which modules are transformed. -/
inductive Phase where
  | build
  | serve
  deriving DecidableEq, Repr

/-- The phases by their names. -/
def Phase.names : List (String × Phase) := [("build", build), ("serve", serve)]

/-- How the strategy of an extractor is given. -/
inductive StrategyChoice where
  | named (name : String)
  | function (strategy : Strategy)

namespace StrategyChoice

/-- The strategy that is meant, if it exists. -/
def resolve? : StrategyChoice → Option Strategy
  | named name => Strategy.ofName? name
  | function strategy => some strategy

/-- The text by which a choice is called. -/
def label : StrategyChoice → String
  | named name => name
  | function _ => "<function>"

end StrategyChoice

/-- A function whose calls are replaced. -/
structure Extractor where
  /-- The name of the function in modules. -/
  name : String := "faIconToString"
  /-- The package that the function is imported from. -/
  package : String := "@xrnoz/vuetify-svg-icons"
  strategy : StrategyChoice := .named "standard"

/-- A dataset together with the function that embeds its icons. -/
structure Target where
  dataset : DatasetRef := {}
  extractor : Extractor := {}

/-- What an inliner is told. -/
structure Options where
  /-- Patterns for the modules to transform. -/
  patterns : List String := []
  targets : List Target := [{}]
  /-- Are the imports of datasets and extractors removed? -/
  dropsImports : Bool := true
  /-- Is every replacement and removed import logged? -/
  verbose : Bool := false
  /-- A file to which transformed modules are appended. -/
  journal : Option Path := none
  /-- The only phase in which modules are transformed, if there is only one. -/
  onlyIn : Option Phase := none
  scan : CallSite.ArgumentExtent := .balanced
  datasetRoot : Path := .ofString "icons"

/-- Are modules transformed in a phase? -/
def Options.runsIn (options : Options) (phase : Phase) : Bool :=
  options.onlyIn.all (· == phase)

end IconInline
