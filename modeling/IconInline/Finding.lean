import IconInline.Text.Abbreviation

/-!
# Findings

What a transform reports without failing. Each finding stands for the smallest scope that
was left untouched: a call, the imports of a module, or an entry of the configuration.
-/

namespace IconInline

/-- A condition that was recorded while modules were transformed or an inliner was set up. -/
inductive Finding where
  /-- A call was replaced by a literal. -/
  | replaced (identifier literal : String)
  /-- The dataset has no icon of this name. -/
  | unknownIcon (identifier : String)
  /-- A configured strategy does not exist. -/
  | unknownStrategy (name strategy : String)
  /-- A dataset could not be loaded. -/
  | datasetMissing (dataset message : String)
  /-- No include pattern was configured. -/
  | nothingIncluded
  /-- A module is not well-formed, so its imports were kept. -/
  | malformedModule (moduleId : String)
  deriving DecidableEq, Repr

namespace Finding

/-- The text of a finding. -/
def display : Finding → String
  | replaced identifier literal => "  - " ++ identifier ++ " -> " ++ Text.abbreviate literal
  | unknownIcon identifier => " > " ++ identifier ++ " -> Not found, not replaced."
  | unknownStrategy name strategy =>
    "extractor '" ++ name ++ "' uses unknown strategy '" ++ strategy ++ "', skipped"
  | datasetMissing dataset message => "dataset " ++ dataset ++ " unavailable: " ++ message
  | nothingIncluded => "`include` option was not provided."
  | malformedModule moduleId => moduleId ++ " could not be parsed, imports left in place"

/-- The identifier that a finding reports as missing. -/
def missing? : Finding → Option String
  | unknownIcon identifier => some identifier
  | _ => none

/-- Reports a replaced call. -/
def isReplaced : Finding → Bool
  | replaced .. => true
  | _ => false

end Finding

/-- The identifiers that a list of findings reports as missing. -/
def missingIcons (findings : List Finding) : List String :=
  findings.filterMap Finding.missing?

end IconInline
