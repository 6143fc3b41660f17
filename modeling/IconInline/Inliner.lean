import IconInline.CallSite.Replacement
import IconInline.Glob.Match
import IconInline.Host
import IconInline.Options

/-!
# Inliners

An inliner is built from options once and then transforms modules. Targets whose strategy does
not exist are left out with a finding; a pattern or a function name that is none is an error.
-/

namespace IconInline

/-- A target whose strategy exists. -/
structure Entry where
  dataset : DatasetRef
  /-- The package that the function is imported from. -/
  package : String
  strategy : Strategy
  callee : CallSite.Callee

/-- The packages that an entry needs as long as its calls are not replaced. -/
def Entry.packages (entry : Entry) : List String := [entry.dataset.package, entry.package]

/-- What transforms modules. -/
structure Inliner where
  options : Options
  entries : List Entry
  /-- Admits modules; without one no module is admitted. -/
  filter : Option PathFilter
  /-- What was noticed when the inliner was built. -/
  setup : List Finding

namespace Inliner

variable {m : Type → Type} [Monad m]

/-- Warns of a strategy that does not exist. -/
def strategyWarning (extractor : Extractor) : LogRecord :=
  ⟨.warn, programName ++ ": extractor '" ++ extractor.name ++ "' uses unknown strategy '"
    ++ extractor.strategy.label ++ "' (expected one of: " ++ ", ".intercalate Strategy.names
    ++ "), skipped"⟩

/-- The entry for a target, unless its strategy does not exist. -/
def entryOf (scan : CallSite.ArgumentExtent) (target : Target) :
    Except Failure (Option Entry) :=
  let extractor := target.extractor
  if !Text.isExtractorName extractor.name then
    .error (.config ("Invalid extractor name '" ++ extractor.name ++ "'"))
  else
    match extractor.strategy.resolve? with
    | none => .ok none
    | some strategy =>
      (CallSite.Callee.ofName extractor.name scan).map fun callee =>
        some ⟨target.dataset, extractor.package, strategy, callee⟩

/-- The entries for targets, and the findings of those that are left out. -/
def entriesOf (log : LogRecord → m Unit) (scan : CallSite.ArgumentExtent) :
    List Target → ExceptT Failure m (List Entry × List Finding)
  | [] => return ([], [])
  | target :: rest => do
    match ← entryOf scan target with
    | some entry =>
      let (entries, findings) ← entriesOf log scan rest
      return (entry :: entries, findings)
    | none =>
      let extractor := target.extractor
      log (strategyWarning extractor)
      let (entries, findings) ← entriesOf log scan rest
      return (entries, .unknownStrategy extractor.name extractor.strategy.label :: findings)

/-- The filter for patterns, and what there is to notice about these. -/
def filterOf (log : LogRecord → m Unit) (patterns : List String) :
    ExceptT Failure m (Option PathFilter × List Finding) := do
  if patterns.isEmpty then
    log ⟨.warn, programName ++ ": " ++ Finding.nothingIncluded.display⟩
    return (none, [.nothingIncluded])
  else return (some (← PathFilter.ofPatterns patterns), [])

/-- Builds an inliner. -/
def ofOptions (log : LogRecord → m Unit) (options : Options) : ExceptT Failure m Inliner := do
  let (filter, unfiltered) ← filterOf log options.patterns
  let (entries, missing) ← entriesOf log options.scan options.targets
  return ⟨options, entries, filter, unfiltered ++ missing⟩

/-- Is a module transformed? -/
def admits (e : Inliner) (id : String) : Bool := e.filter.any (·.admits (modulePath id))

/-- The datasets of the entries, each once. -/
def datasets (e : Inliner) : List DatasetRef := (e.entries.map (·.dataset)).eraseDups

end Inliner

end IconInline
