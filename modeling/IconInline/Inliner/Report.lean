import IconInline.Inliner
import IconInline.Imports.Removal
import IconInline.Text.Blank
import IconInline.Text.LostLines

/-!
# Reports on modules

Once the datasets of all entries have been loaded, or failed to, the outcome for a module is
determined: the entries replace their calls one after the other, and then the imports that no
remaining call needs are removed.
-/

namespace IconInline

/-- Everything that happened to a module. -/
structure Report where
  moduleId : String
  text : String
  /-- The identifiers of the icons that replaced calls. -/
  replaced : List String := []
  /-- The specifiers of which an import was found. -/
  foundImports : List String := []
  findings : List Finding := []
  deriving DecidableEq, Repr

/-- An entry with what became of loading its dataset. -/
abbrev Acquired := Entry × Except Failure IconSet

namespace Report

/-- The identifiers of icons that were not found. -/
def missing (report : Report) : List String := missingIcons report.findings

end Report

namespace Entry

/-- Replaces the calls of an entry by icons of a set. -/
def replaceCalls (entry : Entry) (icons : IconSet) (text : String) : CallSite.Replacement :=
  entry.callee.replace text fun identifier => (icons.find? identifier).map entry.strategy.encode

end Entry

namespace Report

/-! ## Replacing calls -/

/-- Lets one entry replace its calls; without its dataset it changes nothing. -/
def embed (report : Report) : Acquired → Report
  | (entry, .ok icons) =>
    let out := entry.replaceCalls icons report.text
    { report with
      text := String.ofList out.text
      replaced := report.replaced ++ out.replaced
      findings := report.findings ++ out.findings }
  | (entry, .error e) =>
    let finding := .datasetMissing entry.dataset.display e.display
    { report with findings := report.findings ++ [finding] }

/-! ## Removing imports -/

/-- The packages whose imports have to stay, because calls of an entry were not replaced. -/
def neededPackages (acquired : List Acquired) : List String :=
  acquired.flatMap fun
    | (_, .ok _) => []
    | (entry, .error _) => entry.packages

/-- The names of a list that are not among others, each of them once. -/
def fresh (others : List String) : List String → List String
  | [] => []
  | name :: rest =>
    if others.contains name then fresh others rest else name :: fresh (name :: others) rest

/-- For each entry the packages whose imports are to be removed on its account: those that no
entry before it has dealt with. -/
def removalTargets (settled : List String) : List Entry → List (List String)
  | [] => []
  | entry :: rest =>
    let targets := fresh settled entry.packages
    targets :: removalTargets (targets ++ settled) rest

/-- The log record on the lines that went with removed imports, if there are any. -/
def removalRecord (before after : String) : List LogRecord :=
  let removed := Text.lostLines before after
  if removed.isEmpty then []
  else [⟨.info, "Removed imports:\n" ++ String.ofList (Text.trimEnd removed.toList)⟩]

/-- Removes the imports of one list of packages after the other, until the text turns out not
to be a module. Hands back what there is to log. -/
def removeEach (report : Report) : List (List String) → Report × List LogRecord
  | [] => (report, [])
  | targets :: rest =>
    let removal := Imports.remove (.ofModuleId report.moduleId) targets report.text
    if removal.malformed then
      ({ report with findings := report.findings ++ [.malformedModule report.moduleId] }, [])
    else
      let records := removalRecord report.text removal.text
      let next :=
        { report with
          text := removal.text
          foundImports := report.foundImports ++ removal.resolved }
      let (final, more) := next.removeEach rest
      (final, records ++ more)

/-- Removes the imports that no remaining call needs. -/
def removeImports (report : Report) (acquired : List Acquired) :
    Report × List LogRecord :=
  let targets := removalTargets (neededPackages acquired) (acquired.map Prod.fst)
  report.removeEach (targets.filter (!·.isEmpty))

/-! ## Records -/

/-- The log record of a finding. -/
def findingRecord (finding : Finding) : LogRecord :=
  ⟨if finding.isReplaced then .info else .warn, finding.display⟩

/-- The log records on a whole report. -/
def records (report : Report) : List LogRecord :=
  ⟨.info, programName ++ ": " ++ report.moduleId⟩ :: report.findings.map findingRecord

/-- What the journal keeps of a module: a header of comments, and the text. -/
def journalEntry (report : Report) (verbose : Bool) : String :=
  let notes := report.findings.map fun finding => "//" ++ finding.display ++ "\n"
  "\n// File: " ++ report.moduleId ++ "\n" ++ (if verbose then String.join notes else "")
    ++ report.text

end Report

namespace Inliner

/-- The report on a module, given what became of loading the datasets, and what there is to
log. -/
def report (e : Inliner) (id code : String) (acquired : List Acquired) :
    Report × List LogRecord :=
  let start : Report := { moduleId := id, text := code }
  let embedded := acquired.foldl Report.embed start
  let (final, removals) :=
    if e.options.dropsImports then embedded.removeImports acquired else (embedded, [])
  (final, if e.options.verbose then removals ++ final.records else [])

end Inliner

end IconInline
