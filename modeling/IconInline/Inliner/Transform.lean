import IconInline.Dataset.Cache
import IconInline.Inliner.Report

/-!
# Transforming modules

The effects of a transform in their order: the datasets of the entries are loaded, the report is
logged, and the module is entered in the journal. A dataset that cannot be loaded costs only
its entry.
-/

namespace IconInline.Inliner

variable {m : Type → Type} [Monad m]

/-- Loads the datasets of all entries ahead of any transform, up to the first that fails. An
inliner that admits no module needs none. -/
def preload (host : Host m) (e : Inliner) : StateT Cache m (Except Failure Unit) :=
  if e.filter.isNone then return .ok () else Cache.loadAll host e.datasets

/-- Loads the dataset of each entry for a module. -/
def acquire (host : Host m) (id : String) : List Entry → StateT Cache m (List Acquired)
  | [] => return []
  | entry :: rest => do
    let outcome ← Cache.fetch host entry.dataset
    match outcome with
    | .ok _ => pure ()
    | .error e =>
      host.log ⟨.warn, programName ++ ": skipping " ++ entry.dataset.display ++ " in " ++ id
        ++ ": " ++ e.display⟩
    return (entry, outcome) :: (← acquire host id rest)

/-- Enters a module in the journal, if one is kept. -/
def record (host : Host m) (e : Inliner) (report : Report) : m (Except Failure Unit) :=
  match e.options.journal with
  | none => return .ok ()
  | some file => host.append file (report.journalEntry e.options.verbose)

/-- Transforms a module. There is no report on a module that is not admitted. -/
def transform (host : Host m) (e : Inliner) (id code : String) :
    StateT Cache m (Except Failure (Option Report)) := do
  if !e.admits id then return .ok none
  let acquired ← acquire host id e.entries
  let (report, records) := e.report id code acquired
  records.forM fun record => host.log record
  match ← (e.record host report : m (Except Failure Unit)) with
  | .ok () => return .ok (some report)
  | .error failure => return .error failure

end IconInline.Inliner
