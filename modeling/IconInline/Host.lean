import IconInline.Dataset

/-!
# The surroundings of an inliner

An inliner does nothing to its surroundings but load datasets, write to a log and append to a
file. A host is a choice of these three effects in a monad.
-/

namespace IconInline

/-- How much a log record matters. -/
inductive LogLevel where
  | warn
  | info
  deriving DecidableEq, Repr

/-- A record of the log. -/
structure LogRecord where
  level : LogLevel
  message : String
  deriving DecidableEq, Repr

/-- The name under which the program reports. -/
def programName : String := "svgembed"

/-- The effects that an inliner needs. -/
structure Host (m : Type → Type) where
  /-- Loads a dataset. -/
  load : DatasetRef → m (Except Failure IconSet)
  /-- Writes to the log. -/
  log : LogRecord → m Unit
  /-- Appends text to a file. -/
  append : Path → String → m (Except Failure Unit)

end IconInline
