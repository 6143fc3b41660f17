import IconInline.Files.FileSystem
import IconInline.Host

/-!
# The surroundings of a command

A command works on a file system, prints to the output and writes to a log. Datasets are files
below a directory.
-/

namespace IconInline.Command

/-- The operations that a command needs besides those on files. -/
structure Console (m : Type → Type) where
  print : String → m Unit
  log : LogRecord → m Unit
  /-- The milliseconds since the command began, as text. -/
  elapsed : m String

/-- All that a command acts on. -/
structure Terminal (m : Type → Type) where
  files : FileSystem m
  console : Console m

variable {m : Type → Type} [Monad m]

/-- A fault of the file system as an error. -/
def ioError : FileFault → Failure
  | fault => .io fault.message

/-- Carries out an operation on files. -/
def attempt {α : Type} (operation : m (Except FileFault α)) : ExceptT Failure m α :=
  ExceptT.mk do return (← operation).mapError ioError

/-- Loads a dataset from its file below a directory. -/
def loadDataset (files : FileSystem m) (directory : Path) (key : DatasetRef) :
    m (Except Failure IconSet) := do
  let file := Dataset.file directory key.package
  match ← files.read file with
  | .ok content => return Dataset.read content key
  | .error fault => return .error (.fileNotFound (file.text ++ ": " ++ fault.message))

/-- The effects that an inliner needs, when its datasets lie below a directory. -/
def Terminal.host (t : Terminal m) (directory : Path) : Host m where
  load := loadDataset t.files directory
  log := t.console.log
  append file record := do return (← t.files.append file record).mapError ioError

end IconInline.Command
