import IconInline.Command.Terminal
import IconInline.Inliner.Transform

/-!
# The modules that a command works on

The input of a command is one file, or a directory of which all admitted files are taken in the
order of their paths. All datasets are loaded first, and nothing is written before every module
has been transformed.
-/

namespace IconInline.Command

variable {m : Type → Type} [Monad m]

/-- The files that an input stands for. -/
def collect (files : FileSystem m) (e : Inliner) (input : String) (recursive : Bool) :
    ExceptT Failure m (List Path) := do
  let path := Path.ofString input
  match ← files.kind? path with
  | none => throw (.fileNotFound input)
  | some .file => return [path]
  | some .directory =>
    if !recursive then
      throw (.invalidFormat ("'" ++ input ++ "' is a directory, use --recursive"))
    let found ← attempt (files.filesBelow path)
    return (found.filter fun file => e.admits file.text).mergeSort Path.sortsBefore

/-- A file with the report on it; there is none if the file is not admitted. -/
abbrev Reported := Path × Option Report

/-- Transforms files one after the other. -/
def transformFiles (t : Terminal m) (host : Host m) (e : Inliner) :
    List Path → StateT Cache (ExceptT Failure m) (List Reported)
  | [] => return []
  | file :: rest => do
    let code ← attempt (t.files.read file)
    let cache ← get
    let (outcome, cache) ← ((e.transform host file.text code).run cache : m _)
    set cache
    let report ← (outcome : Except Failure (Option Report))
    return (file, report) :: (← transformFiles t host e rest)

/-- Loads all datasets and then transforms files. -/
def transformAll (t : Terminal m) (e : Inliner) (files : List Path) :
    ExceptT Failure m (List Reported) := do
  let host := t.host e.options.datasetRoot
  let (loaded, cache) ← ((e.preload host).run {} : m _)
  let () ← (loaded : Except Failure Unit)
  (transformFiles t host e files).run' cache

end IconInline.Command
