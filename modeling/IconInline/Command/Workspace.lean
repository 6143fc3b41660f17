import IconInline.Command.Terminal
import IconInline.Files.FileTree

/-!
# Workspaces

A workspace is a tree of files together with what commands have printed and logged so far. It
makes up a terminal, so what a command does is a function of the workspace.
-/

namespace IconInline.Command

/-- A tree of files, and what commands have printed and logged. -/
structure Workspace where
  tree : FileTree
  output : String := ""
  /-- The log records in their order. -/
  log : List LogRecord := []
  /-- What the clock says. -/
  clock : String := "0"
  deriving DecidableEq, Repr

namespace Workspace

/-- Changes the tree, unless the change fails. -/
def change (f : FileTree → Except FileFault FileTree) : StateM Workspace (Except FileFault Unit) :=
  fun w =>
    match f w.tree with
    | .ok tree => (.ok (), { w with tree })
    | .error fault => (.error fault, w)

/-- The files of a workspace. -/
def files : FileSystem (StateM Workspace) where
  kind? p := do return (← get).tree.kind? p
  filesBelow p := do return (← get).tree.filesBelow p
  read p := do return (← get).tree.read p
  write p text := change (·.write p text)
  append p text := change (·.append p text)
  createDirectories p := change (·.createDirectories p)

/-- Adds a record to the log. -/
def addRecord (record : LogRecord) : StateM Workspace Unit :=
  modify fun w => { w with log := w.log ++ [record] }

/-- Output, log and clock of a workspace. -/
def console : Console (StateM Workspace) where
  print text := modify fun w => { w with output := w.output ++ text }
  log := addRecord
  elapsed := do return (← get).clock

/-- The terminal that a workspace makes up. -/
def terminal : Terminal (StateM Workspace) := ⟨files, console⟩

end Workspace

end IconInline.Command
