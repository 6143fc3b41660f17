import IconInline.Files.Path

/-!
# File systems

What commands need of a file system: to look at paths, to read and write files as text, and to
create directories. A file system is a choice of these operations in a monad.
-/

namespace IconInline

/-- What stands at a path. -/
inductive FileKind where
  | file
  | directory
  deriving DecidableEq, Repr

/-- Why an operation on files fails. -/
inductive FileFault where
  | notFound
  | alreadyExists
  | notDirectory
  | isDirectory
  /-- The content of a file is no text. -/
  | notText
  /-- Any other cause. -/
  | other (message : String)
  deriving DecidableEq, Repr

/-- The text of a fault. -/
def FileFault.message : FileFault → String
  | notFound => "No such file or directory (os error 2)"
  | alreadyExists => "File exists (os error 17)"
  | notDirectory => "Not a directory (os error 20)"
  | isDirectory => "Is a directory (os error 21)"
  | notText => "stream did not contain valid UTF-8"
  | other message => message

/-- The operations on files. -/
structure FileSystem (m : Type → Type) where
  /-- What stands at a path, if anything does. -/
  kind? : Path → m (Option FileKind)
  /-- The files below a directory, in any order. -/
  filesBelow : Path → m (Except FileFault (List Path))
  read : Path → m (Except FileFault String)
  /-- Puts a text into a file, in the stead of what was there. -/
  write : Path → String → m (Except FileFault Unit)
  /-- Puts a text behind what a file holds, or into a new file. -/
  append : Path → String → m (Except FileFault Unit)
  /-- Creates a directory and those above it. -/
  createDirectories : Path → m (Except FileFault Unit)

end IconInline
