import IconInline.Command.Run

/-!
# The program

The file system and the console of the machine, and a command line that acts on them.
-/

namespace IconInline.Command.Machine

/-- Why an operation on files fails. -/
def faultOf : IO.Error → FileFault
  | .noFileOrDirectory .. => .notFound
  | .alreadyExists .. => .alreadyExists
  | .inappropriateType _ 20 _ => .notDirectory
  | .inappropriateType _ 21 _ => .isDirectory
  | e => .other (toString e)

/-- The outcome of an operation on files. -/
def outcome {α : Type} (operation : IO α) : IO (Except FileFault α) := do
  match ← operation.toBaseIO with
  | .ok a => return .ok a
  | .error e => return .error (faultOf e)

/-- The directory entry for a path. -/
def entry (p : Path) : IO.FS.DirEntry := ⟨p.text, ""⟩

/-- What stands at a path. -/
def kind? (p : Path) : IO (Option FileKind) := do
  match ← outcome (entry p).root.metadata with
  | .ok found => return some (if found.type == .dir then .directory else .file)
  | .error _ => return none

/-- The files below a directory. -/
partial def filesBelow (directory : Path) : IO (List Path) := do
  let mut found := #[]
  for child in ← (entry directory).root.readDir do
    let p := directory.push child.fileName.toList
    match (← (entry p).root.symlinkMetadata).type with
    | .dir => found := found ++ (← filesBelow p)
    | .file => found := found.push p
    | _ => pure ()
  return found.toList

/-- The text of a file. -/
def read (p : Path) : IO (Except FileFault String) := do
  match ← outcome (IO.FS.readBinFile p.text) with
  | .ok bytes =>
    match String.fromUTF8? bytes with
    | some text => return .ok text
    | none => return .error .notText
  | .error fault => return .error fault

/-- Puts a text behind what a file holds. -/
def append (p : Path) (text : String) : IO Unit :=
  IO.FS.withFile p.text .append fun file => file.putStr text

/-- The files of the machine. -/
def files : FileSystem IO where
  kind? := kind?
  filesBelow p := outcome (filesBelow p)
  read := read
  write p text := outcome (IO.FS.writeFile p.text text)
  append p text := outcome (append p text)
  createDirectories p :=
    if p.chars = [] then return .ok () else outcome (IO.FS.createDirAll p.text)

/-- The label of a level in the log. -/
def levelLabel : LogLevel → String
  | .warn => "WARN "
  | .info => "INFO "

/-- Does a log of some verbosity show a level? -/
def shows (verbosity : Nat) : LogLevel → Bool
  | .warn => true
  | .info => verbosity > 0

/-- Output, log and clock of the machine. -/
def console (verbosity start : Nat) : Console IO where
  print text := do
    let out ← IO.getStdout
    out.putStr text
    out.flush
  log record := do
    if shows verbosity record.level then
      IO.eprintln ("[" ++ levelLabel record.level ++ programName ++ "] " ++ record.message)
  elapsed := return toString ((← IO.monoMsNow) - start)

/-- How much of the log a command line asks for. -/
def verbosityOf (arguments : List String) : Nat :=
  match Invocation.ofArguments arguments with
  | .ok invocation => invocation.verbosity
  | .error _ => 0

end IconInline.Command.Machine

/-- Runs a command line. -/
def main (arguments : List String) : IO UInt32 := do
  let start ← IO.monoMsNow
  let console := IconInline.Command.Machine.console
    (IconInline.Command.Machine.verbosityOf arguments) start
  let exit ← IconInline.Command.run ⟨IconInline.Command.Machine.files, console⟩ arguments
  match exit.report? with
  | some text => IO.eprintln text
  | none => pure ()
  return exit.code.toUInt32
