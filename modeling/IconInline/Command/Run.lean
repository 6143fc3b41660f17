import IconInline.Command.Invocation
import IconInline.Command.Modules
import IconInline.Json.Printer

/-!
# Running commands

`transform` embeds icons into modules and writes these, `check` only reports on modules, and
`encode` prints the literal of one icon.
-/

namespace IconInline.Command

variable {m : Type → Type} [Monad m]

/-- Prints a line. -/
def printLine (t : Terminal m) (line : String) : ExceptT Failure m Unit :=
  t.console.print (line ++ "\n")

/-! ## Transforming modules -/

/-- The path below the output directory to which a module goes: as below the input, or the name
of the module if that is the input itself. -/
def relativeTarget (input file : Path) : Path :=
  match input.below? file with
  | some (c :: cs) => .ofComponents (c :: cs)
  | _ =>
    match file.fileName? with
    | some name => ⟨name⟩
    | none => file

/-- Puts a transformed module where it belongs. -/
def deliver (t : Terminal m) (request : TransformRequest) (file : Path) (text : String) :
    ExceptT Failure m Unit := do
  match request.destination with
  | .output => t.console.print text
  | .inPlace => attempt (t.files.write file text)
  | .directory directory =>
    let target := directory.push (relativeTarget (.ofString request.input) file).chars
    match target.parent? with
    | some parent => attempt (t.files.createDirectories parent)
    | none => pure ()
    attempt (t.files.write target text)

/-- Puts all transformed modules where they belong; the others are skipped with a warning. -/
def deliverAll (t : Terminal m) (request : TransformRequest) :
    List Reported → ExceptT Failure m Unit
  | [] => pure ()
  | (file, none) :: rest => do
    t.console.log ⟨.warn, file.text ++ " not matched by include patterns, skipped"⟩
    deliverAll t request rest
  | (file, some report) :: rest => do
    deliver t request file report.text
    deliverAll t request rest

/-- The reports among results. -/
def reports (results : List Reported) : List Report := results.filterMap Prod.snd

/-- Adds up a count of every report. -/
def total (count : Report → Nat) (reports : List Report) : Nat :=
  reports.foldr (fun r n => count r + n) 0

/-- Prints what became of all modules. -/
def summarize (t : Terminal m) (results : List Reported) : ExceptT Failure m Unit := do
  let replaced := total (·.replaced.length) (reports results)
  let missing := total (·.missing.length) (reports results)
  printLine t ("✅ Embedded " ++ toString replaced ++ " icons in " ++ toString results.length
    ++ " modules")
  if missing > 0 then printLine t ("   ⚠️  " ++ toString missing ++ " icons not found")
  printLine t ("   Time: " ++ (← t.console.elapsed) ++ "ms")

/-- Embeds icons into modules. -/
def transform (t : Terminal m) (options : Options) (request : TransformRequest) :
    ExceptT Failure m Unit := do
  if !options.runsIn request.phase then
    printLine t "Embedding is restricted to another build phase, nothing to do."
  else
    let e ← Inliner.ofOptions t.console.log options
    let files ← collect t.files e request.input request.recursive
    if files.length > 1 && request.destination == .output then
      throw (.invalidFormat "Transforming several files requires --output or --in-place")
    let results ← transformAll t e files
    deliverAll t request results
    unless request.destination == .output do summarize t results

/-! ## Checking modules -/

/-- The findings of a report that do not tell of single calls. -/
def notes (report : Report) : List String :=
  (report.findings.filter fun d => !d.isReplaced && d.missing?.isNone).map (·.display)

/-- A list of reports as JSON text. -/
def reportsJson (reports : List Report) : String :=
  Json.block 0 "[" "]" (reports.map fun r =>
    Json.fields 1
      [("module", Json.writeString r.moduleId), ("replaced", Json.strings 2 r.replaced),
        ("unresolved", Json.strings 2 r.missing), ("imports", Json.strings 2 r.foundImports),
        ("notes", Json.strings 2 (notes r))])

/-- Texts in one line with commas between them. -/
def commas (texts : List String) : String := ", ".intercalate texts

/-- The lines on one module. -/
def reportLines (r : Report) : List String :=
  ["🔍 " ++ r.moduleId, "   Replaced: " ++ commas r.replaced]
    ++ (if r.missing.isEmpty then [] else ["   ❌ Not found: " ++ commas r.missing])
    ++ ["   Imports removed: " ++ commas r.foundImports]
    ++ (notes r).map ("   ⚠️  " ++ ·)

/-- The lines on all modules. -/
def reportsLines (reports : List Report) : List String :=
  reports.flatMap reportLines
    ++ ["\n📊 Check Summary:", "   Modules: " ++ toString reports.length,
      "   Unresolved icons: " ++ toString (total (·.missing.length) reports)]

/-- Reports on modules without writing anything. -/
def check (t : Terminal m) (options : Options) (request : CheckRequest) :
    ExceptT Failure m Unit := do
  let e ← Inliner.ofOptions t.console.log { options with journal := none }
  let files ← collect t.files e request.input request.recursive
  let found := reports (← transformAll t e files)
  if request.json then printLine t (reportsJson found)
  else (reportsLines found).forM fun line => printLine t line
  if found.any fun r => !r.missing.isEmpty then
    throw (.config "some icons could not be resolved")

/-! ## Encoding one icon -/

/-- The strategy that a request names, or else the one of a target. -/
def strategyFor (target : Target) : Option String → Except Failure Strategy
  | none => .ok (target.extractor.strategy.resolve?.getD .standard)
  | some name =>
    match Strategy.ofName? name with
    | some strategy => .ok strategy
    | none =>
      .error (.config ("Unknown strategy '" ++ name ++ "' (expected one of: "
        ++ commas Strategy.names ++ ")"))

/-- Prints the literal of one icon. -/
def encode (t : Terminal m) (options : Options) (request : EncodeRequest) :
    ExceptT Failure m Unit := do
  let target := options.targets.headD {}
  let key : DatasetRef :=
    ⟨request.package.getD target.dataset.package, request.binding.getD target.dataset.binding⟩
  let strategy ← strategyFor target request.strategy
  let icons ← ExceptT.mk ((Cache.fetch (t.host options.datasetRoot) key).run' {})
  let identifier := String.ofList (CallSite.namedIcon request.identifier.toList)
  match icons.find? identifier with
  | some icon => printLine t (strategy.encode icon).literal
  | none =>
    throw (.dataset key.package ("icon '" ++ request.identifier ++ "' not found"))

/-! ## Whole command lines -/

/-- Reads the configuration that a command line names. -/
def readConfig (t : Terminal m) : Option String → ExceptT Failure m Config
  | none => return {}
  | some name => do
    t.console.log ⟨.info, "Loaded configuration from " ++ name⟩
    match ← t.files.read (.ofString name) with
    | .ok content => Config.read name content
    | .error fault =>
      throw (.fileNotFound ("Config file " ++ name ++ ": " ++ fault.message))

/-- Does what a command line asks for. -/
def perform (t : Terminal m) (invocation : Invocation) : ExceptT Failure m Unit := do
  let config ← readConfig t invocation.config
  match invocation.request with
  | none => printLine t "No subcommand specified. Use --help for usage information."
  | some (request, overrides) =>
    let options := overrides.apply config.toOptions
    match request with
    | .transform r => transform t options r
    | .check r => check t options r
    | .encode r => encode t options r

/-- How a command ends. -/
inductive Exit where
  | success
  | failure (e : Failure)
  | misuse (fault : UsageFault)
  deriving DecidableEq, Repr

namespace Exit

/-- The exit code. -/
def code : Exit → Nat
  | success => 0
  | failure _ => 1
  | misuse _ => 2

/-- What is reported in the end, if anything. -/
def report? : Exit → Option String
  | success => none
  | failure e => some ("Error: " ++ e.display)
  | misuse fault => some ("error: " ++ fault.message)

end Exit

/-- The help text. -/
def helpText : String :=
  "Embed SVG icon path data into JavaScript/TypeScript modules at build time\n\n"
    ++ "Usage: " ++ programName ++ " [OPTIONS] [COMMAND]\n\n"
    ++ "Commands:\n"
    ++ "  transform  Embed icons into modules and prune their imports\n"
    ++ "  check      Report resolved and unresolved icons without writing anything\n"
    ++ "  encode     Print the encoded literal for one icon\n"
    ++ "  help       Print this message or the help of the given subcommand(s)\n"

/-- Runs a command line without the name of the program. -/
def run (t : Terminal m) (arguments : List String) : m Exit := do
  match Invocation.ofArguments arguments with
  | .error .version =>
    t.console.print (programName ++ " 0.1.0\n")
    return .success
  | .error .help =>
    t.console.print helpText
    return .success
  | .error (.fault fault) => return .misuse fault
  | .ok invocation =>
    match ← (perform t invocation).run with
    | .ok () => return .success
    | .error e => return .failure e

end IconInline.Command
