import IconInline.Command.Arguments
import IconInline.Config

/-!
# Invocations

What a command line asks for: one of three commands, each with its own options, and a
configuration file that may be named before or behind the command.
-/

namespace IconInline.Command

/-! ## Options -/

/-- The options that stand before as well as behind the name of a command. -/
def sharedOptions : List Opt :=
  [⟨"config", some 'c', .value "FILE" []⟩, ⟨"verbose", some 'v', .count⟩,
    ⟨"help", some 'h', .help⟩]

/-- The options before the name of a command. -/
def frontOptions : List Opt := sharedOptions ++ [⟨"version", some 'V', .version⟩]

/-- Replaces the patterns for modules. -/
def includeOption : Opt := ⟨"include", some 'I', .values "GLOB"⟩

/-- Replaces the directory of the datasets. -/
def datasetsOption : Opt := ⟨"datasets", none, .value "DIR" []⟩

/-- Takes all modules below a directory. -/
def recursiveOption : Opt := ⟨"recursive", some 'r', .flag⟩

/-- Where transformed modules are written to. -/
def outputOption : Opt := ⟨"output", some 'o', .value "DIR" []⟩

/-- Overwrites modules. -/
def inPlaceOption : Opt := ⟨"in-place", none, .flag⟩

/-- The commands. -/
inductive Name where
  | transform
  | check
  | encode
  deriving DecidableEq, Repr

namespace Name

/-- The command of a name. -/
def ofString? : String → Option Name
  | "transform" => some transform
  | "check" => some check
  | "encode" => some encode
  | _ => none

/-- The options behind the name of a command. -/
def options : Name → List Opt
  | transform =>
    sharedOptions ++ [outputOption, inPlaceOption, recursiveOption, includeOption, datasetsOption,
      ⟨"phase", none, .value "phase" (Phase.names.map Prod.fst)⟩,
      ⟨"scan", none, .value "scan" (CallSite.ArgumentExtent.names.map Prod.fst)⟩,
      ⟨"keep-imports", none, .flag⟩, ⟨"show-replacements", some 's', .flag⟩,
      ⟨"dump", none, .value "FILE" []⟩]
  | check =>
    sharedOptions ++ [recursiveOption, includeOption, datasetsOption,
      ⟨"format", some 'f', .value "format" ["text", "json"]⟩]
  | encode =>
    sharedOptions ++ [⟨"package", some 'p', .value "PACKAGE" []⟩,
      ⟨"binding", some 'b', .value "NAME" []⟩, ⟨"strategy", none, .value "NAME" []⟩,
      datasetsOption]

end Name

/-! ## What is asked for -/

/-- Where transformed modules go. -/
inductive Destination where
  | output
  | inPlace
  | directory (path : Path)
  deriving DecidableEq, Repr

/-- What the command that transforms modules is asked for. -/
structure TransformRequest where
  input : String
  destination : Destination := .output
  recursive : Bool := false
  phase : Phase := .build
  deriving DecidableEq, Repr

/-- What the command that checks modules is asked for. -/
structure CheckRequest where
  input : String
  recursive : Bool := false
  json : Bool := false
  deriving DecidableEq, Repr

/-- What the command that encodes one icon is asked for. -/
structure EncodeRequest where
  identifier : String
  package : Option String := none
  binding : Option String := none
  strategy : Option String := none
  deriving DecidableEq, Repr

/-- What a command is asked for. -/
inductive Request where
  | transform (request : TransformRequest)
  | check (request : CheckRequest)
  | encode (request : EncodeRequest)
  deriving DecidableEq, Repr

/-- What the options of a command line change in a configuration. -/
structure Overrides where
  patterns : List String := []
  datasetRoot : Option String := none
  scan : Option CallSite.ArgumentExtent := none
  keepImports : Bool := false
  verbose : Bool := false
  journal : Option String := none
  deriving DecidableEq, Repr

/-- The patterns if neither command line nor configuration has any. -/
def defaultPatterns : List String :=
  ["**/*.js", "**/*.mjs", "**/*.jsx", "**/*.ts", "**/*.mts", "**/*.tsx"]

/-- The options of a configuration with the changes of a command line. -/
def Overrides.apply (o : Overrides) (options : Options) : Options :=
  let patterns := if o.patterns.isEmpty then options.patterns else o.patterns
  { options with
    patterns := if patterns.isEmpty then defaultPatterns else patterns
    datasetRoot := (o.datasetRoot.map Path.ofString).getD options.datasetRoot
    scan := o.scan.getD options.scan
    dropsImports := options.dropsImports && !o.keepImports
    verbose := options.verbose || o.verbose
    journal := (o.journal.map Path.ofString).or options.journal }

/-- What a command line asks for. -/
structure Invocation where
  config : Option String := none
  /-- How often more log output was asked for. -/
  verbosity : Nat := 0
  request : Option (Request × Overrides) := none
  deriving DecidableEq, Repr

/-! ## Reading -/

/-- The value of an option among named ones. -/
def Parse.named? {α : Type} (p : Parse) (long : String) (names : List (String × α)) : Option α :=
  (p.value? long).bind fun v => names.lookup v

/-- Refuses two options that exclude each other; the one given first is blamed. -/
def checkConflict (p : Parse) (one other : Opt) : Except Stop Unit :=
  if p.has one.long && p.has other.long then
    match p.given.find? (fun g => g.option == one || g.option == other) with
    | some g =>
      if g.option = one then .error (.fault (.conflict one.display other.display))
      else .error (.fault (.conflict other.display one.display))
    | none => .ok ()
  else .ok ()

/-- Where the options send transformed modules. -/
def destinationOf (p : Parse) : Destination :=
  if p.has inPlaceOption.long then .inPlace
  else
    match p.value? outputOption.long with
    | some directory => .directory (.ofString directory)
    | none => .output

/-- What the options of a command ask for. -/
def requestOf (name : Name) (p : Parse) (input : String) : Request :=
  let recursive := p.has recursiveOption.long
  match name with
  | .transform =>
    .transform ⟨input, destinationOf p, recursive, (p.named? "phase" Phase.names).getD .build⟩
  | .check => .check ⟨input, recursive, p.value? "format" == some "json"⟩
  | .encode => .encode ⟨input, p.value? "package", p.value? "binding", p.value? "strategy"⟩

/-- What the options of a command change in a configuration. -/
def overridesOf (p : Parse) : Overrides where
  patterns := p.values includeOption.long
  datasetRoot := p.value? datasetsOption.long
  scan := p.named? "scan" CallSite.ArgumentExtent.names
  keepImports := p.has "keep-imports"
  verbose := p.has "show-replacements"
  journal := p.value? "dump"

/-- Reads the arguments behind the name of a command. -/
def readCommand (name : Name) (arguments : List String) :
    Except Stop (Parse × Request × Overrides) := do
  let p ← Parse.run name.options {} arguments
  checkConflict p outputOption inPlaceOption
  match p.input with
  | none => .error (.fault .requiredMissing)
  | some input => return (p, requestOf name p input, overridesOf p)

/-- What is asked for by options before and behind the name of a command; behind it they count
more. -/
def invocationOf (front : Parse) (command : Option (Parse × Request × Overrides)) : Invocation :=
  match command with
  | none =>
    { config := front.value? "config", verbosity := (front.values "verbose").length }
  | some (p, request) =>
    { config := (p.value? "config").or (front.value? "config")
      verbosity := ((if p.has "verbose" then p else front).values "verbose").length
      request := some request }

/-- What is wrong with a plain argument that is not the name of a command. -/
def refuseName (text : String) (behindDashes : Bool) : Stop :=
  if behindDashes && ((Name.ofString? text).isSome || text == "help") then
    .fault (.unexpectedArgument text)
  else .fault (.unrecognizedCommand text)

/-- What a request for help on some commands leads to. -/
def helpOn : List String → Stop
  | [] => .help
  | text :: rest =>
    if text = "help" then .help
    else
      match Name.ofString? text, rest with
      | none, _ => .fault (.unrecognizedCommand text)
      | some _, [] => .help
      | some _, next :: _ => .fault (.unrecognizedCommand next)

/-- Does an argument look like options rather than like a value? -/
def looksLikeOption (text : String) : Bool := text.toList.head? == some '-' && text != "-"

/-- Reads a command line from the options before the name of a command on. -/
def readFront (front : Parse) : List String → Except Stop Invocation
  | [] => do return invocationOf (← front.settle) none
  | text :: rest =>
    if looksLikeOption text then
      if text = "--" then
        match rest with
        | [] => do return invocationOf (← front.settle) none
        | next :: _ => .error (refuseName next true)
      else do readFront (← front.step frontOptions text) rest
    else if front.awaitsValue then readFront (front.giveValue text) rest
    else
      match Name.ofString? text with
      | some name => do
        let command ← readCommand name rest
        return invocationOf (← front.settle) (some command)
      | none => .error (if text = "help" then helpOn rest else refuseName text false)

/-- Reads a command line without the name of the program. -/
def Invocation.ofArguments (arguments : List String) : Except Stop Invocation :=
  readFront {} arguments

end IconInline.Command
