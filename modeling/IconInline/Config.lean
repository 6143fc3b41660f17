import IconInline.Json.Decoder
import IconInline.Options
import IconInline.Toml.Reader

/-!
# Configuration files

A configuration is written in JSON or in TOML. Each of its fields may be missing and then has
the value that it has without a configuration.
-/

namespace IconInline

open Json (Decoder)
open Json.Decoder (RecordField)

namespace CallSite.ArgumentExtent

/-- The scans by their names. -/
def names : List (String × ArgumentExtent) :=
  [("balanced", balanced), ("non-whitespace", unbroken)]

end CallSite.ArgumentExtent

/-- The part of a configuration that describes an extractor. -/
structure ExtractorConfig where
  name : Option String := none
  package : Option String := none
  strategy : Option String := none
  deriving DecidableEq, Repr

/-- The part of a configuration that describes a target. -/
structure TargetConfig where
  package : Option String := none
  binding : Option String := none
  extractor : Option ExtractorConfig := none
  deriving DecidableEq, Repr

/-- A configuration. -/
structure Config where
  patterns : Option (List String) := none
  dropsImports : Option Bool := none
  verbose : Option Bool := none
  journal : Option String := none
  onlyIn : Option Phase := none
  scan : Option CallSite.ArgumentExtent := none
  datasetRoot : Option String := none
  targets : Option (List TargetConfig) := none
  deriving DecidableEq, Repr

/-- A field that may be missing in an object, but not in a list. -/
def optionalField {σ α : Type} (name : String) (d : Decoder α) (set : Option α → σ → σ) :
    RecordField σ :=
  ⟨name, (Decoder.option d).map set, true, false⟩

namespace ExtractorConfig

/-- Reads the part of a configuration that describes an extractor. -/
def decoder : Decoder ExtractorConfig :=
  .record "struct ExtractorConfig" {}
    [optionalField "name" .string fun s c => { c with name := s },
      optionalField "package" .string fun s c => { c with package := s },
      optionalField "strategy" .string fun s c => { c with strategy := s }]

/-- The extractor that is described. -/
def toExtractor (c : ExtractorConfig) : Extractor :=
  let unset : Extractor := {}
  { name := c.name.getD unset.name
    package := c.package.getD unset.package
    strategy := (c.strategy.map StrategyChoice.named).getD unset.strategy }

end ExtractorConfig

namespace TargetConfig

/-- Reads the part of a configuration that describes a target. -/
def decoder : Decoder TargetConfig :=
  .record "struct TargetConfig" {}
    [optionalField "package" .string fun s c => { c with package := s },
      optionalField "binding" .string fun s c => { c with binding := s },
      optionalField "extractor" ExtractorConfig.decoder fun e c => { c with extractor := e }]

/-- The target that is described. -/
def toTarget (c : TargetConfig) : Target :=
  let unset : DatasetRef := {}
  { dataset := ⟨c.package.getD unset.package, c.binding.getD unset.binding⟩
    extractor := (c.extractor.getD {}).toExtractor }

end TargetConfig

namespace Config

/-- Reads a configuration. -/
def decoder : Decoder Config :=
  .record "struct ConfigFile" {}
    [optionalField "include" (.list .string) fun ps c => { c with patterns := ps },
      optionalField "remove_imports" .bool fun b c => { c with dropsImports := b },
      optionalField "show_replacements" .bool fun b c => { c with verbose := b },
      optionalField "dump_file" .string fun s c => { c with journal := s },
      optionalField "apply" (.variant Phase.names) fun p c => { c with onlyIn := p },
      optionalField "argument_scan" (.variant CallSite.ArgumentExtent.names)
        fun s c => { c with scan := s },
      optionalField "dataset_dir" .string fun s c => { c with datasetRoot := s },
      optionalField "targets" (.list TargetConfig.decoder) fun t c => { c with targets := t }]

/-- In TOML a list may be longer than the record it stands for, and a variant without content
has an empty table or array behind its name. -/
def tomlRules : Json.ValueRules where
  longLists := true
  payloadFault
    | .array [] | .object [] => none
    | v => some (.wrongType v.found "unit")

/-- Reads a configuration from JSON text. -/
def ofJsonText (text : String) : Except Json.Fault Config := decoder.readText text

/-- Reads a configuration from TOML text. -/
def ofTomlText? (text : String) : Option Config :=
  (Toml.ofText? text).bind fun v => (decoder.ofValue tomlRules v).toOption

/-- The options that a configuration describes. -/
def toOptions (c : Config) : Options :=
  let unset : Options := {}
  { patterns := c.patterns.getD unset.patterns
    targets := (c.targets.map (·.map TargetConfig.toTarget)).getD unset.targets
    dropsImports := c.dropsImports.getD unset.dropsImports
    verbose := c.verbose.getD unset.verbose
    journal := c.journal.map Path.ofString
    onlyIn := c.onlyIn
    scan := c.scan.getD unset.scan
    datasetRoot := (c.datasetRoot.map Path.ofString).getD unset.datasetRoot }

/-- Reads the content of a configuration file, whose name tells its format. -/
def read (fileName content : String) : Except Failure Config :=
  if ".json".toList.isSuffixOf fileName.toList then
    match ofJsonText content with
    | .ok config => .ok config
    | .error fault => .error (.invalidFormat ("Invalid JSON config: " ++ fault.message content))
  else if ".toml".toList.isSuffixOf fileName.toList then
    match ofTomlText? content with
    | some config => .ok config
    | none => .error (.invalidFormat "Invalid TOML config")
  else .error (.invalidFormat "Config file must be .json or .toml format")

end Config

end IconInline
