/-!
# Arguments of a command line

Arguments are read from left to right against a list of options. An option that awaits a value
is settled only when the next option, a plain argument or the end comes up; until then its
faults are not seen, so that an unknown option right behind it is reported first.
-/

namespace IconInline.Command

/-- What an option does. -/
inductive Action where
  /-- Is on if it is given, at most once. -/
  | flag
  /-- May be given any number of times. -/
  | count
  /-- Takes a value and is given at most once; if `allowed` is not empty, it lists the values. -/
  | value (name : String) (allowed : List String)
  /-- Takes a value each time it is given. -/
  | values (name : String)
  /-- Asks for the help text. -/
  | help
  /-- Asks for the version. -/
  | version
  deriving DecidableEq, Repr

/-- An option of a command. -/
structure Opt where
  long : String
  short : Option Char := none
  action : Action
  deriving DecidableEq, Repr

namespace Opt

/-- Is an option followed by a value? -/
def takesValue (o : Opt) : Bool :=
  match o.action with
  | .value .. | .values _ => true
  | _ => false

/-- How messages call an option. -/
def display (o : Opt) : String :=
  match o.action with
  | .value name _ | .values name => "--" ++ o.long ++ " <" ++ name ++ ">"
  | _ => "--" ++ o.long

end Opt

/-- Why a command line is refused. -/
inductive UsageFault where
  | unexpectedArgument (text : String)
  | unrecognizedCommand (text : String)
  | valueMissing (option : String)
  | invalidValue (value option : String)
  | unexpectedValue (value option : String)
  | repeated (option : String)
  | conflict (option other : String)
  | requiredMissing
  deriving DecidableEq, Repr

/-- The text of a fault. -/
def UsageFault.message : UsageFault → String
  | unexpectedArgument text => "unexpected argument '" ++ text ++ "' found"
  | unrecognizedCommand text => "unrecognized subcommand '" ++ text ++ "'"
  | valueMissing option => "a value is required for '" ++ option ++ "' but none was supplied"
  | invalidValue value option => "invalid value '" ++ value ++ "' for '" ++ option ++ "'"
  | unexpectedValue value option =>
    "unexpected value '" ++ value ++ "' for '" ++ option ++ "' found; no more were expected"
  | repeated option => "the argument '" ++ option ++ "' cannot be used multiple times"
  | conflict option other => "the argument '" ++ option ++ "' cannot be used with '" ++ other ++ "'"
  | requiredMissing => "the following required arguments were not provided:"

/-- Why reading ends early. -/
inductive Stop where
  | fault (f : UsageFault)
  | help
  | version
  deriving DecidableEq, Repr

/-- An option that was given, with its values in their order. -/
structure Given where
  option : Opt
  values : List String
  deriving DecidableEq, Repr

/-- An option that awaits a value, or whose value was read but not looked at yet. -/
structure Pending where
  option : Opt
  value : Option String
  deriving DecidableEq, Repr

/-- How far the arguments have been read. -/
structure Parse where
  /-- The options that were given, in the order of their first use. -/
  given : List Given := []
  pending : Option Pending := none
  /-- The plain argument. -/
  input : Option String := none
  deriving DecidableEq, Repr

namespace Parse

/-- Has an option been given? -/
def has (p : Parse) (long : String) : Bool := p.given.any (·.option.long == long)

/-- The values of an option. -/
def values (p : Parse) (long : String) : List String :=
  match p.given.find? (·.option.long == long) with
  | some g => g.values
  | none => []

/-- The value of an option. -/
def value? (p : Parse) (long : String) : Option String := (p.values long).head?

/-- Adds values to an option. -/
def add (p : Parse) (o : Opt) (values : List String) : Parse :=
  if p.has o.long then
    { p with given := p.given.map fun g =>
      if g.option.long = o.long then { g with values := g.values ++ values } else g }
  else { p with given := p.given ++ [⟨o, values⟩] }

/-- Takes an option that is complete. -/
def take (p : Parse) (o : Opt) (value : Option String) : Except Stop Parse :=
  match o.action, value with
  | .help, _ => .error .help
  | .version, _ => .error .version
  | .flag, _ =>
    if p.has o.long then .error (.fault (.repeated o.display)) else .ok (p.add o [])
  | .count, _ => .ok (p.add o [""])
  | .value .., none | .values _, none => .error (.fault (.valueMissing o.display))
  | .values _, some v => .ok (p.add o [v])
  | .value _ allowed, some v =>
    if p.has o.long then .error (.fault (.repeated o.display))
    else if allowed.isEmpty || allowed.contains v then .ok (p.add o [v])
    else if v.isEmpty then .error (.fault (.valueMissing o.display))
    else .error (.fault (.invalidValue v o.display))

/-- Settles the option that awaits a value. -/
def settle (p : Parse) : Except Stop Parse :=
  match p.pending with
  | none => .ok p
  | some pending => { p with pending := none }.take pending.option pending.value

/-- Takes an option once the one before it is settled. -/
def settleAndTake (p : Parse) (o : Opt) (value : Option String) : Except Stop Parse := do
  (← p.settle).take o value

/-- Begins an option: it is complete if a value is attached or if it takes none. -/
def begin (p : Parse) (o : Opt) (attached : Option String) : Except Stop Parse :=
  match attached with
  | some v => p.settleAndTake o (some v)
  | none =>
    if o.takesValue then do return { ← p.settle with pending := some ⟨o, none⟩ }
    else p.settleAndTake o none

/-- Takes an option by its long name, without the hyphens. -/
def long (options : List Opt) (p : Parse) (text : List Char) : Except Stop Parse :=
  let name := String.ofList (text.takeWhile (· != '='))
  let attached :=
    if text.contains '=' then some (String.ofList (text.dropWhile (· != '=')).tail) else none
  match options.find? (·.long == name), attached with
  | none, _ => .error (.fault (.unexpectedArgument ("--" ++ name)))
  | some o, some v =>
    if o.takesValue then p.begin o (some v) else .error (.fault (.unexpectedValue v o.display))
  | some o, none => p.begin o none

/-- Takes options by their letters, without the hyphen. What follows a letter that takes a value
is the value, with or without an equals sign. -/
def short (options : List Opt) : Parse → List Char → Except Stop Parse
  | p, [] => .ok p
  | p, c :: rest =>
    match options.find? (·.short == some c) with
    | none => .error (.fault (.unexpectedArgument (String.ofList ['-', c])))
    | some o =>
      if o.takesValue then
        match rest with
        | [] => p.begin o none
        | '=' :: v => p.begin o (some (String.ofList v))
        | v => p.begin o (some (String.ofList v))
      else do short options (← p.begin o none) rest

/-- Takes a plain argument, of which there is at most one. -/
def plain (p : Parse) (text : String) : Except Stop Parse :=
  if p.input.isSome then .error (.fault (.unexpectedArgument text))
  else do return { ← p.settle with input := some text }

/-- Does an option await its value? -/
def awaitsValue (p : Parse) : Bool := p.pending.any (·.value.isNone)

/-- Gives a value to the option that awaits one. -/
def giveValue (p : Parse) (text : String) : Parse :=
  { p with pending := p.pending.map fun pending => { pending with value := some text } }

/-- Reads one argument. -/
def step (options : List Opt) (p : Parse) (text : String) : Except Stop Parse :=
  match text.toList with
  | '-' :: '-' :: name => p.long options name
  | '-' :: c :: letters => p.short options (c :: letters)
  | _ => if p.awaitsValue then .ok (p.giveValue text) else p.plain text

/-- Reads the arguments of a command. Behind `--` there are only plain arguments. -/
def run (options : List Opt) : Parse → List String → Except Stop Parse
  | p, [] => p.settle
  | p, text :: rest =>
    if text = "--" then do (← rest.foldlM plain p).settle
    else do run options (← p.step options text) rest

end Parse

end IconInline.Command
