import IconInline.Script.Dialect
import IconInline.Script.State

/-!
# Parsers of the script language

A parser looks at one token at a time and may be run tentatively. It either fails, which ends
the module, or goes on; some faults do not stop it, but a module with a fault is not
well-formed. While it reads, it gathers the outline of the module.

Every parser comes to the same in a text that is read around omissions and in the text that is kept,
unless it stops at a place where nothing may be left out.
-/

namespace IconInline.Script

/-- Why a parser stops. -/
inductive Stop where
  /-- The text does not fit the grammar. -/
  | mismatch
  /-- A part of the text that is kept, or what is left out, does not end between two statements, as
  far as can be told. -/
  | severed
  deriving DecidableEq, Repr

/-- What a parser comes to. -/
abbrev Outcome (α : Type) := EStateM.Result Stop State α

/-- What a parser comes to in a text that is read around omissions agrees with what it comes to in
the text that is kept. -/
inductive Outcome.Agrees {α : Type} : (whole inParts : Outcome α) → Prop where
  | ok {a : α} {s : State} : Agrees (.ok a s.joined) (.ok a s)
  | mismatch {s : State} : Agrees (.error .mismatch s.joined) (.error .mismatch s)
  | severed {whole : Outcome α} {s : State} : Agrees whole (.error .severed s)

/-- A computation that reads tokens of a module. -/
structure Parser (α : Type) where
  run : Dialect → State → Outcome α
  agrees : ∀ dialect s, (run dialect s.joined).Agrees (run dialect s)

namespace Parser

/-! ## Sequences -/

/-- Runs a parser and then the one that its result gives. -/
def runThen {α β : Type} (p : Parser α) (f : α → Parser β) (dialect : Dialect) (s : State) :
    Outcome β :=
  match p.run dialect s with
  | .ok a s' => (f a).run dialect s'
  | .error e s' => .error e s'

theorem runThen_agrees {α β : Type} (p : Parser α) (f : α → Parser β) (dialect : Dialect)
    (s : State) : (runThen p f dialect s.joined).Agrees (runThen p f dialect s) := by
  have hp := p.agrees dialect s
  rw [runThen, runThen]
  generalize p.run dialect s.joined = whole at hp ⊢
  generalize p.run dialect s = inParts at hp ⊢
  cases hp with
  | @ok a s' => exact (f a).agrees dialect s'
  | mismatch => exact .mismatch
  | severed => exact .severed

instance : Monad Parser where
  pure a := ⟨fun _ s => .ok a s, fun _ _ => .ok⟩
  bind p f := ⟨runThen p f, runThen_agrees p f⟩

/-! ## Asking and moving on -/

/-- Asks something of the state that is the same in the text that is kept. -/
def ask {α : Type} (f : State → α) (h : ∀ s : State, f s.joined = f s) : Parser α where
  run _ s := .ok (f s) s
  agrees _ s := by
    rw [h]
    exact .ok

/-- Looks ahead; what can be told there is the same in the text that is kept. -/
def look {α : Type} (f : State → Option α)
    (h : ∀ {s : State} {a : α}, f s = some a → f s.joined = some a) : Parser α where
  run _ s :=
    match f s with
    | some a => .ok a s
    | none => .error .severed s
  agrees _ s := by
    cases hs : f s with
    | none => exact .severed
    | some a =>
      rw [h hs]
      exact .ok

/-- Moves on; wherever that leads, it leads to the same place in the text that is kept. -/
def move (f : State → Option State)
    (h : ∀ {s s' : State}, f s = some s' → f s.joined = some s'.joined) : Parser Unit where
  run _ s :=
    match f s with
    | some s' => .ok () s'
    | none => .error .severed s
  agrees _ s := by
    cases hs : f s with
    | none => exact .severed
    | some s' =>
      rw [h hs]
      exact .ok

/-- Goes on behind an omission if there is one here, provided that what is left out consists of what
`items` reads. -/
def resume (items : Parser Unit) : Parser Unit where
  run dialect s :=
    match s.omitted with
    | none => .ok () s
    | some text =>
      match items.run dialect (s.aside text) with
      | .ok _ s' =>
        if s'.token.kind == .eof && !s'.faulty then .ok () { s with omitted := none }
        else .error .severed s
      | .error _ _ => .error .severed s
  agrees dialect s := by
    dsimp only [State.joined, Reading.joined]
    split
    · exact Outcome.Agrees.ok (s := s)
    · split
      · split
        · exact Outcome.Agrees.ok (s := { s with omitted := none })
        · exact .severed
      · exact .severed

/-- What has been gathered so far. -/
def notes : Parser Notes := ask State.toNotes fun _ => rfl

/-- Changes what has been gathered. -/
def note (change : Notes → Notes) : Parser Unit where
  run _ s := .ok () { s with toNotes := change s.toNotes }
  agrees _ s := by
    exact Outcome.Agrees.ok (s := { s with toNotes := change s.toNotes })

/-! ## Failing, trying and looking ahead -/

/-- Ends the module. -/
def fail {α : Type} : Parser α where
  run _ s := .error .mismatch s
  agrees _ _ := .mismatch

/-- Ends the module unless a condition holds. -/
def ensure (ok : Bool) : Parser Unit := if ok then pure () else fail

/-- Marks the module as ill-formed and goes on. -/
def fault : Parser Unit where
  run _ s := .ok () { s with faulty := true }
  agrees _ s := by
    exact Outcome.Agrees.ok (s := { s with faulty := true })

/-- Marks the module as ill-formed if a condition holds. -/
def faultIf (bad : Bool) : Parser Unit := if bad then fault else pure ()

/-- Runs a parser; if it fails, nothing has been read. Only what is known not to be an arrow
function stays known. -/
def attempt {α : Type} (p : Parser α) : Parser (Option α) where
  run dialect s :=
    match p.run dialect s with
    | .ok a s' => .ok (some a) s'
    | .error .mismatch s' => .ok none { s with notArrow := s'.notArrow }
    | .error .severed s' => .error .severed s'
  agrees dialect s := by
    have hp := p.agrees dialect s
    generalize p.run dialect s.joined = whole at hp ⊢
    generalize p.run dialect s = inParts at hp ⊢
    cases hp with
    | ok => exact .ok
    | @mismatch s' => exact Outcome.Agrees.ok (s := { s with notArrow := s'.notArrow })
    | severed => exact .severed

/-- Runs a parser and takes everything back but its answer; a failure answers `false`. -/
def foresee (p : Parser Bool) : Parser Bool where
  run dialect s :=
    match p.run dialect s with
    | .ok answer s' => .ok answer { s with notArrow := s'.notArrow }
    | .error .mismatch s' => .ok false { s with notArrow := s'.notArrow }
    | .error .severed s' => .error .severed s'
  agrees dialect s := by
    have hp := p.agrees dialect s
    generalize p.run dialect s.joined = whole at hp ⊢
    generalize p.run dialect s = inParts at hp ⊢
    cases hp with
    | @ok _ s' => exact Outcome.Agrees.ok (s := { s with notArrow := s'.notArrow })
    | @mismatch s' => exact Outcome.Agrees.ok (s := { s with notArrow := s'.notArrow })
    | severed => exact .severed

/-- Runs a parser and takes everything back but its result. -/
def glance {α : Type} (p : Parser α) : Parser α where
  run dialect s :=
    match p.run dialect s with
    | .ok a _ => .ok a s
    | .error e s' => .error e s'
  agrees dialect s := by
    have hp := p.agrees dialect s
    generalize p.run dialect s.joined = whole at hp ⊢
    generalize p.run dialect s = inParts at hp ⊢
    cases hp with
    | ok => exact .ok
    | mismatch => exact .mismatch
    | severed => exact .severed

/-- Repeats a step, at most `bound` times, as long as it answers `true`. -/
def repeatWhile : (bound : Nat) → Parser Bool → Parser Unit
  | 0, _ => fail
  | bound + 1, step => do
    if ← step then repeatWhile bound step

/-! ## Dialect and context -/

/-- The language that the module is written in. -/
def dialect : Parser Dialect where
  run dialect s := .ok dialect s
  agrees _ _ := .ok

/-- Is the module typed? -/
def typed : Parser Bool := return (← dialect).typed

/-- Does the module hold markup? -/
def markup : Parser Bool := return (← dialect).markup

/-- What surrounds the present place. -/
def context : Parser Context := return (← notes).context

/-- Runs a parser in a changed context. -/
def within {α : Type} (change : Context → Context) (p : Parser α) : Parser α := do
  let outer ← context
  note fun n => { n with context := change n.context }
  let a ← p
  note fun n => { n with context := outer }
  return a

/-! ## Tokens -/

/-- The present token. -/
def token : Parser Token := ask (·.token) fun _ => rfl

/-- The kind of the present token. -/
def kind : Parser Kind := return (← token).kind

/-- Is the present token of a kind? -/
def sees (k : Kind) : Parser Bool := return (← kind) == k

/-- Does a line end before the present token? -/
def onNewLine : Parser Bool := return (← token).newline

/-- Has a fault been found so far? -/
def isFaulty : Parser Bool := ask (·.faulty) fun _ => rfl

/-- The token `n` places behind the present one. -/
def peekToken (n : Nat) : Parser Token := look (State.peek? n) State.peek?_joined

/-- The kind of the next token. -/
def peek : Parser Kind := return (← peekToken 1).kind

/-- Moves on from a word that is used as a name. -/
def advanceName : Parser Unit := move State.next? State.next?_joined

/-- Moves on to an attribute's value in a tag of markup. -/
def advanceInTag : Parser Unit :=
  move (State.nextBy? Source.nextInTag) (State.nextBy?_joined Reread.isLocal_nextInTag)

/-- Moves on to a child of an element of markup. -/
def advanceToChild : Parser Unit :=
  move (State.nextBy? Source.nextChild) (State.nextBy?_joined Reread.isLocal_nextChild)

/-- A word that is used as a word may not be written with escapes. -/
def checkWord : Parser Unit := do
  let t ← token
  faultIf (t.escaped && match t.kind with | .word _ => true | _ => false)

/-- Moves on to the next token. -/
def advance : Parser Unit := do
  checkWord
  advanceName

/-- Moves on if the present token is of a kind. -/
def accept (k : Kind) : Parser Bool := do
  if ← sees k then
    advance
    return true
  else return false

/-- Moves on from a token of a kind, which has to stand here. -/
def require (k : Kind) : Parser Unit := do
  unless ← accept k do fail

/-- May a statement end here without a semicolon? -/
def canEnd : Parser Bool := do
  let t ← token
  return t.kind == Punct.semicolon || t.kind == Punct.closeBrace || t.kind == .eof || t.newline

/-- Ends a statement: by a semicolon, or where none is needed. -/
def endStatement : Parser Unit := do
  ensure (← canEnd)
  let _ ← accept Punct.semicolon

/-! ## Splitting and joining punctuators -/

/-- Reads the present token and the text behind it in another way. -/
def reread (change : Token → Source → Token × Source) (h : Reading.IsLocal change) :
    Parser Unit :=
  move (State.reread? change) (State.reread?_joined h)

/-- Splits the punctuator `kind` off the front of the present one, of which `left` remains. -/
def splitPunct (kind : Punct) (left : List Char) : Parser Unit :=
  reread (Reread.split kind left) (Reread.isLocal_split kind left)

/-- Makes a `<` of the present token if it begins with one. -/
def splitLess : Parser Unit := do
  match ← kind with
  | .punct .shiftLeft => splitPunct .less ['<']
  | .punct .lessEqual => splitPunct .less ['=']
  | .punct .assignShiftLeft => splitPunct .less ['<', '=']
  | _ => pure ()

/-- Joins a present `>` with what directly follows it. -/
def joinGreater : Parser Unit := do
  if ← sees Punct.greater then reread Reread.join Reread.isLocal_join

/-- Reads the present slash as the beginning of a regular expression. -/
def rereadRegex : Parser Unit := reread Reread.regex Reread.isLocal_regex

/-- Reads the present closing brace as the continuation of a template. -/
def rereadTemplate : Parser Unit := reread Reread.template Reread.isLocal_template

/-- Extends the present name by the hyphens and letters that follow it in markup. -/
def extendName : Parser Unit := reread Reread.extend Reread.isLocal_extend

/-! ## Names -/

/-- May a token of this kind be a property name? -/
def isPropertyName : Kind → Bool
  | .name | .word _ => true
  | _ => false

/-- May a token of this kind be used as a variable? -/
def isVariable : Kind → Bool
  | .name => true
  | .word w => !w.isReserved
  | _ => false

/-- May a token of this kind be declared as a variable? -/
def isBinding : Kind → Bool
  | .word .await_ | .word .yield_ => true
  | k => isVariable k

/-- Reads a property name that is a name or a word. -/
def propertyName : Parser (List Char) := do
  let t ← token
  ensure (isPropertyName t.kind)
  advanceName
  return t.text

/-- `await` and `yield` are no names where they begin expressions. -/
def checkName (k : Kind) : Parser Unit := do
  let c ← context
  faultIf ((c.await && k == Word.await_) || (c.yield && k == Word.yield_))

/-- Reads the name of a variable, to use or to declare it. -/
def bindingName : Parser (List Char) := do
  let t ← token
  ensure (isBinding t.kind)
  checkName t.kind
  advanceName
  return t.text

/-! ## Outline -/

/-- Adds a part to the outline. -/
def record (part : Outline) : Parser Unit := note fun n => { n with trail := part :: n.trail }

/-- Runs a parser and takes the outline that it gathered out of the state. -/
def gathered {α : Type} (p : Parser α) : Parser (α × List Outline) := do
  let outer := (← notes).trail
  note fun n => { n with trail := [] }
  let a ← p
  let inner := (← notes).trail
  note fun n => { n with trail := outer }
  return (a, inner)

/-- Gathers the outline that `p` reads below a declaration that begins at `start`. -/
def declaring {α : Type} (start : Nat) (p : Parser α) : Parser α := do
  let (a, inner) ← gathered p
  record (.declaration ⟨start, (← notes).lastStop⟩ inner.reverse)
  return a

/-- Puts the outline of pending decorators into the outline. -/
def placeDecorators : Parser Unit := note fun n =>
  { n with trail := n.decorators ++ n.trail, decorators := [] }

/-! ## Lists -/

/-- Reads items between separators up to a closing token, which is left. A separator may stand
before the closing token if `trailing`. -/
def separated (bound : Nat) (close separator : Kind) (trailing : Bool) (item : Parser Unit) :
    Parser Unit := do
  let rec rest : Nat → Parser Unit
    | 0 => fail
    | bound + 1 => do
      if ← sees close then return
      require separator
      if trailing then
        if ← sees close then return
      item
      rest bound
  unless ← sees close do
    item
    rest bound

/-- Reads items one after the other up to a closing token, which is consumed. -/
def upTo (bound : Nat) (close : Kind) (item : Parser Unit) : Parser Unit := do
  repeatWhile bound (do
    if ← accept close then return false
    if ← sees .eof then fail
    item
    return true)

end Parser

end IconInline.Script
