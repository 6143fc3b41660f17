import IconInline.Script.Outline
import IconInline.Script.Reread

/-!
# The state of a parser

A parser keeps what it has read of the text beside what it has gathered. Where the text is read
around omissions, it looks and moves ahead only where it comes to the same in the text that is kept.
-/

namespace IconInline.Script

/-- What surrounds the place that is being read. -/
structure Context where
  /-- `in` is an operator. -/
  inOperator : Bool := true
  /-- `await` begins an expression. -/
  await : Bool := true
  /-- `yield` begins an expression. -/
  yield : Bool := false
  /-- `return` may stand here. -/
  inFunction : Bool := false
  /-- Declarations do not define anything. -/
  ambient : Bool := false
  /-- A decorator is being read. -/
  decorator : Bool := false
  /-- A conditional type may not begin here. -/
  noConditionalType : Bool := false
  deriving DecidableEq, Repr

/-- What a parser has gathered besides the text. -/
structure Notes where
  /-- Where the last consumed token ends. -/
  lastStop : Nat := 0
  context : Context := {}
  /-- The outline gathered so far, the latest part first. -/
  trail : List Outline := []
  /-- The outline of decorators that were read before what they decorate. -/
  decorators : List Outline := []
  /-- Where shorthand properties with a default stand that are not part of a pattern yet. -/
  openDefaults : List Nat := []
  /-- Where a parenthesis is known not to begin the parameters of an arrow function. -/
  notArrow : List Nat := []
  /-- The names that the module exports. -/
  exported : List String := []

/-- The state of a parser. -/
structure State extends Reading, Notes where
  /-- A fault was found that did not stop the parser. -/
  faulty : Bool := false

namespace State

/-- The state in the text in which the kept parts follow each other directly. -/
def joined (s : State) : State := { s with toReading := s.toReading.joined }

/-- Goes over to a later place of the text. -/
def moveTo (s : State) (r : Reading) : State :=
  { s with toReading := r, faulty := s.faulty || r.token.faulty }

/-- The token `n` places behind the present one. -/
def peek? (n : Nat) (s : State) : Option Token :=
  if s.omitted.isNone then Reading.peek? s.later (n - 1) s.ahead else none

/-- Moves on to the next token. -/
def next? (s : State) : Option State :=
  if s.omitted.isNone then
    (Reading.next? false s.ahead s.later).map { s with lastStop := s.token.stop }.moveTo
  else none

/-- Moves on to the token that `read` finds next. -/
def nextBy? (read : Source → Token × Source) (s : State) : Option State :=
  (s.toReading.reread? fun _ => read).map { s with lastStop := s.token.stop }.moveTo

/-- Reads the present token and the text behind it in another way. -/
def reread? (change : Token → Source → Token × Source) (s : State) : Option State :=
  (s.toReading.reread? change).map s.moveTo

/-- The state in which a text is read for itself that has been left out here. -/
def aside (s : State) (text : List Char) : State :=
  let r := Reading.ofWhole true ⟨text, 0⟩
  { s with toReading := r, faulty := r.token.faulty }

/-! ## What is kept -/

section Joined

variable {s s' : State}

theorem joined_moveTo (s : State) (r : Reading) :
    (s.moveTo r).joined = s.joined.moveTo r.joined := rfl

theorem peek?_joined {n : Nat} {t : Token} (h : s.peek? n = some t) :
    s.joined.peek? n = some t := by
  rw [peek?] at h
  split at h
  · exact Reading.peek?_append h
  · cases h

theorem next?_joined (h : s.next? = some s') : s.joined.next? = some s'.joined := by
  rw [next?] at h
  split at h
  · obtain ⟨r, hr, rfl⟩ := Option.map_eq_some_iff.mp h
    rw [joined_moveTo, Reading.joined_next? hr]
    rfl
  · cases h

theorem nextBy?_joined {read : Source → Token × Source} (hlocal : Reading.IsLocal fun _ => read)
    (h : s.nextBy? read = some s') : s.joined.nextBy? read = some s'.joined := by
  obtain ⟨r, hr, rfl⟩ := Option.map_eq_some_iff.mp h
  have hjoined : s.joined.toReading.reread? (fun _ => read) = some r.joined :=
    Reading.joined_reread? hlocal hr
  rw [joined_moveTo, nextBy?, hjoined]
  rfl

theorem reread?_joined {change : Token → Source → Token × Source}
    (hlocal : Reading.IsLocal change) (h : s.reread? change = some s') :
    s.joined.reread? change = some s'.joined := by
  obtain ⟨r, hr, rfl⟩ := Option.map_eq_some_iff.mp h
  have hjoined : s.joined.toReading.reread? change = some r.joined :=
    Reading.joined_reread? hlocal hr
  rw [joined_moveTo, reread?, hjoined]
  rfl

end Joined

end State

end IconInline.Script
