import IconInline.Script.Statement

/-!
# The grammar

The rules of the grammar, tied together, and the reading of a whole module. A module is
well-formed if it is read to its end without a fault, every shorthand property with a default is
part of a pattern, and, in the plain language, no name is exported twice.
-/

namespace IconInline.Script

namespace Rule

/-- Reads what a rule describes. -/
def parse (g : Rules) : Rule → Parser Shape
  | .statement place => do
    Parser.statement g place
    return {}
  | .assignment returnTypes => Parser.assignment g returnTypes
  | .binary least => Parser.binary g least
  | .unary => Parser.unary g
  | .leftHandSide => Parser.leftHandSide g
  | .binding => Parser.binding g
  | .typeRef => do
    Parser.typeRef g
    return {}
  | .typeOperand => do
    Parser.typeOperand g
    return {}
  | .element => do
    Parser.element g g.bound false
    return {}

end Rule

/-- Reads by a rule, with rules nested at most `depth` deep. -/
def grammar : (depth : Nat) → Rule → Parser Shape
  | 0, _ => Parser.fail
  | depth + 1, rule => rule.parse ⟨depth, grammar depth⟩

namespace Outlines

/-- How deep rules can nest in a text. -/
def depthFor (cs : List Char) : Nat := 40 * (cs.length + 2)

/-- The state in which the reading of a text begins. -/
def start (dialect : Dialect) (r : Reading) : State :=
  { toReading := r, context := { ambient := dialect.definitions }, faulty := r.token.faulty }

/-- Is a module well-formed, judging by the state in which its reading ended? -/
def isSound (dialect : Dialect) (s : State) : Bool :=
  !s.faulty && s.openDefaults.isEmpty && (dialect.typed || decide s.exported.Nodup)

/-- The outline of a module of which something is left out. Parts begin and end between statements;
where they do not, nothing is said of what is kept. -/
def ofParts (dialect : Dialect) (first : List Char) (later : List Part) : Except Stop Outlines :=
  let depth := depthFor (first ++ keptText later)
  match Reading.next? true ⟨first, 0⟩ later with
  | none => .error .severed
  | some r =>
    match (Parser.moduleItems ⟨depth, grammar depth⟩).run dialect (start dialect r) with
    | .ok imports s =>
      if isSound dialect s then .ok ⟨imports, s.trail.reverse⟩ else .error .mismatch
    | .error stop _ => .error stop

/-- The outline of a module, unless the module is ill-formed. -/
def ofText? (dialect : Dialect) (cs : List Char) : Option Outlines :=
  (ofParts dialect cs []).toOption

/-- Where statements are left out, what is kept has for itself the outline that is read, and is
ill-formed if none is. -/
theorem ofText?_of_ofParts {dialect : Dialect} {first : List Char} {later : List Part}
    (h : ofParts dialect first later ≠ .error .severed) :
    ofText? dialect (first ++ keptText later) = (ofParts dialect first later).toOption := by
  rw [ofText?, ofParts, Reading.keptText_nil, List.append_nil]
  rw [ofParts] at h ⊢
  cases hr : Reading.next? true ⟨first, 0⟩ later with
  | none =>
    rw [hr] at h
    exact absurd rfl h
  | some r =>
    rw [hr] at h
    have hwhole : Reading.next? true ⟨first ++ keptText later, 0⟩ [] = some r.joined := by
      rw [Reading.joined_next? hr]
      rfl
    have hagrees := (Parser.moduleItems ⟨depthFor (first ++ keptText later),
      grammar (depthFor (first ++ keptText later))⟩).agrees dialect (start dialect r)
    have hstart : (start dialect r).joined = start dialect r.joined := rfl
    rw [hstart] at hagrees
    rw [hwhole]
    dsimp only at h ⊢
    generalize Parser.run _ dialect (start dialect r.joined) = whole at hagrees ⊢
    generalize Parser.run _ dialect (start dialect r) = inParts at hagrees h ⊢
    cases hagrees with
    | ok => rfl
    | mismatch => rfl
    | severed => exact absurd rfl h

end Outlines

end IconInline.Script
