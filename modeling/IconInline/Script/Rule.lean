import IconInline.Script.Parser

/-!
# Rules of the grammar

The rules of the grammar call one another. Each is written against `Rules`, which stands for all
of them with a bound on how deep they may still nest; the grammar ties the knot.
-/

namespace IconInline.Script

/-- What an expression looks like, as far as what follows depends on it. -/
inductive Form where
  | name
  | member
  | string
  /-- An array or an object. -/
  | collection
  /-- An assignment by `=`. -/
  | assignment
  | parenthesized
  /-- An expression with type arguments that are not called. -/
  | instantiation
  | importCall
  | other
  deriving DecidableEq, Repr

/-- What was read of an expression. -/
structure Shape where
  form : Form := .other
  /-- A value can be assigned to it. -/
  target : Bool := false
  /-- It is a name or a member once parentheses and types are taken away. -/
  place : Bool := false
  /-- It is an array or an object that can be read as a pattern. -/
  pattern : Bool := false
  /-- Where shorthand properties with a default stand that would belong to the pattern. -/
  defaults : List Nat := []
  /-- It is part of an optional chain. -/
  optional : Bool := false
  /-- The value of a string, or the name of a variable. -/
  text : List Char := []
  /-- The names that a pattern declares. -/
  names : List (List Char) := []
  deriving DecidableEq, Repr

namespace Shape

/-- A variable. -/
def reference (text : List Char) : Shape := { form := .name, target := true, place := true, text }

/-- A member of something, within an optional chain or not. -/
def member (optional : Bool) : Shape :=
  { form := .member, target := !optional, place := !optional, optional }

/-- A value can be assigned to it, or taken apart by it. -/
def assignable (s : Shape) : Bool := s.target || s.pattern

/-- It can stand in a pattern: perhaps with a default. -/
def element (s : Shape) : Bool := s.assignable || s.form == .assignment

end Shape

/-- Where a statement stands. -/
inductive Place where
  | list
  /-- The body of a statement that takes a single one. -/
  | single
  deriving DecidableEq, Repr

/-- A rule of the grammar. -/
inductive Rule where
  | statement (place : Place)
  /-- An assignment expression; in the middle of a conditional expression an arrow function with
  a type behind its parameters is read differently. -/
  | assignment (returnType : Bool)
  | binary (precedence : Nat)
  | unary
  | leftHandSide
  /-- A name or a pattern that is being declared. -/
  | binding
  | typeRef
  /-- A type without unions and conditions around it. -/
  | typeOperand
  /-- An element of markup. -/
  | element
  deriving DecidableEq, Repr

/-- All rules, as far as they may still nest. -/
structure Rules where
  bound : Nat
  run : Rule → Parser Shape

namespace Rules

/-- Reads a statement. -/
def statement (g : Rules) (place : Place) : Parser Unit := do
  let _ ← g.run (.statement place)

/-- Reads an assignment expression. -/
def assignment (g : Rules) : Parser Shape := g.run (.assignment true)

/-- Reads a type. -/
def typeRef (g : Rules) : Parser Unit := do
  let _ ← g.run .typeRef

/-- Reads a name or a pattern that is being declared. -/
def binding (g : Rules) : Parser Shape := g.run .binding

/-- Reads an expression: assignment expressions with commas between them. -/
def expression (g : Rules) : Parser Shape := do
  let first ← g.assignment
  if ← Parser.sees Punct.comma then
    Parser.repeatWhile g.bound (do
      if ← Parser.accept Punct.comma then
        let _ ← g.assignment
        return true
      else return false)
    return {}
  else return first

/-- Reads an expression in which `in` is an operator. -/
def inner (g : Rules) : Parser Shape :=
  Parser.within (fun c => { c with inOperator := true }) g.expression

/-- Reads an assignment expression in which `in` is an operator. -/
def innerAssignment (g : Rules) : Parser Shape :=
  Parser.within (fun c => { c with inOperator := true }) g.assignment

end Rules

end IconInline.Script
