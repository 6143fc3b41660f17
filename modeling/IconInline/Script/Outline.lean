import IconInline.Source.Span

/-!
# The outline of a module

Of a module's tree only what matters to its imports is kept: the import declarations at its top
level, and, in the order of the text, every dynamic import of a literal specifier together with
the variable declarations around it.
-/

namespace IconInline.Script

open Source (Span)

/-- A part of a module that matters to its imports. -/
inductive Outline where
  /-- A dynamic import of a literal specifier. -/
  | imported (specifier : String)
  /-- A variable declaration and what stands inside it. -/
  | declaration (span : Span) (body : List Outline)
  deriving Repr

mutual

/-- Decides whether two parts are the same. -/
def Outline.decEq : (a b : Outline) → Decidable (a = b)
  | .imported s, .imported t => decidable_of_iff (s = t) (by simp)
  | .declaration s as, .declaration t bs =>
    have := Outline.decEqIn as bs
    decidable_of_iff (s = t ∧ as = bs) (by simp)
  | .imported _, .declaration _ _ => isFalse (by simp)
  | .declaration _ _, .imported _ => isFalse (by simp)

/-- Decides whether parts that follow each other are the same. -/
def Outline.decEqIn : (as bs : List Outline) → Decidable (as = bs)
  | [], [] => isTrue rfl
  | a :: as, b :: bs =>
    have := Outline.decEq a b
    have := Outline.decEqIn as bs
    decidable_of_iff (a = b ∧ as = bs) (by simp)
  | [], _ :: _ => isFalse (by simp)
  | _ :: _, [] => isFalse (by simp)

end

instance : DecidableEq Outline := Outline.decEq

/-- The outline of a whole module. -/
structure Outlines where
  /-- The import declarations at the top level, each with its specifier. -/
  imports : List (String × Span)
  body : List Outline
  deriving DecidableEq, Repr

end IconInline.Script
