import IconInline.Script.Lexer

/-!
# Lexemes with more text behind them

The lexer looks at most a few characters past a token. Where what stands directly behind a token
shows its end, the token is settled: it is the same whatever else follows.
-/

namespace IconInline.Script

section Prefixes
variable {p : Char → Bool} {cs : List Char}

theorem takeWhile_append_of_ne {more : List Char} (h : cs.drop (cs.takeWhile p).length ≠ []) :
    (cs ++ more).takeWhile p = cs.takeWhile p := by
  have hlt : (cs.takeWhile p).length ≠ cs.length := by
    intro hlen
    exact h (by rw [hlen, List.drop_length])
  rw [List.takeWhile_append, if_neg hlt]

theorem drop_takeWhile_append (more : List Char) :
    (cs ++ more).drop (cs.takeWhile p).length = cs.drop (cs.takeWhile p).length ++ more :=
  List.drop_append_of_le_length (List.takeWhile_prefix p).length_le

theorem head?_any_append (h : cs ≠ []) (more : List Char) :
    (cs ++ more).head?.any p = cs.head?.any p := by
  obtain ⟨c, rest, rfl⟩ := List.exists_cons_of_ne_nil h
  rfl

theorem head?_append_of_ne (h : cs ≠ []) (more : List Char) : (cs ++ more).head? = cs.head? := by
  obtain ⟨c, rest, rfl⟩ := List.exists_cons_of_ne_nil h
  rfl
end Prefixes

/-- A punctuator that begins no other one. -/
def Kind.isClosed : Kind → Bool
  | .punct .semicolon | .punct .openBrace | .punct .closeBrace => true
  | _ => false

/-- Is the kind of a token that spells a name. -/
def Kind.isNamed : Kind → Bool
  | .name | .word _ | .privateName => true
  | _ => false

/-- Is a token of this kind the same whatever stands behind its rest? An escape in a name is taken
to be open, and so is a point that is left, since two others may belong to it. -/
def Kind.isSettled (kind : Kind) (escaped : Bool) (rest : List Char) : Bool :=
  kind != .eof && kind != .invalid &&
    (kind.isClosed || (rest != [] && rest != ['.'] && !(kind.isNamed && escaped)))

theorem Kind.isClosed_of_isNamed {kind : Kind} (h : kind.isNamed = true) :
    kind.isClosed = false := by
  cases kind with
  | name | word | privateName => rfl
  | _ => cases h

theorem Kind.valid_of_isSettled {kind : Kind} {escaped : Bool} {rest : List Char}
    (h : kind.isSettled escaped rest = true) : kind ≠ .eof ∧ kind ≠ .invalid := by
  simp only [isSettled, Bool.and_eq_true, bne_iff_ne] at h
  exact h.1

theorem Kind.open_of_isSettled {kind : Kind} {escaped : Bool} {rest : List Char}
    (h : kind.isSettled escaped rest = true) (hkind : kind.isClosed = false) :
    (rest ≠ [] ∧ rest ≠ ['.']) ∧ (kind.isNamed = true → escaped = false) := by
  simp only [isSettled, hkind, Bool.and_eq_true, bne_iff_ne, Bool.false_or, Bool.not_eq_true',
    Bool.and_eq_false_imp] at h
  exact h.2

namespace Lexeme

/-- The same lexeme with more text behind it. -/
def append (l : Lexeme) (more : List Char) : Lexeme := { l with rest := l.rest ++ more }

/-- Is a lexeme the same whatever stands behind its rest? -/
def isSettled (l : Lexeme) : Bool := l.kind.isSettled l.escaped l.rest

/-- A lexeme is one, and there is text behind it. -/
structure Ends (l : Lexeme) : Prop where
  valid : l.kind ≠ .invalid
  followed : l.rest ≠ []

theorem not_ends_broken (rest : List Char) : ¬(broken rest).Ends := fun h => h.valid rfl

section Settled

variable {l : Lexeme}

theorem valid_of_isSettled (h : l.isSettled = true) : l.kind ≠ .invalid :=
  (Kind.valid_of_isSettled h).2

theorem ends_of_isSettled (h : l.isSettled = true) (hkind : l.kind.isClosed = false) : l.Ends :=
  ⟨valid_of_isSettled h, (Kind.open_of_isSettled h hkind).1.1⟩

theorem rest_ne_point_of_isSettled (h : l.isSettled = true) (hkind : l.kind.isClosed = false) :
    l.rest ≠ ['.'] :=
  (Kind.open_of_isSettled h hkind).1.2

theorem escaped_of_isSettled (h : l.isSettled = true) (hkind : l.kind.isNamed = true) :
    l.escaped = false :=
  (Kind.open_of_isSettled h (Kind.isClosed_of_isNamed hkind)).2 hkind

end Settled

end Lexeme

end IconInline.Script
