import IconInline.Script.Reading

/-!
# Reading a token in another way

The grammar may take back how a token was cut: a punctuator is split or joined with what follows, a
slash begins a regular expression, a brace goes on with a template, and a name of markup may hold
hyphens. What comes of it depends on no more of the text than any other token does.
-/

namespace IconInline.Script

namespace Reread

/-- Splits the punctuator `kind` off the front of a token, of which `left` remains. -/
def split (kind : Punct) (left : List Char) (t : Token) (s : Source) : Token × Source :=
  ({ t with kind := kind, stop := t.stop - left.length },
    ⟨left ++ s.rest, s.offset - left.length⟩)

/-- What a `>` becomes with the text behind it, and how much of that is taken. -/
def joinedGreater : List Char → Punct × Nat
  | '>' :: '>' :: '=' :: _ => (.assignShiftRightZero, 3)
  | '>' :: '>' :: _ => (.shiftRightZero, 2)
  | '>' :: '=' :: _ => (.assignShiftRight, 2)
  | '>' :: _ => (.shiftRight, 1)
  | '=' :: _ => (.greaterEqual, 1)
  | _ => (.greater, 0)

/-- Joins a `>` with what directly follows it. -/
def join (t : Token) (s : Source) : Token × Source :=
  let joined := joinedGreater s.rest
  ({ t with kind := joined.1, stop := t.stop + joined.2 },
    ⟨s.rest.drop joined.2, s.offset + joined.2⟩)

/-- Reads a slash as the beginning of a regular expression. -/
def regex (t : Token) (s : Source) : Token × Source :=
  let l := Lexer.regex (if t.kind == .punct .assignSlash then '=' :: s.rest else s.rest)
  ({ t with kind := l.kind, stop := t.start + l.size, faulty := l.faulty },
    ⟨l.rest, t.start + l.size⟩)

/-- Reads a closing brace as the continuation of a template. -/
def template (t : Token) (s : Source) : Token × Source :=
  let l := Lexer.templatePiece .templateTail .templateMiddle s.rest
  ({ t with kind := l.kind, stop := t.start + l.size, escaped := l.escaped, faulty := l.faulty },
    ⟨l.rest, t.start + l.size⟩)

/-- Extends a name by the hyphens and letters that follow it in markup. -/
def extend (t : Token) (s : Source) : Token × Source :=
  let more := s.rest.takeWhile (fun c => Text.isNamePart c || c == '-')
  ({ t with stop := t.stop + Text.byteSize more, text := t.text ++ more },
    ⟨s.rest.drop more.length, s.offset + Text.byteSize more⟩)

open Reading (IsLocal)

theorem isLocal_split (kind : Punct) (left : List Char) : IsLocal (split kind left) := by
  intro t s _ _ more
  rw [split, split, Source.append, Source.append, List.append_assoc]

theorem joinedGreater_le (cs : List Char) : (joinedGreater cs).2 ≤ cs.length := by
  fun_cases joinedGreater cs <;> simp

theorem joinedGreater_append {cs : List Char} (h : cs.drop (joinedGreater cs).2 ≠ [])
    (more : List Char) : joinedGreater (cs ++ more) = joinedGreater cs := by
  fun_cases joinedGreater cs with
  | case1 | case3 | case5 => rfl
  | case2 text hassign =>
    cases text with
    | nil => exact absurd rfl h
    | cons c text =>
      have hc : c ≠ '=' := fun hc => hassign text (hc ▸ rfl)
      rw [List.cons_append, List.cons_append, List.cons_append, joinedGreater]
      exact fun _ heq => hc (List.cons.inj heq).1
  | case4 text hthree htwo hassign =>
    cases text with
    | nil => exact absurd rfl h
    | cons c text =>
      have hc : c ≠ '>' := fun hc => htwo text (hc ▸ rfl)
      have hc' : c ≠ '=' := fun hc => hassign text (hc ▸ rfl)
      rw [List.cons_append, List.cons_append, joinedGreater]
      · exact fun _ heq => hc (List.cons.inj heq).1
      · exact fun _ heq => hc (List.cons.inj heq).1
      · exact fun _ heq => hc' (List.cons.inj heq).1
  | case6 =>
    rename_i hthree htwo hassign hone hequal
    cases cs with
    | nil => exact absurd rfl h
    | cons c text =>
      have hc : c ≠ '>' := fun hc => hone text (hc ▸ rfl)
      have hc' : c ≠ '=' := fun hc => hequal text (hc ▸ rfl)
      rw [List.cons_append, joinedGreater]
      · exact fun _ heq => hc (List.cons.inj heq).1
      · exact fun _ heq => hc (List.cons.inj heq).1
      · exact fun _ heq => hc (List.cons.inj heq).1
      · exact fun _ heq => hc (List.cons.inj heq).1
      · exact fun _ heq => hc' (List.cons.inj heq).1

theorem isLocal_join : IsLocal join := by
  intro t s _ hne more
  rw [join, Source.append, joinedGreater_append hne,
    List.drop_append_of_le_length (joinedGreater_le s.rest)]
  rfl

theorem isLocal_regex : IsLocal regex := by
  intro t s hsettled hne more
  have hends :
      (Lexer.regex (if t.kind == .punct .assignSlash then '=' :: s.rest else s.rest)).Ends :=
    ⟨(Kind.valid_of_isSettled hsettled).2, hne⟩
  have happend := Lexer.regex_append hends more
  rw [regex, Source.append]
  split at happend
  · next hassign =>
    rw [if_pos hassign, ← List.cons_append, happend, regex, if_pos hassign]
    rfl
  · next hassign =>
    rw [if_neg hassign, happend, regex, if_neg hassign]
    rfl

theorem isLocal_template : IsLocal template := by
  intro t s hsettled _ more
  have hvalid : (Lexer.templatePiece .templateTail .templateMiddle s.rest).kind ≠ .invalid :=
    (Kind.valid_of_isSettled hsettled).2
  rw [template, Source.append, Lexer.templatePiece_append hvalid]
  rfl

theorem isLocal_extend : IsLocal extend := by
  intro t s _ hne more
  rw [extend, extend, Source.append, takeWhile_append_of_ne hne, drop_takeWhile_append]
  rfl

theorem isLocal_nextInTag : IsLocal fun _ => Source.nextInTag := by
  intro _ s hsettled _ more
  exact Source.behindGap_append (fun _ => Lexer.lexemeInTag_append) rfl (by decide) hsettled more

theorem isLocal_nextChild : IsLocal fun _ => Source.nextChild := by
  intro _ s hsettled _ more
  dsimp only
  rw [Source.nextChild, Source.append, Lexer.lexemeOfChild_append hsettled]
  rfl

end Reread

end IconInline.Script
