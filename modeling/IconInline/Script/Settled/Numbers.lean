import IconInline.Script.Settled.Lexemes

/-!
# Numbers with more text behind them

A number ends at the first character that cannot belong to it. So one with any text behind it is the
same whatever follows that text.
-/

namespace IconInline.Script.Lexer

theorem digits_append {p : Char → Bool} {afterDigit ok : Bool} {cs rest : List Char} {n : Nat}
    (h : digits p afterDigit cs = (n, rest, ok)) (hrest : rest ≠ []) (more : List Char) :
    digits p afterDigit (cs ++ more) = (n, rest ++ more, ok) := by
  fun_induction digits p afterDigit cs generalizing n ok with
  | case1 =>
    cases h
    exact absurd rfl hrest
  | case2 afterDigit c text hc m left fine hdigits ih =>
    cases h
    rw [List.cons_append, digits, if_pos hc, ih hdigits]
  | case3 afterDigit text m left fine hdigits hc ih =>
    cases h
    rw [List.cons_append, digits, if_neg hc, if_pos rfl, ih hdigits]
  | case4 afterDigit c text hc hunder =>
    cases h
    rw [List.cons_append, digits, if_neg hc, if_neg hunder]

theorem numberLexeme_append {size : Nat} {ok : Bool} {cs : List Char}
    (h : (numberLexeme size ok cs).Ends) (more : List Char) :
    numberLexeme size ok (cs ++ more) = (numberLexeme size ok cs).append more := by
  rw [numberLexeme] at h ⊢
  rw [numberLexeme]
  split at h
  · exact absurd h (Lexeme.not_ends_broken cs)
  · next hnone =>
    rw [head?_any_append h.followed, if_neg hnone, if_neg hnone]
    rfl

theorem not_ends_numberLexeme_nil (size : Nat) (ok : Bool) : ¬(numberLexeme size ok []).Ends :=
  fun h => h.followed rfl

theorem numberEnd_append {size : Nat} {ok mayBeBig : Bool} {cs : List Char}
    (h : (numberEnd size ok mayBeBig cs).Ends) (more : List Char) :
    numberEnd size ok mayBeBig (cs ++ more) = (numberEnd size ok mayBeBig cs).append more := by
  fun_cases numberEnd size ok mayBeBig cs with
  | case1 text hbig =>
    rw [numberEnd, if_pos hbig] at h
    rw [List.cons_append, numberEnd, if_pos hbig]
    exact numberLexeme_append h more
  | case2 text hbig =>
    rw [numberEnd, if_neg hbig] at h
    rw [List.cons_append, numberEnd, if_neg hbig]
    exact numberLexeme_append h more
  | case3 =>
    rename_i hmark
    rw [numberEnd] at h
    · cases cs with
      | nil => exact absurd h (not_ends_numberLexeme_nil size ok)
      | cons c text =>
        rw [List.cons_append, numberEnd]
        · exact numberLexeme_append h more
        · rintro _ ⟨⟩
          exact hmark _ rfl
    · exact hmark

theorem not_ends_numberEnd_nil (size : Nat) (ok mayBeBig : Bool) :
    ¬(numberEnd size ok mayBeBig []).Ends :=
  not_ends_numberLexeme_nil size ok

theorem based_append {p : Char → Bool} {cs : List Char} (h : (based p cs).Ends)
    (more : List Char) : based p (cs ++ more) = (based p cs).append more := by
  rw [based] at h ⊢
  rw [based]
  split at h
  · next hp =>
    have hne : cs ≠ [] := by
      rintro rfl
      cases hp
    rcases hdigits : digits p false cs with ⟨n, rest, ok⟩
    rw [hdigits] at h
    dsimp only at h
    have hrest : rest ≠ [] := by
      rintro rfl
      exact not_ends_numberEnd_nil _ _ _ h
    rw [head?_any_append hne, if_pos hp, if_pos hp, digits_append hdigits hrest]
    dsimp only
    rw [numberEnd_append h]
  · exact absurd h (Lexeme.not_ends_broken cs)

theorem exponentDigits?_append {size n : Nat} {cs rest : List Char} {ok : Bool}
    (h : exponentDigits? size cs = some (n, rest, ok)) (hrest : rest ≠ []) (more : List Char) :
    exponentDigits? size (cs ++ more) = some (n, rest ++ more, ok) := by
  rw [exponentDigits?] at h ⊢
  split at h
  · next hdigit =>
    have hne : cs ≠ [] := by
      rintro rfl
      cases hdigit
    rcases hdigits : digits Char.isDigit false cs with ⟨m, left, fine⟩
    rw [hdigits] at h
    cases h
    rw [head?_any_append hne, if_pos hdigit, digits_append hdigits hrest]
  · cases h

theorem exponentRest?_append {n : Nat} {cs rest : List Char} {ok : Bool}
    (h : exponentRest? cs = some (n, rest, ok)) (hrest : rest ≠ []) (more : List Char) :
    exponentRest? (cs ++ more) = some (n, rest ++ more, ok) := by
  fun_cases exponentRest? cs with
  | case1 text | case2 text => exact exponentDigits?_append h hrest more
  | case3 =>
    rename_i hplus hminus
    rw [exponentRest?] at h
    · cases cs with
      | nil => cases h
      | cons c text =>
        rw [List.cons_append, exponentRest?]
        · exact exponentDigits?_append h hrest more
        · rintro _ ⟨⟩
          exact hplus _ rfl
        · rintro _ ⟨⟩
          exact hminus _ rfl
    · exact hplus
    · exact hminus

theorem exponent?_append {n : Nat} {cs rest : List Char} {ok : Bool}
    (h : exponent? cs = some (n, rest, ok)) (hrest : rest ≠ []) (more : List Char) :
    exponent? (cs ++ more) = some (n, rest ++ more, ok) := by
  fun_cases exponent? cs with
  | case1 text | case2 text => exact exponentRest?_append h hrest more
  | case3 =>
    rename_i hsmall hlarge
    rw [exponent?] at h
    · cases h
      cases cs with
      | nil => exact absurd rfl hrest
      | cons c text =>
        rw [List.cons_append, exponent?]
        · rintro _ ⟨⟩
          exact hsmall _ rfl
        · rintro _ ⟨⟩
          exact hlarge _ rfl
    · exact hsmall
    · exact hlarge

theorem exponentEnd_append {size : Nat} {ok : Bool} {cs : List Char}
    (h : (exponentEnd size ok cs).Ends) (more : List Char) :
    exponentEnd size ok (cs ++ more) = (exponentEnd size ok cs).append more := by
  rw [exponentEnd] at h ⊢
  rw [exponentEnd]
  rcases hexponent : exponent? cs with _ | ⟨m, rest, good⟩
  · rw [hexponent] at h
    exact absurd h (Lexeme.not_ends_broken cs)
  · rw [hexponent] at h
    have hrest : rest ≠ [] := by
      rintro rfl
      exact not_ends_numberEnd_nil _ _ _ h
    rw [exponent?_append hexponent hrest]
    exact numberEnd_append h more

theorem not_ends_exponentEnd_nil (size : Nat) (ok : Bool) : ¬(exponentEnd size ok []).Ends :=
  fun h => h.followed rfl

theorem fraction_append {size : Nat} {ok : Bool} {cs : List Char}
    (h : (fraction size ok cs).Ends) (more : List Char) :
    fraction size ok (cs ++ more) = (fraction size ok cs).append more := by
  have hne : cs ≠ [] := by
    rintro rfl
    exact not_ends_exponentEnd_nil size ok h
  rw [fraction] at h ⊢
  rw [fraction, head?_any_append hne]
  split at h
  · next hdigit =>
    rcases hdigits : digits Char.isDigit false cs with ⟨n, rest, fine⟩
    rw [hdigits] at h
    have hrest : rest ≠ [] := by
      rintro rfl
      exact not_ends_exponentEnd_nil _ _ h
    rw [if_pos hdigit, if_pos hdigit, digits_append hdigits hrest]
    exact exponentEnd_append h more
  · next hdigit =>
    rw [if_neg hdigit, if_neg hdigit]
    exact exponentEnd_append h more

theorem not_ends_afterWhole_nil (size : Nat) (ok mayBeBig : Bool) :
    ¬(afterWhole size ok mayBeBig []).Ends :=
  not_ends_numberEnd_nil size ok mayBeBig

theorem afterWhole_append {size : Nat} {ok mayBeBig : Bool} {cs : List Char}
    (h : (afterWhole size ok mayBeBig cs).Ends) (more : List Char) :
    afterWhole size ok mayBeBig (cs ++ more) = (afterWhole size ok mayBeBig cs).append more := by
  cases cs with
  | nil => exact absurd h (not_ends_afterWhole_nil size ok mayBeBig)
  | cons c text =>
    by_cases hdot : c = '.'
    · subst hdot
      exact fraction_append h more
    · have hcases (rest : List Char) : afterWhole size ok mayBeBig (c :: rest) =
          if c == 'e' || c == 'E' then exponentEnd size ok (c :: rest)
          else numberEnd size ok mayBeBig (c :: rest) := by
        rw [afterWhole]
        · rfl
        · rintro _ ⟨⟩
          exact hdot rfl
      rw [hcases] at h
      rw [List.cons_append, hcases, hcases]
      split at h
      · next hletter =>
        rw [if_pos hletter, if_pos hletter]
        exact exponentEnd_append h more
      · next hletter =>
        rw [if_neg hletter, if_neg hletter]
        exact numberEnd_append h more

theorem leadingZero_append {cs : List Char} (h : (leadingZero cs).Ends) (more : List Char) :
    leadingZero (cs ++ more) = (leadingZero cs).append more := by
  rw [leadingZero] at h ⊢
  rw [leadingZero]
  dsimp only at h ⊢
  have hoctal : cs.drop (cs.takeWhile isOctal).length ≠ [] := by
    intro hnil
    rw [hnil] at h
    exact not_ends_numberEnd_nil _ true false h
  rw [takeWhile_append_of_ne hoctal, drop_takeWhile_append, head?_any_append hoctal]
  generalize cs.drop (cs.takeWhile isOctal).length = rest at h hoctal ⊢
  split at h
  · next hdigit =>
    have hrest : rest.drop (rest.takeWhile Char.isDigit).length ≠ [] := by
      intro hnil
      rw [hnil] at h
      exact not_ends_afterWhole_nil _ true false h
    rw [if_pos hdigit, if_pos hdigit, takeWhile_append_of_ne hrest, drop_takeWhile_append]
    exact afterWhole_append h more
  · next hdigit =>
    rw [if_neg hdigit, if_neg hdigit]
    exact numberEnd_append h more

theorem zeroNumber_append {c : Char} {cs : List Char} (h : (zeroNumber c cs).Ends)
    (more : List Char) : zeroNumber c (cs ++ more) = (zeroNumber c cs).append more := by
  rw [zeroNumber.eq_def] at h ⊢
  rw [zeroNumber.eq_def]
  split at h
  · exact based_append h more
  · exact based_append h more
  · exact based_append h more
  · exact based_append h more
  · exact based_append h more
  · exact based_append h more
  · split at h
    · next hdigit =>
      rw [if_pos hdigit, if_pos hdigit]
      exact leadingZero_append h more
    · next hdigit =>
      rw [if_neg hdigit, if_neg hdigit]
      split at h
      · next hletter =>
        rw [if_pos hletter, if_pos hletter]
        rcases hexponent : exponentRest? cs with _ | ⟨m, rest, good⟩
        · rw [hexponent] at h
          exact absurd h (Lexeme.not_ends_broken cs)
        · rw [hexponent] at h
          rw [exponentRest?_append hexponent h.followed]
          rfl
      · next hletter =>
        rw [if_neg hletter, if_neg hletter]
        exact afterWhole_append h more

theorem number_of_digits {cs : List Char} (h : ∀ c rest, cs = '0' :: c :: rest → False) :
    number cs = afterWhole (digits Char.isDigit false cs).1 (digits Char.isDigit false cs).2.2 true
      (digits Char.isDigit false cs).2.1 := by
  rw [number]
  exact h

theorem number_append {cs : List Char} (h : (number cs).Ends) (more : List Char) :
    number (cs ++ more) = (number cs).append more := by
  by_cases hzero : ∃ c rest, cs = '0' :: c :: rest
  · obtain ⟨c, rest, rfl⟩ := hzero
    exact zeroNumber_append h more
  · simp only [not_exists] at hzero
    rw [number_of_digits hzero] at h ⊢
    have hrest : (digits Char.isDigit false cs).2.1 ≠ [] := by
      intro hnil
      rw [hnil] at h
      exact not_ends_afterWhole_nil _ _ _ h
    have hmore : ∀ c rest, cs ++ more = '0' :: c :: rest → False := by
      rintro c rest heq
      cases cs with
      | nil => exact hrest rfl
      | cons d text =>
        cases text with
        | nil =>
          cases heq
          exact hrest rfl
        | cons e text =>
          cases heq
          exact hzero _ _ rfl
    rw [number_of_digits hmore, digits_append rfl hrest]
    exact afterWhole_append h more

/-- A lexeme is a number if it is one at all. -/
def IsNumeric (l : Lexeme) : Prop := l.kind = .number ∨ l.kind = .invalid

theorem isNumeric_numberLexeme (size : Nat) (ok : Bool) (cs : List Char) :
    IsNumeric (numberLexeme size ok cs) := by
  fun_cases numberLexeme size ok cs
  · exact Or.inr rfl
  · exact Or.inl rfl

theorem isNumeric_numberEnd (size : Nat) (ok mayBeBig : Bool) (cs : List Char) :
    IsNumeric (numberEnd size ok mayBeBig cs) := by
  fun_cases numberEnd size ok mayBeBig cs <;> exact isNumeric_numberLexeme ..

theorem isNumeric_based (p : Char → Bool) (cs : List Char) : IsNumeric (based p cs) := by
  fun_cases based p cs
  · exact isNumeric_numberEnd ..
  · exact Or.inr rfl

theorem isNumeric_exponentEnd (size : Nat) (ok : Bool) (cs : List Char) :
    IsNumeric (exponentEnd size ok cs) := by
  fun_cases exponentEnd size ok cs
  · exact isNumeric_numberEnd ..
  · exact Or.inr rfl

theorem isNumeric_fraction (size : Nat) (ok : Bool) (cs : List Char) :
    IsNumeric (fraction size ok cs) := by
  fun_cases fraction size ok cs <;> exact isNumeric_exponentEnd ..

theorem isNumeric_afterWhole (size : Nat) (ok mayBeBig : Bool) (cs : List Char) :
    IsNumeric (afterWhole size ok mayBeBig cs) := by
  rw [afterWhole.eq_def]
  split
  · exact isNumeric_fraction ..
  · split
    · exact isNumeric_exponentEnd ..
    · exact isNumeric_numberEnd ..

theorem isNumeric_leadingZero (cs : List Char) : IsNumeric (leadingZero cs) := by
  fun_cases leadingZero cs
  · exact isNumeric_afterWhole ..
  · exact isNumeric_numberEnd ..

theorem isNumeric_zeroNumber (c : Char) (cs : List Char) : IsNumeric (zeroNumber c cs) := by
  rw [zeroNumber.eq_def]
  split
  · exact isNumeric_based ..
  · exact isNumeric_based ..
  · exact isNumeric_based ..
  · exact isNumeric_based ..
  · exact isNumeric_based ..
  · exact isNumeric_based ..
  · split
    · exact isNumeric_leadingZero ..
    · split
      · split
        · exact Or.inl rfl
        · exact Or.inr rfl
      · exact isNumeric_afterWhole ..

theorem isNumeric_number (cs : List Char) : IsNumeric (number cs) := by
  fun_cases number cs
  · exact isNumeric_zeroNumber ..
  · exact isNumeric_afterWhole ..

theorem IsNumeric.ends {l : Lexeme} (h : IsNumeric l) (hsettled : l.isSettled = true) : l.Ends := by
  apply Lexeme.ends_of_isSettled hsettled
  rcases h with hkind | hkind
  · rw [hkind]
    rfl
  · rw [hkind]
    rfl

end IconInline.Script.Lexer
