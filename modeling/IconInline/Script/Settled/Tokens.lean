import IconInline.Script.Settled.Numbers

/-!
# Settled tokens are the same whatever follows

Names and punctuators need something behind them that shows their end. Strings, templates, and the
brackets and semicolons that no other punctuator begins with show it themselves.
-/

namespace IconInline.Script.Lexer

/-! ## Names -/

theorem name?_append {cs name rest : List Char} {size : Nat}
    (h : name? cs = some (name, size, rest, false)) (hrest : rest ≠ []) (more : List Char) :
    name? (cs ++ more) = some (name, size, rest ++ more, false) := by
  rw [name?] at h ⊢
  split at h
  · split at h
    · split at h
      · cases h
      · cases h
    · cases h
  · next hhead =>
    cases h
    rw [takeWhile_append_of_ne hrest, drop_takeWhile_append, head?_append_of_ne hrest,
      if_neg hhead]

theorem word_append {cs : List Char} (h : (word cs).Ends) (hplain : (word cs).escaped = false)
    (more : List Char) : word (cs ++ more) = (word cs).append more := by
  rw [word] at h hplain ⊢
  rw [word]
  rcases hname : name? cs with _ | ⟨name, size, rest, escaped⟩
  · rw [hname] at h
    exact absurd h (Lexeme.not_ends_broken cs)
  · rw [hname] at h hplain
    cases hplain
    rw [name?_append hname h.followed]
    rfl

theorem privateName_append {cs : List Char} (h : (privateName cs).Ends)
    (hplain : (privateName cs).escaped = false) (more : List Char) :
    privateName (cs ++ more) = (privateName cs).append more := by
  have hne : cs ≠ [] := by
    rintro rfl
    exact Lexeme.not_ends_broken [] h
  rw [privateName] at h hplain ⊢
  rw [privateName, head?_any_append hne]
  split at h
  · next hhead =>
    rw [if_pos hhead, if_pos hhead]
    rw [if_pos hhead] at hplain
    rcases hname : name? cs with _ | ⟨name, size, rest, escaped⟩
    · rw [hname] at h
      exact absurd h (Lexeme.not_ends_broken cs)
    · rw [hname] at h hplain
      cases hplain
      rw [name?_append hname h.followed]
      rfl
  · exact absurd h (Lexeme.not_ends_broken cs)

theorem word_kind (cs : List Char) : (word cs).kind = .invalid ∨ (word cs).kind.isNamed = true := by
  rw [word]
  split
  · exact Or.inl rfl
  · right
    dsimp only
    split <;> rfl

theorem privateName_kind (cs : List Char) :
    (privateName cs).kind = .invalid ∨ (privateName cs).kind.isNamed = true := by
  rw [privateName]
  split
  · split
    · exact Or.inl rfl
    · exact Or.inr rfl
  · exact Or.inl rfl

/-! ## Strings, templates and regular expressions -/

theorem stringBody?_append {q : Char} (hq : q ≠ '\\') {cs body rest : List Char}
    (h : stringBody? q cs = some (body, rest)) (more : List Char) :
    stringBody? q (cs ++ more) = some (body, rest ++ more) := by
  fun_induction stringBody? q cs generalizing body with
  | case1 => cases h
  | case2 text ih =>
    obtain ⟨⟨b, r⟩, hbody, heq⟩ := Option.map_eq_some_iff.mp h
    cases heq
    simp only [List.cons_append, stringBody?, ih hbody, Option.map_some]
  | case3 c text hline ih =>
    obtain ⟨⟨b, r⟩, hbody, heq⟩ := Option.map_eq_some_iff.mp h
    cases heq
    cases text with
    | nil => cases hbody
    | cons d text =>
      rw [List.cons_append, List.cons_append, stringBody?, ih hbody, Option.map_some]
      rintro _ hc ⟨⟩
      exact hline _ hc rfl
  | case4 text =>
    cases h
    rw [List.cons_append, stringBody?, if_pos rfl]
    · exact fun _ hc _ => hq hc
    · exact fun _ _ hc _ => hq hc
  | case5 => cases h
  | case6 c text hline hescape hc hend ih =>
    obtain ⟨⟨b, r⟩, hbody, heq⟩ := Option.map_eq_some_iff.mp h
    cases heq
    cases text with
    | nil => cases hbody
    | cons d text =>
      rw [List.cons_append, stringBody?, if_neg hc, if_neg hend, ih hbody, Option.map_some]
      · exact fun _ hc _ => hescape _ _ hc rfl
      · exact fun _ _ hc _ => hescape _ _ hc rfl

theorem templateBody?_append {cs body rest : List Char} {goesOn : Bool}
    (h : templateBody? cs = some (body, rest, goesOn)) (more : List Char) :
    templateBody? (cs ++ more) = some (body, rest ++ more, goesOn) := by
  fun_induction templateBody? cs generalizing body with
  | case1 => cases h
  | case2 | case3 =>
    cases h
    rfl
  | case4 c text ih =>
    obtain ⟨⟨b, r⟩, hbody, heq⟩ := Option.map_eq_some_iff.mp h
    cases heq
    simp only [List.cons_append, templateBody?, ih hbody, Option.map_some]
  | case5 c text hend hmore hescape ih =>
    obtain ⟨⟨b, r⟩, hbody, heq⟩ := Option.map_eq_some_iff.mp h
    cases heq
    cases text with
    | nil => cases hbody
    | cons d text =>
      rw [List.cons_append, templateBody?, ih hbody, Option.map_some]
      · exact hend
      · rintro _ hc ⟨⟩
        exact hmore _ hc rfl
      · exact fun _ _ hc _ => hescape _ _ hc rfl

theorem regexBody?_append {inClass : Bool} {cs body rest : List Char}
    (h : regexBody? inClass cs = some (body, rest)) (more : List Char) :
    regexBody? inClass (cs ++ more) = some (body, rest ++ more) := by
  fun_induction regexBody? inClass cs generalizing body with
  | case1 | case2 | case4 => cases h
  | case3 inClass c text hend ih =>
    obtain ⟨⟨b, r⟩, hbody, heq⟩ := Option.map_eq_some_iff.mp h
    cases heq
    rw [List.cons_append, List.cons_append, regexBody?, if_neg hend, ih hbody, Option.map_some]
  | case5 inClass c text hescape hend hslash =>
    cases h
    rw [List.cons_append, regexBody?, if_neg hend, if_pos hslash]
    rintro _ _ rfl
    exact absurd hslash.1 (by decide)
  | case6 inClass c text hescape hend hslash within =>
    rename_i ih
    obtain ⟨⟨b, r⟩, hbody, heq⟩ := Option.map_eq_some_iff.mp h
    cases heq
    cases text with
    | nil => cases hbody
    | cons d text =>
      have hmore := ih hbody
      rw [List.cons_append, regexBody?, if_neg hend, if_neg hslash]
      · dsimp only
        rw [hmore, Option.map_some]
      · exact fun _ _ hc _ => hescape _ _ hc rfl

theorem string_append {q : Char} (hq : q ≠ '\\') {cs : List Char}
    (h : (string q cs).kind ≠ .invalid) (more : List Char) :
    string q (cs ++ more) = (string q cs).append more := by
  rw [string] at h ⊢
  rw [string]
  rcases hbody : stringBody? q cs with _ | ⟨body, rest⟩
  · rw [hbody] at h
    exact absurd rfl h
  · rw [stringBody?_append hq hbody]
    dsimp only
    split
    · split <;> rfl
    · rfl

theorem templatePiece_append {whole head : Kind} {cs : List Char}
    (h : (templatePiece whole head cs).kind ≠ .invalid) (more : List Char) :
    templatePiece whole head (cs ++ more) = (templatePiece whole head cs).append more := by
  rw [templatePiece] at h ⊢
  rw [templatePiece]
  rcases hbody : templateBody? cs with _ | ⟨body, rest, goesOn⟩
  · rw [hbody] at h
    exact absurd rfl h
  · rw [templateBody?_append hbody]
    rfl

theorem regex_append {cs : List Char} (h : (regex cs).Ends) (more : List Char) :
    regex (cs ++ more) = (regex cs).append more := by
  rw [regex] at h ⊢
  rw [regex]
  rcases hbody : regexBody? false cs with _ | ⟨body, rest⟩
  · rw [hbody] at h
    exact absurd h (Lexeme.not_ends_broken cs)
  · rw [hbody] at h
    have hrest : rest.drop (rest.takeWhile Text.isNamePart).length ≠ [] := h.followed
    rw [regexBody?_append hbody]
    dsimp only
    rw [takeWhile_append_of_ne hrest, drop_takeWhile_append]
    rfl

/-! ## Punctuators -/

/-- No proper beginning of a punctuator ends in another one, two dots apart. -/
theorem spelledPunct_take : ∀ s ∈ Punct.spellings, ∀ n < s.1.length,
    (spelledPunct (s.1.take n)).kind = .invalid ∨ (spelledPunct (s.1.take n)).rest = [] ∨
      (spelledPunct (s.1.take n)).rest = ['.'] := by
  decide

theorem isPrefixOf_append_of_le {a b : List Char} (h : a.length ≤ b.length) (more : List Char) :
    a.isPrefixOf (b ++ more) = a.isPrefixOf b := by
  rw [Bool.eq_iff_iff, List.isPrefixOf_iff_prefix, List.isPrefixOf_iff_prefix]
  constructor
  · intro hpre
    exact List.prefix_of_prefix_length_le hpre (List.prefix_append b more) h
  · intro hpre
    exact hpre.trans (List.prefix_append b more)

theorem spelledPunct_append_of_prefix {cs : List Char} (h : (spelledPunct cs).kind ≠ .invalid)
    {more : List Char}
    (hbegin : ∀ s ∈ Punct.spellings, s.1.isPrefixOf (cs ++ more) = s.1.isPrefixOf cs) :
    spelledPunct (cs ++ more) = (spelledPunct cs).append more := by
  have hfind : Punct.spellings.find? (fun s => s.1.isPrefixOf (cs ++ more)) =
      Punct.spellings.find? (fun s => s.1.isPrefixOf cs) := by
    rw [← List.head?_filter, List.filter_congr hbegin, List.head?_filter]
  rw [spelledPunct] at h ⊢
  rw [spelledPunct, hfind]
  rcases hfound : Punct.spellings.find? (fun s => s.1.isPrefixOf cs) with _ | ⟨spelling, p⟩
  · rw [hfound] at h
    exact absurd rfl h
  · have hbegins := List.find?_some (p := fun s : List Char × Punct => s.1.isPrefixOf cs) hfound
    have hle := (List.isPrefixOf_iff_prefix.mp hbegins).length_le
    rw [hfound]
    exact congrArg (Lexeme.mk _ _ · [] false false) (List.drop_append_of_le_length hle)

theorem spelledPunct_append {cs : List Char} (h : (spelledPunct cs).Ends)
    (hdot : (spelledPunct cs).rest ≠ ['.']) (more : List Char) :
    spelledPunct (cs ++ more) = (spelledPunct cs).append more := by
  apply spelledPunct_append_of_prefix h.valid
  intro s hs
  by_cases hle : s.1.length ≤ cs.length
  · exact isPrefixOf_append_of_le hle more
  · have hnot : ¬s.1 <+: cs := fun hpre => hle hpre.length_le
    have hnotMore : ¬s.1 <+: cs ++ more := by
      intro hpre
      have hcs : cs = s.1.take cs.length := by
        have hshort : cs <+: s.1 :=
          List.prefix_of_prefix_length_le (List.prefix_append cs more) hpre (by omega)
        exact List.prefix_iff_eq_take.mp hshort
      have htake := spelledPunct_take s hs cs.length (by omega)
      rw [← hcs] at htake
      rcases htake with hinvalid | hnil | hdots
      · exact h.valid hinvalid
      · exact h.followed hnil
      · exact hdot hdots
    rw [Bool.eq_iff_iff, List.isPrefixOf_iff_prefix, List.isPrefixOf_iff_prefix]
    exact iff_of_false hnotMore hnot

theorem punct_of_not_number {cs : List Char}
    (h : ∀ c rest, cs = '?' :: '.' :: c :: rest → False) : punct cs = spelledPunct cs := by
  rw [punct]
  exact h

theorem punct_append {cs : List Char} (h : (punct cs).Ends) (hdot : (punct cs).rest ≠ ['.'])
    (more : List Char) : punct (cs ++ more) = (punct cs).append more := by
  by_cases hnumber : ∃ c rest, cs = '?' :: '.' :: c :: rest
  · obtain ⟨c, rest, rfl⟩ := hnumber
    rw [punct] at h hdot ⊢
    simp only [List.cons_append]
    rw [punct]
    split
    · rfl
    · next hdigit =>
      rw [if_neg hdigit] at h hdot
      exact spelledPunct_append h hdot more
  · simp only [not_exists] at hnumber
    rw [punct_of_not_number hnumber] at h hdot ⊢
    have hmore : ∀ c rest, cs ++ more = '?' :: '.' :: c :: rest → False := by
      intro c rest heq
      match cs, h, hdot with
      | [], h, _ => exact Lexeme.not_ends_broken [] h
      | [a], h, _ =>
        cases heq
        exact h.followed rfl
      | [a, b], h, _ =>
        cases heq
        exact h.followed rfl
      | a :: b :: d :: text, _, _ =>
        cases heq
        exact hnumber _ _ rfl
    rw [punct_of_not_number hmore]
    exact spelledPunct_append h hdot more

theorem spelling_of_closed : ∀ s ∈ Punct.spellings, Kind.isClosed s.2 = true →
    s = ([';'], .semicolon) ∨ s = (['\x7b'], .openBrace) ∨ s = (['\x7d'], .closeBrace) := by
  decide

theorem punct_append_of_isClosed {cs : List Char} (h : (punct cs).kind.isClosed = true)
    (more : List Char) : punct (cs ++ more) = (punct cs).append more := by
  have hspelled : (spelledPunct cs).kind.isClosed = true := by
    rw [punct.eq_def] at h
    split at h
    · split at h
      · cases h
      · exact h
    · exact h
  rw [spelledPunct] at hspelled
  rcases hfound : Punct.spellings.find? (fun s => s.1.isPrefixOf cs) with _ | ⟨spelling, p⟩
  · rw [hfound] at hspelled
    cases hspelled
  · rw [hfound] at hspelled
    have hbegins := List.find?_some (p := fun s : List Char × Punct => s.1.isPrefixOf cs) hfound
    obtain ⟨rest, rfl⟩ := List.isPrefixOf_iff_prefix.mp hbegins
    rcases spelling_of_closed _ (List.mem_of_find?_eq_some hfound) hspelled with heq | heq | heq
    · cases heq
      rfl
    · cases heq
      rfl
    · cases heq
      rfl

theorem punct_append_of_isSettled {cs : List Char} (h : (punct cs).isSettled = true)
    (more : List Char) : punct (cs ++ more) = (punct cs).append more := by
  by_cases hclosed : (punct cs).kind.isClosed = true
  · exact punct_append_of_isClosed hclosed more
  · rw [Bool.not_eq_true] at hclosed
    exact punct_append (Lexeme.ends_of_isSettled h hclosed)
      (Lexeme.rest_ne_point_of_isSettled h hclosed) more

/-! ## All tokens -/

theorem lexeme_cons {c : Char} (hc : c ∉ ['\'', '"', '`', '#', '.']) (rest : List Char) :
    lexeme (c :: rest) =
      if Text.isNameStart c ∨ c = '\\' then word (c :: rest)
      else if c.isDigit then number (c :: rest)
      else punct (c :: rest) := by
  simp only [List.mem_cons, List.not_mem_nil, or_false, not_or] at hc
  obtain ⟨hquote, hquotes, htick, hhash, hpoint⟩ := hc
  rw [lexeme]
  · exact hquote
  · exact hquotes
  · exact htick
  · exact hhash
  · exact fun _ _ h _ => hpoint h

theorem lexeme_append {cs : List Char} (h : (lexeme cs).isSettled = true) (more : List Char) :
    lexeme (cs ++ more) = (lexeme cs).append more := by
  cases cs with
  | nil => cases h
  | cons c rest =>
    by_cases hc : c ∈ ['\'', '"', '`', '#', '.']
    · simp only [List.mem_cons, List.not_mem_nil, or_false] at hc
      rcases hc with rfl | rfl | rfl | rfl | rfl
      · exact string_append (by decide) (Lexeme.valid_of_isSettled h) more
      · exact string_append (by decide) (Lexeme.valid_of_isSettled h) more
      · exact templatePiece_append (Lexeme.valid_of_isSettled h) more
      · have hnamed := (privateName_kind rest).resolve_left (Lexeme.valid_of_isSettled h)
        exact privateName_append
          (Lexeme.ends_of_isSettled h (Kind.isClosed_of_isNamed hnamed))
          (Lexeme.escaped_of_isSettled h hnamed) more
      · cases rest with
        | nil => exact absurd h (by decide)
        | cons d rest =>
          rw [lexeme] at h ⊢
          rw [List.cons_append, List.cons_append, lexeme]
          split
          · next hdigit =>
            rw [if_pos hdigit] at h
            exact fraction_append ((isNumeric_fraction ..).ends h) more
          · next hdigit =>
            rw [if_neg hdigit] at h
            exact punct_append_of_isSettled h more
    · rw [lexeme_cons hc] at h ⊢
      rw [List.cons_append, lexeme_cons hc]
      split
      · next hname =>
        rw [if_pos hname] at h
        have hnamed := (word_kind (c :: rest)).resolve_left (Lexeme.valid_of_isSettled h)
        exact word_append (Lexeme.ends_of_isSettled h (Kind.isClosed_of_isNamed hnamed))
          (Lexeme.escaped_of_isSettled h hnamed) more
      · next hname =>
        rw [if_neg hname] at h
        split
        · next hdigit =>
          rw [if_pos hdigit] at h
          exact number_append ((isNumeric_number _).ends h) more
        · next hdigit =>
          rw [if_neg hdigit] at h
          exact punct_append_of_isSettled h more

theorem lexemeInTag_append {cs : List Char} (h : (lexemeInTag cs).isSettled = true)
    (more : List Char) : lexemeInTag (cs ++ more) = (lexemeInTag cs).append more := by
  cases cs with
  | nil => cases h
  | cons q rest =>
    rw [List.cons_append]
    rw [lexemeInTag] at h ⊢
    rw [lexemeInTag]
    split
    · next hquote =>
      rw [if_pos hquote] at h
      dsimp only at h ⊢
      split at h
      · cases h
      · next hafter =>
        rw [List.isEmpty_iff] at hafter
        have hmore : ¬(rest.drop (rest.takeWhile (· != q)).length ++ more).isEmpty = true := by
          rw [List.isEmpty_iff]
          exact List.append_ne_nil_of_left_ne_nil hafter more
        rw [takeWhile_append_of_ne hafter, drop_takeWhile_append, if_neg hmore,
          List.drop_append_of_le_length (List.length_pos_iff.mpr hafter)]
        rw [if_neg (by rwa [List.isEmpty_iff])]
        rfl
    · next hquote =>
      rw [if_neg hquote] at h
      exact lexeme_append h more

theorem lexemeOfChild_append {cs : List Char} (h : (lexemeOfChild cs).isSettled = true)
    (more : List Char) : lexemeOfChild (cs ++ more) = (lexemeOfChild cs).append more := by
  cases cs with
  | nil => cases h
  | cons c rest =>
    rw [List.cons_append]
    rw [lexemeOfChild] at h ⊢
    rw [lexemeOfChild]
    split
    · rfl
    · next hbrace =>
      rw [if_neg hbrace] at h
      split
      · rfl
      · next htag =>
        rw [if_neg htag] at h
        have hrest := (Lexeme.ends_of_isSettled h rfl).followed
        dsimp only
        rw [← List.cons_append, takeWhile_append_of_ne hrest, drop_takeWhile_append]
        rfl

theorem hashbang_append {cs : List Char} (h : (hashbang cs).isSettled = true)
    (more : List Char) : hashbang (cs ++ more) = (hashbang cs).append more := by
  have hrest : cs.drop (cs.takeWhile (!isLineEnd ·)).length ≠ [] :=
    (Lexeme.ends_of_isSettled h rfl).followed
  rw [hashbang, hashbang, takeWhile_append_of_ne hrest, drop_takeWhile_append]
  rfl

end IconInline.Script.Lexer
