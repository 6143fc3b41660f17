import IconInline.Proofs.LiteralGrammar
import IconInline.Proofs.MissingIcons
import IconInline.Proofs.NestedCalls
import IconInline.Proofs.RunCalls

/-!
# A second pass over a text

Literals that do not hold the name bring no call into a text, since they begin and end with a quote,
which no name holds. So a second pass examines just the calls that the first one left, and it leaves
them again. For the balanced scan this takes that every call site of the first text is closed; in
the unbroken scan blanks of a literal may cut a run, but no call is left on either side of it.
-/

namespace IconInline.Proofs
open Text Source CallSite

/-- No literal of an icon that the look-up knows holds the name. -/
def Avoids (name : List Char) (resolve : String → Option IconCode) : Prop :=
  ∀ identifier icon, resolve identifier = some icon → ¬name <:+: icon.literal.toList

/-- Every call site of a text is closed. -/
def AllClosed (name text : List Char) : Prop :=
  ∀ start, IsCallSite name text start → ∃ close, ClosedAt name text start close

/-- The outcome of a pass that finds the same icons missing and nothing to replace. -/
def settled (out : Replacement) : Replacement :=
  ⟨out.text, [], (missingIcons out.findings).map .unknownIcon⟩

section Outcomes

variable {resolve : String → Option IconCode} {segments rest : List Segment}
  {source part : List Char} {identifier : String} {icon : IconCode}

@[simp] lemma settled_keep (source : List Char) (out : Replacement) :
    settled (out.keep source) = (settled out).keep source := rfl

@[simp] lemma settled_examined_none (source : List Char) (identifier : String) (out : Replacement) :
    settled (out.examined source identifier none) =
      (settled out).examined source identifier none := rfl

@[simp] lemma settled_examined_some (source : List Char) (identifier : String) (icon : IconCode)
    (out : Replacement) :
    settled (out.examined source identifier (some icon)) =
      (settled out).keep icon.literal.toList := rfl

lemma settled_followedBy (a b : Replacement) :
    settled (followedBy a b) = followedBy (settled a) (settled b) := by
  simp [settled, followedBy, missingIcons]

@[simp] lemma outcomeOf_singles_append (cs : List Char) (rest : List Segment) :
    outcomeOf resolve (singles cs ++ rest) = (outcomeOf resolve rest).keep cs := by
  induction cs with
  | nil => rfl
  | cons c cs ih =>
    rw [singles_cons, List.cons_append, outcomeOf_plain, ih]
    rfl

@[simp] lemma outcomeOf_singles (cs : List Char) :
    outcomeOf resolve (singles cs) = ({} : Replacement).keep cs := by
  have happend : outcomeOf resolve (singles cs ++ []) = _ := outcomeOf_singles_append cs []
  rwa [List.append_nil, outcomeOf_nil] at happend

/-- What a joined text begins with ends in its first part or goes on into the second. -/
lemma prefix_append_cases {as bs : List Char} (h : part <+: as ++ bs) :
    part <+: as ∨ ∃ more, part = as ++ more ∧ more <+: bs := by
  rcases List.prefix_or_prefix_of_prefix h (List.prefix_append as bs) with hshort | ⟨more, rfl⟩
  · exact Or.inl hshort
  · exact Or.inr ⟨more, rfl, (List.prefix_append_right_inj as).mp h⟩

lemma prefix_append_of_prefix {as bs : List Char} (h : part <+: source ++ as)
    (hrest : ∀ more, part = source ++ more → more <+: as → more <+: bs) :
    part <+: source ++ bs := by
  rcases prefix_append_cases h with hshort | ⟨more, rfl, hmore⟩
  · exact hshort.trans (List.prefix_append source bs)
  · rw [List.prefix_append_right_inj]
    exact hrest more rfl hmore

/-- What the new text begins with was there before, up to the first literal. -/
lemma prefix_joined_of_prefix (hquote : '\'' ∉ part)
    (h : part <+: (outcomeOf resolve segments).text) : part <+: joined segments := by
  induction segments generalizing part with
  | nil => exact h
  | cons segment segments ih =>
    rw [joined_cons]
    cases segment with
    | plain source =>
      apply prefix_append_of_prefix h
      intro more hmore hprefix
      exact ih (fun hmem => hquote (by simp [hmore, hmem])) hprefix
    | call source argument =>
      rw [outcomeOf_call] at h
      cases hknown : known resolve (String.ofList (namedIcon argument)) with
      | none =>
        rw [hknown] at h
        apply prefix_append_of_prefix h
        intro more hmore hprefix
        exact ih (fun hmem => hquote (by simp [hmore, hmem])) hprefix
      | some icon =>
        rw [hknown, Replacement.examined, toList_literal] at h
        cases part with
        | nil => exact List.nil_prefix
        | cons c part =>
          obtain ⟨rfl, -⟩ := List.cons_prefix_cons.mp h
          simp at hquote

end Outcomes

section Literals

variable {name as bs : List Char} {resolve : String → Option IconCode} {icon : IconCode}

lemma quote_not_mem_of_continues (h : ∀ c ∈ name, continuesName c = true) : '\'' ∉ name := by
  intro hmem
  exact absurd (h _ hmem) (by decide +kernel)

/-- A name does not begin in a literal that does not hold it. -/
lemma not_prefix_of_literal (hquote : '\'' ∉ name) (havoids : ¬name <:+: icon.literal.toList)
    {cs more : List Char} (hsplit : icon.literal.toList = cs ++ more) (hmore : more ≠ []) :
    ¬name <+: more ++ bs := by
  intro hprefix
  rcases prefix_append_cases hprefix with hwithin | ⟨rest, rfl, -⟩
  · exact havoids (hwithin.isInfix.trans ⟨cs, [], by simp [hsplit]⟩)
  · have hlast := getLast?_literal icon
    rw [hsplit, List.getLast?_append, Option.or_of_isSome (List.getLast?_isSome.mpr hmore)] at hlast
    exact hquote (List.mem_append_left rest (List.mem_of_getLast? hlast))

/-- What holds no quote does not reach into a literal. -/
lemma prefix_of_prefix_literal {part : List Char} (hquote : '\'' ∉ part)
    (h : part <+: as ++ (icon.literal.toList ++ bs)) : part <+: as := by
  rcases prefix_append_cases h with hshort | ⟨more, rfl, hmore⟩
  · exact hshort
  · rw [toList_literal] at hmore
    cases more with
    | nil => simp
    | cons c more =>
      obtain ⟨rfl, -⟩ := List.cons_prefix_cons.mp hmore
      simp at hquote

end Literals

/-! ## The balanced scan -/

section Balanced

variable {callee : Callee} {resolve : String → Option IconCode} {previous other : Option Char}
  {as bs cs after : List Char} {c : Char} {n : Nat}

lemma balancedFrom_cons (h : ¬callee.name <+: c :: as) :
    callee.balancedFrom previous (c :: as) = .plain [c] :: callee.balancedFrom (some c) as := by
  rw [Callee.balancedFrom, if_neg (by rwa [List.isPrefixOf_iff_prefix])]

lemma balancedFrom_skip (previous : Option Char)
    (hnone : ∀ cs more, as = cs ++ more → more ≠ [] → ¬callee.name <+: more ++ bs) :
    callee.balancedFrom previous (as ++ bs) =
      singles as ++ callee.balancedFrom (as.getLast?.or previous) bs := by
  induction as generalizing previous with
  | nil => rfl
  | cons c as ih =>
    have hfirst : ¬callee.name <+: c :: (as ++ bs) := hnone [] (c :: as) rfl (List.cons_ne_nil c as)
    have hlater := ih (some c) fun cs more hsplit =>
      hnone (c :: cs) more (by rw [hsplit, List.cons_append])
    have hlast : (c :: as).getLast?.or previous = as.getLast?.or (some c) := by
      rw [List.getLast?_cons]
      cases as.getLast? <;> rfl
    rw [List.cons_append, balancedFrom_cons hfirst, hlater, hlast]
    rfl

lemma balancedFrom_name_of_none (h : closingAfter? previous after = none) :
    callee.balancedFrom previous (callee.name ++ after) =
      .plain callee.name :: callee.balancedFrom callee.name.getLast? after := by
  obtain ⟨c, rest, hname⟩ := List.exists_cons_of_ne_nil callee.name_ne
  have hprefix : callee.name.isPrefixOf (c :: (rest ++ after)) = true := by simp [hname]
  have hafter : (c :: (rest ++ after)).drop callee.name.length = after := by simp [hname]
  have htext : callee.name ++ after = c :: (rest ++ after) := by rw [hname, List.cons_append]
  rw [htext, Callee.balancedFrom, if_pos hprefix, hafter]
  dsimp only
  rw [h]

/-- Every call site of the rest of a text is closed, behind some character. -/
def ClosedFrom (name : List Char) (previous : Option Char) (cs : List Char) : Prop :=
  ∀ skipped after, cs = skipped ++ name ++ '(' :: after →
    atBoundary (skipped.getLast?.or previous) = true →
    ∃ n, closingAfter? (skipped.getLast?.or previous) ('(' :: after) = some n

lemma AllClosed.closedFrom {name text : List Char} (h : AllClosed name text) :
    ClosedFrom name none text := by
  rintro skipped after rfl hfree
  rw [Option.or_none] at hfree ⊢
  obtain ⟨close, hclose⟩ := h (byteSize skipped) (isCallSite_iff.mpr ⟨hfree, rfl⟩)
  obtain ⟨n, hn, -⟩ := closedAt_iff.mp hclose
  exact ⟨n, hn⟩

lemma ClosedFrom.rest {name front : List Char} (hfront : front ≠ [])
    (h : ClosedFrom name previous (front ++ cs)) : ClosedFrom name front.getLast? cs := by
  intro skipped after hsplit
  have hlast : (front ++ skipped).getLast?.or previous = skipped.getLast?.or front.getLast? := by
    rw [List.getLast?_append, Option.or_assoc,
      Option.or_of_isSome (List.getLast?_isSome.mpr hfront)]
  have hwhole := h (front ++ skipped) after (by rw [hsplit]; simp)
  rwa [hlast] at hwhole

/-- Behind the name of a call site that is none, there is still no parenthesis after the pass. -/
lemma closingAfter?_text (resolve : String → Option IconCode) {segments : List Segment}
    (hclosed : ClosedFrom callee.name previous (callee.name ++ after))
    (hnone : closingAfter? previous after = none)
    (hsame : atBoundary previous = atBoundary other) (hjoined : joined segments = after) :
    closingAfter? other (outcomeOf resolve segments).text = none := by
  rw [closingAfter?, if_neg]
  rintro ⟨hfree, hopen⟩
  obtain ⟨rest, hrest⟩ := List.head?_eq_some_iff.mp hopen
  have hprefix : ['('] <+: joined segments :=
    prefix_joined_of_prefix (by decide) ⟨rest, hrest.symm⟩
  rw [hjoined] at hprefix
  obtain ⟨more, rfl⟩ := hprefix
  rw [← hsame] at hfree
  obtain ⟨n, hn⟩ := hclosed [] more rfl hfree
  change closingAfter? previous ('(' :: more) = none at hnone
  rw [List.getLast?_nil, Option.none_or, hnone] at hn
  cases hn

lemma length_take_of_closingAfter? (h : closingAfter? previous after = some n) :
    (after.take (n + 1)).length = n + 1 := by
  have hsplit := congrArg List.length (eq_of_closingAfter? h).2
  simp only [List.length_append, List.length_take, List.length_cons, List.length_drop] at hsplit ⊢
  omega

/-- A call that is left is found again, whatever follows it. -/
lemma balancedFrom_call_again (h : closingAfter? previous after = some n)
    (hsame : atBoundary previous = atBoundary other) (text : List Char) :
    callee.balancedFrom other (callee.name ++ after.take (n + 1) ++ text) =
      .call (callee.name ++ after.take (n + 1)) ((after.take n).drop 1)
        :: callee.balancedFrom (some ')') text := by
  have hlength := length_take_of_closingAfter? h
  have htake : (after.take (n + 1) ++ text).take (n + 1) = after.take (n + 1) :=
    List.take_left' hlength
  have hdrop : (after.take (n + 1) ++ text).drop (n + 1) = text := List.drop_left' hlength
  have hagain : closingAfter? other (after.take (n + 1) ++ text) = some n := by
    rw [← closingAfter?_congr hsame]
    exact closingAfter?_take h text
  rw [List.append_assoc, balancedFrom_name callee hagain, htake, hdrop,
    take_append_of_closingAfter? h]

lemma ClosedFrom.behind_call (h : ClosedFrom callee.name previous (callee.name ++ after))
    (hn : closingAfter? previous after = some n) :
    ClosedFrom callee.name (some ')') (after.drop (n + 1)) := by
  have hlast : (callee.name ++ after.take (n + 1)).getLast? = some ')' := by
    simp [take_succ_of_closingAfter? hn]
  have hwhole : ClosedFrom callee.name previous
      (callee.name ++ after.take (n + 1) ++ after.drop (n + 1)) := by
    rwa [List.append_assoc, List.take_append_drop]
  rw [← hlast]
  exact hwhole.rest (by simp [callee.name_ne])

/-- The pass brings no name into being that begins with a character that it keeps. -/
lemma not_prefix_cons_text (hquote : '\'' ∉ callee.name) (h : ¬callee.name <+: c :: cs) :
    ¬callee.name <+: c :: (outcomeOf resolve (callee.balancedFrom previous cs)).text := by
  intro hnew
  apply h
  have hsplit : callee.name <+: [c] ++ _ := hnew
  apply prefix_append_of_prefix hsplit
  intro more hmore hmoreNew
  have hold := prefix_joined_of_prefix (fun hmem => hquote (by simp [hmore, hmem])) hmoreNew
  rwa [joined_balancedFrom] at hold

/-- The character in front of the scan may differ, as long as a name may begin behind both. -/
lemma balanced_second_pass (hname : ∀ c ∈ callee.name, continuesName c = true)
    (havoids : Avoids callee.name resolve) (previous : Option Char) (cs : List Char) :
    ∀ other, ClosedFrom callee.name previous cs → atBoundary previous = atBoundary other →
      outcomeOf resolve
          (callee.balancedFrom other (outcomeOf resolve (callee.balancedFrom previous cs)).text) =
        settled (outcomeOf resolve (callee.balancedFrom previous cs)) := by
  fun_induction Callee.balancedFrom callee previous cs with
  | case1 previous =>
    intro _ _ _
    rw [outcomeOf_nil, Callee.balancedFrom]
    rfl
  | case2 previous c rest hprefix after n hn ih =>
    intro other hclosed hsame
    have hcs : c :: rest = callee.name ++ after := eq_append_drop_of_isPrefixOf hprefix
    rw [hcs] at hclosed
    have hrest := hclosed.behind_call hn
    rw [outcomeOf_call]
    cases hknown : known resolve (String.ofList (namedIcon ((after.take n).drop 1))) with
    | none =>
      have hlater := ih (some ')') hrest rfl
      rw [settled_examined_none, ← hlater, Replacement.examined]
      dsimp only
      rw [balancedFrom_call_again hn hsame, outcomeOf_call, hknown]
    | some icon =>
      -- The scan now stands behind a quote instead of a parenthesis; a name may follow either.
      have hquote := quote_not_mem_of_continues hname
      have hlater := ih (some '\'') hrest (by decide +kernel)
      have hlast' : icon.literal.toList.getLast?.or other = some '\'' := by
        rw [getLast?_literal, Option.some_or]
      rw [settled_examined_some, ← hlater, Replacement.examined]
      dsimp only
      rw [balancedFrom_skip other fun cs more hsplit hmore => not_prefix_of_literal hquote
        (havoids _ icon (resolve_of_known hknown)) hsplit hmore, hlast', outcomeOf_singles_append]
  | case3 previous c rest hprefix after hn ih =>
    -- A literal must not bring the parenthesis that was missing behind the name.
    intro other hclosed hsame
    have hcs : c :: rest = callee.name ++ after := eq_append_drop_of_isPrefixOf hprefix
    rw [hcs] at hclosed
    have hlater := ih _ (hclosed.rest callee.name_ne) rfl
    have hnone := closingAfter?_text resolve hclosed hn hsame
      (joined_balancedFrom callee callee.name.getLast? after)
    rw [outcomeOf_plain, settled_keep, ← hlater, Replacement.keep]
    dsimp only
    rw [balancedFrom_name_of_none hnone, outcomeOf_plain]
  | case4 previous c rest hprefix ih =>
    intro other hclosed hsame
    have hlater := ih _ (ClosedFrom.rest (List.cons_ne_nil c []) hclosed) rfl
    rw [List.isPrefixOf_iff_prefix] at hprefix
    have hnone :
        ¬callee.name <+: c :: (outcomeOf resolve (callee.balancedFrom (some c) rest)).text :=
      not_prefix_cons_text (quote_not_mem_of_continues hname) hprefix
    rw [outcomeOf_plain, settled_keep, ← hlater, Replacement.keep]
    dsimp only
    rw [List.singleton_append, balancedFrom_cons hnone, outcomeOf_plain]

end Balanced

/-! ## The unbroken scan -/

section Unbroken

variable {callee : Callee} {resolve : String → Option IconCode} {run rest cs : List Char}

/-- In front of a blank there is still one after the pass, or the end. -/
lemma isBlank_of_head?_text (hhead : ∀ c ∈ callee.name ++ ['('], isBlank c = false)
    (hends : ∀ c, rest.head? = some c → isBlank c = true) :
    ∀ c, (outcomeOf resolve (callee.runsFrom rest)).text.head? = some c → isBlank c = true := by
  intro c hc
  cases rest with
  | nil =>
    rw [Callee.runsFrom] at hc
    cases hc
  | cons d rest =>
    have hblank := hends d rfl
    rw [runsFrom_blank hhead hblank, outcomeOf_plain] at hc
    cases hc
    exact hblank

/-- The scan of a run whose call became a literal: no call is left in front of the literal, in it,
or behind it. -/
lemma runsFrom_replaced {front argument back text : List Char} {icon : IconCode}
    (hhead : ∀ c ∈ callee.name ++ ['('], isBlank c = false) (hquote : '\'' ∉ callee.name)
    (havoids : ¬callee.name <:+: icon.literal.toList)
    (h : Delimits callee.name run front argument back)
    (hends : ∀ c, text.head? = some c → isBlank c = true) :
    callee.runsFrom (front ++ icon.literal.toList ++ back ++ text) =
      singles (front ++ icon.literal.toList ++ back) ++ callee.runsFrom text := by
  have hback : callee.runsFrom (back ++ text) = singles back ++ callee.runsFrom text := by
    rw [runsFrom_append hhead hends, runsFrom_of_no_round h.last]
  have hliteral : callee.runsFrom (icon.literal.toList ++ (back ++ text)) =
      singles icon.literal.toList ++ callee.runsFrom (back ++ text) := by
    apply runsFrom_skip
    intro cs more hsplit hmore after hafter
    have hprefix : callee.name <+: more ++ (back ++ text) := ⟨'(' :: after, hafter.symm⟩
    exact absurd hprefix (not_prefix_of_literal hquote havoids hsplit hmore)
  have hfront : callee.runsFrom (front ++ (icon.literal.toList ++ (back ++ text))) =
      singles front ++ callee.runsFrom (icon.literal.toList ++ (back ++ text)) := by
    apply runsFrom_skip
    intro cs more hsplit hmore after hafter
    have hprefix : callee.name ++ ['('] <+: more ++ (icon.literal.toList ++ (back ++ text)) :=
      ⟨after, by simp [hafter]⟩
    obtain ⟨between, hbetween⟩ := prefix_of_prefix_literal (by simpa using hquote) hprefix
    -- A call here would begin in front of the first occurrence.
    have hrun := h.run_eq
    rw [hsplit, ← hbetween] at hrun
    have hfirst := h.first cs _ (by rw [hrun]; simp only [List.append_assoc]; rfl)
    have hpos := List.length_pos_iff.mpr hmore
    rw [hsplit, List.length_append] at hfirst
    omega
  simp only [List.append_assoc, hfront, hliteral, hback, singles, List.map_append]

/-- The second pass over a run, in front of a text that begins with a blank. -/
lemma run_second_pass {text : List Char} (hhead : ∀ c ∈ callee.name ++ ['('], isBlank c = false)
    (hquote : '\'' ∉ callee.name) (havoids : Avoids callee.name resolve)
    (hunbroken : ∀ c ∈ run, isBlank c = false)
    (hends : ∀ c, text.head? = some c → isBlank c = true) :
    outcomeOf resolve (callee.runsFrom ((outcomeOf resolve (callee.runsFrom run)).text ++ text)) =
      followedBy (settled (outcomeOf resolve (callee.runsFrom run)))
        (outcomeOf resolve (callee.runsFrom text)) := by
  by_cases hdelimits : ∃ front argument back, Delimits callee.name run front argument back
  · obtain ⟨front, argument, back, h⟩ := hdelimits
    rw [runsFrom_of_delimits hunbroken h, outcomeOf_singles_append, outcomeOf_call,
      outcomeOf_singles]
    cases hknown : known resolve (String.ofList (namedIcon argument)) with
    | none =>
      have htext : ((({} : Replacement).keep back).examined
          (callee.name ++ '(' :: (argument ++ [')'])) (String.ofList (namedIcon argument)) none
          |>.keep front).text = run := by
        rw [h.run_eq]
        simp [Replacement.keep, Replacement.examined]
      rw [htext, runsFrom_append hhead hends, runsFrom_of_delimits hunbroken h, outcomeOf_append,
        outcomeOf_singles_append, outcomeOf_call, outcomeOf_singles, hknown]
      rfl
    | some icon =>
      have htext : ((({} : Replacement).keep back).examined
          (callee.name ++ '(' :: (argument ++ [')'])) (String.ofList (namedIcon argument))
          (some icon) |>.keep front).text = front ++ icon.literal.toList ++ back := by
        simp [Replacement.keep, Replacement.examined]
      rw [htext, runsFrom_replaced hhead hquote (havoids _ icon (resolve_of_known hknown)) h hends,
        outcomeOf_singles_append, settled_keep, settled_examined_some, settled_keep]
      simp [followedBy, Replacement.keep, settled, missingIcons]
  · push Not at hdelimits
    have htext : (outcomeOf resolve (callee.runsFrom run)).text = run := by
      rw [runsFrom_of_not_delimits hunbroken hdelimits, outcomeOf_singles]
      simp [Replacement.keep]
    rw [htext, runsFrom_append hhead hends, outcomeOf_append,
      runsFrom_of_not_delimits hunbroken hdelimits, outcomeOf_singles, settled_keep]
    rfl

lemma unbroken_second_pass (hhead : ∀ c ∈ callee.name ++ ['('], isBlank c = false)
    (hquote : '\'' ∉ callee.name) (havoids : Avoids callee.name resolve) :
    outcomeOf resolve (callee.runsFrom (outcomeOf resolve (callee.runsFrom cs)).text) =
      settled (outcomeOf resolve (callee.runsFrom cs)) := by
  induction cs using runs_induction with
  | nil =>
    rw [Callee.runsFrom, outcomeOf_nil, Callee.runsFrom]
    rfl
  | blank c rest hblank ih =>
    rw [runsFrom_blank hhead hblank, outcomeOf_plain, settled_keep, ← ih, Replacement.keep]
    dsimp only
    rw [List.singleton_append, runsFrom_blank hhead hblank, outcomeOf_plain]
  | run run rest hne hunbroken hends ih =>
    rw [runsFrom_append hhead hends, outcomeOf_append, settled_followedBy, ← ih]
    exact run_second_pass hhead hquote havoids hunbroken (isBlank_of_head?_text hhead hends)

end Unbroken

/-- A second pass over the outcome of a first one, in either scan, under any name of an extractor and
any look-up whose literals do not hold the name: the text stays, nothing is replaced, and the icons
that the first pass found missing are missing again, in their order. In the balanced scan every call
site of the first text has to be closed. -/
theorem replace_settled (name : String) (hname : isExtractorName name = true) (scan : ArgumentExtent)
    (resolve : String → Option IconCode) (havoids : Avoids name.toList resolve) (text : String)
    (hclosed : scan = .balanced → AllClosed name.toList text.toList) :
    ∃ callee, Callee.ofName name scan = .ok callee ∧
      let out := callee.replace text resolve
      callee.replace (String.ofList out.text) resolve =
        ⟨out.text, [], (missingIcons out.findings).map .unknownIcon⟩ := by
  have hne := toList_ne_nil_of_isExtractorName hname
  have hcontinues := continuesName_of_isExtractorName hname
  refine ⟨⟨name.toList, scan, hne⟩, dif_pos hne, ?_⟩
  dsimp only
  cases scan with
  | balanced =>
    let callee : Callee := ⟨name.toList, .balanced, hne⟩
    have hagain : outcomeOf resolve (callee.balancedFrom none
        (outcomeOf resolve (callee.balancedFrom none text.toList)).text) = _ :=
      balanced_second_pass hcontinues havoids none text.toList none (hclosed rfl).closedFrom rfl
    change outcomeOf resolve (callee.balancedFrom none (String.ofList _).toList) = _
    rw [String.toList_ofList]
    exact hagain
  | unbroken =>
    let callee : Callee := ⟨name.toList, .unbroken, hne⟩
    have hhead : ∀ c ∈ callee.name ++ ['('], isBlank c = false := isBlank_eq_false_of_mem_head hname
    have hagain : outcomeOf resolve (callee.runsFrom
        (outcomeOf resolve (callee.runsFrom text.toList)).text) = _ :=
      unbroken_second_pass hhead (quote_not_mem_of_continues hcontinues) havoids
    change outcomeOf resolve (callee.runsFrom (String.ofList _).toList) = _
    rw [String.toList_ofList]
    exact hagain

/-- It suffices to look at the places of a text where the name stands before a parenthesis. -/
lemma allClosed_of_places {name text : List Char}
    (h : ∀ i ≤ text.length, (name ++ ['(']).isPrefixOf (text.drop i) = true →
      atBoundary (text.take i).getLast? = true →
        (closingAfter? (text.take i).getLast? (text.drop (i + name.length))).isSome = true) :
    AllClosed name text := by
  rintro start ⟨before, after, rfl, rfl, hfree⟩
  have htake : (before ++ name ++ '(' :: after).take before.length = before := by
    rw [List.append_assoc, List.take_left]
  have hbehind : (before ++ name ++ '(' :: after).drop (before.length + name.length) =
      '(' :: after := by
    rw [← List.length_append, List.drop_left]
  have hplace := h before.length (by simp) (by simp)
  rw [htake, hbehind] at hplace
  obtain ⟨n, hn⟩ := Option.isSome_iff_exists.mp (hplace (atBoundary_iff.mpr hfree))
  exact ⟨_, closedAt_iff.mpr ⟨n, hn, rfl⟩⟩

lemma avoids_onlyAt : Avoids "icon".toList onlyAt := by
  intro identifier icon h
  rw [onlyAt] at h
  split at h
  · cases h
    decide +kernel
  · cases h

/-- A known icon, a call inside the call of an unknown one, and calls that are no call sites. -/
theorem replace_settled_nested :
    let text := "icon(faAt)+icon(icon(faAt).gone) _icon(faAt icon 'icon(é)'"
    isExtractorName "icon" = true ∧ Avoids "icon".toList onlyAt ∧
      (ArgumentExtent.balanced = .balanced → AllClosed "icon".toList text.toList) ∧
      ∃ callee, Callee.ofName "icon" .balanced = .ok callee ∧
        let out := callee.replace text onlyAt
        callee.replace (String.ofList out.text) onlyAt =
          ⟨out.text, [], (missingIcons out.findings).map .unknownIcon⟩ := by
  intro text
  have hclosed : AllClosed "icon".toList text.toList := allClosed_of_places (by decide +kernel)
  exact ⟨by decide, avoids_onlyAt, fun _ => hclosed,
    replace_settled "icon" (by decide) .balanced onlyAt avoids_onlyAt text fun _ => hclosed⟩

end IconInline.Proofs
