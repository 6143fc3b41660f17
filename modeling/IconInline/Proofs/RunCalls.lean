import IconInline.Proofs.UnbrokenRuns

/-!
# Replacing one call in each run

In the unbroken scan the calls that are looked up are those which the maximal runs of the given text
delimit, at most one in each run, wherever the name stands in it. Each identifier is asked for once
and in order, and the literals of the icons that were found take the places of their calls.
-/

namespace IconInline.Proofs
open Text Source CallSite

/-- A run of the text delimits the call. -/
def IsRunCall (name text : List Char) (call : Call) : Prop :=
  ∃ before run after front argument back, IsRun text before run after ∧
    Delimits name run front argument back ∧
    call = ⟨byteSize (before ++ front), byteSize (before ++ front ++ name ++ '(' :: argument),
      argument⟩

/-- The call begins in a run that stands behind a part of the text. -/
def BeginsIn (before run : List Char) (call : Call) : Prop :=
  byteSize before ≤ call.start ∧ call.start < byteSize (before ++ run)

section Segments

variable {segments more : List Segment} {start : Nat} {call : Call}

@[simp] lemma joined_append (segments more : List Segment) :
    joined (segments ++ more) = joined segments ++ joined more :=
  List.flatMap_append

@[simp] lemma callsIn_singles (start : Nat) (cs : List Char) : callsIn start (singles cs) = [] := by
  induction cs generalizing start with
  | nil => rfl
  | cons c cs ih => exact ih _

@[simp] lemma joined_singles (cs : List Char) : joined (singles cs) = cs := by
  induction cs with
  | nil => rfl
  | cons c cs ih => rw [singles_cons, joined_cons, ih, Segment.source, List.singleton_append]

lemma callsIn_append (start : Nat) (segments more : List Segment) :
    callsIn start (segments ++ more) =
      callsIn start segments ++ callsIn (start + byteSize (joined segments)) more := by
  induction segments generalizing start with
  | nil => rfl
  | cons segment segments ih =>
    rw [List.cons_append, joined_cons, byteSize_append, ← Nat.add_assoc]
    cases segment with
    | plain source =>
      rw [callsIn, callsIn, ih]
      rfl
    | call source argument =>
      rw [callsIn, callsIn, ih]
      rfl

lemma CallsNonempty.bounds (hcalls : CallsNonempty segments)
    (hcall : call ∈ callsIn start segments) :
    start ≤ call.start ∧ call.start ≤ call.close ∧
      call.close < start + byteSize (joined segments) := by
  induction segments generalizing start with
  | nil => cases hcall
  | cons segment segments ih =>
    have hrest : CallsNonempty segments := fun source argument hmem =>
      hcalls source argument (List.mem_cons_of_mem _ hmem)
    rw [joined_cons, byteSize_append]
    cases segment with
    | plain source =>
      have hlater := ih hrest hcall
      simp only [Segment.source]
      omega
    | call source argument =>
      have hpos : 0 < byteSize source := Nat.pos_of_ne_zero fun hzero =>
        hcalls source argument List.mem_cons_self (byteSize_eq_zero_iff.mp hzero)
      simp only [Segment.source]
      rcases List.mem_cons.mp hcall with rfl | hmem
      · dsimp only
        omega
      · have hlater := ih hrest hmem
        omega

/-- The calls among segments come one behind the other. -/
lemma CallsNonempty.pairwise (hcalls : CallsNonempty segments) (start : Nat) :
    (callsIn start segments).Pairwise fun a b => a.close < b.start := by
  induction segments generalizing start with
  | nil => exact List.Pairwise.nil
  | cons segment segments ih =>
    have hrest : CallsNonempty segments := fun source argument hmem =>
      hcalls source argument (List.mem_cons_of_mem _ hmem)
    cases segment with
    | plain source => exact ih hrest _
    | call source argument =>
      have hpos : 0 < byteSize source := Nat.pos_of_ne_zero fun hzero =>
        hcalls source argument List.mem_cons_self (byteSize_eq_zero_iff.mp hzero)
      refine List.Pairwise.cons ?_ (ih hrest _)
      intro call hcall
      have hlater := hrest.bounds hcall
      dsimp only
      omega

end Segments

section Runs

variable {callee : Callee} {text before run after front argument back : List Char} {call : Call}

@[simp] lemma joined_runsFrom (callee : Callee) (cs : List Char) :
    joined (callee.runsFrom cs) = cs := by
  fun_induction Callee.runsFrom callee cs with
  | case1 => rfl
  | case2 c rest head hprefix after n hn ih =>
    rw [joined_cons, ih, Segment.source, List.append_assoc, List.take_append_drop]
    exact (eq_append_drop_of_isPrefixOf hprefix).symm
  | case3 c rest head hprefix after hn ih =>
    rw [joined_cons, ih, Segment.source, List.singleton_append]
  | case4 c rest head hprefix ih =>
    rw [joined_cons, ih, Segment.source, List.singleton_append]

/-- A call is read off the text behind an occurrence of the name and its parenthesis. -/
lemma exists_argument_of_mem_runsFrom {source argument : List Char} (callee : Callee)
    (cs : List Char) (h : .call source argument ∈ callee.runsFrom cs) :
    ∃ after n, Callee.runArgument? after = some n ∧ argument = after.take n ∧
      source = callee.name ++ ['('] ++ after.take (n + 1) := by
  revert h
  fun_induction Callee.runsFrom callee cs with
  | case1 => exact fun hmem => absurd hmem List.not_mem_nil
  | case2 c rest head hprefix after n hn ih =>
    rw [List.mem_cons]
    rintro (hcall | hmem)
    · rw [Segment.call.injEq] at hcall
      exact ⟨after, n, hn, hcall.2, hcall.1⟩
    · exact ih hmem
  | case3 c rest head hprefix after hn ih =>
    rw [List.mem_cons]
    rintro (hplain | hmem)
    · cases hplain
    · exact ih hmem
  | case4 c rest head hprefix ih =>
    rw [List.mem_cons]
    rintro (hplain | hmem)
    · cases hplain
    · exact ih hmem

lemma callsNonempty_runsFrom (callee : Callee) (cs : List Char) :
    CallsNonempty (callee.runsFrom cs) := by
  intro source argument hmem
  obtain ⟨after, n, -, -, rfl⟩ := exists_argument_of_mem_runsFrom callee cs hmem
  simp

lemma isBlank_eq_false_of_mem_runsFrom {source argument : List Char} (callee : Callee)
    (cs : List Char) (h : .call source argument ∈ callee.runsFrom cs) :
    ∀ c ∈ argument, isBlank c = false := by
  obtain ⟨after, n, hn, rfl, -⟩ := exists_argument_of_mem_runsFrom callee cs h
  exact isBlank_eq_false_of_runArgument? hn

/-- The calls of a text around one of its runs. -/
lemma IsRun.callsIn_eq (hhead : ∀ c ∈ callee.name ++ ['('], isBlank c = false)
    (h : IsRun text before run after) :
    callsIn 0 (callee.runsFrom text) =
      callsIn 0 (callee.runsFrom before) ++ callsIn (byteSize before) (callee.runsFrom run) ++
        callsIn (byteSize (before ++ run)) (callee.runsFrom after) := by
  rw [h.text_eq, runsFrom_append hhead h.ends, runsFrom_append_of_blank hhead h.starts,
    callsIn_append, callsIn_append, joined_append, joined_runsFrom, joined_runsFrom, Nat.zero_add,
    Nat.zero_add]

lemma callsIn_of_delimits (hunbroken : ∀ c ∈ run, isBlank c = false)
    (h : Delimits callee.name run front argument back) (before : List Char) :
    callsIn (byteSize before) (callee.runsFrom run) =
      [⟨byteSize (before ++ front), byteSize (before ++ front ++ callee.name ++ '(' :: argument),
        argument⟩] := by
  have hround : byteSize [')'] = 1 := rfl
  have hclose : byteSize before + byteSize front +
        byteSize (callee.name ++ '(' :: (argument ++ [')'])) - 1 =
      byteSize (before ++ front ++ callee.name ++ '(' :: argument) := by
    simp only [byteSize_append, byteSize_cons, hround]
    omega
  rw [runsFrom_of_delimits hunbroken h, callsIn_append, callsIn_singles, joined_singles, callsIn,
    callsIn_singles, hclose, byteSize_append before front, List.nil_append]

/-- In a run there is the call that it delimits, if it delimits one. -/
lemma callsIn_run (hunbroken : ∀ c ∈ run, isBlank c = false) (before : List Char) :
    callsIn (byteSize before) (callee.runsFrom run) = [] ∧
        (∀ front argument back, ¬Delimits callee.name run front argument back) ∨
      ∃ front argument back, Delimits callee.name run front argument back ∧
        callsIn (byteSize before) (callee.runsFrom run) =
          [⟨byteSize (before ++ front),
            byteSize (before ++ front ++ callee.name ++ '(' :: argument), argument⟩] := by
  by_cases hdelimits : ∃ front argument back, Delimits callee.name run front argument back
  · obtain ⟨front, argument, back, h⟩ := hdelimits
    exact Or.inr ⟨front, argument, back, h, callsIn_of_delimits hunbroken h before⟩
  · push Not at hdelimits
    rw [runsFrom_of_not_delimits hunbroken hdelimits, callsIn_singles]
    exact Or.inl ⟨rfl, hdelimits⟩

lemma exists_run_of_mem_callsIn (hhead : ∀ c ∈ callee.name ++ ['('], isBlank c = false)
    {start : Nat} (hcall : call ∈ callsIn start (callee.runsFrom text)) :
    ∃ before run after, IsRun text before run after ∧
      call ∈ callsIn (start + byteSize before) (callee.runsFrom run) := by
  induction text using runs_induction generalizing start with
  | nil =>
    rw [Callee.runsFrom] at hcall
    cases hcall
  | blank c rest hblank ih =>
    rw [runsFrom_blank hhead hblank] at hcall
    obtain ⟨before, run, after, hrun, hmem⟩ := ih hcall
    refine ⟨c :: before, run, after, ⟨by rw [hrun.text_eq]; rfl, hrun.nonempty, hrun.unbroken, ?_,
      hrun.ends⟩, ?_⟩
    · intro d hd
      rw [List.getLast?_cons] at hd
      cases hlast : before.getLast? with
      | none =>
        rw [hlast] at hd
        cases hd
        exact hblank
      | some e =>
        rw [hlast] at hd
        cases hd
        exact hrun.starts e hlast
    · rw [byteSize_cons, ← Nat.add_assoc]
      simpa using hmem
  | run first rest hne hunbroken hends ih =>
    rw [runsFrom_append hhead hends, callsIn_append, joined_runsFrom, List.mem_append] at hcall
    rcases hcall with hfirst | hlater
    · have hstarts : ∀ c, ([] : List Char).getLast? = some c → isBlank c = true := by simp
      exact ⟨[], first, rest, ⟨rfl, hne, hunbroken, hstarts, hends⟩, hfirst⟩
    · obtain ⟨before, run, after, hrun, hmem⟩ := ih hlater
      have hbefore : before ≠ [] := by
        rintro rfl
        obtain ⟨c, run', hcons⟩ := List.exists_cons_of_ne_nil hrun.nonempty
        have hblank := hends c (by rw [hrun.text_eq, hcons]; rfl)
        rw [hrun.unbroken c (by simp [hcons])] at hblank
        cases hblank
      refine ⟨first ++ before, run, after, ⟨by rw [hrun.text_eq]; simp, hrun.nonempty,
        hrun.unbroken, ?_, hrun.ends⟩, ?_⟩
      · intro d hd
        rw [List.getLast?_append, Option.or_of_isSome (List.getLast?_isSome.mpr hbefore)] at hd
        exact hrun.starts d hd
      · rwa [byteSize_append, ← Nat.add_assoc]

/-- The calls that the unbroken scan finds are those which the runs of the text delimit. -/
lemma mem_callsIn_runsFrom_iff (hhead : ∀ c ∈ callee.name ++ ['('], isBlank c = false) :
    call ∈ callsIn 0 (callee.runsFrom text) ↔ IsRunCall callee.name text call := by
  constructor
  · intro hcall
    obtain ⟨before, run, after, hrun, hmem⟩ := exists_run_of_mem_callsIn hhead hcall
    rw [Nat.zero_add] at hmem
    rcases callsIn_run hrun.unbroken before with ⟨hnone, -⟩ | ⟨front, argument, back, h, hone⟩
    · rw [hnone] at hmem
      cases hmem
    · rw [hone, List.mem_singleton] at hmem
      exact ⟨before, run, after, front, argument, back, hrun, h, hmem⟩
  · rintro ⟨before, run, after, front, argument, back, hrun, h, rfl⟩
    rw [hrun.callsIn_eq hhead, callsIn_of_delimits hrun.unbroken h]
    simp

/-- A call that begins in a run is the one that the run delimits. -/
lemma IsRun.mem_callsIn_run (hhead : ∀ c ∈ callee.name ++ ['('], isBlank c = false)
    (h : IsRun text before run after) (hcall : call ∈ callsIn 0 (callee.runsFrom text))
    (hbegins : BeginsIn before run call) :
    call ∈ callsIn (byteSize before) (callee.runsFrom run) := by
  rw [h.callsIn_eq hhead, List.mem_append, List.mem_append] at hcall
  obtain ⟨hlow, hhigh⟩ := hbegins
  rcases hcall with (hearlier | hhere) | hlater
  · have hbounds := (callsNonempty_runsFrom callee before).bounds hearlier
    rw [joined_runsFrom] at hbounds
    omega
  · exact hhere
  · have hbounds := (callsNonempty_runsFrom callee after).bounds hlater
    omega

end Runs

/-- Replacement in the unbroken scan, under any name of an extractor and any look-up, whatever
effects it has. The calls that are looked up, in their order, are those which the maximal runs of
the text delimit, and no two of them begin in one run. With the answers the outcome is the text in
which the calls that were found have become their literals, with one finding for each call. -/
theorem replaceM_unbroken_runs {m : Type → Type} [Monad m] [LawfulMonad m] (name : String)
    (hname : isExtractorName name = true) (text : String)
    (resolve : String → m (Option IconCode)) :
    ∃ callee calls, Callee.ofName name .unbroken = .ok callee ∧
      calls.Pairwise (fun a b => a.close < b.start) ∧
      (∀ call, call ∈ calls ↔ IsRunCall name.toList text.toList call) ∧
      (∀ before run after, IsRun text.toList before run after → ∀ a ∈ calls, ∀ b ∈ calls,
        BeginsIn before run a → BeginsIn before run b → a = b) ∧
      ∃ outcome : List (Option IconCode) → Replacement,
        callee.replaceM text resolve = outcome <$> calls.mapM (lookUp resolve) ∧
        ∀ answers, answers.length = calls.length →
          ReplacesFrom text.toList 0 calls answers (outcome answers) := by
  have hne := toList_ne_nil_of_isExtractorName hname
  let callee : Callee := ⟨name.toList, .unbroken, hne⟩
  have hhead : ∀ c ∈ callee.name ++ ['('], isBlank c = false := isBlank_eq_false_of_mem_head hname
  have hcalls := callsNonempty_runsFrom callee text.toList
  refine ⟨callee, callsIn 0 (callee.runsFrom text.toList), dif_pos hne, hcalls.pairwise 0,
    fun call => mem_callsIn_runsFrom_iff hhead, ?_, assemble (callee.runsFrom text.toList), ?_, ?_⟩
  · intro before run after hrun a ha b hb hbeginsA hbeginsB
    have hmemA := hrun.mem_callsIn_run hhead ha hbeginsA
    have hmemB := hrun.mem_callsIn_run hhead hb hbeginsB
    rcases callsIn_run hrun.unbroken before with ⟨hnone, -⟩ | ⟨front, argument, back, -, hone⟩
    · rw [hnone] at hmemA
      cases hmemA
    · rw [hone, List.mem_singleton] at hmemA hmemB
      rw [hmemA, hmemB]
  · exact replaceSegments_eq resolve 0 _
  · intro answers hlength
    have houtcome := replacesFrom_assemble [] (callee.runsFrom text.toList) hcalls answers hlength
    rwa [joined_runsFrom] at houtcome

/-- The first run holds two occurrences and an empty argument, the second is not closed, and in the
third the name ends a longer one. -/
theorem replaceM_unbroken_runs_onceKnown :
    isExtractorName "icon" = true ∧
      ∃ callee calls, Callee.ofName "icon" .unbroken = .ok callee ∧
        calls.Pairwise (fun a b => a.close < b.start) ∧
        (∀ call, call ∈ calls ↔
          IsRunCall "icon".toList "icon()icon(a) icon( \u2003é.icon(b)".toList call) ∧
        (∀ before run after, IsRun "icon()icon(a) icon( \u2003é.icon(b)".toList before run after →
          ∀ a ∈ calls, ∀ b ∈ calls, BeginsIn before run a → BeginsIn before run b → a = b) ∧
        ∃ outcome : List (Option IconCode) → Replacement,
          callee.replaceM "icon()icon(a) icon( \u2003é.icon(b)" onceKnown =
            outcome <$> calls.mapM (lookUp onceKnown) ∧
          ∀ answers, answers.length = calls.length →
            ReplacesFrom "icon()icon(a) icon( \u2003é.icon(b)".toList 0 calls answers
              (outcome answers) :=
  ⟨by decide, replaceM_unbroken_runs "icon" (by decide) _ onceKnown⟩

end IconInline.Proofs
