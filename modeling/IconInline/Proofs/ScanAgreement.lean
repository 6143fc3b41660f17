import IconInline.Proofs.NestedCalls
import IconInline.Proofs.RunCalls
import Mathlib.Data.List.DropRight

/-!
# Where the two scans agree

If each run of a text holds at most one occurrence of the name with its parenthesis, and this one is
a call that the last closing parenthesis of the run closes, then the greedy selection of closed
calls consists of the calls that the runs delimit. So both scans lead to the same outcome.
-/

namespace IconInline.Proofs
open Text Source CallSite

/-- A run holds the name with its parenthesis at most once, and there the name stands free and the
last closing parenthesis of the run closes the call, with at least one character in between. -/
structure SimpleCalls (name text : List Char) : Prop where
  once : ∀ before run after, IsRun text before run after → ∀ front rest other more,
    run = front ++ name ++ '(' :: rest → run = other ++ name ++ '(' :: more → front = other
  closes : ∀ before run after, IsRun text before run after → ∀ front rest,
    run = front ++ name ++ '(' :: rest →
      ∃ argument back, rest = argument ++ ')' :: back ∧ ')' ∉ back ∧ argument ≠ [] ∧
        ClosedAt name text (byteSize (before ++ front))
          (byteSize (before ++ front ++ name ++ '(' :: argument))

section Runs

variable {name text before run after front argument back : List Char} {call : Call}

/-- A part of a text without blanks lies in a run. -/
lemma exists_run_of_part {part : List Char} (hne : part ≠ [])
    (hunbroken : ∀ c ∈ part, isBlank c = false) (before after : List Char) :
    ∃ earlier front rest later, before = earlier ++ front ∧ after = rest ++ later ∧
      IsRun (before ++ part ++ after) earlier (front ++ part ++ rest) later := by
  have hbefore : before.rdropWhile (!isBlank ·) ++ before.rtakeWhile (!isBlank ·) = before :=
    List.rdropWhile_append_rtakeWhile
  have hafter : after.takeWhile (!isBlank ·) ++ after.dropWhile (!isBlank ·) = after :=
    List.takeWhile_append_dropWhile
  refine ⟨_, _, _, _, hbefore.symm, hafter.symm, ?_, by simp [hne], ?_, ?_, ?_⟩
  · have hsplit : before ++ part ++ after =
        before.rdropWhile (!isBlank ·) ++ before.rtakeWhile (!isBlank ·) ++ part ++
          (after.takeWhile (!isBlank ·) ++ after.dropWhile (!isBlank ·)) := by
      rw [hbefore, hafter]
    rw [hsplit]
    simp only [List.append_assoc]
  · intro c hc
    rw [List.mem_append, List.mem_append] at hc
    rcases hc with (hfront | hpart) | hrest
    · simpa using List.mem_rtakeWhile_imp hfront
    · exact hunbroken c hpart
    · simpa using List.mem_takeWhile_imp hrest
  · intro c hc
    have hne' : before.rdropWhile (!isBlank ·) ≠ [] := by
      intro hnil
      rw [hnil] at hc
      cases hc
    have hlast := List.rdropWhile_last_not _ _ hne'
    rw [List.getLast?_eq_getLast_of_ne_nil hne', Option.some_inj] at hc
    rw [hc] at hlast
    simpa using hlast
  · intro c hc
    simpa [hc] using List.head?_dropWhile_not (!isBlank ·) after

lemma append_round_inj {as bs cs ds : List Char} (h : as ++ ')' :: bs = cs ++ ')' :: ds)
    (hbs : ')' ∉ bs) (hds : ')' ∉ ds) : as = cs ∧ bs = ds := by
  rcases List.append_eq_append_iff.mp h with ⟨more, rfl, hmore⟩ | ⟨more, rfl, hmore⟩
  · cases more with
    | nil => simpa using hmore
    | cons c more =>
      obtain ⟨rfl, rfl⟩ := List.cons_eq_cons.mp hmore
      simp at hbs
  · cases more with
    | nil => simpa [eq_comm] using hmore
    | cons c more =>
      obtain ⟨rfl, rfl⟩ := List.cons_eq_cons.mp hmore
      simp at hds

/-- A list of all closed calls behind a cursor, one behind the other, is the greedy selection. -/
lemma greedyCalls_of_all {cursor : Nat} {calls : List Call}
    (hclosed : ∀ call ∈ calls, IsClosedCall name text call)
    (hpairs : calls.Pairwise fun a b => a.close < b.start)
    (hahead : ∀ call ∈ calls, cursor ≤ call.start)
    (hall : ∀ start close, ClosedAt name text start close → cursor ≤ start →
      ∃ call ∈ calls, call.start = start) : GreedyCalls name text cursor calls := by
  induction calls generalizing cursor with
  | nil =>
    apply GreedyCalls.done
    intro start close hsite
    by_contra hbehind
    obtain ⟨call, hcall, -⟩ := hall start close hsite (by omega)
    cases hcall
  | cons first calls ih =>
    obtain ⟨hfirst, hlater⟩ := List.forall_mem_cons.mp hclosed
    obtain ⟨hbefore, hrest⟩ := List.pairwise_cons.mp hpairs
    have hspan := hfirst.start_le_close
    apply GreedyCalls.next hfirst (hahead first List.mem_cons_self)
    · intro start close hsite hcursor
      obtain ⟨call, hcall, rfl⟩ := hall start close hsite hcursor
      rcases List.mem_cons.mp hcall with rfl | hmem
      · exact Nat.le_refl _
      · have hgap := hbefore call hmem
        omega
    · apply ih hlater hrest
      · intro call hcall
        exact hbefore call hcall
      · intro start close hsite hcursor
        have hfrom := hahead first List.mem_cons_self
        obtain ⟨call, hcall, rfl⟩ := hall start close hsite (by omega)
        rcases List.mem_cons.mp hcall with rfl | hmem
        · omega
        · exact ⟨call, hmem, rfl⟩

lemma SimpleCalls.isClosedCall (h : SimpleCalls name text) (hcall : IsRunCall name text call) :
    IsClosedCall name text call := by
  obtain ⟨before, run, after, front, argument, back, hrun, hdelimits, rfl⟩ := hcall
  obtain ⟨argument', back', hrest, hback, -, hsite⟩ :=
    h.closes before run after hrun front _ hdelimits.run_eq
  obtain ⟨rfl, rfl⟩ := append_round_inj hrest hdelimits.last hback
  refine ⟨hsite, slice_eq_some_iff.mpr
    ⟨before ++ front ++ name ++ ['('], ')' :: back ++ after, ?_, ?_, ?_⟩⟩
  · rw [hrun.text_eq, hdelimits.run_eq]
    simp
  · simp only [byteSize_append]
    rfl
  · simp

lemma SimpleCalls.exists_call (h : SimpleCalls name text)
    (hhead : ∀ c ∈ name ++ ['('], isBlank c = false) {start close : Nat}
    (hsite : ClosedAt name text start close) :
    ∃ call, IsRunCall name text call ∧ call.start = start := by
  obtain ⟨before, after, htext, rfl, -⟩ := hsite.1
  obtain ⟨earlier, front, rest, later, rfl, rfl, hrun⟩ :=
    exists_run_of_part (by simp) hhead before after
  have hwhole : earlier ++ front ++ (name ++ ['(']) ++ (rest ++ later) = text := by
    rw [htext]
    simp
  rw [hwhole] at hrun
  have hname : front ++ (name ++ ['(']) ++ rest = front ++ name ++ '(' :: rest := by simp
  obtain ⟨argument, back, rfl, hback, hargument, -⟩ := h.closes _ _ _ hrun front rest hname
  refine ⟨⟨byteSize (earlier ++ front), byteSize (earlier ++ front ++ name ++ '(' :: argument),
    argument⟩, ⟨earlier, _, later, front, argument, back, hrun, ⟨hname, ?_, hback, hargument⟩, rfl⟩,
    rfl⟩
  intro other more hother
  rw [h.once _ _ _ hrun front _ other more hname hother]

end Runs

/-- The outcome is determined by the calls and the answers. -/
lemma ReplacesFrom.unique {text : List Char} {cursor : Nat} {calls : List Call}
    {answers : List (Option IconCode)} {out out' : Replacement}
    (h : ReplacesFrom text cursor calls answers out)
    (h' : ReplacesFrom text cursor calls answers out') : out = out' := by
  obtain ⟨cs, replaced, findings⟩ := out
  obtain ⟨cs', replaced', findings'⟩ := out'
  obtain rfl : cs = cs' := Option.some_inj.mp (h.text_eq.symm.trans h'.text_eq)
  obtain rfl : findings = findings' := h.findings_eq.trans h'.findings_eq.symm
  obtain rfl : replaced = replaced' := h.replaced_eq.trans h'.replaced_eq.symm
  rfl

/-- Where calls are simple, the balanced and the unbroken scan lead to the same text, the same
replaced icons and the same findings, for any name of an extractor and any fixed look-up. -/
theorem replace_balanced_eq_unbroken (name : String) (hname : isExtractorName name = true)
    (text : String) (resolve : String → Option IconCode)
    (hsimple : SimpleCalls name.toList text.toList) :
    ∃ balanced unbroken, Callee.ofName name .balanced = .ok balanced ∧
      Callee.ofName name .unbroken = .ok unbroken ∧
      balanced.replace text resolve = unbroken.replace text resolve := by
  have hne := toList_ne_nil_of_isExtractorName hname
  let balanced : Callee := ⟨name.toList, .balanced, hne⟩
  let unbroken : Callee := ⟨name.toList, .unbroken, hne⟩
  refine ⟨balanced, unbroken, dif_pos hne, dif_pos hne, ?_⟩
  have hhead : ∀ c ∈ unbroken.name ++ ['('], isBlank c = false := isBlank_eq_false_of_mem_head hname
  have hcalls := callsNonempty_runsFrom unbroken text.toList
  have hjoined : joined (unbroken.segments text.toList) = text.toList :=
    joined_runsFrom unbroken text.toList
  have hgreedy : GreedyCalls name.toList text.toList 0
      (callsIn 0 (unbroken.runsFrom text.toList)) := by
    apply greedyCalls_of_all
    · intro call hcall
      exact hsimple.isClosedCall ((mem_callsIn_runsFrom_iff hhead).mp hcall)
    · exact hcalls.pairwise 0
    · intro call _
      exact Nat.zero_le _
    · intro start close hsite _
      obtain ⟨call, hcall, hstart⟩ := hsimple.exists_call hhead hsite
      exact ⟨call, (mem_callsIn_runsFrom_iff hhead).mpr hcall, hstart⟩
  have hselected : GreedyCalls name.toList text.toList 0
      (callsIn 0 (balanced.balancedFrom none text.toList)) :=
    greedyCalls_balancedFrom balanced (continuesName_of_isExtractorName hname) [] text.toList
  have hbalanced := replacesFrom_replace resolve (show balanced.scan = .balanced from rfl) text
  have hunbroken := replacesFrom_segments resolve hjoined hcalls
  dsimp only at hbalanced
  rw [hselected.unique hgreedy] at hbalanced
  exact hbalanced.unique hunbroken

lemma IsRun.eq_of_unbroken {text before run after : List Char} (h : IsRun text before run after)
    (hnone : text.any isBlank = false) : before = [] ∧ run = text ∧ after = [] := by
  have htext := h.text_eq
  have hunbroken : ∀ c ∈ text, isBlank c = false := by simpa using hnone
  have hbefore : before = [] := by
    by_contra hne
    obtain ⟨c, hc⟩ := Option.isSome_iff_exists.mp (List.getLast?_isSome.mpr hne)
    have hblank := h.starts c hc
    rw [hunbroken c (by simp [htext, List.mem_of_getLast? hc])] at hblank
    cases hblank
  have hafter : after = [] := by
    by_contra hne
    obtain ⟨c, rest, rfl⟩ := List.exists_cons_of_ne_nil hne
    have hblank := h.ends c rfl
    rw [hunbroken c (by simp [htext])] at hblank
    cases hblank
  subst hbefore hafter
  exact ⟨rfl, by simpa using htext.symm, rfl⟩

/-- A run of a text stands in front of a blank of it or behind. -/
lemma IsRun.around_blank {before run after as bs : List Char} {c : Char} (hblank : isBlank c = true)
    (h : IsRun (as ++ c :: bs) before run after) :
    (∃ later, after = later ++ c :: bs ∧ IsRun as before run later) ∨
      ∃ earlier, before = as ++ c :: earlier ∧ IsRun bs earlier run after := by
  obtain ⟨htext, hne, hunbroken, hstarts, hends⟩ := h
  have hoff : c ∉ run := by
    intro hmem
    rw [hunbroken c hmem] at hblank
    cases hblank
  rcases List.append_eq_append_iff.mp htext.symm with ⟨later, rfl, rfl⟩ | ⟨more, hmore, hafter⟩
  · refine Or.inl ⟨later, rfl, rfl, hne, hunbroken, hstarts, fun d hd => hends d ?_⟩
    rw [List.head?_append, hd]
    rfl
  · cases more with
    | nil =>
      rw [List.append_nil] at hmore
      exact Or.inl ⟨[], by simpa using hafter.symm, by simpa using hmore.symm, hne, hunbroken,
        hstarts, nofun⟩
    | cons d more =>
      obtain ⟨rfl, rfl⟩ := List.cons_eq_cons.mp hafter
      rcases List.append_eq_append_iff.mp hmore with ⟨front, rfl, rfl⟩ | ⟨front, rfl, hrun⟩
      · simp at hoff
      · cases front with
        | nil =>
          rw [List.nil_append] at hrun
          simp [← hrun] at hoff
        | cons e earlier =>
          obtain ⟨rfl, rfl⟩ := List.cons_eq_cons.mp hrun
          refine Or.inr ⟨earlier, rfl, rfl, hne, hunbroken, fun d hd => hstarts d ?_, hends⟩
          rw [List.getLast?_append, List.getLast?_cons, hd]
          rfl

/-- Where the name stands before a parenthesis at one place only, it is known what surrounds it. -/
lemma eq_of_single_place {name run front rest : List Char} {i : Nat}
    (hplace : ∀ j ≤ run.length, (name ++ ['(']).isPrefixOf (run.drop j) = true → j = i)
    (h : run = front ++ name ++ '(' :: rest) :
    front = run.take i ∧ rest = run.drop (i + (name.length + 1)) := by
  have hdrop : run.drop front.length = name ++ ['('] ++ rest := by
    rw [h, List.append_assoc, List.drop_left]
    simp
  have hlength : front.length ≤ run.length := by
    rw [h, List.append_assoc, List.length_append]
    omega
  have hi : front.length = i := by
    apply hplace _ hlength
    rw [List.isPrefixOf_iff_prefix, hdrop]
    exact List.prefix_append _ _
  subst hi
  constructor
  · rw [h, List.append_assoc, List.take_left]
  · have hname : (name ++ ['(']).length = name.length + 1 := by simp
    rw [← List.drop_drop, hdrop, ← hname, List.drop_left]

/-- A quoted parenthesis, a bracket around the call, and what stands behind the last call. -/
def twoRuns : String := "[icon(pick('a)').b)] icon(x.faAt);"

lemma isRun_twoRuns {before run after : List Char} (h : IsRun twoRuns.toList before run after) :
    before = [] ∧ run = "[icon(pick('a)').b)]".toList ∨
      before = "[icon(pick('a)').b)] ".toList ∧ run = "icon(x.faAt);".toList := by
  have htext : twoRuns.toList = "[icon(pick('a)').b)]".toList ++ ' ' :: "icon(x.faAt);".toList := by
    decide +kernel
  rw [htext] at h
  rcases h.around_blank (by decide) with ⟨later, -, hfirst⟩ | ⟨earlier, rfl, hsecond⟩
  · obtain ⟨rfl, rfl, -⟩ := hfirst.eq_of_unbroken (by decide)
    exact Or.inl ⟨rfl, rfl⟩
  · obtain ⟨rfl, rfl, -⟩ := hsecond.eq_of_unbroken (by decide)
    exact Or.inr ⟨by decide +kernel, rfl⟩

lemma simpleCalls_twoRuns : SimpleCalls "icon".toList twoRuns.toList := by
  have hfirst : ∀ j ≤ "[icon(pick('a)').b)]".toList.length,
      ("icon".toList ++ ['(']).isPrefixOf ("[icon(pick('a)').b)]".toList.drop j) = true →
        j = 1 := by
    decide +kernel
  have hsecond : ∀ j ≤ "icon(x.faAt);".toList.length,
      ("icon".toList ++ ['(']).isPrefixOf ("icon(x.faAt);".toList.drop j) = true → j = 0 := by
    decide +kernel
  constructor
  · intro before run after hrun front rest other more h h'
    rcases isRun_twoRuns hrun with ⟨-, rfl⟩ | ⟨-, rfl⟩
    · rw [(eq_of_single_place hfirst h).1, (eq_of_single_place hfirst h').1]
    · rw [(eq_of_single_place hsecond h).1, (eq_of_single_place hsecond h').1]
  · intro before run after hrun front rest h
    rcases isRun_twoRuns hrun with ⟨rfl, rfl⟩ | ⟨rfl, rfl⟩
    · obtain ⟨rfl, rfl⟩ := eq_of_single_place hfirst h
      have htext : twoRuns.toList =
          "[".toList ++ "icon".toList ++ "(pick('a)').b)] icon(x.faAt);".toList := by decide +kernel
      refine ⟨"pick('a)').b".toList, "]".toList, by decide +kernel, by decide, by decide, ?_⟩
      rw [htext]
      exact closedAt_iff.mpr ⟨13, by decide +kernel, by decide +kernel⟩
    · obtain ⟨rfl, rfl⟩ := eq_of_single_place hsecond h
      have htext : twoRuns.toList =
          "[icon(pick('a)').b)] ".toList ++ "icon".toList ++ "(x.faAt);".toList := by decide +kernel
      refine ⟨"x.faAt".toList, ";".toList, by decide +kernel, by decide, by decide, ?_⟩
      rw [htext]
      exact closedAt_iff.mpr ⟨7, by decide +kernel, by decide +kernel⟩

theorem replace_balanced_eq_unbroken_twoRuns :
    isExtractorName "icon" = true ∧ SimpleCalls "icon".toList twoRuns.toList ∧
      ∃ balanced unbroken, Callee.ofName "icon" .balanced = .ok balanced ∧
        Callee.ofName "icon" .unbroken = .ok unbroken ∧
        balanced.replace twoRuns onlyAt = unbroken.replace twoRuns onlyAt :=
  ⟨by decide, simpleCalls_twoRuns,
    replace_balanced_eq_unbroken "icon" (by decide) twoRuns onlyAt simpleCalls_twoRuns⟩

end IconInline.Proofs
