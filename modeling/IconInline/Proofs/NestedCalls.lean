import IconInline.Proofs.CallFindings
import IconInline.Proofs.GreedyReplacement

/-!
# Calls inside of calls

The balanced scan goes on behind a call that it has examined, so it passes over all calls that begin
inside. A call that could be replaced is replaced just if it does not begin inside an examined one;
inside a call of an unknown icon it stays as it is.
-/

namespace IconInline.Proofs
open Text Source CallSite

/-- A call begins behind the first character of another one and not behind its last. -/
def BeginsInside (outer call : Call) : Prop := outer.start < call.start ∧ call.start ≤ outer.close

section Greedy

variable {name text : List Char} {cursor : Nat} {calls : List Call} {call outer : Call}

lemma IsClosedCall.start_le_close (h : IsClosedCall name text call) : call.start ≤ call.close := by
  obtain ⟨before, after, -, hstart, hclose⟩ := slice_eq_some_iff.mp h.argument
  rw [byteSize_append] at hclose
  omega

/-- The text of a closed call, with its name and its parentheses. -/
lemma IsClosedCall.exists_slice (h : IsClosedCall name text call) :
    ∃ source, slice call.start (call.close + 1) text = some source := by
  obtain ⟨hclosed, -⟩ := h
  obtain ⟨before, after, rfl, hstart, -⟩ := hclosed.1
  rw [← hstart, closedAt_iff] at hclosed
  obtain ⟨n, hn, hclose⟩ := hclosed
  refine ⟨name ++ ('(' :: after).take (n + 1), slice_eq_some_iff.mpr
    ⟨before, ('(' :: after).drop (n + 1), ?_, hstart, ?_⟩⟩
  · rw [List.append_assoc, List.append_assoc, List.append_assoc, List.take_append_drop]
  · rw [take_succ_of_closingAfter? hn, hclose]
    simp only [byteSize_append]
    rw [← Nat.add_assoc, ← Nat.add_assoc]
    rfl

lemma GreedyCalls.isClosedCall (h : GreedyCalls name text cursor calls) :
    ∀ call ∈ calls, IsClosedCall name text call := by
  induction h with
  | done => nofun
  | next is_call ahead leftmost rest ih => exact List.forall_mem_cons.mpr ⟨is_call, ih⟩

lemma GreedyCalls.le_start (h : GreedyCalls name text cursor calls) (hcall : call ∈ calls) :
    cursor ≤ call.start := by
  induction h with
  | done => cases hcall
  | @next cursor first calls is_call ahead leftmost rest ih =>
    rcases List.mem_cons.mp hcall with rfl | hlater
    · exact ahead
    · have hfirst := is_call.start_le_close
      have hbehind := ih hlater
      omega

/-- Of two selected calls one ends before the other begins. -/
lemma GreedyCalls.apart (h : GreedyCalls name text cursor calls) (houter : outer ∈ calls)
    (hcall : call ∈ calls) :
    call = outer ∨ call.close < outer.start ∨ outer.close < call.start := by
  induction h with
  | done => cases hcall
  | next is_call ahead leftmost rest ih =>
    rcases List.mem_cons.mp houter with rfl | houter'
    · rcases List.mem_cons.mp hcall with rfl | hcall'
      · exact Or.inl rfl
      · exact Or.inr (Or.inr (rest.le_start hcall'))
    · rcases List.mem_cons.mp hcall with rfl | hcall'
      · exact Or.inr (Or.inl (rest.le_start houter'))
      · exact ih houter' hcall'

/-- Each closed call is selected or begins inside a selected one. -/
lemma GreedyCalls.mem_or_beginsInside (h : GreedyCalls name text cursor calls)
    (hcall : IsClosedCall name text call) (hahead : cursor ≤ call.start) :
    call ∈ calls ∨ ∃ outer ∈ calls, BeginsInside outer call := by
  induction h with
  | done none_ahead =>
    have hbehind := none_ahead _ _ hcall.closed
    omega
  | @next cursor first calls is_call ahead leftmost rest ih =>
    have hfirst := leftmost _ _ hcall.closed hahead
    by_cases hsame : first.start = call.start
    · rw [is_call.eq_of_start_eq hcall hsame]
      exact Or.inl List.mem_cons_self
    · by_cases hinside : call.start ≤ first.close
      · exact Or.inr ⟨first, List.mem_cons_self, by omega, hinside⟩
      · rcases ih (by omega) with hmem | ⟨outer, houter, hbegins⟩
        · exact Or.inl (List.mem_cons_of_mem _ hmem)
        · exact Or.inr ⟨outer, List.mem_cons_of_mem _ houter, hbegins⟩

lemma GreedyCalls.mem_iff_not_beginsInside (h : GreedyCalls name text 0 calls)
    (hcall : IsClosedCall name text call) :
    call ∈ calls ↔ ∀ outer ∈ calls, ¬BeginsInside outer call := by
  constructor
  · rintro hmem outer houter ⟨hlow, hhigh⟩
    rcases h.apart houter hmem with rfl | hbefore | hafter
    · omega
    · have hle := hcall.start_le_close
      omega
    · omega
  · intro hnone
    rcases h.mem_or_beginsInside hcall (Nat.zero_le _) with hmem | ⟨outer, houter, hbegins⟩
    · exact hmem
    · exact absurd hbegins (hnone outer houter)

end Greedy

section Edits

variable {text : List Char} {calls : List Call} {f : Call → Option IconCode}

lemma mem_edits_iff {edit : Span × List Char} :
    edit ∈ edits calls (calls.map f) ↔
      ∃ call ∈ calls, ∃ icon, f call = some icon ∧ edit = (call.span, icon.literal.toList) := by
  induction calls with
  | nil => simp [edits]
  | cons call calls ih =>
    rw [List.map_cons]
    cases hanswer : f call with
    | none =>
      rw [edits_cons_none, ih]
      simp [hanswer]
    | some icon =>
      rw [edits_cons_some, List.mem_cons, ih]
      simp [hanswer]

lemma slice_of_append {start stop : Nat} {before after kept : List Char}
    (h : slice start stop (before ++ after) = some kept) (hle : stop ≤ byteSize before) :
    slice start stop before = some kept := by
  obtain ⟨front, back, htext, hfront, hstop⟩ := slice_eq_some_iff.mp h
  obtain ⟨more, rfl⟩ : front ++ kept <+: before := by
    refine prefix_of_byteSize_le ⟨back, htext.symm⟩ (List.prefix_append before after) ?_
    rw [hstop]
    exact hle
  exact slice_eq_some_iff.mpr ⟨front, more, rfl, hfront, hstop⟩

/-- A part of the text that no exchanged span meets stays in it, between what becomes of the text
before it and of the text behind. -/
lemma exists_split_of_exchange {before source after out : List Char} {cursor : Nat}
    {edits : List (Span × List Char)} (htext : text = before ++ source ++ after)
    (hahead : cursor ≤ byteSize before)
    (hspans : ∀ edit ∈ edits, edit.1.start ≤ edit.1.stop)
    (hapart : ∀ edit ∈ edits,
      edit.1.stop ≤ byteSize before ∨ byteSize (before ++ source) ≤ edit.1.start)
    (hout : exchange text cursor edits = some out) :
    ∃ front back before' after', edits = front ++ back ∧
      exchange before cursor front = some before' ∧
      exchange text (byteSize (before ++ source)) back = some after' ∧
      out = before' ++ source ++ after' := by
  have hbefore : before <+: text := ⟨source ++ after, by simp [htext]⟩
  induction edits generalizing cursor out with
  | nil =>
    obtain ⟨gone, hgone, hcursor⟩ := dropBytes_eq_some_iff.mp hout
    obtain ⟨kept, rfl⟩ : gone <+: before :=
      prefix_of_byteSize_le ⟨out, hgone.symm⟩ hbefore (by omega)
    refine ⟨[], [], kept, after, rfl, dropBytes_eq_some_iff.mpr ⟨gone, rfl, hcursor⟩,
      dropBytes_eq_some_iff.mpr ⟨_, htext, rfl⟩, ?_⟩
    rw [hgone] at htext
    simpa using htext
  | cons edit edits ih =>
    obtain ⟨span, replacement⟩ := edit
    simp only [exchange, Option.bind_eq_bind, Option.bind_eq_some_iff, Option.pure_def,
      Option.some_inj] at hout
    obtain ⟨kept, hkept, tail, htail, rfl⟩ := hout
    obtain ⟨hspan, hlaterSpans⟩ := List.forall_mem_cons.mp hspans
    obtain ⟨hside, hlater⟩ := List.forall_mem_cons.mp hapart
    by_cases hstop : span.stop ≤ byteSize before
    · obtain ⟨front, back, before', after', rfl, hfront, hback, rfl⟩ :=
        ih hstop hlaterSpans hlater htail
      rw [htext, List.append_assoc] at hkept
      refine ⟨(span, replacement) :: front, back, kept ++ replacement ++ before', after', rfl, ?_,
        hback, by simp⟩
      rw [exchange, slice_of_append hkept (Nat.le_trans hspan hstop), hfront]
      rfl
    · -- The part lies in what is kept in front of the span.
      obtain ⟨gone, rest, hgone, hcursor, hend⟩ := slice_eq_some_iff.mp hkept
      have hbehind := hside.resolve_left hstop
      have hgoneText : gone <+: text := ⟨kept ++ rest, by simp [hgone]⟩
      obtain ⟨more, rfl⟩ : gone <+: before := prefix_of_byteSize_le hgoneText hbefore (by omega)
      have hrest : kept ++ rest = more ++ source ++ after := by
        rw [hgone] at htext
        simpa using htext
      simp only [byteSize_append] at hbehind hend
      obtain ⟨last, rfl⟩ : more ++ source <+: kept := by
        refine prefix_of_byteSize_le ⟨after, hrest.symm⟩ ⟨rest, rfl⟩ ?_
        rw [byteSize_append]
        omega
      refine ⟨[], (span, replacement) :: edits, more, last ++ replacement ++ tail, rfl,
        dropBytes_eq_some_iff.mpr ⟨gone, rfl, hcursor⟩, ?_, by simp⟩
      have hlast : slice (byteSize (gone ++ more ++ source)) span.start text = some last := by
        refine slice_eq_some_iff.mpr ⟨gone ++ more ++ source, rest, ?_, rfl, ?_⟩
        · rw [hgone]
          simp
        · simp only [byteSize_append] at hend ⊢
          omega
      rw [exchange, hlast, htail]
      rfl

end Edits

/-- Replacement by a fixed look-up, whichever scan finds the segments. -/
lemma replacesFrom_segments (resolve : String → Option IconCode) {callee : Callee} {text : String}
    (hjoined : joined (callee.segments text.toList) = text.toList)
    (hcalls : CallsNonempty (callee.segments text.toList)) :
    let calls := callsIn 0 (callee.segments text.toList)
    ReplacesFrom text.toList 0 calls (calls.map fun call => known resolve call.identifier)
      (callee.replace text resolve) := by
  intro calls
  have hlookUp : (lookUp (fun identifier => pure (resolve identifier)) : Call → Id _) =
      fun call => pure (known resolve call.identifier) := by
    funext call
    unfold lookUp known
    by_cases hempty : call.identifier = ""
    · rw [if_pos hempty, if_pos (by simpa using hempty)]
    · rw [if_neg hempty, if_neg (by simpa using hempty)]
  have hout : callee.replace text resolve = assemble (callee.segments text.toList)
      (calls.map fun call => known resolve call.identifier) := by
    unfold Callee.replace Callee.replaceM
    rw [replaceSegments_eq _ 0, hlookUp, List.mapM_pure]
    rfl
  have hfrom := replacesFrom_assemble [] (callee.segments text.toList) hcalls
    (calls.map fun call => known resolve call.identifier) (List.length_map _)
  rw [hjoined] at hfrom
  rw [hout]
  exact hfrom

/-- Balanced replacement by a fixed look-up. -/
lemma replacesFrom_replace (resolve : String → Option IconCode) {callee : Callee}
    (hscan : callee.scan = .balanced) (text : String) :
    let calls := callsIn 0 (callee.balancedFrom none text.toList)
    ReplacesFrom text.toList 0 calls (calls.map fun call => known resolve call.identifier)
      (callee.replace text resolve) := by
  have hsegments : callee.segments text.toList = callee.balancedFrom none text.toList := by
    rw [Callee.segments, hscan]
  have hjoined := joined_balancedFrom callee none text.toList
  have hcalls := callsNonempty_balancedFrom callee none text.toList
  rw [← hsegments] at hjoined hcalls ⊢
  exact replacesFrom_segments resolve hjoined hcalls

/-- Under any name of an extractor, the balanced replacement puts the literal of its icon in the
place of a closed call of which the icon is known, just if the call does not begin inside an
examined one. It does not matter whether that one is replaced: in a call of an unknown icon the
calls inside stay as well, whatever icons they name. -/
theorem replaced_iff_not_beginsInside (name : String) (hname : isExtractorName name = true)
    (text : String) (resolve : String → Option IconCode) :
    ∃ callee calls, Callee.ofName name .balanced = .ok callee ∧
      GreedyCalls name.toList text.toList 0 calls ∧
      let answers := calls.map fun call => known resolve call.identifier
      let out := callee.replace text resolve
      ReplacesFrom text.toList 0 calls answers out ∧
      ∀ call icon, IsClosedCall name.toList text.toList call →
        known resolve call.identifier = some icon →
        ((call.span, icon.literal.toList) ∈ edits calls answers ↔
          ∀ outer ∈ calls, ¬BeginsInside outer call) ∧
        ∀ outer ∈ calls, BeginsInside outer call → call.close < outer.close →
          known resolve outer.identifier = none →
          ∃ before source after, slice call.start (call.close + 1) text.toList = some source ∧
            out.text = before ++ source ++ after := by
  have hne := toList_ne_nil_of_isExtractorName hname
  let callee : Callee := ⟨name.toList, .balanced, hne⟩
  have hgreedy : GreedyCalls name.toList text.toList 0
      (callsIn 0 (callee.balancedFrom none text.toList)) :=
    greedyCalls_balancedFrom callee (continuesName_of_isExtractorName hname) [] text.toList
  have hreplaces := replacesFrom_replace resolve (show callee.scan = .balanced from rfl) text
  dsimp only at hreplaces
  generalize callsIn 0 (callee.balancedFrom none text.toList) = calls at hgreedy hreplaces
  refine ⟨callee, calls, dif_pos hne, hgreedy, hreplaces, ?_⟩
  intro call icon hcall hknown
  constructor
  · rw [mem_edits_iff, ← hgreedy.mem_iff_not_beginsInside hcall]
    constructor
    · rintro ⟨found, hfound, other, -, hedit⟩
      have hspan : call.span = found.span := (Prod.mk.inj hedit).1
      have hstart : call.start = found.start := congrArg Span.start hspan
      rwa [hcall.eq_of_start_eq (hgreedy.isClosedCall found hfound) hstart]
    · intro hmem
      exact ⟨call, hmem, icon, hknown, rfl⟩
  · rintro outer houter ⟨hlow, hhigh⟩ hwithin hunknown
    obtain ⟨source, hsource⟩ := hcall.exists_slice
    obtain ⟨before, after, htext, hstart, hstop⟩ := slice_eq_some_iff.mp hsource
    have hspan : call.span = ⟨byteSize before, byteSize (before ++ source)⟩ := by
      rw [Call.span, ← hstart, ← hstop]
    have hedits : ∀ edit ∈ edits calls (calls.map fun call => known resolve call.identifier),
        edit.1.start ≤ edit.1.stop ∧
          (edit.1.stop ≤ call.span.start ∨ call.span.stop ≤ edit.1.start) := by
      intro edit hedit
      obtain ⟨other, hother, code, hcode, rfl⟩ := mem_edits_iff.mp hedit
      have hle := (hgreedy.isClosedCall other hother).start_le_close
      simp only [Call.span]
      rcases hgreedy.apart houter hother with rfl | hbefore | hbehind
      · rw [hunknown] at hcode
        cases hcode
      · omega
      · omega
    rw [hspan] at hedits
    obtain ⟨-, -, before', after', -, -, -, hout⟩ := exists_split_of_exchange htext
      (Nat.zero_le _) (fun edit hedit => (hedits edit hedit).1)
      (fun edit hedit => (hedits edit hedit).2) hreplaces.text_eq
    exact ⟨before', source, after', hsource, hout⟩

def onlyAt (identifier : String) : Option IconCode :=
  if identifier = "faAt" then some ⟨"SVG;0 0 1 1;M0 0;;;"⟩ else none

lemma isClosedCall_inner :
    IsClosedCall "icon".toList "icon(pick(icon(faAt)).gone)".toList ⟨10, 19, "faAt".toList⟩ := by
  have hlast : "icon(pick(".toList.getLast? = some '(' := by decide
  have hsite : IsCallSite "icon".toList "icon(pick(icon(faAt)).gone)".toList 10 := by
    refine ⟨"icon(pick(".toList, "faAt)).gone)".toList, by decide +kernel, rfl, ?_⟩
    intro c hc
    rw [hlast] at hc
    cases hc
    decide
  exact ⟨⟨hsite, by decide +kernel⟩, by decide +kernel⟩

theorem replaced_iff_not_beginsInside_pick :
    isExtractorName "icon" = true ∧
      ∃ callee calls, Callee.ofName "icon" .balanced = .ok callee ∧
        GreedyCalls "icon".toList "icon(pick(icon(faAt)).gone)".toList 0 calls ∧
        ((⟨10, 20⟩, "'SVG;0 0 1 1;M0 0;;;'".toList) ∈
            edits calls (calls.map fun call => known onlyAt call.identifier) ↔
          ∀ outer ∈ calls, ¬BeginsInside outer ⟨10, 19, "faAt".toList⟩) := by
  obtain ⟨callee, calls, hcallee, hgreedy, -, hcalls⟩ :=
    replaced_iff_not_beginsInside "icon" (by decide) "icon(pick(icon(faAt)).gone)" onlyAt
  have hinner := (hcalls _ ⟨"SVG;0 0 1 1;M0 0;;;"⟩ isClosedCall_inner (by decide)).1
  exact ⟨by decide, callee, calls, hcallee, hgreedy, hinner⟩

/-- No call is replaced here, although one is closed and names an icon that is known. -/
theorem unknown_call_hides_known :
    isExtractorName "icon" = true ∧
      IsClosedCall "icon".toList "icon(pick(icon(faAt)).gone)".toList ⟨10, 19, "faAt".toList⟩ ∧
      onlyAt (Call.identifier ⟨10, 19, "faAt".toList⟩) = some ⟨"SVG;0 0 1 1;M0 0;;;"⟩ ∧
      ∃ callee, Callee.ofName "icon" .balanced = .ok callee ∧
        callee.replace "icon(pick(icon(faAt)).gone)" onlyAt =
          ⟨"icon(pick(icon(faAt)).gone)".toList, [], [.unknownIcon "gone"]⟩ :=
  ⟨by decide, isClosedCall_inner, by decide, ⟨_, .balanced, by decide⟩, rfl, by decide +kernel⟩

end IconInline.Proofs
