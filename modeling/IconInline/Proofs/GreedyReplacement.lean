import IconInline.CallSite.Replacement
import IconInline.Proofs.CallSites

/-!
# Replacing the greedy selection of calls

In the balanced scan the calls that are looked up are the greedy selection of the closed call
sites of the given text, each identifier being asked for once and in order, whatever the effects
of the look-up are. The outcome is the text with the literals put in the place of the calls that
were found, with one finding for each call.
-/

namespace IconInline.Proofs
open Text Source CallSite

section Outcome

/-- A text from a byte offset on, with ascending spans exchanged for other texts and all else
kept. There is no result if spans overlap or end inside a character. -/
def exchange (text : List Char) : Nat → List (Span × List Char) → Option (List Char)
  | cursor, [] => dropBytes cursor text
  | cursor, (span, replacement) :: rest => do
    let kept ← slice cursor span.start text
    let tail ← exchange text span.stop rest
    return kept ++ replacement ++ tail

/-- The spans of the calls that were found, with the literals that take their places. -/
def edits (calls : List Call) (answers : List (Option IconCode)) : List (Span × List Char) :=
  (calls.zip answers).filterMap fun (call, answer) =>
    answer.map fun icon => (call.span, icon.literal.toList)

@[simp] lemma edits_cons_none (call : Call) (calls : List Call)
    (answers : List (Option IconCode)) :
    edits (call :: calls) (none :: answers) = edits calls answers := rfl

@[simp] lemma edits_cons_some (call : Call) (calls : List Call) (icon : IconCode)
    (answers : List (Option IconCode)) :
    edits (call :: calls) (some icon :: answers) =
      (call.span, icon.literal.toList) :: edits calls answers := rfl

def callFinding (call : Call) : Option IconCode → Finding
  | some icon => .replaced call.identifier icon.literal
  | none => .unknownIcon call.identifier

/-- What replacing calls of a text comes to, from a byte offset on, given what the look-up of
each call answered. -/
structure ReplacesFrom (text : List Char) (cursor : Nat) (calls : List Call)
    (answers : List (Option IconCode)) (out : Replacement) : Prop where
  text_eq : exchange text cursor (edits calls answers) = some out.text
  findings_eq : out.findings = List.zipWith callFinding calls answers
  replaced_eq : out.replaced =
    (calls.zip answers).filterMap fun (call, answer) => answer.map fun _ => call.identifier

/-- Looks the icon of a call up, unless the call names none. -/
def lookUp {m : Type → Type} [Monad m] (resolve : String → m (Option IconCode)) (call : Call) :
    m (Option IconCode) :=
  if call.identifier = "" then pure none else resolve call.identifier

/-- The outcome of replacing calls among segments, given the answers for these calls. -/
def assemble : List Segment → List (Option IconCode) → Replacement
  | [], _ => {}
  | .plain source :: rest, answers => (assemble rest answers).keep source
  | .call source argument :: rest, answers =>
    (assemble rest answers.tail).examined source (String.ofList (namedIcon argument))
      (answers.head?.getD none)

end Outcome

/-! ## The effects -/

lemma replaceSegments_eq {m : Type → Type} [Monad m] [LawfulMonad m]
    (resolve : String → m (Option IconCode)) (start : Nat) (segments : List Segment) :
    replaceSegments resolve segments =
      assemble segments <$> (callsIn start segments).mapM (lookUp resolve) := by
  induction segments generalizing start with
  | nil => simp [replaceSegments, callsIn, assemble]
  | cons segment rest ih =>
    cases segment with
    | plain source =>
      rw [replaceSegments, callsIn, ih (start + byteSize source)]
      simp [assemble]
    | call source argument =>
      rw [replaceSegments, callsIn, List.mapM_cons, ih (start + byteSize source)]
      by_cases hempty : namedIcon argument = []
      · simp [lookUp, Call.identifier, assemble, hempty]
      · simp [lookUp, Call.identifier, assemble, hempty]

/-! ## The outcome -/

lemma slice_extend {before source more kept : List Char} {stop : Nat}
    (h : slice (byteSize (before ++ source)) stop (before ++ source ++ more) = some kept) :
    slice (byteSize before) stop (before ++ source ++ more) = some (source ++ kept) := by
  obtain ⟨front, after, htext, hfront, hstop⟩ := slice_eq_some_iff.mp h
  rw [List.append_assoc front] at htext
  obtain ⟨rfl, rfl⟩ := append_inj_of_byteSize htext hfront.symm
  apply slice_eq_some_iff.mpr
  exact ⟨before, after, by simp, rfl, by simpa [Nat.add_assoc] using hstop⟩

lemma exchange_extend {before source more tail : List Char} {edits : List (Span × List Char)}
    (h : exchange (before ++ source ++ more) (byteSize (before ++ source)) edits = some tail) :
    exchange (before ++ source ++ more) (byteSize before) edits = some (source ++ tail) := by
  cases edits with
  | nil =>
    rw [exchange] at h ⊢
    obtain ⟨front, htext, hfront⟩ := dropBytes_eq_some_iff.mp h
    obtain ⟨rfl, rfl⟩ := append_inj_of_byteSize htext hfront.symm
    exact dropBytes_eq_some_iff.mpr ⟨before, List.append_assoc _ _ _, rfl⟩
  | cons edit rest =>
    obtain ⟨span, replacement⟩ := edit
    simp only [exchange, Option.bind_eq_bind, Option.bind_eq_some_iff, Option.pure_def,
      Option.some_inj] at h ⊢
    obtain ⟨kept, hkept, tail, htail, rfl⟩ := h
    exact ⟨source ++ kept, slice_extend hkept, tail, htail, by simp⟩

lemma ReplacesFrom.keep {before source more : List Char} {calls : List Call}
    {answers : List (Option IconCode)} {out : Replacement}
    (h : ReplacesFrom (before ++ source ++ more) (byteSize (before ++ source)) calls answers out) :
    ReplacesFrom (before ++ source ++ more) (byteSize before) calls answers (out.keep source) := by
  constructor
  · exact exchange_extend h.text_eq
  · exact h.findings_eq
  · exact h.replaced_eq

/-- A call that was found or not goes before the outcome of what follows. -/
lemma ReplacesFrom.examined {before source argument more : List Char} {calls : List Call}
    {answers : List (Option IconCode)} {out : Replacement} {call : Call}
    (hstart : call.start = byteSize before) (hstop : call.close + 1 = byteSize (before ++ source))
    (hargument : call.argument = argument) (answer : Option IconCode)
    (h : ReplacesFrom (before ++ source ++ more) (byteSize (before ++ source)) calls answers out) :
    ReplacesFrom (before ++ source ++ more) (byteSize before) (call :: calls) (answer :: answers)
      (out.examined source (String.ofList (namedIcon argument)) answer) := by
  subst hargument
  cases answer with
  | none =>
    constructor
    · rw [edits_cons_none]
      exact exchange_extend h.text_eq
    · simp [Replacement.examined, callFinding, Call.identifier, h.findings_eq]
    · simpa [Replacement.examined] using h.replaced_eq
  | some icon =>
    constructor
    · have hnothing : slice (byteSize before) (byteSize before) (before ++ source ++ more) =
          some [] :=
        slice_eq_some_iff.mpr ⟨before, source ++ more, by simp, rfl, by simp⟩
      have htail := h.text_eq
      rw [← hstop] at htail
      rw [edits_cons_some, exchange, Call.span, hstart, hnothing, htail]
      simp [Replacement.examined]
    · simp [Replacement.examined, callFinding, Call.identifier, h.findings_eq]
    · simp [Replacement.examined, Call.identifier, h.replaced_eq]

def joined (segments : List Segment) : List Char := segments.flatMap Segment.source

@[simp] lemma joined_cons (segment : Segment) (rest : List Segment) :
    joined (segment :: rest) = segment.source ++ joined rest := rfl

/-- Every call among the segments covers some text. -/
def CallsNonempty (segments : List Segment) : Prop :=
  ∀ source argument, .call source argument ∈ segments → source ≠ []

lemma replacesFrom_assemble (before : List Char) (segments : List Segment)
    (hcalls : CallsNonempty segments) (answers : List (Option IconCode))
    (hlength : answers.length = (callsIn (byteSize before) segments).length) :
    ReplacesFrom (before ++ joined segments) (byteSize before)
      (callsIn (byteSize before) segments) answers (assemble segments answers) := by
  induction segments generalizing before answers with
  | nil =>
    rw [callsIn, List.length_nil, List.length_eq_zero_iff] at hlength
    subst hlength
    constructor
    · exact dropBytes_eq_some_iff.mpr ⟨before, rfl, rfl⟩
    · rfl
    · rfl
  | cons segment rest ih =>
    have hrest : CallsNonempty rest := fun source argument hmem =>
      hcalls source argument (List.mem_cons_of_mem _ hmem)
    rw [joined_cons, ← List.append_assoc]
    cases segment with
    | plain source =>
      rw [callsIn, ← byteSize_append] at hlength ⊢
      exact (ih (before ++ source) hrest answers hlength).keep
    | call source argument =>
      rw [callsIn, ← byteSize_append] at hlength ⊢
      cases answers with
      | nil => cases hlength
      | cons answer answers =>
        have hsource : 0 < byteSize source :=
          Nat.pos_of_ne_zero fun hzero =>
            hcalls source argument List.mem_cons_self (byteSize_eq_zero_iff.mp hzero)
        have hstop : byteSize (before ++ source) - 1 + 1 = byteSize (before ++ source) := by
          rw [byteSize_append]
          omega
        have houtcome := ih (before ++ source) hrest answers (Nat.succ.inj hlength)
        exact houtcome.examined rfl hstop rfl answer

lemma joined_balancedFrom (callee : Callee) (previous : Option Char) (cs : List Char) :
    joined (callee.balancedFrom previous cs) = cs := by
  fun_induction Callee.balancedFrom callee previous cs with
  | case1 previous => rfl
  | case2 previous c rest hprefix after n hn ih =>
    rw [joined_cons, ih, Segment.source, List.append_assoc, List.take_append_drop]
    exact (eq_append_drop_of_isPrefixOf hprefix).symm
  | case3 previous c rest hprefix after hn ih =>
    rw [joined_cons, ih, Segment.source]
    exact (eq_append_drop_of_isPrefixOf hprefix).symm
  | case4 previous c rest hprefix ih =>
    rw [joined_cons, ih, Segment.source, List.singleton_append]

lemma callsNonempty_balancedFrom (callee : Callee) (previous : Option Char) (cs : List Char) :
    CallsNonempty (callee.balancedFrom previous cs) := by
  intro source argument
  fun_induction Callee.balancedFrom callee previous cs with
  | case1 previous => exact fun hmem => absurd hmem List.not_mem_nil
  | case2 previous c rest hprefix after n hn ih =>
    rw [List.mem_cons]
    rintro (hcall | hmem)
    · rw [Segment.call.injEq] at hcall
      rw [hcall.1]
      exact List.append_ne_nil_of_left_ne_nil callee.name_ne _
    · exact ih hmem
  | case3 previous c rest hprefix after hn ih =>
    rw [List.mem_cons]
    rintro (hplain | hmem)
    · cases hplain
    · exact ih hmem
  | case4 previous c rest hprefix ih =>
    rw [List.mem_cons]
    rintro (hplain | hmem)
    · cases hplain
    · exact ih hmem

/-- Balanced replacement of a text, under any name of an extractor and any look-up, whatever
effects it has. The calls that are looked up are the greedy selection of the closed call sites
of the text as it was given, in their order, and a call that names no icon is not looked up. With
the answers the outcome is the text in which the calls that were found have become their
literals, with one finding for each call. -/
theorem replaceM_balanced_greedy {m : Type → Type} [Monad m] [LawfulMonad m] (name : String)
    (hname : isExtractorName name = true) (text : String)
    (resolve : String → m (Option IconCode)) :
    ∃ callee calls, Callee.ofName name .balanced = .ok callee ∧
      GreedyCalls name.toList text.toList 0 calls ∧
      (∀ others, GreedyCalls name.toList text.toList 0 others → others = calls) ∧
      ∃ outcome : List (Option IconCode) → Replacement,
        callee.replaceM text resolve = outcome <$> calls.mapM (lookUp resolve) ∧
        ∀ answers, answers.length = calls.length →
          ReplacesFrom text.toList 0 calls answers (outcome answers) := by
  have hne := toList_ne_nil_of_isExtractorName hname
  let callee : Callee := ⟨name.toList, .balanced, hne⟩
  have hgreedy : GreedyCalls name.toList text.toList 0
      (callsIn 0 (callee.balancedFrom none text.toList)) :=
    greedyCalls_balancedFrom callee (continuesName_of_isExtractorName hname) [] text.toList
  refine ⟨callee, callsIn 0 (callee.balancedFrom none text.toList), dif_pos hne, hgreedy,
    fun others hothers => hothers.unique hgreedy,
    assemble (callee.balancedFrom none text.toList), ?_, ?_⟩
  · exact replaceSegments_eq resolve 0 _
  · intro answers hlength
    have houtcome := replacesFrom_assemble [] (callee.balancedFrom none text.toList)
      (callsNonempty_balancedFrom callee none text.toList) answers hlength
    rw [joined_balancedFrom] at houtcome
    exact houtcome

/-- The look-up may count: here it knows an icon only the first time it is asked. -/
def onceKnown (identifier : String) : StateM Nat (Option IconCode) := do
  let asked ← getModify (· + 1)
  return if asked = 0 then some ⟨"SVG;;" ++ identifier ++ ";;;"⟩ else none

theorem replaceM_balanced_greedy_onceKnown :
    isExtractorName "icon" = true ∧
      ∃ callee calls, Callee.ofName "icon" .balanced = .ok callee ∧
        GreedyCalls "icon".toList "icon(é icon(a) x.icon(b) icon('c)')".toList 0 calls ∧
        (∀ others,
          GreedyCalls "icon".toList "icon(é icon(a) x.icon(b) icon('c)')".toList 0 others →
            others = calls) ∧
        ∃ outcome : List (Option IconCode) → Replacement,
          callee.replaceM "icon(é icon(a) x.icon(b) icon('c)')" onceKnown =
            outcome <$> calls.mapM (lookUp onceKnown) ∧
          ∀ answers, answers.length = calls.length →
            ReplacesFrom "icon(é icon(a) x.icon(b) icon('c)')".toList 0 calls answers
              (outcome answers) :=
  ⟨by decide, replaceM_balanced_greedy "icon" (by decide) _ onceKnown⟩

end IconInline.Proofs
