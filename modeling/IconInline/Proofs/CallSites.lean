import IconInline.CallSite.Argument
import IconInline.CallSite.Segment
import IconInline.Proofs.ClosingScan

/-!
# Closed call sites and their greedy selection

A call site of a name is a byte offset at which the name stands free and directly before `(`;
it is closed if the closing scan from that parenthesis stops. The greedy selection takes the
leftmost closed call site at or after a cursor and goes on just past its close. This file shows
that the balanced scan selects greedily: no site is lost when an occurrence of the name is passed
over whole, because a site cannot begin inside a name.
-/

namespace IconInline.Proofs
open Text Source CallSite

/-- The name stands free and directly before `(` at a byte offset of a text. -/
def IsCallSite (name text : List Char) (start : Nat) : Prop :=
  ∃ before after, text = before ++ name ++ '(' :: after ∧ byteSize before = start ∧
    ∀ c, before.getLast? = some c → c ≠ '.' ∧ c ≠ '_' ∧ c ≠ '$' ∧ isAlphanumeric c = false

/-- A call site that the scan from its parenthesis closes at a byte offset. -/
def ClosedAt (name text : List Char) (start close : Nat) : Prop :=
  IsCallSite name text start ∧ closingAt? text (start + byteSize name) = some close

/-- A call of a text, from its name to the parenthesis that closes it. -/
structure Call where
  start : Nat
  close : Nat
  argument : List Char

def Call.span (call : Call) : Span := ⟨call.start, call.close + 1⟩

/-- The identifier that the argument of a call names. -/
def Call.identifier (call : Call) : String := String.ofList (namedIcon call.argument)

/-- A closed call site with what stands between its parentheses. -/
structure IsClosedCall (name text : List Char) (call : Call) : Prop where
  closed : ClosedAt name text call.start call.close
  argument : slice (call.start + byteSize name + 1) call.close text = some call.argument

/-- The greedy selection of the closed call sites of a text at or after a cursor. -/
inductive GreedyCalls (name text : List Char) : Nat → List Call → Prop where
  | done {cursor : Nat}
    (none_ahead : ∀ start close, ClosedAt name text start close → start < cursor) :
    GreedyCalls name text cursor []
  | next {cursor : Nat} {call : Call} {calls : List Call}
    (is_call : IsClosedCall name text call) (ahead : cursor ≤ call.start)
    (leftmost : ∀ start close, ClosedAt name text start close → cursor ≤ start → call.start ≤ start)
    (rest : GreedyCalls name text (call.close + 1) calls) :
    GreedyCalls name text cursor (call :: calls)

lemma IsClosedCall.eq_of_start_eq {name text : List Char} {a b : Call}
    (ha : IsClosedCall name text a) (hb : IsClosedCall name text b) (h : a.start = b.start) :
    a = b := by
  obtain ⟨start, closeA, argA⟩ := a
  obtain ⟨startB, closeB, argB⟩ := b
  obtain rfl : start = startB := h
  obtain rfl : closeA = closeB := Option.some_inj.mp (ha.closed.2.symm.trans hb.closed.2)
  obtain rfl : argA = argB := Option.some_inj.mp (ha.argument.symm.trans hb.argument)
  rfl

lemma GreedyCalls.unique {name text : List Char} {cursor : Nat} {as bs : List Call}
    (ha : GreedyCalls name text cursor as) (hb : GreedyCalls name text cursor bs) : as = bs := by
  induction ha generalizing bs with
  | done none_ahead =>
    cases hb with
    | done => rfl
    | next is_call ahead => exact absurd (none_ahead _ _ is_call.closed) (by omega)
  | next is_call ahead leftmost rest ih =>
    cases hb with
    | done none_ahead => exact absurd (none_ahead _ _ is_call.closed) (by omega)
    | next is_call' ahead' leftmost' rest' =>
      have hle := leftmost _ _ is_call'.closed ahead'
      have hge := leftmost' _ _ is_call.closed ahead
      obtain rfl := is_call.eq_of_start_eq is_call' (Nat.le_antisymm hle hge)
      rw [ih rest']

/-- The cursor may start further back if no closed call site lies in between. -/
lemma GreedyCalls.of_le {name text : List Char} {cursor cursor' : Nat} {calls : List Call}
    (hle : cursor ≤ cursor')
    (hnone : ∀ start close, ClosedAt name text start close → cursor ≤ start → cursor' ≤ start)
    (h : GreedyCalls name text cursor' calls) : GreedyCalls name text cursor calls := by
  cases h with
  | done none_ahead =>
    apply GreedyCalls.done
    intro start close hclosed
    by_contra hahead
    have hlt := none_ahead start close hclosed
    have hge := hnone start close hclosed (by omega)
    omega
  | next is_call ahead leftmost rest =>
    apply GreedyCalls.next is_call (by omega) _ rest
    intro start close hclosed hahead
    exact leftmost start close hclosed (hnone start close hclosed hahead)

/-! ## Sites of a text that is cut in two -/

lemma atBoundary_iff {previous : Option Char} :
    atBoundary previous = true ↔
      ∀ c, previous = some c → c ≠ '.' ∧ c ≠ '_' ∧ c ≠ '$' ∧ isAlphanumeric c = false := by
  cases previous with
  | none => simp [atBoundary]
  | some c =>
    simp only [atBoundary, continuesName, isExtractorChar, Option.any_some, Option.some_inj,
      forall_eq']
    grind

/-- A site at or behind a cut shows in the part behind the cut. -/
lemma IsCallSite.exists_rest {name before cs : List Char} {start : Nat}
    (h : IsCallSite name (before ++ cs) start) (hle : byteSize before ≤ start) :
    ∃ skipped after, cs = skipped ++ name ++ '(' :: after ∧
      start = byteSize before + byteSize skipped ∧
      atBoundary (before ++ skipped).getLast? = true := by
  obtain ⟨front, after, htext, rfl, hfree⟩ := h
  have hfront : before <+: front := by
    apply prefix_of_byteSize_le (List.prefix_append before cs) _ hle
    exact ⟨name ++ '(' :: after, by rw [htext, List.append_assoc]⟩
  obtain ⟨skipped, rfl⟩ := hfront
  refine ⟨skipped, after, ?_, byteSize_append before skipped, atBoundary_iff.mpr hfree⟩
  simpa using htext

lemma isCallSite_iff {name before after : List Char} :
    IsCallSite name (before ++ name ++ after) (byteSize before) ↔
      atBoundary before.getLast? = true ∧ after.head? = some '(' := by
  rw [atBoundary_iff]
  constructor
  · rintro ⟨front, rest, htext, hsize, hfree⟩
    rw [List.append_assoc, List.append_assoc] at htext
    obtain ⟨rfl, hname⟩ := append_inj_of_byteSize htext hsize.symm
    rw [List.append_cancel_left hname]
    exact ⟨hfree, List.head?_cons⟩
  · rintro ⟨hfree, hopen⟩
    obtain ⟨rest, rfl⟩ := List.head?_eq_some_iff.mp hopen
    exact ⟨before, rest, rfl, rfl, hfree⟩

/-- An occurrence of the name is a closed call site just if the balanced scan closes it. -/
lemma closedAt_iff {name before after : List Char} {close : Nat} :
    ClosedAt name (before ++ name ++ after) (byteSize before) close ↔
      ∃ n, closingAfter? before.getLast? after = some n ∧
        close = byteSize before + byteSize name + byteSize (after.take n) := by
  have hclosing := closingAt?_eq (before ++ name) after
  rw [byteSize_append] at hclosing
  rw [ClosedAt, isCallSite_iff, hclosing, closingAfter?]
  by_cases hsite : atBoundary before.getLast? = true ∧ after.head? = some '('
  · rw [if_pos hsite, and_iff_right hsite, Option.map_eq_some_iff]
    simp only [eq_comm]
  · simp [hsite]

/-- What follows the name of a closed call: the parenthesis, the argument, the parenthesis that
closes the call, and the rest. -/
lemma eq_of_closingAfter? {previous : Option Char} {after : List Char} {n : Nat}
    (h : closingAfter? previous after = some n) :
    after.take n = '(' :: (after.take n).drop 1 ∧
      after = after.take n ++ ')' :: after.drop (n + 1) := by
  rw [closingAfter?] at h
  split at h
  · next hsite => exact eq_of_closing? hsite.2 h
  · cases h

lemma take_succ_of_closingAfter? {previous : Option Char} {after : List Char} {n : Nat}
    (h : closingAfter? previous after = some n) : after.take (n + 1) = after.take n ++ [')'] := by
  have hsplit : after.take (n + 1) ++ after.drop (n + 1) =
      after.take n ++ [')'] ++ after.drop (n + 1) := by
    rw [List.take_append_drop]
    simpa using (eq_of_closingAfter? h).2
  exact List.append_cancel_right hsplit

lemma isClosedCall_of_closingAfter? (name : List Char) {before after : List Char} {n : Nat}
    (h : closingAfter? before.getLast? after = some n) :
    IsClosedCall name (before ++ name ++ after)
      ⟨byteSize before, byteSize before + byteSize name + byteSize (after.take n),
        (after.take n).drop 1⟩ := by
  obtain ⟨htake, hafter⟩ := eq_of_closingAfter? h
  have hopen : byteSize (after.take n) = 1 + byteSize ((after.take n).drop 1) := by
    conv_lhs => rw [htake]
    rfl
  constructor
  · exact closedAt_iff.mpr ⟨n, h, rfl⟩
  · rw [slice_eq_some_iff]
    refine ⟨before ++ name ++ ['('], ')' :: after.drop (n + 1), ?_, ?_, ?_⟩
    · conv_lhs => rw [hafter, htake]
      simp
    · rw [byteSize_append, byteSize_append]
      rfl
    · rw [byteSize_append, byteSize_append, byteSize_append, hopen, Nat.add_assoc]
      rfl

/-! ## The balanced scan selects greedily -/

/-- The calls among segments that begin at a byte offset. -/
def callsIn : Nat → List Segment → List Call
  | _, [] => []
  | start, .plain source :: rest => callsIn (start + byteSize source) rest
  | start, .call source argument :: rest =>
    ⟨start, start + byteSize source - 1, argument⟩ :: callsIn (start + byteSize source) rest

lemma continuesName_of_isExtractorName {name : String} (h : isExtractorName name = true) :
    ∀ c ∈ name.toList, continuesName c = true := by
  unfold isExtractorName at h
  intro c hc
  have hchar : isExtractorChar c = true := by
    cases hname : name.toList with
    | nil => simp [hname] at hc
    | cons first rest =>
      simp only [hname, Bool.and_eq_true, List.all_eq_true] at h hc
      rcases List.mem_cons.mp hc with rfl | hrest
      · have hstart := h.1
        simp only [isExtractorStart, isExtractorChar, isAlphanumeric, Bool.or_eq_true] at hstart ⊢
        tauto
      · exact h.2 c hrest
  simp [continuesName, hchar]

lemma toList_ne_nil_of_isExtractorName {name : String} (h : isExtractorName name = true) :
    name.toList ≠ [] := by
  intro hnil
  simp [isExtractorName, hnil] at h

/-- No site begins inside an occurrence of the name: the character before it would continue the
name. -/
lemma le_start_of_isCallSite {name before after : List Char} {start : Nat}
    (hname : ∀ c ∈ name, continuesName c = true)
    (h : IsCallSite name (before ++ name ++ after) start) (hlt : byteSize before < start) :
    byteSize (before ++ name) ≤ start := by
  rw [List.append_assoc] at h
  obtain ⟨skipped, rest, hcs, rfl, hfree⟩ := h.exists_rest (Nat.le_of_lt hlt)
  by_contra hinside
  rw [byteSize_append] at hinside
  have hskipped : skipped <+: name := by
    apply prefix_of_byteSize_le _ (List.prefix_append name after) (by omega)
    exact ⟨name ++ '(' :: rest, by rw [hcs, List.append_assoc]⟩
  obtain ⟨c, hc⟩ : ∃ c, skipped.getLast? = some c := by
    cases hlast : skipped.getLast? with
    | some c => exact ⟨c, rfl⟩
    | none =>
      rw [List.getLast?_eq_none_iff.mp hlast, byteSize_nil] at hlt
      omega
  have hcontinues := hname c (hskipped.subset (List.mem_of_getLast? hc))
  rw [List.getLast?_append, hc] at hfree
  simp [atBoundary, hcontinues] at hfree

lemma eq_append_drop_of_isPrefixOf {name cs : List Char} (h : name.isPrefixOf cs = true) :
    cs = name ++ cs.drop name.length :=
  (List.prefix_iff_eq_append.mp (List.isPrefixOf_iff_prefix.mp h)).symm

lemma balancedFrom_name (callee : Callee) {previous : Option Char} {after : List Char} {n : Nat}
    (h : closingAfter? previous after = some n) :
    callee.balancedFrom previous (callee.name ++ after) =
      .call (callee.name ++ after.take (n + 1)) ((after.take n).drop 1)
        :: callee.balancedFrom (some ')') (after.drop (n + 1)) := by
  obtain ⟨c, rest, hname⟩ := List.exists_cons_of_ne_nil callee.name_ne
  have hprefix : callee.name.isPrefixOf (c :: (rest ++ after)) = true := by simp [hname]
  have hafter : (c :: (rest ++ after)).drop callee.name.length = after := by simp [hname]
  have htext : callee.name ++ after = c :: (rest ++ after) := by rw [hname, List.cons_append]
  rw [htext, Callee.balancedFrom, if_pos hprefix, hafter]
  dsimp only
  rw [h]

/-- The balanced scan of the rest of a text selects greedily from there on. -/
theorem greedyCalls_balancedFrom (callee : Callee)
    (hname : ∀ c ∈ callee.name, continuesName c = true) (before cs : List Char) :
    GreedyCalls callee.name (before ++ cs) (byteSize before)
      (callsIn (byteSize before) (callee.balancedFrom before.getLast? cs)) := by
  generalize hprevious : before.getLast? = previous
  fun_induction Callee.balancedFrom callee previous cs generalizing before with
  | case1 previous =>
    apply GreedyCalls.done
    rintro start close ⟨⟨front, rest, htext, rfl, -⟩, -⟩
    have hsize := congrArg byteSize htext
    simp only [byteSize_append, byteSize_cons, byteSize_nil] at hsize
    have hparen := Char.utf8Size_pos '('
    omega
  | case2 previous c rest hprefix after n hn ih =>
    subst hprevious
    have hcs : c :: rest = callee.name ++ after := eq_append_drop_of_isPrefixOf hprefix
    have htake := take_succ_of_closingAfter? hn
    have hcall := isClosedCall_of_closingAfter? callee.name hn
    have hsize : byteSize (callee.name ++ after.take (n + 1)) =
        byteSize callee.name + byteSize (after.take n) + 1 := by
      rw [htake, byteSize_append, byteSize_append, Nat.add_assoc]
      rfl
    have hrest := ih (before ++ (callee.name ++ after.take (n + 1))) (by simp [htake])
    rw [byteSize_append, List.append_assoc, List.append_assoc, List.take_append_drop, ← hcs]
      at hrest
    rw [List.append_assoc, ← hcs] at hcall
    rw [callsIn]
    have hclose : byteSize before + byteSize (callee.name ++ after.take (n + 1)) - 1 =
        byteSize before + byteSize callee.name + byteSize (after.take n) := by
      rw [hsize]
      omega
    rw [hclose]
    apply GreedyCalls.next hcall (Nat.le_refl _)
    · intro start close _ hahead
      exact hahead
    · rw [hsize] at hrest ⊢
      simpa only [Nat.add_assoc] using hrest
  | case3 previous c rest hprefix after hn ih =>
    subst hprevious
    have hcs : c :: rest = callee.name ++ after := eq_append_drop_of_isPrefixOf hprefix
    have hlast : (before ++ callee.name).getLast? = callee.name.getLast? := by
      rw [List.getLast?_append, Option.or_of_isSome (List.getLast?_isSome.mpr callee.name_ne)]
    have hrest := ih (before ++ callee.name) hlast
    rw [hcs, ← List.append_assoc, callsIn, ← byteSize_append]
    apply hrest.of_le (by simp)
    intro start close hclosed hahead
    rcases Nat.eq_or_lt_of_le hahead with rfl | hlt
    · obtain ⟨n, hsome, -⟩ := closedAt_iff.mp hclosed
      rw [hn] at hsome
      cases hsome
    · exact le_start_of_isCallSite hname hclosed.1 hlt
  | case4 previous c rest hprefix ih =>
    have hrest := ih (before ++ [c]) (by simp)
    rw [List.append_assoc, List.singleton_append] at hrest
    rw [callsIn, ← byteSize_append]
    apply hrest.of_le (by simp)
    intro start close hclosed hahead
    obtain ⟨skipped, after, hcs, rfl, -⟩ := hclosed.1.exists_rest hahead
    cases skipped with
    | nil =>
      refine absurd (List.isPrefixOf_iff_prefix.mpr ?_) hprefix
      exact ⟨'(' :: after, hcs.symm⟩
    | cons d skipped =>
      obtain ⟨rfl, -⟩ := List.cons_eq_cons.mp hcs
      simp only [byteSize_append, byteSize_cons, byteSize_nil]
      omega

end IconInline.Proofs
