import IconInline.Proofs.Deletion
import IconInline.Proofs.NestedCalls
import IconInline.Proofs.Rewriting

/-!
# Calls that later entries pass over

A closed call that an entry leaves is in the text that the next entry scans, and this one may know
its icon, or replace another call around it or inside. As long as no replaced call meets it, the
call goes over into the new text in one piece, and is closed there as before: what stands in front
of it is what stood there or the end of a literal, and nothing behind its parenthesis is read.
-/

namespace IconInline.Proofs
open Text Source CallSite

/-- The literals of an entry's icons, each with the span of the call whose place it takes. -/
def entryEdits (entry : Entry) (icons : IconSet) (calls : List Call) : List (Span × List Char) :=
  edits calls (calls.map fun call => known (codeOf entry icons) call.identifier)

/-- An entry puts a literal in the place of a call of a text. -/
def Replaces (entry : Entry) (icons : IconSet) (text : String) (call : Call) : Prop :=
  (∃ calls, GreedyCalls entry.callee.name text.toList 0 calls ∧ call ∈ calls) ∧
    ∃ icon, known (codeOf entry icons) call.identifier = some icon

/-- A closed call of a text is, in one piece, a closed call of the text after some edits, between
what these make of what stands before it and of what stands behind. -/
structure GoesOver (name text : List Char) (edits : List (Span × List Char)) (out : List Char)
    (call call' : Call) : Prop where
  closed : IsClosedCall name out call'
  argument_eq : call'.argument = call.argument
  between : ∃ before source after front back before' after',
    text = before ++ source ++ after ∧ call.span = ⟨byteSize before, byteSize (before ++ source)⟩ ∧
    edits = front ++ back ∧ exchange before 0 front = some before' ∧
    exchange text call.span.stop back = some after' ∧ out = before' ++ source ++ after' ∧
    call'.span = ⟨byteSize before', byteSize (before' ++ source)⟩

/-- A closed call goes over into what each of some entries makes of the text, one after the
other. -/
inductive Passes (name : List Char) : String → Call → List Acquired → String → Call → Prop where
  | done {text : String} {call : Call} : Passes name text call [] text call
  | skipped {text final : String} {call last : Call} {entry : Entry} {e : Failure}
    {rest : List Acquired} (more : Passes name text call rest final last) :
    Passes name text call ((entry, .error e) :: rest) final last
  | carried {text final : String} {call call' last : Call} {entry : Entry} {icons : IconSet}
    {rest : List Acquired} {calls : List Call}
    (greedy : GreedyCalls entry.callee.name text.toList 0 calls)
    (goes : GoesOver name text.toList (entryEdits entry icons calls)
      (entry.replaceCalls icons text).text call call')
    (more :
      Passes name (String.ofList (entry.replaceCalls icons text).text) call' rest final last) :
    Passes name text call ((entry, .ok icons) :: rest) final last

/-- One of some entries replaces a call that meets a given one, when this has come so far. -/
def Loses (name : List Char) (text : String) (call : Call) (acquired : List Acquired) : Prop :=
  ∃ before entry icons after reached call' other,
    acquired = before ++ (entry, .ok icons) :: after ∧
    Passes name text call before reached call' ∧ IsClosedCall name reached.toList call' ∧
    Replaces entry icons reached other ∧ ¬Apart other.span call'.span

section Exchange

variable {text out : List Char} {cursor : Nat} {edits : List (Span × List Char)}

/-- Where all texts that are put in end with a quote, a new text ends as the old one or with it. -/
lemma getLast?_exchange (hquoted : ∀ edit ∈ edits, edit.2.getLast? = some '\'')
    (h : exchange text cursor edits = some out) :
    out = [] ∨ out.getLast? = text.getLast? ∨ out.getLast? = some '\'' := by
  induction edits generalizing cursor out with
  | nil =>
    obtain ⟨gone, rfl, -⟩ := dropBytes_eq_some_iff.mp h
    by_cases hout : out = []
    · exact Or.inl hout
    · refine Or.inr (Or.inl ?_)
      rw [List.getLast?_append, Option.or_of_isSome (List.getLast?_isSome.mpr hout)]
  | cons edit rest ih =>
    obtain ⟨span, literal⟩ := edit
    obtain ⟨hliteral, hrest⟩ := List.forall_mem_cons.mp hquoted
    simp only [exchange, Option.bind_eq_bind, Option.bind_eq_some_iff, Option.pure_def,
      Option.some_inj] at h
    obtain ⟨kept, -, tail, htail, rfl⟩ := h
    rw [List.getLast?_append, List.getLast?_append, hliteral, Option.some_or]
    rcases ih hrest htail with rfl | hsame | hquote
    · exact Or.inr (Or.inr rfl)
    · cases hlast : tail.getLast? with
      | none => exact Or.inr (Or.inr rfl)
      | some c => exact Or.inr (Or.inl (by rw [← hsame, hlast]; rfl))
    · exact Or.inr (Or.inr (by rw [hquote]; rfl))

lemma atBoundary_exchange (hquoted : ∀ edit ∈ edits, edit.2.getLast? = some '\'')
    (h : exchange text cursor edits = some out) (hfree : atBoundary text.getLast? = true) :
    atBoundary out.getLast? = true := by
  rcases getLast?_exchange hquoted h with rfl | hsame | hquote
  · rfl
  · rw [hsame, hfree]
  · rw [hquote]
    rfl

end Exchange

section Closing

variable {previous other : Option Char} {after : List Char} {n : Nat}

/-- What follows the closing parenthesis is not read. -/
lemma closingFrom_take {d : Depth} {signs : List Sign} (h : closingFrom d signs = some n)
    (more : List Sign) : closingFrom d (signs.take (n + 1) ++ more) = some n := by
  induction signs generalizing d n with
  | nil => cases h
  | cons s rest ih =>
    rw [closingFrom] at h
    rw [List.take_succ_cons, List.cons_append, closingFrom]
    cases hstep : d.step s with
    | onward d' =>
      rw [hstep] at h
      obtain ⟨k, hk, rfl⟩ := Option.map_eq_some_iff.mp h
      exact Option.map_eq_some_iff.mpr ⟨k, ih hk, rfl⟩
    | closed =>
      rw [hstep] at h
      exact h
    | mismatched =>
      rw [hstep] at h
      cases h

lemma closingAfter?_congr (h : atBoundary previous = atBoundary other) :
    closingAfter? previous after = closingAfter? other after := by
  rw [closingAfter?, closingAfter?, h]

lemma closingAfter?_take (h : closingAfter? previous after = some n) (more : List Char) :
    closingAfter? previous (after.take (n + 1) ++ more) = some n := by
  rw [closingAfter?] at h ⊢
  split at h
  · next hsite =>
    obtain ⟨rest, rfl⟩ := List.head?_eq_some_iff.mp hsite.2
    rw [if_pos ⟨hsite.1, by simp⟩, List.map_append, List.map_take]
    exact closingFrom_take h _
  · cases h

lemma take_append_of_closingAfter? (h : closingAfter? previous after = some n)
    (more : List Char) : (after.take (n + 1) ++ more).take n = after.take n := by
  have hlength : n ≤ (after.take (n + 1)).length := by
    have htake := congrArg List.length (take_succ_of_closingAfter? h)
    simp only [List.length_append, List.length_take, List.length_singleton] at htake ⊢
    omega
  rw [List.take_append_of_le_length hlength, List.take_take, Nat.min_eq_left (Nat.le_succ n)]

lemma atBoundary_of_closingAfter? (h : closingAfter? previous after = some n) :
    atBoundary previous = true := by
  rw [closingAfter?] at h
  split at h
  · next hsite => exact hsite.1
  · cases h

/-- A closed call of a text is one again wherever its name may begin. -/
lemma isClosedCall_of_take (name : List Char) {before : List Char}
    (h : closingAfter? before.getLast? after = some n) (more : List Char) :
    IsClosedCall name (before ++ (name ++ after.take (n + 1)) ++ more)
      ⟨byteSize before, byteSize before + byteSize name + byteSize (after.take n),
        (after.take n).drop 1⟩ := by
  have hcall := isClosedCall_of_closingAfter? name (closingAfter?_take h more)
  rw [take_append_of_closingAfter? h] at hcall
  rwa [← List.append_assoc, List.append_assoc (before ++ name)]

end Closing

section Edits

variable {name text : List Char} {call : Call}

lemma IsClosedCall.exists_closing (h : IsClosedCall name text call) :
    ∃ before after n, text = before ++ (name ++ after.take (n + 1)) ++ after.drop (n + 1) ∧
      closingAfter? before.getLast? after = some n ∧
      call = ⟨byteSize before, byteSize before + byteSize name + byteSize (after.take n),
        (after.take n).drop 1⟩ := by
  obtain ⟨before, rest, htext, hstart, -⟩ := h.closed.1
  have hclosed := h.closed
  rw [htext, ← hstart, closedAt_iff] at hclosed
  obtain ⟨n, hn, -⟩ := hclosed
  have hcall := isClosedCall_of_closingAfter? name hn
  rw [← htext] at hcall
  refine ⟨before, '(' :: rest, n, ?_, hn, h.eq_of_start_eq hcall hstart.symm⟩
  rw [htext, List.append_assoc, List.append_assoc, List.append_assoc, List.take_append_drop]

lemma span_of_closingAfter? {before after : List Char} {n : Nat}
    (h : closingAfter? before.getLast? after = some n) (name front : List Char) :
    (⟨byteSize front, byteSize front + byteSize name + byteSize (after.take n),
      (after.take n).drop 1⟩ : Call).span =
        ⟨byteSize front, byteSize (front ++ (name ++ after.take (n + 1)))⟩ := by
  rw [Call.span, take_succ_of_closingAfter? h]
  simp only [byteSize_append, Nat.add_assoc]
  rfl

/-- Edits that are all apart from a closed call leave it in one piece. -/
lemma IsClosedCall.exists_goesOver {edits : List (Span × List Char)} {out : List Char}
    (h : IsClosedCall name text call) (hout : exchange text 0 edits = some out)
    (hquoted : ∀ edit ∈ edits, edit.2.getLast? = some '\'')
    (hspans : ∀ edit ∈ edits, edit.1.start ≤ edit.1.stop)
    (hapart : ∀ edit ∈ edits, Apart edit.1 call.span) :
    ∃ call', GoesOver name text edits out call call' := by
  obtain ⟨before, after, n, htext, hclosing, rfl⟩ := h.exists_closing
  have hspan := fun front => span_of_closingAfter? hclosing name front
  rw [hspan] at hapart
  obtain ⟨front, back, before', after', hedits, hfront, hback, rfl⟩ :=
    exists_split_of_exchange htext (Nat.zero_le _) hspans hapart hout
  have hfree := atBoundary_of_closingAfter? hclosing
  have hfree' : atBoundary before'.getLast? = true := by
    refine atBoundary_exchange ?_ hfront hfree
    intro edit hedit
    exact hquoted edit (hedits ▸ List.mem_append_left back hedit)
  have hclosing' : closingAfter? before'.getLast? after = some n := by
    rw [closingAfter?_congr (hfree'.trans hfree.symm), hclosing]
  exact ⟨_, isClosedCall_of_take name hclosing' after', rfl, before, _, _, front, back, before',
    after', htext, hspan before, hedits, hfront, by rw [hspan, hback], rfl, hspan before'⟩

lemma getLast?_literal (icon : IconCode) : icon.literal.toList.getLast? = some '\'' := by
  rw [IconCode.literal, String.toList_ofList, Literal.quote, List.getLast?_concat]

end Edits

section Passing

variable {name : List Char} {call call' : Call} {entry : Entry} {icons : IconSet} {text : String}

/-- What an entry makes of a text still holds a closed call, unless one that it replaces meets
it. -/
lemma IsClosedCall.goesOver_or_meets (icons : IconSet) (h : IsClosedCall name text.toList call)
    (hscan : entry.callee.scan = .balanced)
    (hname : ∀ c ∈ entry.callee.name, continuesName c = true) :
    (∃ calls call', GreedyCalls entry.callee.name text.toList 0 calls ∧
      GoesOver name text.toList (entryEdits entry icons calls)
        (entry.replaceCalls icons text).text call call') ∨
    ∃ other, Replaces entry icons text other ∧ ¬Apart other.span call.span := by
  have hgreedy : GreedyCalls entry.callee.name text.toList 0
      (callsIn 0 (entry.callee.balancedFrom none text.toList)) :=
    greedyCalls_balancedFrom entry.callee hname [] text.toList
  have hreplaces := replacesFrom_replace (codeOf entry icons) hscan text
  dsimp only at hreplaces
  generalize callsIn 0 (entry.callee.balancedFrom none text.toList) = calls at hgreedy hreplaces
  by_cases hmeets : ∃ other, Replaces entry icons text other ∧ ¬Apart other.span call.span
  · exact Or.inr hmeets
  · have hedit : ∀ edit ∈ entryEdits entry icons calls, edit.2.getLast? = some '\'' ∧
        edit.1.start ≤ edit.1.stop ∧ Apart edit.1 call.span := by
      intro edit hedit
      obtain ⟨other, hother, icon, hicon, rfl⟩ := mem_edits_iff.mp hedit
      refine ⟨getLast?_literal icon, ?_, ?_⟩
      · exact Nat.le_succ_of_le (hgreedy.isClosedCall other hother).start_le_close
      · by_contra hnot
        exact hmeets ⟨other, ⟨⟨calls, hgreedy, hother⟩, icon, hicon⟩, hnot⟩
    obtain ⟨call', hgoes⟩ := h.exists_goesOver hreplaces.text_eq
      (fun edit hmem => (hedit edit hmem).1) (fun edit hmem => (hedit edit hmem).2.1)
      (fun edit hmem => (hedit edit hmem).2.2)
    exact Or.inl ⟨calls, call', hgreedy, hgoes⟩

lemma Passes.isClosedCall {acquired : List Acquired} {final : String} {last : Call}
    (h : Passes name text call acquired final last) (hcall : IsClosedCall name text.toList call) :
    IsClosedCall name final.toList last ∧ last.argument = call.argument := by
  induction h with
  | done => exact ⟨hcall, rfl⟩
  | skipped more ih => exact ih hcall
  | carried greedy goes more ih =>
    obtain ⟨hlast, hargument⟩ := ih (by rw [String.toList_ofList]; exact goes.closed)
    exact ⟨hlast, hargument.trans goes.argument_eq⟩

lemma Loses.skipped {acquired : List Acquired} (h : Loses name text call acquired)
    (entry : Entry) (e : Failure) : Loses name text call ((entry, .error e) :: acquired) := by
  obtain ⟨before, taker, icons, after, reached, call', other, rfl, hpasses, hrest⟩ := h
  exact ⟨(entry, .error e) :: before, taker, icons, after, reached, call', other, rfl,
    .skipped hpasses, hrest⟩

lemma Loses.carried {acquired : List Acquired} {calls : List Call}
    (hgreedy : GreedyCalls entry.callee.name text.toList 0 calls)
    (hgoes : GoesOver name text.toList (entryEdits entry icons calls)
      (entry.replaceCalls icons text).text call call')
    (h : Loses name (String.ofList (entry.replaceCalls icons text).text) call' acquired) :
    Loses name text call ((entry, .ok icons) :: acquired) := by
  obtain ⟨before, taker, found, after, reached, last, other, rfl, hpasses, hrest⟩ := h
  exact ⟨(entry, .ok icons) :: before, taker, found, after, reached, last, other, rfl,
    .carried hgreedy hgoes hpasses, hrest⟩

/-- A closed call is there after all entries, unless one of them replaces a call that meets it. -/
lemma Rewrites.passes_or_loses {acquired : List Acquired} {blocks : List (List Finding)}
    {final : String} (h : Rewrites text acquired blocks final)
    (hscan : ∀ a ∈ acquired, a.1.callee.scan = .balanced)
    (hname : ∀ a ∈ acquired, ∀ c ∈ a.1.callee.name, continuesName c = true)
    (hcall : IsClosedCall name text.toList call) :
    (∃ last, Passes name text call acquired final last) ∨ Loses name text call acquired := by
  -- The call moves with every entry, so the induction is for all calls.
  induction h generalizing call with
  | done => exact Or.inl ⟨call, .done⟩
  | skipped more ih =>
    rcases ih (List.forall_mem_cons.mp hscan).2 (List.forall_mem_cons.mp hname).2 hcall with
      ⟨last, hlast⟩ | hloses
    · exact Or.inl ⟨last, .skipped hlast⟩
    · exact Or.inr (hloses.skipped _ _)
  | @rewritten text final entry icons rest blocks more ih =>
    obtain ⟨hscanFirst, hscanRest⟩ := List.forall_mem_cons.mp hscan
    obtain ⟨hnameFirst, hnameRest⟩ := List.forall_mem_cons.mp hname
    rcases hcall.goesOver_or_meets icons hscanFirst hnameFirst with
      ⟨calls, call', hgreedy, hgoes⟩ | ⟨other, hreplaces, hmeets⟩
    · have hcall' : IsClosedCall name
          (String.ofList (entry.replaceCalls icons text).text).toList call' := by
        rw [String.toList_ofList]
        exact hgoes.closed
      rcases ih hscanRest hnameRest hcall' with ⟨last, hlast⟩ | hloses
      · exact Or.inl ⟨last, .carried hgreedy hgoes hlast⟩
      · exact Or.inr (hloses.carried hgreedy hgoes)
    · exact Or.inr ⟨[], entry, icons, rest, text, call, other, rfl, .done, hcall, hreplaces,
        hmeets⟩

end Passing

end IconInline.Proofs
