import IconInline.CallSite.Replacement
import Mathlib.Tactic.Common

/-!
# Findings of a fixed look-up

If the look-up has no effects, the outcome of replacing calls is a function of the segments. Each
of its findings reports a literal of an icon that the look-up knows, or an icon that is unknown; and
the call that an unknown icon was named by stands in the new text as it stood in the old one.
-/

namespace IconInline.Proofs
open CallSite

/-- The identifier that a finding reports as replaced. -/
def replacedIcon? : Finding → Option String
  | .replaced identifier _ => some identifier
  | _ => none

/-- The outcomes of two parts of a text, joined. -/
def followedBy (a b : Replacement) : Replacement :=
  ⟨a.text ++ b.text, a.replaced ++ b.replaced, a.findings ++ b.findings⟩

section FixedLookUp

variable (resolve : String → Option IconCode)

/-- What a fixed look-up answers. An empty identifier names no icon. -/
def known (identifier : String) : Option IconCode :=
  if identifier.isEmpty then none else resolve identifier

/-- The outcome of replacing the calls among segments by a fixed look-up. -/
def outcomeOf (segments : List Segment) : Replacement :=
  Id.run (replaceSegments (fun identifier => pure (resolve identifier)) segments)

variable {resolve} {segments rest : List Segment} {source argument : List Char}
  {identifier : String} {finding : Finding} {icon : IconCode} {out : Replacement}

@[simp] lemma outcomeOf_nil : outcomeOf resolve [] = {} := rfl

@[simp] lemma outcomeOf_plain :
    outcomeOf resolve (.plain source :: rest) = (outcomeOf resolve rest).keep source := rfl

@[simp] lemma outcomeOf_call :
    outcomeOf resolve (.call source argument :: rest) =
      (outcomeOf resolve rest).examined source (String.ofList (namedIcon argument))
        (known resolve (String.ofList (namedIcon argument))) := by
  rw [outcomeOf, replaceSegments, known]
  split <;> rfl

variable (resolve) in
lemma outcomeOf_append (before rest : List Segment) :
    outcomeOf resolve (before ++ rest) =
      followedBy (outcomeOf resolve before) (outcomeOf resolve rest) := by
  induction before with
  | nil => simp [followedBy]
  | cons segment before ih =>
    cases segment with
    | plain source => simp [ih, followedBy, Replacement.keep]
    | call source argument =>
      rw [List.cons_append, outcomeOf_call, outcomeOf_call, ih]
      cases known resolve (String.ofList (namedIcon argument)) with
      | none => simp [followedBy, Replacement.examined]
      | some icon => simp [followedBy, Replacement.examined]

lemma resolve_of_known (h : known resolve identifier = some icon) :
    resolve identifier = some icon := by
  rw [known] at h
  split at h
  · cases h
  · exact h

lemma replaced_examined (h : out.replaced = out.findings.filterMap replacedIcon?)
    (found : Option IconCode) :
    (out.examined source identifier found).replaced =
      (out.examined source identifier found).findings.filterMap replacedIcon? := by
  cases found with
  | none => exact h
  | some icon => exact congrArg (identifier :: ·) h

lemma replaced_outcomeOf (resolve : String → Option IconCode) (segments : List Segment) :
    (outcomeOf resolve segments).replaced =
      (outcomeOf resolve segments).findings.filterMap replacedIcon? := by
  induction segments with
  | nil => rfl
  | cons segment rest ih =>
    cases segment with
    | plain source => exact ih
    | call source argument =>
      rw [outcomeOf_call]
      exact replaced_examined ih _

/-- A finding is on the icon that the argument of a call names. -/
lemma exists_call_of_finding (h : finding ∈ (outcomeOf resolve segments).findings) :
    ∃ source argument, .call source argument ∈ segments ∧
      (finding = .unknownIcon (String.ofList (namedIcon argument)) ∨
        ∃ icon, resolve (String.ofList (namedIcon argument)) = some icon ∧
          finding = .replaced (String.ofList (namedIcon argument)) icon.literal) := by
  induction segments with
  | nil => cases h
  | cons segment rest ih =>
    cases segment with
    | plain source =>
      obtain ⟨source, argument, hmem, hfinding⟩ := ih h
      exact ⟨source, argument, List.mem_cons_of_mem _ hmem, hfinding⟩
    | call source argument =>
      rw [outcomeOf_call] at h
      cases hknown : known resolve (String.ofList (namedIcon argument)) with
      | none =>
        rw [hknown, Replacement.examined, List.mem_cons] at h
        rcases h with rfl | hrest
        · exact ⟨source, argument, List.mem_cons_self, Or.inl rfl⟩
        · obtain ⟨source, argument, hmem, hfinding⟩ := ih hrest
          exact ⟨source, argument, List.mem_cons_of_mem _ hmem, hfinding⟩
      | some icon =>
        rw [hknown, Replacement.examined, List.mem_cons] at h
        rcases h with rfl | hrest
        · exact ⟨source, argument, List.mem_cons_self,
            Or.inr ⟨icon, resolve_of_known hknown, rfl⟩⟩
        · obtain ⟨source, argument, hmem, hfinding⟩ := ih hrest
          exact ⟨source, argument, List.mem_cons_of_mem _ hmem, hfinding⟩

/-- A literal is the one of the icon that the look-up answers. -/
lemma exists_icon_of_replaced {literal : String}
    (h : .replaced identifier literal ∈ (outcomeOf resolve segments).findings) :
    ∃ icon, resolve identifier = some icon ∧ literal = icon.literal := by
  obtain ⟨-, argument, -, hunknown | ⟨icon, hicon, hreplaced⟩⟩ := exists_call_of_finding h
  · cases hunknown
  · cases hreplaced
    exact ⟨icon, hicon, rfl⟩

/-- A call whose icon is unknown stays where it is between what the other segments become. -/
lemma exists_call_of_unknownIcon
    (h : .unknownIcon identifier ∈ (outcomeOf resolve segments).findings) :
    ∃ before source argument after, segments = before ++ .call source argument :: after ∧
      String.ofList (namedIcon argument) = identifier ∧
      (outcomeOf resolve segments).text =
        (outcomeOf resolve before).text ++ source ++ (outcomeOf resolve after).text := by
  induction segments with
  | nil => cases h
  | cons segment rest ih =>
    cases segment with
    | plain plain =>
      obtain ⟨before, source, argument, after, rfl, hnamed, htext⟩ := ih h
      refine ⟨.plain plain :: before, source, argument, after, rfl, hnamed, ?_⟩
      simp only [outcomeOf_plain, Replacement.keep, htext, List.append_assoc]
    | call first named =>
      rw [outcomeOf_call] at h
      cases hknown : known resolve (String.ofList (namedIcon named)) with
      | none =>
        rw [hknown, Replacement.examined, List.mem_cons] at h
        rcases h with hhead | hrest
        · cases hhead
          refine ⟨[], first, named, rest, rfl, rfl, ?_⟩
          simp [hknown, Replacement.examined]
        · obtain ⟨before, source, argument, after, rfl, hnamed, htext⟩ := ih hrest
          refine ⟨.call first named :: before, source, argument, after, rfl, hnamed, ?_⟩
          simp [hknown, Replacement.examined, htext]
      | some icon =>
        rw [hknown, Replacement.examined, List.mem_cons] at h
        obtain ⟨before, source, argument, after, rfl, hnamed, htext⟩ := ih (h.resolve_left nofun)
        refine ⟨.call first named :: before, source, argument, after, rfl, hnamed, ?_⟩
        simp [hknown, Replacement.examined, htext]

end FixedLookUp

end IconInline.Proofs
