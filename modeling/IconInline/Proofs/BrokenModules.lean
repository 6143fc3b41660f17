import IconInline.Proofs.PackageRemoval

/-!
# Modules that a removal breaks

What goes with a dynamic import is the innermost declaration around it, whatever this declaration is
itself a part of. Behind `export`, in the head of a loop or as the body of a branch something has to
stand there, so a well-formed module may become one that is not, and then the removals that follow
give up. Even a whole import declaration may end the statement before it, which then goes on.
-/

namespace IconInline.Proofs
open Script Source Imports

def WellFormed (dialect : Dialect) (text : String) : Prop :=
  ∃ module, Outlines.ofText? dialect text.toList = some module

/-- A well-formed module is none any more once the imports of some specifiers are removed. -/
def Breaks (dialect : Dialect) (specifiers : List String) (text : String) : Prop :=
  WellFormed dialect text ∧ ¬WellFormed dialect (remove dialect specifiers text).text

section Removals

variable {dialect : Dialect} {specifiers : List String} {text final : String}
  {lists : List (List String)} {found : List String}

lemma malformed_iff :
    (remove dialect specifiers text).malformed = true ↔ ¬WellFormed dialect text := by
  rw [remove]
  cases hmodule : Outlines.ofText? dialect text.toList with
  | none => simp [WellFormed, hmodule]
  | some module => simp [WellFormed, hmodule, removeOutlined]

/-- Removals stop behind the one that breaks the module, so it is the last of them. -/
lemma RemovesInTurn.exists_breaks (h : RemovesInTurn dialect text lists found final)
    (hwell : WellFormed dialect text) (hbad : ¬WellFormed dialect final) :
    ∃ done targets earlier reached, lists = done ++ [targets] ∧
      RemovesInTurn dialect text done earlier reached ∧ Breaks dialect targets reached ∧
      final = (remove dialect targets reached).text := by
  induction h with
  | done => exact absurd hwell hbad
  | @next text final targets rest found wellFormed more ih =>
    by_cases hnext : WellFormed dialect (remove dialect targets text).text
    · obtain ⟨done, last, earlier, reached, rfl, hturn, hbreaks, hfinal⟩ := ih hnext hbad
      exact ⟨targets :: done, last, _, reached, rfl, .next wellFormed hturn, hbreaks, hfinal⟩
    · cases more with
      | done => exact ⟨[], targets, [], text, rfl, .done, ⟨hwell, hnext⟩, rfl⟩
      | next wellFormed' =>
        rw [malformed_iff.mpr hnext] at wellFormed'
        cases wellFormed'

end Removals

end IconInline.Proofs
