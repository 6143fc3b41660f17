import IconInline.Icon.Literal
import IconInline.Proofs.Bytes
import IconInline.Script.Lexer

/-!
# The values of literals

The literal of an encoded icon is read back as one string token, and the value of this token is the
text of the icon, whatever characters it holds.
-/

namespace IconInline.Proofs
open Text Script Script.Lexer Literal

/-- A text is one string literal of the script language, from its first character to its last, and
this is its value. -/
def EvaluatesTo (literal value : String) : Prop :=
  ∃ escaped, lexeme literal.toList =
    { kind := .string, size := byteSize literal.toList, rest := [], text := value.toList, escaped }

lemma EvaluatesTo.unique {literal a b : String} (ha : EvaluatesTo literal a)
    (hb : EvaluatesTo literal b) : a = b := by
  obtain ⟨_, ha⟩ := ha
  obtain ⟨_, hb⟩ := hb
  exact String.toList_inj.mp (congrArg Lexeme.text (ha.symm.trans hb))

section Escapes

variable {c : Char} {cs tail body rest : List Char} {fuel : Nat}

lemma escape_eq_self_or (c : Char) :
    escape c = [c] ∧ c ≠ '\'' ∧ c ≠ '\\' ∧ c ≠ '\n' ∧ c ≠ '\r' ∨
      ∃ d, escape c = ['\\', d] ∧ d ≠ '\r' ∧
        ∀ more, stringEscape? true (d :: more) = some ([c], more) := by
  unfold escape
  split
  · exact Or.inr ⟨'\'', rfl, by decide, fun _ => rfl⟩
  · exact Or.inr ⟨'\\', rfl, by decide, fun _ => rfl⟩
  · exact Or.inr ⟨'n', rfl, by decide, fun _ => rfl⟩
  · exact Or.inr ⟨'r', rfl, by decide, fun _ => rfl⟩
  · next hquote hslash hfeed hreturn => exact Or.inl ⟨rfl, hquote, hslash, hfeed, hreturn⟩

lemma stringBody?_escape (h : stringBody? '\'' tail = some (body, rest)) :
    stringBody? '\'' (escape c ++ tail) = some (escape c ++ body, rest) := by
  rcases escape_eq_self_or c with ⟨hplain, hquote, hslash, hfeed, hreturn⟩ | ⟨d, hescape, hd, -⟩
  · rw [hplain, List.singleton_append, stringBody?, if_neg hquote, if_neg (by tauto), h]
    · rfl
    · intro _ heq
      exact absurd heq hslash
    · intro _ _ heq
      exact absurd heq hslash
  · rw [hescape, List.cons_append, List.singleton_append, stringBody?, h]
    · rfl
    · intro _ heq
      exact absurd heq hd

lemma unescape?_escape (h : unescape? true fuel tail = some cs) :
    unescape? true (fuel + 1) (escape c ++ tail) = some (c :: cs) := by
  rcases escape_eq_self_or c with ⟨hplain, -, hslash, -⟩ | ⟨d, hescape, -, hd⟩
  · rw [hplain, List.singleton_append, unescape?, h]
    · rfl
    · exact hslash
  · rw [hescape, List.cons_append, List.singleton_append, unescape?, hd]
    simp [h]

end Escapes

lemma stringBody?_flatMap_escape (cs rest : List Char) :
    stringBody? '\'' (cs.flatMap escape ++ '\'' :: rest) = some (cs.flatMap escape, rest) := by
  induction cs with
  | nil => rfl
  | cons c cs ih =>
    rw [List.flatMap_cons, List.append_assoc]
    exact stringBody?_escape ih

lemma unescape?_flatMap_escape {fuel : Nat} (cs : List Char) (hfuel : cs.length ≤ fuel) :
    unescape? true fuel (cs.flatMap escape) = some cs := by
  induction cs generalizing fuel with
  | nil => cases fuel <;> rfl
  | cons c cs ih =>
    obtain ⟨fuel, rfl⟩ := Nat.exists_eq_add_one_of_ne_zero (Nat.ne_of_gt (Nat.lt_of_lt_of_le
      (Nat.succ_pos cs.length) hfuel))
    exact unescape?_escape (ih (Nat.le_of_succ_le_succ hfuel))

lemma length_le_length_flatMap_escape (cs : List Char) :
    cs.length ≤ (cs.flatMap escape).length := by
  induction cs with
  | nil => exact Nat.le_refl 0
  | cons c cs ih =>
    have hone : 1 ≤ (escape c).length := by
      rcases escape_eq_self_or c with ⟨h, -⟩ | ⟨d, h, -⟩ <;> simp [h]
    rw [List.flatMap_cons, List.length_append, List.length_cons]
    omega

lemma flatMap_escape_eq_self {cs : List Char} (h : '\\' ∉ cs.flatMap escape) :
    cs.flatMap escape = cs := by
  induction cs with
  | nil => rfl
  | cons c cs ih =>
    rw [List.flatMap_cons, List.mem_append, not_or] at h
    rcases escape_eq_self_or c with ⟨hplain, -⟩ | ⟨d, hescape, -⟩
    · rw [List.flatMap_cons, hplain, List.singleton_append, ih h.2]
    · exact absurd (hescape ▸ List.mem_cons_self) h.1

/-- What is written between quotes is read back. -/
theorem literal_evaluatesTo (icon : IconCode) : EvaluatesTo icon.literal icon.text := by
  generalize hcs : icon.text.toList = cs
  have hliteral : icon.literal.toList = '\'' :: (cs.flatMap escape ++ ['\'']) := by
    rw [IconCode.literal, String.toList_ofList, quote, hcs, List.cons_append]
  have hsize : byteSize icon.literal.toList = byteSize (cs.flatMap escape) + 2 := by
    rw [hliteral, byteSize_cons, byteSize_append, Nat.add_left_comm]
    rfl
  rw [EvaluatesTo, hsize, hliteral, hcs]
  rw [lexeme, string, stringBody?_flatMap_escape]
  by_cases hslash : '\\' ∈ cs.flatMap escape
  · have hvalue := unescape?_flatMap_escape cs
      (Nat.le_succ_of_le (length_le_length_flatMap_escape cs))
    refine ⟨true, ?_⟩
    dsimp only
    rw [if_pos (List.contains_iff_mem.mpr hslash), hvalue]
  · refine ⟨false, ?_⟩
    dsimp only
    rw [if_neg (mt List.contains_iff_mem.mp hslash), flatMap_escape_eq_self hslash]

end IconInline.Proofs
