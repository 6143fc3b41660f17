import IconInline.CallSite.Closing
import IconInline.Proofs.Bytes

/-!
# The closing scan on characters and on bytes

The scan for the parenthesis that closes a call reads signs. Read off the bytes of a text or
off its characters, it stops at the same place, because every byte of a character beyond ASCII
is a sign without meaning and so is the character itself.
-/

namespace IconInline.Proofs
open Text CallSite

/-- The byte offset of the parenthesis that matches the one at a byte offset of a text. -/
def closingAt? (text : List Char) (opening : Nat) : Option Nat :=
  (closing? (((utf8 text).drop opening).map Sign.ofByte)).map (opening + ·)

/-- Where the scan stands after a sign without meaning. -/
def pastOther (d : Depth) : Depth := if d.quote.isSome then { d with escaped := false } else d

lemma step_other (d : Depth) : d.step .other = .onward (pastOther d) := by
  obtain ⟨brackets, quote, escaped⟩ := d
  cases quote <;> cases escaped <;> rfl

lemma pastOther_pastOther (d : Depth) : pastOther (pastOther d) = pastOther d := by
  obtain ⟨brackets, quote, escaped⟩ := d
  cases quote <;> rfl

lemma closingFrom_other (d : Depth) (signs : List Sign) :
    closingFrom d (.other :: signs) = (closingFrom (pastOther d) signs).map (· + 1) := by
  rw [closingFrom, step_other]

lemma closingFrom_others (d : Depth) (k : Nat) (signs : List Sign) :
    closingFrom d (List.replicate (k + 1) .other ++ signs) =
      (closingFrom (pastOther d) signs).map (· + (k + 1)) := by
  induction k generalizing d with
  | zero => exact closingFrom_other d signs
  | succ k ih =>
    rw [List.replicate_succ, List.cons_append, closingFrom_other, ih, pastOther_pastOther,
      Option.map_map]
    rfl

lemma ofNat_eq_other {n : Nat} (h : 0x7f < n) : Sign.ofNat n = .other := by
  unfold Sign.ofNat
  repeat rw [if_neg (by omega)]

lemma ofChar_eq_other {c : Char} (h : ¬c.toNat ≤ 0x7f) : Sign.ofChar c = .other :=
  ofNat_eq_other (by omega)

lemma signs_of_ascii {c : Char} (h : c.toNat ≤ 0x7f) :
    (String.utf8EncodeChar c).map Sign.ofByte = [Sign.ofChar c] := by
  rw [utf8EncodeChar_of_ascii h, List.map_cons, List.map_nil, Sign.ofByte,
    UInt8.toNat_ofNat_of_lt' (by show _ < 256; omega), Sign.ofChar]

lemma signs_of_not_ascii {c : Char} (h : ¬c.toNat ≤ 0x7f) :
    (String.utf8EncodeChar c).map Sign.ofByte = List.replicate c.utf8Size .other := by
  rw [List.eq_replicate_iff, List.length_map, String.length_utf8EncodeChar]
  refine ⟨rfl, ?_⟩
  intro s hs
  obtain ⟨b, hb, rfl⟩ := List.mem_map.mp hs
  exact ofNat_eq_other (lt_of_mem_utf8EncodeChar h b hb)

/-- The scan over the bytes of a text stops where the scan over its characters does. -/
lemma closingFrom_utf8 (d : Depth) (cs : List Char) :
    closingFrom d ((utf8 cs).map Sign.ofByte) =
      (closingFrom d (cs.map Sign.ofChar)).map (fun n => byteSize (cs.take n)) := by
  induction cs generalizing d with
  | nil => rfl
  | cons c rest ih =>
    rw [utf8_cons, List.map_append, List.map_cons]
    by_cases hascii : c.toNat ≤ 0x7f
    · rw [signs_of_ascii hascii, List.singleton_append, closingFrom, closingFrom]
      cases d.step (Sign.ofChar c) with
      | onward d' =>
        dsimp only
        rw [ih, Option.map_map, Option.map_map]
        congr 1
        funext n
        simp only [Function.comp_apply, List.take_succ_cons, byteSize_cons,
          utf8Size_of_ascii hascii]
        omega
      | closed => rfl
      | mismatched => rfl
    · obtain ⟨k, hk⟩ : ∃ k, c.utf8Size = k + 1 :=
        Nat.exists_eq_succ_of_ne_zero (Nat.ne_of_gt c.utf8Size_pos)
      rw [signs_of_not_ascii hascii, hk, closingFrom_others, ofChar_eq_other hascii,
        closingFrom_other, ih, Option.map_map, Option.map_map]
      congr 1
      funext n
      simp only [Function.comp_apply, List.take_succ_cons, byteSize_cons, hk]
      omega

/-- The byte offset at which a call closes, for a parenthesis between two parts of a text. -/
lemma closingAt?_eq (before after : List Char) :
    closingAt? (before ++ after) (byteSize before) =
      (closing? (after.map Sign.ofChar)).map
        (fun n => byteSize before + byteSize (after.take n)) := by
  have hdrop : (utf8 (before ++ after)).drop (byteSize before) = utf8 after := by
    rw [utf8_append, ← length_utf8, List.drop_left]
  rw [closingAt?, hdrop, closing?, closingFrom_utf8, Option.map_map]
  rfl

/-! ## Where the scan stands -/

section Scanned

variable {d d' : Depth} {as : List Sign}

/-- Where the scan stands behind some signs, unless it stops among them. -/
def scanned (d : Depth) : List Sign → Option Depth
  | [] => some d
  | s :: rest =>
    match d.step s with
    | .onward d' => scanned d' rest
    | _ => none

lemma scanned_append (d : Depth) (as bs : List Sign) :
    scanned d (as ++ bs) = (scanned d as).bind fun d' => scanned d' bs := by
  induction as generalizing d with
  | nil => rfl
  | cons s as ih =>
    rw [List.cons_append, scanned, scanned]
    cases d.step s with
    | onward d' => exact ih d'
    | closed => rfl
    | mismatched => rfl

lemma closingFrom_append_of_scanned (h : scanned d as = some d') (bs : List Sign) :
    closingFrom d (as ++ bs) = (closingFrom d' bs).map (· + as.length) := by
  induction as generalizing d with
  | nil =>
    cases h
    simp
  | cons s as ih =>
    rw [scanned] at h
    rw [List.cons_append, closingFrom]
    cases hstep : d.step s with
    | onward d₁ =>
      rw [hstep] at h
      dsimp only at h ⊢
      rw [ih h, Option.map_map]
      rfl
    | closed =>
      rw [hstep] at h
      cases h
    | mismatched =>
      rw [hstep] at h
      cases h

end Scanned

/-! ## Where the scan stops -/

lemma step_eq_closed_iff {d : Depth} {s : Sign} :
    d.step s = .closed ↔ d.quote = none ∧ d.brackets = 1 ∧ s = .closing true := by
  obtain ⟨brackets, quote, escaped⟩ := d
  constructor
  · intro h
    unfold Depth.step at h
    grind
  · rintro ⟨rfl, rfl, rfl⟩
    rfl

/-- The scan stops at the first round parenthesis that it reaches with one bracket open. -/
lemma closingFrom_eq_some_iff {d : Depth} {signs : List Sign} {n : Nat} :
    closingFrom d signs = some n ↔
      ∃ front rest d', signs = front ++ .closing true :: rest ∧ front.length = n ∧
        scanned d front = some d' ∧ d'.quote = none ∧ d'.brackets = 1 := by
  constructor
  · intro h
    induction signs generalizing d n with
    | nil => cases h
    | cons s rest ih =>
      rw [closingFrom] at h
      cases hstep : d.step s with
      | onward d₁ =>
        rw [hstep] at h
        obtain ⟨k, hk, rfl⟩ := Option.map_eq_some_iff.mp h
        obtain ⟨front, rest, d', rfl, rfl, hscanned, hend⟩ := ih hk
        refine ⟨s :: front, rest, d', rfl, rfl, ?_, hend⟩
        rw [scanned, hstep]
        exact hscanned
      | closed =>
        rw [hstep] at h
        cases h
        obtain ⟨hquote, hbrackets, rfl⟩ := step_eq_closed_iff.mp hstep
        exact ⟨[], rest, d, rfl, rfl, rfl, hquote, hbrackets⟩
      | mismatched =>
        rw [hstep] at h
        cases h
  · rintro ⟨front, rest, d', rfl, rfl, hscanned, hquote, hbrackets⟩
    rw [closingFrom_append_of_scanned hscanned, closingFrom,
      step_eq_closed_iff.mpr ⟨hquote, hbrackets, rfl⟩]
    simp

lemma getElem?_of_closingFrom {d : Depth} {signs : List Sign} {n : Nat}
    (h : closingFrom d signs = some n) : signs[n]? = some (.closing true) := by
  induction signs generalizing d n with
  | nil => cases h
  | cons s rest ih =>
    rw [closingFrom] at h
    split at h
    · obtain ⟨k, hk, rfl⟩ := Option.map_eq_some_iff.mp h
      rw [List.getElem?_cons_succ]
      exact ih hk
    · next hclosed =>
      cases h
      rw [List.getElem?_cons_zero, (step_eq_closed_iff.mp hclosed).2.2]
    · cases h

lemma closing?_pos {signs : List Sign} {n : Nat} (h : closing? signs = some n) : 0 < n := by
  cases signs with
  | nil => cases h
  | cons s rest =>
    rw [closing?, closingFrom] at h
    split at h
    · obtain ⟨k, -, rfl⟩ := Option.map_eq_some_iff.mp h
      exact k.succ_pos
    · next hclosed => cases (step_eq_closed_iff.mp hclosed).2.1
    · cases h

lemma ofNat_eq_closing_round {n : Nat} (h : Sign.ofNat n = .closing true) : n = 0x29 := by
  unfold Sign.ofNat at h
  grind

lemma eq_of_ofChar_eq_closing_round {c : Char} (h : Sign.ofChar c = .closing true) : c = ')' := by
  have hnat := ofNat_eq_closing_round h
  exact Char.toNat_inj.mp hnat

/-- A closed text after a name is an opening parenthesis, the argument, the parenthesis that
closes the call, and the rest. -/
lemma eq_of_closing? {after : List Char} {n : Nat} (hopen : after.head? = some '(')
    (h : closing? (after.map Sign.ofChar) = some n) :
    after.take n = '(' :: (after.take n).drop 1 ∧
      after = after.take n ++ ')' :: after.drop (n + 1) := by
  have hsign := getElem?_of_closingFrom h
  rw [List.getElem?_map, Option.map_eq_some_iff] at hsign
  obtain ⟨c, hc, hround⟩ := hsign
  obtain rfl := eq_of_ofChar_eq_closing_round hround
  obtain ⟨hn, hget⟩ := List.getElem?_eq_some_iff.mp hc
  constructor
  · obtain ⟨rest, rfl⟩ := List.head?_eq_some_iff.mp hopen
    obtain ⟨k, rfl⟩ := Nat.exists_eq_succ_of_ne_zero (Nat.ne_of_gt (closing?_pos h))
    rfl
  · rw [← hget, ← List.drop_eq_getElem_cons hn, List.take_append_drop]

end IconInline.Proofs
