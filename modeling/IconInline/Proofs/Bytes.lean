import IconInline.Source.Cut
import Mathlib.Tactic.Common

/-!
# Characters and bytes

A position in a text is the number of bytes before it. This file gives the bytes of a text in
UTF-8, the sizes of joined texts, and when a slice between two byte offsets exists: just if both
offsets lie between characters.
-/

namespace IconInline.Proofs
open Text Source

/-- The bytes of a text in UTF-8. -/
def utf8 (cs : List Char) : List UInt8 := cs.flatMap String.utf8EncodeChar

@[simp] lemma utf8_nil : utf8 [] = [] := rfl

@[simp] lemma utf8_cons (c : Char) (cs : List Char) :
    utf8 (c :: cs) = String.utf8EncodeChar c ++ utf8 cs := rfl

@[simp] lemma utf8_append (as bs : List Char) : utf8 (as ++ bs) = utf8 as ++ utf8 bs := by
  simp [utf8]

@[simp] lemma byteSize_nil : byteSize [] = 0 := rfl

@[simp] lemma byteSize_cons (c : Char) (cs : List Char) :
    byteSize (c :: cs) = c.utf8Size + byteSize cs := rfl

@[simp] lemma byteSize_append (as bs : List Char) :
    byteSize (as ++ bs) = byteSize as + byteSize bs := by
  induction as with
  | nil => simp
  | cons c as ih =>
    rw [List.cons_append, byteSize_cons, byteSize_cons, ih]
    omega

@[simp] lemma length_utf8 (cs : List Char) : (utf8 cs).length = byteSize cs := by
  induction cs with
  | nil => rfl
  | cons c cs ih => simp [ih]

lemma length_le_byteSize (cs : List Char) : cs.length ≤ byteSize cs := by
  induction cs with
  | nil => exact Nat.le_refl 0
  | cons c cs ih =>
    have hpos := c.utf8Size_pos
    rw [List.length_cons, byteSize_cons]
    omega

lemma byteSize_eq_zero_iff {cs : List Char} : byteSize cs = 0 ↔ cs = [] := by
  cases cs with
  | nil => simp
  | cons c cs =>
    have hpos := c.utf8Size_pos
    simp only [byteSize_cons, reduceCtorEq, iff_false]
    omega

/-- Of two fronts of a text the one of fewer bytes is a front of the other. -/
lemma prefix_of_byteSize_le {as bs text : List Char} (ha : as <+: text) (hb : bs <+: text)
    (h : byteSize as ≤ byteSize bs) : as <+: bs := by
  rcases List.prefix_or_prefix_of_prefix ha hb with hab | ⟨more, rfl⟩
  · exact hab
  · rw [byteSize_append] at h
    have hmore : more = [] := byteSize_eq_zero_iff.mp (by omega)
    subst hmore
    simp

lemma append_inj_of_byteSize {as as' bs bs' : List Char} (h : as ++ bs = as' ++ bs')
    (hsize : byteSize as = byteSize as') : as = as' ∧ bs = bs' := by
  have hfront : as <+: as' :=
    prefix_of_byteSize_le (List.prefix_append as bs) (h ▸ List.prefix_append as' bs')
      (Nat.le_of_eq hsize)
  obtain ⟨more, rfl⟩ := hfront
  rw [byteSize_append] at hsize
  have hmore : more = [] := byteSize_eq_zero_iff.mp (by omega)
  subst hmore
  simpa using h

lemma dropBytes_eq_some_iff {n : Nat} {cs after : List Char} :
    dropBytes n cs = some after ↔ ∃ before, cs = before ++ after ∧ byteSize before = n := by
  fun_induction dropBytes n cs with
  | case1 cs =>
    simp only [Option.some_inj, byteSize_eq_zero_iff]
    constructor
    · rintro rfl
      exact ⟨[], rfl, rfl⟩
    · rintro ⟨before, rfl, rfl⟩
      rfl
  | case2 n =>
    simp only [reduceCtorEq, false_iff]
    rintro ⟨before, hnil, hsize⟩
    rw [(List.append_eq_nil_iff.mp hnil.symm).1] at hsize
    cases hsize
  | case3 n c rest hfits ih =>
    rw [ih]
    clear ih
    constructor
    · rintro ⟨before, rfl, hsize⟩
      refine ⟨c :: before, rfl, ?_⟩
      rw [byteSize_cons]
      omega
    · rintro ⟨before, hcs, hsize⟩
      cases before with
      | nil => cases hsize
      | cons d before =>
        obtain ⟨rfl, rfl⟩ := List.cons_eq_cons.mp hcs
        rw [byteSize_cons] at hsize
        exact ⟨before, rfl, by omega⟩
  | case4 n c rest hlarge =>
    simp only [reduceCtorEq, false_iff]
    rintro ⟨before, hcs, hsize⟩
    cases before with
    | nil => cases hsize
    | cons d before =>
      obtain ⟨rfl, rfl⟩ := List.cons_eq_cons.mp hcs
      rw [byteSize_cons] at hsize
      omega

lemma takeBytes_eq_some_iff {n : Nat} {cs before : List Char} :
    takeBytes n cs = some before ↔ (∃ after, cs = before ++ after) ∧ byteSize before = n := by
  fun_induction takeBytes n cs generalizing before with
  | case1 cs =>
    simp only [Option.some_inj, byteSize_eq_zero_iff]
    constructor
    · rintro rfl
      exact ⟨⟨cs, rfl⟩, rfl⟩
    · rintro ⟨-, rfl⟩
      rfl
  | case2 n =>
    simp only [reduceCtorEq, false_iff]
    rintro ⟨⟨after, hnil⟩, hsize⟩
    rw [(List.append_eq_nil_iff.mp hnil.symm).1] at hsize
    cases hsize
  | case3 n c rest hfits ih =>
    rw [Option.map_eq_some_iff]
    constructor
    · rintro ⟨front, hfront, rfl⟩
      obtain ⟨⟨after, rfl⟩, hsize⟩ := ih.mp hfront
      clear ih
      refine ⟨⟨after, rfl⟩, ?_⟩
      rw [byteSize_cons]
      omega
    · rintro ⟨⟨after, hcs⟩, hsize⟩
      cases before with
      | nil => cases hsize
      | cons d front =>
        obtain ⟨rfl, rfl⟩ := List.cons_eq_cons.mp hcs
        rw [byteSize_cons] at hsize
        have hfront : byteSize front = n + 1 - c.utf8Size := by
          clear ih
          omega
        exact ⟨front, ih.mpr ⟨⟨after, rfl⟩, hfront⟩, rfl⟩
  | case4 n c rest hlarge =>
    simp only [reduceCtorEq, false_iff]
    rintro ⟨⟨after, hcs⟩, hsize⟩
    cases before with
    | nil => cases hsize
    | cons d front =>
      obtain ⟨rfl, rfl⟩ := List.cons_eq_cons.mp hcs
      rw [byteSize_cons] at hsize
      omega

/-- The slice between two offsets is the part of the text that has this much before it. -/
lemma slice_eq_some_iff {start stop : Nat} {text part : List Char} :
    slice start stop text = some part ↔
      ∃ before after, text = before ++ part ++ after ∧
        byteSize before = start ∧ byteSize (before ++ part) = stop := by
  unfold slice
  constructor
  · intro h
    split at h
    · next hle =>
      obtain ⟨rest, hrest, hpart⟩ := Option.bind_eq_some_iff.mp h
      obtain ⟨before, rfl, hbefore⟩ := dropBytes_eq_some_iff.mp hrest
      obtain ⟨⟨after, rfl⟩, hsize⟩ := takeBytes_eq_some_iff.mp hpart
      refine ⟨before, after, (List.append_assoc _ _ _).symm, hbefore, ?_⟩
      rw [byteSize_append]
      omega
    · cases h
  · rintro ⟨before, after, rfl, hstart, hstop⟩
    rw [byteSize_append] at hstop
    rw [if_pos (by omega), Option.bind_eq_some_iff]
    refine ⟨part ++ after, ?_, ?_⟩
    · exact dropBytes_eq_some_iff.mpr ⟨before, List.append_assoc _ _ _, hstart⟩
    · exact takeBytes_eq_some_iff.mpr ⟨⟨after, rfl⟩, by omega⟩

/-! ## The bytes of one character -/

lemma utf8Size_of_ascii {c : Char} (h : c.toNat ≤ 0x7f) : c.utf8Size = 1 :=
  Char.utf8Size_eq_one_iff.mpr (UInt32.le_iff_toNat_le.mpr h)

lemma utf8EncodeChar_of_ascii {c : Char} (h : c.toNat ≤ 0x7f) :
    String.utf8EncodeChar c = [UInt8.ofNat c.toNat] :=
  if_pos h

/-- No byte of a character beyond ASCII is an ASCII byte. -/
lemma lt_of_mem_utf8EncodeChar {c : Char} (h : ¬c.toNat ≤ 0x7f) :
    ∀ b ∈ String.utf8EncodeChar c, 0x7f < b.toNat := by
  have hbyte : ∀ n, 0x7f < n → n < 0x100 → 0x7f < (UInt8.ofNat n).toNat := by
    intro n hlow hhigh
    rwa [UInt8.toNat_ofNat_of_lt' hhigh]
  change ¬c.val.toNat ≤ 0x7f at h
  unfold String.utf8EncodeChar
  dsimp only
  rw [if_neg h]
  split
  · simp only [List.forall_mem_cons, List.not_mem_nil, false_implies, implies_true, and_true]
    exact ⟨hbyte _ (by omega) (by omega), hbyte _ (by omega) (by omega)⟩
  · split
    · simp only [List.forall_mem_cons, List.not_mem_nil, false_implies, implies_true, and_true]
      exact ⟨hbyte _ (by omega) (by omega), hbyte _ (by omega) (by omega),
        hbyte _ (by omega) (by omega)⟩
    · simp only [List.forall_mem_cons, List.not_mem_nil, false_implies, implies_true, and_true]
      exact ⟨hbyte _ (by omega) (by omega), hbyte _ (by omega) (by omega),
        hbyte _ (by omega) (by omega), hbyte _ (by omega) (by omega)⟩

/-- An ASCII character stands at an offset just if its byte does. -/
lemma head?_eq_some_iff_getElem?_utf8 {cs : List Char} {c : Char} (h : c.toNat ≤ 0x7f) :
    cs.head? = some c ↔ (utf8 cs)[0]? = some (UInt8.ofNat c.toNat) := by
  cases cs with
  | nil => simp
  | cons d rest =>
    rw [List.head?_cons, Option.some_inj, utf8_cons]
    by_cases hd : d.toNat ≤ 0x7f
    · rw [utf8EncodeChar_of_ascii hd, List.singleton_append, List.getElem?_cons_zero,
        Option.some_inj, ← UInt8.toNat_inj, UInt8.toNat_ofNat_of_lt' (by show _ < 256; omega),
        UInt8.toNat_ofNat_of_lt' (by show _ < 256; omega), Char.toNat_inj]
    · have hpos : 0 < (String.utf8EncodeChar d).length := by
        rw [String.length_utf8EncodeChar]
        exact d.utf8Size_pos
      rw [List.getElem?_append_left hpos, List.getElem?_eq_getElem hpos, Option.some_inj]
      have hbyte := lt_of_mem_utf8EncodeChar hd _ (List.getElem_mem hpos)
      constructor
      · rintro rfl
        exact absurd h hd
      · intro heq
        rw [heq, UInt8.toNat_ofNat_of_lt' (by show _ < 256; omega)] at hbyte
        omega

end IconInline.Proofs
