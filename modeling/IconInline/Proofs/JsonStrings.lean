import IconInline.Proofs.Bytes
import IconInline.Proofs.ReaderSteps

/-!
# Strings in JSON text

The characters of a string are written as they are or behind a backslash: by a letter, by the four
hexadecimal digits of their code, or by two codes that form a pair. The reader returns the string
of the characters that are written up to the closing quote, and refuses everything else.
-/

namespace IconInline.Proofs
open Json Json.Reader

/-- The character whose code is given by two codes of a pair. -/
def pairChar (high low : Nat) : Char :=
  Char.ofNat ((high - 0xd800) * 0x400 + (low - 0xdc00) + 0x10000)

/-- The character that is written behind `\u`, and the rest. -/
inductive WritesCode : List Char → Char → List Char → Prop
  | one {cs rest : List Char} {n : Nat} (hn : Text.hexDigits? 4 0 cs = some (n, rest))
      (hsingle : n < 0xd800 ∨ 0xdfff < n) : WritesCode cs (Char.ofNat n) rest
  | pair {cs between rest : List Char} {high low : Nat}
      (hhigh : Text.hexDigits? 4 0 cs = some (high, '\\' :: 'u' :: between))
      (hfirst : 0xd800 ≤ high ∧ high ≤ 0xdbff)
      (hlow : Text.hexDigits? 4 0 between = some (low, rest))
      (hsecond : 0xdc00 ≤ low ∧ low ≤ 0xdfff) : WritesCode cs (pairChar high low) rest

/-- The character that is written behind a backslash, and the rest. -/
inductive WritesEscape : List Char → Char → List Char → Prop
  | letter {l x : Char} {rest : List Char} (hx : plainEscape? l = some x) :
      WritesEscape (l :: rest) x rest
  | code {cs rest : List Char} {x : Char} (hx : WritesCode cs x rest) :
      WritesEscape ('u' :: cs) x rest

/-- The characters that are written up to a closing quote, and what stands behind it. -/
inductive WritesChars : List Char → List Char → List Char → Prop
  | close (rest : List Char) : WritesChars ('"' :: rest) [] rest
  | plain {x : Char} {cs xs rest : List Char} (hquote : x ≠ '"') (hslash : x ≠ '\\')
      (hcontrol : ¬ x.val < 0x20) (more : WritesChars cs xs rest) :
      WritesChars (x :: cs) (x :: xs) rest
  | escape {x : Char} {cs mid xs rest : List Char} (hx : WritesEscape cs x mid)
      (more : WritesChars mid xs rest) : WritesChars ('\\' :: cs) (x :: xs) rest

section Reading

variable {cs rest : List Char} {o n : Nat} {x y : Char} {u : Unit} {s : String}

lemma length_of_hexDigits? {k v : Nat} (h : Text.hexDigits? k v cs = some (n, rest)) :
    cs.length = rest.length + k := by
  induction k generalizing v cs with
  | zero =>
    cases h
    rfl
  | succ k ih =>
    cases cs with
    | nil => cases h
    | cons c cs =>
      obtain ⟨d, -, h⟩ := Option.bind_eq_some_iff.mp h
      rw [List.length_cons, ih h, Nat.add_assoc]

lemma reads_fourHexDigits :
    Reads fourHexDigits ⟨cs, o⟩ n rest ↔ Text.hexDigits? 4 0 cs = some (n, rest) := by
  unfold fourHexDigits
  rw [reads_get_bind]
  by_cases hsize : Text.byteSize cs < 4
  · have hnone : Text.hexDigits? 4 0 cs ≠ some (n, rest) := by
      intro h
      have hlength := length_of_hexDigits? h
      have hle := length_le_byteSize cs
      omega
    simp [hsize, hnone]
  · cases hdigits : Text.hexDigits? 4 0 cs with
    | none => simp [hsize]
    | some r =>
      simp only [hsize, if_false, reads_set_bind, reads_pure, Option.some.injEq, Prod.ext_iff]

lemma reads_pairSign_bind {α : Type} {f : Unit → Reader α} {a : α} :
    Reads (pairSign y >>= f) ⟨cs, o⟩ a rest ↔
      ∃ mid, cs = y :: mid ∧ Reads (f ()) ⟨mid, o + y.utf8Size⟩ a rest := by
  unfold pairSign
  cases cs with
  | nil => simp [bind_assoc]
  | cons c cs =>
    by_cases hc : c = y
    · subst hc
      simp [bind_assoc]
    · simp [bind_assoc, hc]

lemma reads_lowCode {high : Nat} :
    Reads (do
      let low ← fourHexDigits
      if low < 0xdc00 ∨ 0xdfff < low then fail .loneSurrogate
      else return Char.ofNat ((high - 0xd800) * 0x400 + (low - 0xdc00) + 0x10000)) ⟨cs, o⟩ x rest ↔
    ∃ low, Text.hexDigits? 4 0 cs = some (low, rest) ∧ (0xdc00 ≤ low ∧ low ≤ 0xdfff) ∧
      pairChar high low = x := by
  rw [reads_bind_iff
    (Q := fun low mid => (0xdc00 ≤ low ∧ low ≤ 0xdfff) ∧ pairChar high low = x ∧ mid = rest)
    fun _ _ => reads_fourHexDigits]
  · constructor
    · rintro ⟨low, _, hlow, hsecond, hx, rfl⟩
      exact ⟨low, hlow, hsecond, hx⟩
    · rintro ⟨low, hlow, hsecond, hx⟩
      exact ⟨low, rest, hlow, hsecond, hx, rfl⟩
  · intro low mid o _
    by_cases hsecond : low < 0xdc00 ∨ 0xdfff < low
    · have hrange : ¬ (0xdc00 ≤ low ∧ low ≤ 0xdfff) := by omega
      simp only [hsecond, hrange, if_true, not_reads_fail, false_and]
    · have hrange : 0xdc00 ≤ low ∧ low ≤ 0xdfff := by omega
      simp only [if_neg hsecond, reads_pure, hrange, and_self, true_and, pairChar]

lemma reads_unicodeEscape : Reads unicodeEscape ⟨cs, o⟩ x rest ↔ WritesCode cs x rest := by
  unfold unicodeEscape
  rw [reads_bind_iff (Q := fun high mid =>
    ((high < 0xd800 ∨ 0xdfff < high) ∧ Char.ofNat high = x ∧ mid = rest) ∨
      (0xd800 ≤ high ∧ high ≤ 0xdbff) ∧ ∃ after, mid = '\\' :: after ∧ ∃ between,
        after = 'u' :: between ∧ ∃ low, Text.hexDigits? 4 0 between = some (low, rest) ∧
          (0xdc00 ≤ low ∧ low ≤ 0xdfff) ∧ pairChar high low = x)
    fun _ _ => reads_fourHexDigits]
  · constructor
    · rintro ⟨high, mid, hhigh, ⟨hsingle, rfl, rfl⟩ |
        ⟨hfirst, _, rfl, between, rfl, low, hlow, hsecond, rfl⟩⟩
      · exact .one hhigh hsingle
      · exact .pair hhigh hfirst hlow hsecond
    · rintro (⟨hn, hsingle⟩ | ⟨hhigh, hfirst, hlow, hsecond⟩)
      · exact ⟨_, _, hn, .inl ⟨hsingle, rfl, rfl⟩⟩
      · exact ⟨_, _, hhigh, .inr ⟨hfirst, _, rfl, _, rfl, _, hlow, hsecond, rfl⟩⟩
  · intro high mid o _
    by_cases hlone : 0xdc00 ≤ high ∧ high ≤ 0xdfff
    · have hsingle : ¬ (high < 0xd800 ∨ 0xdfff < high) := by omega
      have hfirst : ¬ (0xd800 ≤ high ∧ high ≤ 0xdbff) := by omega
      simp only [hlone, hsingle, hfirst, and_self, if_true, not_reads_fail, false_and, or_self]
    · rw [if_neg hlone]
      by_cases hpair : high < 0xd800 ∨ 0xdbff < high
      · have hsingle : high < 0xd800 ∨ 0xdfff < high := by omega
        have hfirst : ¬ (0xd800 ≤ high ∧ high ≤ 0xdbff) := by omega
        simp only [hpair, hsingle, hfirst, if_true, reads_pure, true_and, false_and, or_false]
      · have hsingle : ¬ (high < 0xd800 ∨ 0xdfff < high) := by omega
        have hfirst : 0xd800 ≤ high ∧ high ≤ 0xdbff := by omega
        simp only [if_neg hpair, reads_pairSign_bind, reads_lowCode, hsingle, hfirst, and_self,
          false_and, false_or, true_and]

lemma reads_escape : Reads escape ⟨cs, o⟩ x rest ↔ WritesEscape cs x rest := by
  unfold escape
  rw [reads_peek_bind]
  cases cs with
  | nil =>
    refine iff_of_false (by simp) ?_
    rintro ⟨⟩
  | cons l cs =>
    by_cases hu : l = 'u'
    · subst hu
      simp only [List.head?_cons, reads_skip_bind, reads_unicodeEscape]
      refine ⟨.code, ?_⟩
      rintro (⟨⟨⟩⟩ | ⟨hx⟩)
      exact hx
    · have hletter : WritesEscape (l :: cs) x rest ↔ plainEscape? l = some x ∧ cs = rest := by
        constructor
        · rintro (⟨hx⟩ | ⟨hx⟩)
          · exact ⟨hx, rfl⟩
          · exact absurd rfl hu
        · rintro ⟨hx, rfl⟩
          exact .letter hx
      rw [hletter]
      cases hl : plainEscape? l with
      | none => simp [hl]
      | some x' => simp only [List.head?_cons, hl, reads_skip_bind, reads_pure, Option.some.injEq]

lemma WritesCode.length_lt (h : WritesCode cs x rest) : rest.length < cs.length := by
  cases h with
  | one hn =>
    have := length_of_hexDigits? hn
    omega
  | pair hhigh _ hlow =>
    have hfirst := length_of_hexDigits? hhigh
    have hsecond := length_of_hexDigits? hlow
    simp only [List.length_cons] at hfirst
    omega

lemma WritesEscape.length_lt (h : WritesEscape cs x rest) : rest.length < cs.length := by
  cases h with
  | letter => simp
  | code hx =>
    have := hx.length_lt
    rw [List.length_cons]
    omega

lemma not_writesChars_nil {xs : List Char} : ¬ WritesChars [] xs rest := by
  rintro ⟨⟩

lemma writesChars_quote_iff {xs : List Char} :
    WritesChars ('"' :: cs) xs rest ↔ xs = [] ∧ cs = rest := by
  constructor
  · intro h
    cases h with
    | close => exact ⟨rfl, rfl⟩
    | plain hquote => exact absurd rfl hquote
  · rintro ⟨rfl, rfl⟩
    exact .close _

lemma writesChars_slash_iff {xs : List Char} :
    WritesChars ('\\' :: cs) xs rest ↔
      ∃ x mid, WritesEscape cs x mid ∧ ∃ more, WritesChars mid more rest ∧ xs = x :: more := by
  constructor
  · intro h
    cases h with
    | plain _ hslash => exact absurd rfl hslash
    | escape hx hmore => exact ⟨_, _, hx, _, hmore, rfl⟩
  · rintro ⟨x, mid, hx, more, hmore, rfl⟩
    exact .escape hx hmore

lemma writesChars_plain_iff {xs : List Char} (hquote : x ≠ '"') (hslash : x ≠ '\\') :
    WritesChars (x :: cs) xs rest ↔
      ¬ x.val < 0x20 ∧ ∃ more, WritesChars cs more rest ∧ xs = x :: more := by
  constructor
  · intro h
    cases h with
    | close => exact absurd rfl hquote
    | plain _ _ hcontrol hmore => exact ⟨hcontrol, _, hmore, rfl⟩
    | escape => exact absurd rfl hslash
  · rintro ⟨hcontrol, more, hmore, rfl⟩
    exact .plain hquote hslash hcontrol hmore

lemma reads_stringRest {fuel : Nat} (hfuel : cs.length < fuel) (read : List Char) :
    Reads (stringRest fuel read) ⟨cs, o⟩ s rest ↔
      ∃ xs, WritesChars cs xs rest ∧ String.ofList (read.reverse ++ xs) = s := by
  induction fuel generalizing cs o read with
  | zero => omega
  | succ fuel ih =>
    rw [stringRest, reads_peek_bind]
    cases cs with
    | nil => simp [not_writesChars_nil]
    | cons c cs =>
      rw [List.length_cons] at hfuel
      by_cases hquote : c = '"'
      · subst hquote
        simp only [List.head?_cons, reads_skip_bind, reads_pure, writesChars_quote_iff]
        constructor
        · rintro ⟨hs, rfl⟩
          exact ⟨[], ⟨rfl, rfl⟩, by simpa using hs⟩
        · rintro ⟨_, ⟨rfl, rfl⟩, hs⟩
          exact ⟨by simpa using hs, rfl⟩
      by_cases hslash : c = '\\'
      · subst hslash
        simp only [List.head?_cons, reads_skip_bind, writesChars_slash_iff]
        rw [reads_bind_iff (fun _ _ => reads_escape) fun x mid o hx =>
          ih (by have := hx.length_lt; omega) (x :: read)]
        constructor
        · rintro ⟨x, mid, hx, more, hmore, hs⟩
          exact ⟨_, ⟨x, mid, hx, more, hmore, rfl⟩, by simpa using hs⟩
        · rintro ⟨_, ⟨x, mid, hx, more, hmore, rfl⟩, hs⟩
          exact ⟨x, mid, hx, more, hmore, by simpa using hs⟩
      by_cases hcontrol : c.val < 0x20
      · simp [hcontrol, writesChars_plain_iff hquote hslash]
      · simp only [List.head?_cons, hcontrol, if_false, reads_skip_bind,
          writesChars_plain_iff hquote hslash, not_false_eq_true, true_and]
        rw [ih (by omega) (c :: read)]
        constructor
        · rintro ⟨more, hmore, hs⟩
          exact ⟨_, ⟨more, hmore, rfl⟩, by simpa using hs⟩
        · rintro ⟨_, ⟨more, hmore, rfl⟩, hs⟩
          exact ⟨more, hmore, by simpa using hs⟩

lemma reads_string : Reads Reader.string ⟨'"' :: cs, o⟩ s rest ↔
    ∃ xs, WritesChars cs xs rest ∧ String.ofList xs = s := by
  unfold Reader.string
  rw [reads_skip_bind, reads_fuel_bind, reads_stringRest (Nat.lt_succ_self _)]
  rfl

lemma WritesChars.length_lt {xs : List Char} (h : WritesChars cs xs rest) :
    rest.length < cs.length := by
  induction h with
  | close => simp
  | plain _ _ _ _ ih => exact Nat.lt_succ_of_lt ih
  | escape hx _ ih => exact Nat.lt_succ_of_lt (ih.trans hx.length_lt)

end Reading

end IconInline.Proofs
