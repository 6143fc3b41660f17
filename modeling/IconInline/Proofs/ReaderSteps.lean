import IconInline.Json.Reader
import Mathlib.Data.List.TakeWhile
import Mathlib.Tactic.Common

/-!
# Steps of a JSON reader

What a reader returns and leaves of a text does not depend on the bytes before it. The outcome of
a reader is therefore described by the value that it returns and the rest of the text, and the
outcome of one reader behind another is put together from theirs.
-/

namespace IconInline.Proofs
open Json Json.Reader

variable {α β : Type} {c : Cursor} {cs rest : List Char} {o : Nat} {a : α} {b : β} {x : Char}

/-- The reader returns `a` and leaves `rest`. -/
def Reads (r : Reader α) (c : Cursor) (a : α) (rest : List Char) : Prop :=
  ∃ o, r c = .ok a ⟨rest, o⟩

/-- What stands behind a gap. -/
def pastGap (cs : List Char) : List Char := cs.dropWhile isGap

lemma isGap_eq_false_of_pastGap (h : pastGap cs = x :: rest) : isGap x = false := by
  rw [pastGap] at h
  have hhead := List.head?_dropWhile_not isGap cs
  simpa [h] using hhead

lemma pastGap_cons (h : isGap x = false) : pastGap (x :: cs) = x :: cs := by
  simp [pastGap, h]

lemma pastGap_pastGap (cs : List Char) : pastGap (pastGap cs) = pastGap cs := by
  cases h : pastGap cs with
  | nil => rfl
  | cons x rest => exact pastGap_cons (isGap_eq_false_of_pastGap h)

lemma length_pastGap (cs : List Char) : (pastGap cs).length ≤ cs.length :=
  (List.dropWhile_suffix _).length_le

lemma length_lt_of_pastGap (h : pastGap cs = x :: rest) : rest.length < cs.length := by
  have hle := length_pastGap cs
  rw [h, List.length_cons] at hle
  omega

section Primitives

variable {f : α → Reader β} {r : Reader α}

@[simp] lemma reads_pure {b : α} : Reads (pure a) ⟨cs, o⟩ b rest ↔ a = b ∧ cs = rest := by
  simp [Reads, pure, EStateM.pure]

@[simp] lemma not_reads_throw {fault : Fault} : ¬ Reads (throw fault) c a rest := by
  rintro ⟨o, ho⟩
  cases ho

@[simp] lemma not_reads_fail {cause : Cause} : ¬ Reads (fail cause) c a rest := by
  rintro ⟨o, ho⟩
  cases ho

@[simp] lemma not_reads_failNext {cause : Cause} : ¬ Reads (failNext cause) c a rest := by
  rintro ⟨o, ho⟩
  cases ho

lemma reads_bind : Reads (r >>= f) c b rest ↔
    ∃ a mid o, r c = .ok a ⟨mid, o⟩ ∧ Reads (f a) ⟨mid, o⟩ b rest := by
  simp only [Reads, bind, EStateM.bind]
  cases hr : r c with
  | ok a c' =>
    obtain ⟨mid, o⟩ := c'
    simp
  | error e c' => simp

lemma reads_bind_of_eq {c' : Cursor} (h : r c = .ok a c') :
    Reads (r >>= f) c b rest ↔ Reads (f a) c' b rest := by
  obtain ⟨mid, o⟩ := c'
  rw [reads_bind]
  simp [h]

/-- A reader behind another, when both outcomes are known. -/
lemma reads_bind_iff {P Q : α → List Char → Prop} (hr : ∀ a mid, Reads r c a mid ↔ P a mid)
    (hf : ∀ a mid o, P a mid → (Reads (f a) ⟨mid, o⟩ b rest ↔ Q a mid)) :
    Reads (r >>= f) c b rest ↔ ∃ a mid, P a mid ∧ Q a mid := by
  rw [reads_bind]
  constructor
  · rintro ⟨a, mid, o, ha, hb⟩
    have hP := (hr a mid).mp ⟨o, ha⟩
    exact ⟨a, mid, hP, (hf a mid o hP).mp hb⟩
  · rintro ⟨a, mid, hP, hQ⟩
    obtain ⟨o, ho⟩ := (hr a mid).mpr hP
    exact ⟨a, mid, o, ho, (hf a mid o hP).mpr hQ⟩

@[simp] lemma not_reads_failNext_bind {cause : Cause} :
    ¬ Reads (failNext cause >>= f) c b rest := by
  rintro ⟨o, ho⟩
  cases ho

@[simp] lemma not_reads_fail_bind {cause : Cause} : ¬ Reads (fail cause >>= f) c b rest := by
  rintro ⟨o, ho⟩
  cases ho

@[simp] lemma not_reads_throw_bind {fault : Fault} : ¬ Reads (throw fault >>= f) c b rest := by
  rintro ⟨o, ho⟩
  cases ho

@[simp] lemma reads_set_bind {f : Unit → Reader β} {c' : Cursor} :
    Reads (set c' >>= f) c b rest ↔ Reads (f ()) c' b rest := Iff.rfl

@[simp] lemma reads_pure_bind : Reads (pure a >>= f) c b rest ↔ Reads (f a) c b rest := Iff.rfl

@[simp] lemma reads_get_bind {f : Cursor → Reader β} :
    Reads (get >>= f) c b rest ↔ Reads (f c) c b rest := Iff.rfl

@[simp] lemma reads_peek_bind {f : Option Char → Reader β} :
    Reads (peek >>= f) ⟨cs, o⟩ b rest ↔ Reads (f cs.head?) ⟨cs, o⟩ b rest := Iff.rfl

@[simp] lemma reads_fuel_bind {f : Nat → Reader β} :
    Reads (fuel >>= f) ⟨cs, o⟩ b rest ↔ Reads (f (cs.length + 1)) ⟨cs, o⟩ b rest := Iff.rfl

@[simp] lemma reads_skip_bind {f : Unit → Reader β} :
    Reads (skip >>= f) ⟨x :: cs, o⟩ b rest ↔ Reads (f ()) ⟨cs, o + x.utf8Size⟩ b rest := Iff.rfl

lemma drop_length_takeWhile (p : Char → Bool) (cs : List Char) :
    cs.drop (cs.takeWhile p).length = cs.dropWhile p := by
  induction cs with
  | nil => rfl
  | cons x cs ih => by_cases h : p x = true <;> simp [h, ih]

@[simp] lemma reads_takeWhile_bind {p : Char → Bool} {f : List Char → Reader β} :
    Reads (takeWhile p >>= f) ⟨cs, o⟩ b rest ↔
      Reads (f (cs.takeWhile p))
        ⟨cs.dropWhile p, o + Text.byteSize (cs.takeWhile p)⟩ b rest := by
  rw [← drop_length_takeWhile]
  rfl

@[simp] lemma reads_peekPart_bind {f : Option Char → Reader β} :
    Reads (peekPart >>= f) ⟨cs, o⟩ b rest ↔
      Reads (f (pastGap cs).head?)
        ⟨pastGap cs, o + Text.byteSize (cs.takeWhile isGap)⟩ b rest := by
  rw [pastGap, ← drop_length_takeWhile]
  rfl

end Primitives

end IconInline.Proofs
