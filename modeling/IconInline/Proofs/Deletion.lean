import IconInline.Proofs.Bytes

/-!
# Cutting deletes the union of the spans

Spans that nest or lie apart are cut out of a text in one sweep. What is left is the text
without the bytes in any of the spans and without the line feed directly behind a span. The
sweep never has to cut a character, and a span that it passes over lies in one that it removed.
-/

namespace IconInline.Proofs
open Text Source

/-- The bytes at the offsets of a region are deleted and all others kept in order; the offset of
the first byte is given. -/
inductive Deletes (region : Nat → Prop) : Nat → List UInt8 → List UInt8 → Prop where
  | nil {i : Nat} : Deletes region i [] []
  | keep {i : Nat} {b : UInt8} {bytes kept : List UInt8} (outside : ¬region i)
    (rest : Deletes region (i + 1) bytes kept) : Deletes region i (b :: bytes) (b :: kept)
  | drop {i : Nat} {b : UInt8} {bytes kept : List UInt8} (inside : region i)
    (rest : Deletes region (i + 1) bytes kept) : Deletes region i (b :: bytes) kept

section Deletes

variable {region other : Nat → Prop} {i : Nat}

lemma Deletes.append {as bs keptA keptB : List UInt8} (ha : Deletes region i as keptA)
    (hb : Deletes region (i + as.length) bs keptB) :
    Deletes region i (as ++ bs) (keptA ++ keptB) := by
  induction ha with
  | nil => exact hb
  | keep outside rest ih =>
    rw [List.length_cons, Nat.add_comm _ 1, ← Nat.add_assoc] at hb
    exact Deletes.keep outside (ih hb)
  | drop inside rest ih =>
    rw [List.length_cons, Nat.add_comm _ 1, ← Nat.add_assoc] at hb
    exact Deletes.drop inside (ih hb)

lemma Deletes.all_kept {bytes : List UInt8}
    (h : ∀ j, i ≤ j → j < i + bytes.length → ¬region j) : Deletes region i bytes bytes := by
  induction bytes generalizing i with
  | nil => exact Deletes.nil
  | cons b bytes ih =>
    rw [List.length_cons] at h
    refine Deletes.keep (h i (by omega) (by omega)) (ih ?_)
    intro j hlow hhigh
    exact h j (by omega) (by omega)

lemma Deletes.all_deleted {bytes : List UInt8}
    (h : ∀ j, i ≤ j → j < i + bytes.length → region j) : Deletes region i bytes [] := by
  induction bytes generalizing i with
  | nil => exact Deletes.nil
  | cons b bytes ih =>
    rw [List.length_cons] at h
    refine Deletes.drop (h i (by omega) (by omega)) (ih ?_)
    intro j hlow hhigh
    exact h j (by omega) (by omega)

/-- Only the offsets from the first one on matter. -/
lemma Deletes.congr {bytes kept : List UInt8} (h : Deletes region i bytes kept)
    (heq : ∀ j, i ≤ j → (region j ↔ other j)) : Deletes other i bytes kept := by
  induction h with
  | nil => exact Deletes.nil
  | @keep i b bytes kept outside rest ih =>
    refine Deletes.keep (fun hother => outside ((heq i (Nat.le_refl i)).mpr hother)) (ih ?_)
    intro j hj
    exact heq j (by omega)
  | @drop i b bytes kept inside rest ih =>
    refine Deletes.drop ((heq i (Nat.le_refl i)).mp inside) (ih ?_)
    intro j hj
    exact heq j (by omega)

lemma Deletes.exists_append {as bs kept : List UInt8} (h : Deletes region i (as ++ bs) kept) :
    ∃ keptA keptB, kept = keptA ++ keptB ∧ Deletes region i as keptA ∧
      Deletes region (i + as.length) bs keptB := by
  induction as generalizing i kept with
  | nil => exact ⟨[], kept, rfl, Deletes.nil, h⟩
  | cons b as ih =>
    cases h with
    | keep outside rest =>
      obtain ⟨keptA, keptB, rfl, ha, hb⟩ := ih rest
      rw [Nat.add_assoc, Nat.add_comm 1] at hb
      exact ⟨b :: keptA, keptB, rfl, Deletes.keep outside ha, hb⟩
    | drop inside rest =>
      obtain ⟨keptA, keptB, rfl, ha, hb⟩ := ih rest
      rw [Nat.add_assoc, Nat.add_comm 1] at hb
      exact ⟨keptA, keptB, rfl, Deletes.drop inside ha, hb⟩

lemma Deletes.eq_self {bytes kept : List UInt8} (h : Deletes region i bytes kept)
    (houtside : ∀ j, i ≤ j → j < i + bytes.length → ¬region j) : kept = bytes := by
  induction h with
  | nil => rfl
  | keep outside rest ih =>
    rw [List.length_cons] at houtside
    rw [ih fun j hlow hhigh => houtside j (by omega) (by omega)]
  | drop inside rest ih =>
    rw [List.length_cons] at houtside
    exact absurd inside (houtside _ (Nat.le_refl _) (by omega))

end Deletes

/-! ## Regions -/

/-- A byte offset between two characters of a text. -/
def IsBoundary (text : List Char) (offset : Nat) : Prop :=
  ∃ before after, text = before ++ after ∧ byteSize before = offset

/-- A line feed stands at a byte offset of a text. -/
def LineFeedAt (text : List Char) (offset : Nat) : Prop := (utf8 text)[offset]? = some 0x0a

/-- A span holds a byte offset, or the line feed directly behind the span stands there. -/
def Covers (text : List Char) (span : Span) (offset : Nat) : Prop :=
  span.start ≤ offset ∧ (offset < span.stop ∨ offset = span.stop ∧ LineFeedAt text span.stop)

def Covered (text : List Char) (spans : List Span) (offset : Nat) : Prop :=
  ∃ span ∈ spans, Covers text span offset

/-- A span of some characters of a text of which the first is no line feed. -/
structure Placed (text : List Char) (span : Span) : Prop where
  nonempty : span.start < span.stop
  start_boundary : IsBoundary text span.start
  stop_boundary : IsBoundary text span.stop
  start_not_lineFeed : ¬LineFeedAt text span.start

def Apart (a b : Span) : Prop := a.stop ≤ b.start ∨ b.stop ≤ a.start

/-- A span lies in another one and begins after it. -/
def InsideOf (outer inner : Span) : Prop := outer.start < inner.start ∧ inner.stop ≤ outer.stop

/-- Any two spans are the same, apart, or one inside the other. -/
def Laminar (spans : List Span) : Prop :=
  ∀ a ∈ spans, ∀ b ∈ spans, a = b ∨ Apart a b ∨ InsideOf a b ∨ InsideOf b a

lemma IsBoundary.le_byteSize {text : List Char} {offset : Nat} (h : IsBoundary text offset) :
    offset ≤ byteSize text := by
  obtain ⟨before, after, rfl, rfl⟩ := h
  rw [byteSize_append]
  omega

lemma isBoundary_iff_isSome_dropBytes (text : List Char) (offset : Nat) :
    IsBoundary text offset ↔ (dropBytes offset text).isSome := by
  simp only [Option.isSome_iff_exists, dropBytes_eq_some_iff]
  exact exists_comm

instance (text : List Char) (offset : Nat) : Decidable (IsBoundary text offset) :=
  decidable_of_iff _ (isBoundary_iff_isSome_dropBytes text offset).symm

instance (text : List Char) (offset : Nat) : Decidable (LineFeedAt text offset) :=
  inferInstanceAs (Decidable (_ = _))

instance (text : List Char) (span : Span) : Decidable (Placed text span) :=
  decidable_of_iff
    ((span.start < span.stop ∧ IsBoundary text span.start) ∧
      IsBoundary text span.stop ∧ ¬LineFeedAt text span.start)
    ⟨fun ⟨⟨h₁, h₂⟩, h₃, h₄⟩ => ⟨h₁, h₂, h₃, h₄⟩, fun ⟨h₁, h₂, h₃, h₄⟩ => ⟨⟨h₁, h₂⟩, h₃, h₄⟩⟩

lemma lineFeedAt_append (before after : List Char) :
    LineFeedAt (before ++ after) (byteSize before) ↔ after.head? = some '\n' := by
  rw [LineFeedAt, utf8_append, List.getElem?_append_right (by simp), length_utf8,
    Nat.sub_self, head?_eq_some_iff_getElem?_utf8 (by decide)]
  rfl

/-- The offset behind a span and the line feed that goes with it. -/
lemma resume_spec {text : List Char} {stop : Nat} (h : IsBoundary text stop) :
    IsBoundary text (resume text stop) ∧ stop ≤ resume text stop ∧
      (∀ j, stop ≤ j → (j < resume text stop ↔ j = stop ∧ LineFeedAt text stop)) := by
  obtain ⟨before, after, rfl, rfl⟩ := h
  have hdrop : dropBytes (byteSize before) (before ++ after) = some after :=
    dropBytes_eq_some_iff.mpr ⟨before, rfl, rfl⟩
  rw [resume, hdrop, Option.bind_some, lineFeedAt_append]
  split
  · next hfeed =>
    obtain ⟨rest, rfl⟩ := List.head?_eq_some_iff.mp hfeed
    refine ⟨⟨before ++ ['\n'], rest, by simp, by rw [byteSize_append]; rfl⟩, by omega, ?_⟩
    intro j hj
    simp only [List.head?_cons, and_true]
    omega
  · next hfeed =>
    refine ⟨⟨before, after, rfl, rfl⟩, Nat.le_refl _, ?_⟩
    intro j hj
    simp only [hfeed, and_false, iff_false]
    omega

lemma Placed.covers_iff {text : List Char} {span : Span} (h : Placed text span) (j : Nat) :
    Covers text span j ↔ span.start ≤ j ∧ j < resume text span.stop := by
  obtain ⟨-, hle, hfeed⟩ := resume_spec h.stop_boundary
  rw [Covers]
  by_cases hj : span.stop ≤ j
  · rw [hfeed j hj]
    constructor
    · rintro ⟨hlow, hlt | hend⟩
      · omega
      · exact ⟨hlow, hend⟩
    · rintro ⟨hlow, hend⟩
      exact ⟨hlow, Or.inr hend⟩
  · have hlt : j < span.stop := by omega
    constructor
    · rintro ⟨hlow, -⟩
      exact ⟨hlow, by omega⟩
    · rintro ⟨hlow, -⟩
      exact ⟨hlow, Or.inl hlt⟩

/-- Behind a span it makes no difference to what is covered. -/
lemma Placed.covered_cons_iff {text : List Char} {span : Span} {rest : List Span}
    (h : Placed text span) {j : Nat} (hj : resume text span.stop ≤ j) :
    Covered text rest j ↔ Covered text (span :: rest) j := by
  simp only [Covered, List.mem_cons, exists_eq_or_imp]
  refine (or_iff_right ?_).symm
  rw [h.covers_iff]
  omega

/-- Of two spans that are not apart, the one that begins first reaches at least as far. -/
lemma resume_le_resume {text : List Char} {a b : Span} (ha : Placed text a) (hb : Placed text b)
    (hab : a = b ∨ Apart a b ∨ InsideOf a b ∨ InsideOf b a) (hstart : a.start ≤ b.start)
    (hreach : b.start < resume text a.stop) : resume text b.stop ≤ resume text a.stop := by
  obtain ⟨-, hlea, hfeeda⟩ := resume_spec ha.stop_boundary
  obtain ⟨-, -, hfeedb⟩ := resume_spec hb.stop_boundary
  have hposb := hb.nonempty
  rcases hab with rfl | (hapart | hapart) | ⟨-, hinner⟩ | ⟨hlt, -⟩
  · exact Nat.le_refl _
  · -- The second span would begin on the line feed behind the first.
    obtain ⟨heq, hfeed⟩ := (hfeeda b.start hapart).mp hreach
    exact absurd (heq ▸ hfeed) hb.start_not_lineFeed
  · omega
  · by_cases heq : b.stop = a.stop
    · exact Nat.le_of_eq (congrArg (resume text) heq)
    · have hone : ¬b.stop + 1 < resume text b.stop := by
        intro hlt
        have hend := ((hfeedb _ (Nat.le_succ _)).mp hlt).1
        omega
      omega
  · omega

/-! ## The sweep -/

/-- In front of a span nothing is covered, and up to where the text continues behind it all is. -/
lemma deletes_cons {text before mid gone behind kept : List Char} {span : Span} {rest : List Span}
    (hspan : Placed text span) (hfirst : ∀ s ∈ rest, span.start ≤ s.start)
    (hstart : byteSize before + byteSize mid = span.start)
    (hresume : byteSize (before ++ mid ++ gone) = resume text span.stop)
    (hrest : Deletes (Covered text rest) (byteSize (before ++ mid ++ gone)) (utf8 behind)
      (utf8 kept)) :
    Deletes (Covered text (span :: rest)) (byteSize before) (utf8 (mid ++ gone ++ behind))
      (utf8 (mid ++ kept)) := by
  have hmid : Deletes (Covered text (span :: rest)) (byteSize before) (utf8 mid) (utf8 mid) := by
    refine Deletes.all_kept ?_
    rintro j - hhigh ⟨s, hs, hlow, -⟩
    rw [length_utf8, hstart] at hhigh
    rcases List.mem_cons.mp hs with rfl | hs
    · omega
    · have hle := hfirst s hs
      omega
  have hgone : Deletes (Covered text (span :: rest)) (byteSize before + (utf8 mid).length)
      (utf8 gone) [] := by
    refine Deletes.all_deleted ?_
    intro j hlow hhigh
    simp only [length_utf8, byteSize_append] at hlow hhigh hresume
    exact ⟨span, List.mem_cons_self, (hspan.covers_iff j).mpr (by omega)⟩
  have hbehind : Deletes (Covered text (span :: rest))
      (byteSize before + (utf8 mid ++ utf8 gone).length) (utf8 behind) (utf8 kept) := by
    rw [← utf8_append, length_utf8, ← byteSize_append, ← List.append_assoc]
    refine hrest.congr ?_
    intro j hj
    exact hspan.covered_cons_iff (by omega)
  have hall := (hmid.append hgone).append hbehind
  rwa [List.append_nil, ← utf8_append, ← utf8_append, ← utf8_append] at hall

/-- The sweep goes through from any place to which it has come, and from there on deletes just
what the spans ahead cover. -/
lemma sweep_deletes {text before after : List Char} (htext : text = before ++ after)
    {rest : List Span} (hsorted : rest.Pairwise (fun a b => a.start ≤ b.start))
    (hplaced : ∀ s ∈ rest, Placed text s) (hlaminar : Laminar rest)
    (hpassed : ∀ s ∈ rest, s.start < byteSize before → resume text s.stop ≤ byteSize before) :
    ∃ kept, sweep text (byteSize text) (byteSize before) rest = some kept ∧
      Deletes (Covered text rest) (byteSize before) (utf8 after) (utf8 kept) := by
  induction rest generalizing before after with
  | nil =>
    refine ⟨after, dropBytes_eq_some_iff.mpr ⟨before, htext, rfl⟩, Deletes.all_kept ?_⟩
    simp [Covered]
  | cons span rest ih =>
    have hspan : Placed text span := hplaced span List.mem_cons_self
    have hplaced' : ∀ s ∈ rest, Placed text s := fun s hs => hplaced s (List.mem_cons_of_mem _ hs)
    have hlaminar' : Laminar rest := fun a ha b hb =>
      hlaminar a (List.mem_cons_of_mem _ ha) b (List.mem_cons_of_mem _ hb)
    obtain ⟨hfirst, hsorted'⟩ := List.pairwise_cons.mp hsorted
    by_cases hbegun : span.start < byteSize before
    · -- Passing over this span loses nothing: all that it covers is behind us.
      have hbehind := hpassed span List.mem_cons_self hbegun
      obtain ⟨kept, hkept, hdeletes⟩ := ih htext hsorted' hplaced' hlaminar'
        (fun s hs => hpassed s (List.mem_cons_of_mem _ hs))
      refine ⟨kept, by rw [sweep, if_pos (Or.inl hbegun), hkept], hdeletes.congr ?_⟩
      intro j hj
      exact hspan.covered_cons_iff (by omega)
    · obtain ⟨front, back, hfront, hfrontSize⟩ := hspan.start_boundary
      obtain ⟨⟨upTo, behind, hupTo, hupToSize⟩, hstop, -⟩ := resume_spec hspan.stop_boundary
      have hpos := hspan.nonempty
      have hwithin : ¬(span.start < byteSize before ∨ byteSize text < span.stop) := by
        have hle := hspan.stop_boundary.le_byteSize
        omega
      -- The text is what is behind us, the characters kept, the characters deleted, the rest.
      obtain ⟨mid, rfl⟩ : before <+: front :=
        prefix_of_byteSize_le ⟨after, htext.symm⟩ ⟨back, hfront.symm⟩ (by omega)
      obtain ⟨gone, rfl⟩ : before ++ mid <+: upTo :=
        prefix_of_byteSize_le ⟨back, hfront.symm⟩ ⟨behind, hupTo.symm⟩ (by omega)
      have hafter : after = mid ++ gone ++ behind := by
        have hsplit := htext.symm.trans hupTo
        simpa using hsplit
      rw [byteSize_append] at hfrontSize
      have hslice : slice (byteSize before) span.start text = some mid :=
        slice_eq_some_iff.mpr ⟨before, back, hfront, rfl, by rw [byteSize_append, hfrontSize]⟩
      obtain ⟨kept, hkept, hdeletes⟩ := ih hupTo hsorted' hplaced' hlaminar' (by
        rw [hupToSize]
        intro s hs
        exact resume_le_resume hspan (hplaced' s hs)
          (hlaminar span List.mem_cons_self s (List.mem_cons_of_mem _ hs)) (hfirst s hs))
      rw [hupToSize] at hkept
      refine ⟨mid ++ kept, ?_, ?_⟩
      · rw [sweep, if_neg hwithin, hslice, hkept]
        rfl
      · rw [hafter]
        exact deletes_cons hspan hfirst hfrontSize hupToSize hdeletes

lemma sorted_byStart (spans : List Span) :
    (spans.mergeSort (fun a b => decide (a.start ≤ b.start))).Pairwise
      (fun a b => a.start ≤ b.start) := by
  have htrans : ∀ a b c : Span, decide (a.start ≤ b.start) → decide (b.start ≤ c.start) →
      decide (a.start ≤ c.start) := by
    simp only [decide_eq_true_eq]
    omega
  have htotal : ∀ a b : Span, decide (a.start ≤ b.start) || decide (b.start ≤ a.start) := by
    simp only [Bool.or_eq_true, decide_eq_true_eq]
    omega
  simpa using List.pairwise_mergeSort htrans htotal spans

/-- Spans that nest or lie apart can be cut, and cutting them deletes what they cover. -/
lemma cut_deletes {text : List Char} {spans : List Span} (hplaced : ∀ s ∈ spans, Placed text s)
    (hlaminar : Laminar spans) :
    ∃ kept, cut text spans = some kept ∧
      Deletes (Covered text spans) 0 (utf8 text) (utf8 kept) := by
  have hperm := List.mergeSort_perm spans (fun a b => decide (a.start ≤ b.start))
  obtain ⟨kept, hkept, hdeletes⟩ := sweep_deletes (List.nil_append text).symm (sorted_byStart spans)
    (fun s hs => hplaced s (hperm.mem_iff.mp hs))
    (fun a ha b hb => hlaminar a (hperm.mem_iff.mp ha) b (hperm.mem_iff.mp hb))
    (fun s _ h => absurd h (Nat.not_lt_zero _))
  refine ⟨kept, hkept, hdeletes.congr ?_⟩
  intro j _
  simp only [Covered, hperm.mem_iff]

end IconInline.Proofs
