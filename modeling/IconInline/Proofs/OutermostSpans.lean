import IconInline.Proofs.Deletion

/-!
# Outermost spans

Of spans that nest or lie apart each lies in an outermost one. So cutting them deletes their union
and the line feeds directly behind the outermost ones, however the spans are listed.
-/

namespace IconInline.Proofs
open Text Source

section Outermost

variable {text : List Char} {spans others : List Span} {span : Span} {offset : Nat}

def InUnion (spans : List Span) (offset : Nat) : Prop :=
  ∃ span ∈ spans, span.start ≤ offset ∧ offset < span.stop

/-- A listed span that does not lie in any other one. -/
def Outermost (spans : List Span) (span : Span) : Prop :=
  span ∈ spans ∧ ∀ other ∈ spans, ¬InsideOf other span

/-- The line feed directly behind an outermost span stands at a byte offset. -/
def FeedBehind (text : List Char) (spans : List Span) (offset : Nat) : Prop :=
  ∃ span, Outermost spans span ∧ offset = span.stop ∧ LineFeedAt text offset

lemma exists_outermost (hspan : span ∈ spans) :
    ∃ outer, Outermost spans outer ∧ outer.start ≤ span.start ∧ span.stop ≤ outer.stop := by
  -- The next span outwards begins earlier.
  induction hstart : span.start using Nat.strongRecOn generalizing span with
  | _ start ih =>
    by_cases hinner : ∃ other ∈ spans, InsideOf other span
    · obtain ⟨other, hother, hlt, hle⟩ := hinner
      obtain ⟨outer, houter, hfirst, hlast⟩ := ih other.start (by omega) hother rfl
      exact ⟨outer, houter, by omega, by omega⟩
    · push Not at hinner
      exact ⟨span, ⟨hspan, hinner⟩, by omega, Nat.le_refl _⟩

/-- A line feed that goes with a span inside another one lies in the outer one or behind it. -/
lemma covered_iff (hplaced : ∀ s ∈ spans, Placed text s) :
    Covered text spans offset ↔ InUnion spans offset ∨ FeedBehind text spans offset := by
  constructor
  · rintro ⟨span, hspan, hlow, hhigh | ⟨rfl, hfeed⟩⟩
    · exact Or.inl ⟨span, hspan, hlow, hhigh⟩
    · obtain ⟨outer, houter, hfirst, hlast⟩ := exists_outermost hspan
      by_cases hinner : span.stop < outer.stop
      · exact Or.inl ⟨outer, houter.1, by omega, hinner⟩
      · exact Or.inr ⟨outer, houter, by omega, hfeed⟩
  · rintro (⟨span, hspan, hlow, hhigh⟩ | ⟨span, hspan, rfl, hfeed⟩)
    · exact ⟨span, hspan, hlow, Or.inl hhigh⟩
    · have hpos := (hplaced span hspan.1).nonempty
      exact ⟨span, hspan.1, by omega, Or.inr ⟨rfl, hfeed⟩⟩

lemma covered_congr (hsame : ∀ s, s ∈ others ↔ s ∈ spans) :
    Covered text others offset ↔ Covered text spans offset := by
  simp only [Covered, hsame]

lemma Deletes.unique {region : Nat → Prop} {i : Nat} {bytes kept kept' : List UInt8}
    (h : Deletes region i bytes kept) (h' : Deletes region i bytes kept') : kept = kept' := by
  induction h generalizing kept' with
  | nil =>
    cases h'
    rfl
  | keep outside rest ih =>
    cases h' with
    | keep _ rest' => rw [ih rest']
    | drop inside _ => exact absurd inside outside
  | drop inside rest ih =>
    cases h' with
    | keep outside _ => exact absurd inside outside
    | drop _ rest' => exact ih rest'

lemma utf8_injective : Function.Injective utf8 := by
  intro as bs h
  have hencode : as.utf8Encode = bs.utf8Encode := congrArg List.toByteArray h
  have hstring : String.ofList as = String.ofList bs := by
    apply String.toByteArray_inj.mp
    simpa using hencode
  exact String.ofList_inj.mp hstring

end Outermost

/-- Spans that nest or lie apart can be cut from a text without cutting a character in two. Just the
bytes of their union are deleted, and the line feed behind each outermost span where there is one;
a list of the same spans in another order, with repetitions, comes to the same. -/
theorem cut_deletes_union {text : List Char} {spans : List Span}
    (hplaced : ∀ s ∈ spans, Placed text s) (hlaminar : Laminar spans) :
    ∃ kept, cut text spans = some kept ∧
      Deletes (fun offset => InUnion spans offset ∨ FeedBehind text spans offset) 0
        (utf8 text) (utf8 kept) ∧
      ∀ others, (∀ s, s ∈ others ↔ s ∈ spans) → cut text others = some kept := by
  obtain ⟨kept, hkept, hdeletes⟩ := cut_deletes hplaced hlaminar
  refine ⟨kept, hkept, hdeletes.congr fun _ _ => covered_iff hplaced, ?_⟩
  intro others hsame
  have hplaced' : ∀ s ∈ others, Placed text s := fun s hs => hplaced s ((hsame s).mp hs)
  have hlaminar' : Laminar others := fun a ha b hb =>
    hlaminar a ((hsame a).mp ha) b ((hsame b).mp hb)
  obtain ⟨kept', hkept', hdeletes'⟩ := cut_deletes hplaced' hlaminar'
  have hbytes := (hdeletes'.congr fun _ _ => covered_congr hsame).unique hdeletes
  rw [hkept', utf8_injective hbytes]

/-- Spans nest, end together, are repeated, touch, and have line feeds behind and between them. -/
theorem cut_deletes_union_nested :
    let text := "é\n(a(b)\n)c\n\nd\ne".toList
    let spans : List Span := [⟨3, 10⟩, ⟨4, 10⟩, ⟨5, 8⟩, ⟨5, 8⟩, ⟨10, 11⟩, ⟨13, 14⟩]
    (∀ s ∈ spans, Placed text s) ∧ Laminar spans ∧
      cut text [⟨13, 14⟩, ⟨5, 8⟩, ⟨4, 10⟩, ⟨3, 10⟩, ⟨10, 11⟩] = some "é\n\ne".toList := by
  intro text spans
  have hplaced : ∀ s ∈ spans, Placed text s := by decide +kernel
  have hlaminar : Laminar spans := by
    unfold Laminar Apart InsideOf
    decide
  have hcut : cut text spans = some "é\n\ne".toList := by
    rw [cut, List.mergeSort_of_pairwise (by decide)]
    decide +kernel
  obtain ⟨kept, hkept, -, hsame⟩ := cut_deletes_union hplaced hlaminar
  rw [hcut] at hkept
  rw [hkept]
  refine ⟨hplaced, hlaminar, hsame _ ?_⟩
  intro s
  simp only [spans, List.mem_cons, List.not_mem_nil, or_false]
  tauto

end IconInline.Proofs
