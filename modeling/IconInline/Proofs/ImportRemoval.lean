import IconInline.Proofs.Deletion
import IconInline.Proofs.ImportSearch

/-!
# Removing just what was imported

In a well-placed module the regions that go with the targets nest or lie apart, whichever sites
they come from. So the cut goes through, and removing the imports of different targets deletes the
union of their regions and nothing else.
-/

namespace IconInline.Proofs
open Script Source Imports

/-- The spans of a module's declarations lie in its text as its tree has them: what stands in a
declaration begins after it, and what does not is apart from it. -/
structure WellPlaced (text : List Char) (module : Outlines) : Prop where
  import_placed : ∀ entry ∈ module.imports, Placed text entry.2
  imports_apart : ∀ a ∈ module.imports, ∀ b ∈ module.imports, a ≠ b → Apart a.2 b.2
  declaration_placed : ∀ path span, declarationAt? module.body path = some span → Placed text span
  import_apart_declaration : ∀ entry ∈ module.imports, ∀ path span,
    declarationAt? module.body path = some span → Apart entry.2 span
  below_insideOf : ∀ path tail outer inner, tail ≠ [] →
    declarationAt? module.body path = some outer →
    declarationAt? module.body (path ++ tail) = some inner → InsideOf outer inner
  beside_apart : ∀ path other a b, ¬path <+: other → ¬other <+: path →
    declarationAt? module.body path = some a → declarationAt? module.body other = some b →
    Apart a b

/-- What removing the imports of some targets from a text comes to. -/
structure RemovesImports (text : String) (module : Outlines) (specifiers : List String)
    (removal : Removal) : Prop where
  wellFormed : removal.malformed = false
  resolved_sublist : removal.resolved.Sublist specifiers
  mem_resolved_iff : ∀ s, s ∈ removal.resolved ↔ s ∈ specifiers ∧ IsImported module s
  /-- No character is cut in two on the way. -/
  cut_eq : cut text.toList (Imports.search module specifiers).regions = some removal.text.toList
  deletes : Deletes
    (fun i => ∃ s ∈ specifiers, ∃ span, RemovedWith module s span ∧ Covers text.toList span i)
    0 (utf8 text.toList) (utf8 removal.text.toList)

section Regions

variable {text : List Char} {module : Outlines} {a b span : Span} {s t : String}

lemma RemovedWith.isSpan (h : RemovedWith module s span) :
    (∃ entry ∈ module.imports, entry.2 = span) ∨
      ∃ path, declarationAt? module.body path = some span := by
  cases h with
  | static hfirst =>
    obtain ⟨before, after, heq, -⟩ := List.lookup_eq_some_iff.mp hfirst
    exact Or.inl ⟨(s, span), by simp [heq], rfl⟩
  | dynamic _ _ haround => exact Or.inr ⟨_, haround⟩

lemma WellPlaced.placed (h : WellPlaced text module) (hspan : RemovedWith module s span) :
    Placed text span := by
  rcases hspan.isSpan with ⟨entry, hentry, rfl⟩ | ⟨path, hpath⟩
  · exact h.import_placed entry hentry
  · exact h.declaration_placed path span hpath

/-- The regions of two targets are the same, apart, or one inside the other. -/
lemma WellPlaced.laminar (h : WellPlaced text module) (ha : RemovedWith module s a)
    (hb : RemovedWith module t b) : a = b ∨ Apart a b ∨ InsideOf a b ∨ InsideOf b a := by
  rcases ha.isSpan with ⟨p, hp, rfl⟩ | ⟨path, hpath⟩ <;>
    rcases hb.isSpan with ⟨q, hq, rfl⟩ | ⟨other, hother⟩
  · by_cases heq : p = q
    · exact Or.inl (by rw [heq])
    · exact Or.inr (Or.inl (h.imports_apart p hp q hq heq))
  · exact Or.inr (Or.inl (h.import_apart_declaration p hp other b hother))
  · exact Or.inr (Or.inl (h.import_apart_declaration q hq path a hpath).symm)
  · by_cases hbelow : path <+: other
    · obtain ⟨tail, rfl⟩ := hbelow
      by_cases htail : tail = []
      · rw [htail, List.append_nil, hpath] at hother
        exact Or.inl (Option.some_inj.mp hother)
      · exact Or.inr (Or.inr (Or.inl (h.below_insideOf path tail a b htail hpath hother)))
    · by_cases habove : other <+: path
      · obtain ⟨tail, rfl⟩ := habove
        by_cases htail : tail = []
        · rw [htail, List.append_nil, hother] at hpath
          exact Or.inl (Option.some_inj.mp hpath).symm
        · exact Or.inr (Or.inr (Or.inr (h.below_insideOf other tail b a htail hother hpath)))
      · exact Or.inr (Or.inl (h.beside_apart path other a b hbelow habove hpath hother))

end Regions

lemma mem_regions_search_iff {module : Outlines} {specifiers : List String}
    (hdistinct : specifiers.Nodup) (span : Span) :
    span ∈ (Imports.search module specifiers).regions ↔
      ∃ s ∈ specifiers, RemovedWith module s span := by
  rw [(searched_sites module hdistinct).mem_regions_iff]
  simp only [region_firstSite?_sites_iff]

lemma removesImports_removeOutlined {text : String} {module : Outlines} {specifiers : List String}
    (hplaced : WellPlaced text.toList module) (hdistinct : specifiers.Nodup) :
    RemovesImports text module specifiers (removeOutlined module specifiers text) := by
  have hregions : ∀ span, span ∈ (Imports.search module specifiers).regions ↔
      ∃ s ∈ specifiers, RemovedWith module s span := mem_regions_search_iff hdistinct
  have hregionsPlaced : ∀ span ∈ (Imports.search module specifiers).regions,
      Placed text.toList span := by
    intro span hspan
    obtain ⟨s, -, hremoved⟩ := (hregions span).mp hspan
    exact hplaced.placed hremoved
  have hregionsLaminar : Laminar (Imports.search module specifiers).regions := by
    intro a ha b hb
    obtain ⟨s, -, hremoved⟩ := (hregions a).mp ha
    obtain ⟨t, -, hremoved'⟩ := (hregions b).mp hb
    exact hplaced.laminar hremoved hremoved'
  obtain ⟨kept, hkept, hdeletes⟩ := cut_deletes hregionsPlaced hregionsLaminar
  have hfound : (removeOutlined module specifiers text).resolved =
      specifiers.filter fun s => (firstSite? (sites module) s).isSome :=
    (searched_sites module hdistinct).found_eq
  have htext : (removeOutlined module specifiers text).text.toList = kept := by
    simp [removeOutlined, hkept]
  refine ⟨rfl, ?_, ?_, ?_, ?_⟩
  · rw [hfound]
    exact List.filter_sublist
  · intro s
    rw [hfound, List.mem_filter, isSome_firstSite?_sites_iff]
  · rw [htext, hkept]
  · rw [htext]
    refine hdeletes.congr ?_
    intro i _
    simp only [Covered, hregions]
    constructor
    · rintro ⟨span, ⟨s, hs, hremoved⟩, hcovers⟩
      exact ⟨s, hs, span, hremoved, hcovers⟩
    · rintro ⟨s, hs, span, hremoved, hcovers⟩
      exact ⟨span, ⟨s, hs, hremoved⟩, hcovers⟩

lemma remove_eq_removeOutlined {dialect : Dialect} {text : String} {module : Outlines}
    (hmodule : Outlines.ofText? dialect text.toList = some module) (specifiers : List String) :
    remove dialect specifiers text = removeOutlined module specifiers text := by
  rw [remove, hmodule]

/-- From any text with a well-placed tree, removing the imports of different targets deletes just
the regions that go with them, and it reports the targets that the module imports. -/
theorem removes_imports {text : String} {module : Outlines} {specifiers : List String}
    (hplaced : WellPlaced text.toList module) (hdistinct : specifiers.Nodup) :
    RemovesImports text module specifiers (removeOutlined module specifiers text) ∧
      ∀ dialect, Outlines.ofText? dialect text.toList = some module →
        RemovesImports text module specifiers (remove dialect specifiers text) := by
  have houtlined := removesImports_removeOutlined hplaced hdistinct
  refine ⟨houtlined, ?_⟩
  intro dialect hmodule
  rw [remove_eq_removeOutlined hmodule]
  exact houtlined

/-! ## An import in a declaration in a declaration -/

/-- A module of which two targets take a declaration along, one of them inside the other. -/
def nestedText : String :=
  "import a from 'a';\nlet f = () => \x7b\n  let c = import('c');\n" ++
    "  return import('d');\n\x7d;\nf();\n"

def nestedModule : Outlines where
  imports := [("a", ⟨0, 18⟩)]
  body := [.declaration ⟨19, 82⟩ [.declaration ⟨37, 57⟩ [.imported "c"], .imported "d"]]

lemma nestedModule_declarationAt? {path : List Nat} {span : Span}
    (h : declarationAt? nestedModule.body path = some span) :
    path = [0] ∧ span = ⟨19, 82⟩ ∨ path = [0, 0] ∧ span = ⟨37, 57⟩ := by
  match path with
  | [] => cases h
  | [0] => exact Or.inl ⟨rfl, (Option.some_inj.mp h).symm⟩
  | [0, 0] => exact Or.inr ⟨rfl, (Option.some_inj.mp h).symm⟩
  | [0, 1] => cases h
  | [0, _ + 2] => cases h
  | 0 :: 0 :: 0 :: path => cases path <;> cases h
  | 0 :: 0 :: (_ + 1) :: path => cases path <;> cases h
  | 0 :: 1 :: _ :: _ => cases h
  | 0 :: (_ + 2) :: _ :: _ => cases h
  | (_ + 1) :: path => cases path <;> cases h

lemma nestedText_placed :
    ∀ span ∈ [⟨0, 18⟩, ⟨19, 82⟩, ⟨37, 57⟩], Placed nestedText.toList span := by
  decide +kernel

lemma nestedModule_wellPlaced : WellPlaced nestedText.toList nestedModule where
  import_placed := by
    intro entry hentry
    obtain rfl := List.mem_singleton.mp hentry
    exact nestedText_placed _ (by simp)
  imports_apart := by
    intro a ha b hb hne
    obtain rfl := List.mem_singleton.mp ha
    obtain rfl := List.mem_singleton.mp hb
    exact absurd rfl hne
  declaration_placed := by
    intro path span h
    rcases nestedModule_declarationAt? h with ⟨-, rfl⟩ | ⟨-, rfl⟩
    · exact nestedText_placed _ (by simp)
    · exact nestedText_placed _ (by simp)
  import_apart_declaration := by
    intro entry hentry path span h
    obtain rfl := List.mem_singleton.mp hentry
    rcases nestedModule_declarationAt? h with ⟨-, rfl⟩ | ⟨-, rfl⟩
    · exact Or.inl (by decide)
    · exact Or.inl (by decide)
  below_insideOf := by
    intro path tail outer inner htail h hbelow
    rcases nestedModule_declarationAt? h with ⟨rfl, rfl⟩ | ⟨rfl, rfl⟩
    · rcases nestedModule_declarationAt? hbelow with ⟨heq, -⟩ | ⟨-, rfl⟩
      · exact absurd (List.append_cancel_left heq) htail
      · exact ⟨by decide, by decide⟩
    · rcases nestedModule_declarationAt? hbelow with ⟨heq, -⟩ | ⟨heq, -⟩
      · cases heq
      · exact absurd (List.append_cancel_left heq) htail
  beside_apart := by
    intro path other a b hnot hnot' h hother
    rcases nestedModule_declarationAt? h with ⟨rfl, -⟩ | ⟨rfl, -⟩
    · rcases nestedModule_declarationAt? hother with ⟨rfl, -⟩ | ⟨rfl, -⟩
      · exact absurd (by decide) hnot
      · exact absurd (by decide) hnot
    · rcases nestedModule_declarationAt? hother with ⟨rfl, -⟩ | ⟨rfl, -⟩
      · exact absurd (by decide) hnot'
      · exact absurd (by decide) hnot

theorem removes_imports_nested :
    WellPlaced nestedText.toList nestedModule ∧
      RemovesImports nestedText nestedModule ["d", "a", "z", "c"]
        (remove {} ["d", "a", "z", "c"] nestedText) :=
  ⟨nestedModule_wellPlaced,
    (removes_imports nestedModule_wellPlaced (by decide)).2 {} (by decide +kernel)⟩

end IconInline.Proofs
