import IconInline.Proofs.BrokenModules
import IconInline.Proofs.Embedding
import IconInline.Proofs.ImportRemoval
import IconInline.Proofs.Rewriting

/-!
# The imports of skipped entries

The packages of a skipped entry are never targets, so no region goes on account of their imports.
Only the region of another package may take such an import along: that of a declaration in which
both imports stand. Any other import of a skipped entry's package is carried through all removals,
byte for byte.
-/

namespace IconInline.Proofs
open Script Source Imports Report

/-- The bytes of a span are kept together, in their place between what is left of those before and
of those behind them. -/
inductive Carried (region : Nat → Prop) : List UInt8 → Span → List UInt8 → Span → Prop where
  | mk {before before' part behind behind' : List UInt8} (front : Deletes region 0 before before')
    (back : Deletes region (before ++ part).length behind behind') :
    Carried region (before ++ part ++ behind) ⟨before.length, (before ++ part).length⟩
      (before' ++ part ++ behind') ⟨before'.length, (before' ++ part).length⟩

/-- A span has a byte in a region. -/
def Meets (region : Nat → Prop) (span : Span) : Prop :=
  ∃ i, span.start ≤ i ∧ i < span.stop ∧ region i

/-- The bytes that go when the imports of some packages are removed. -/
def Taken (text : List Char) (module : Outlines) (targets : List String) (i : Nat) : Prop :=
  ∃ t ∈ targets, ∃ region, RemovedWith module t region ∧ Covers text region i

/-- A dynamic import stands at a span: inside of the declarations around it, and apart from all
others. -/
structure DynamicAt (text : List Char) (module : Outlines) (specifier : String) (path : List Nat)
    (span : Span) : Prop where
  importAt : ImportAt module.body specifier path
  placed : Placed text span
  apart_import : ∀ entry ∈ module.imports, Apart entry.2 span
  inside : ∀ other outer, declarationAt? module.body other = some outer → other <+: path →
    InsideOf outer span
  beside : ∀ other outer, declarationAt? module.body other = some outer → ¬other <+: path →
    Apart outer span

/-- A module imports a specifier at a span. -/
def ImportsAt (text : List Char) (module : Outlines) (specifier : String) (span : Span) : Prop :=
  (specifier, span) ∈ module.imports ∨ ∃ path, DynamicAt text module specifier path span

/-- A region is a declaration around the part at a path and, at the same time, the innermost one
around the first import of a package, which has only dynamic ones. -/
def SharesDeclaration (module : Outlines) (other : String) (region : Span) (path : List Nat) :
    Prop :=
  ∃ first, module.imports.lookup other = none ∧ FirstImportAt module.body other first ∧
    first.dropLast <+: path ∧ declarationAt? module.body first.dropLast = some region

/-- What becomes of a span while the imports of one list of packages after the other are removed.
It is carried along to the end, or one of the removals takes a byte of it on account of a package
that is not needed. Then it is no static import, and if it is a dynamic one, it shares a declaration
with an import of the other package. -/
inductive Lasts (dialect : Dialect) (needed : List String) (specifier : String) :
    String → Span → List (List String) → String → Prop where
  | done {text : String} {span : Span} : Lasts dialect needed specifier text span [] text
  | carried {text final : String} {span span' : Span} {targets : List String}
    {rest : List (List String)} {module : Outlines}
    (parsed : Outlines.ofText? dialect text.toList = some module)
    (along : Carried (Taken text.toList module targets) (utf8 text.toList) span
      (utf8 (remove dialect targets text).text.toList) span')
    (more : Lasts dialect needed specifier (remove dialect targets text).text span' rest final) :
    Lasts dialect needed specifier text span (targets :: rest) final
  | taken {text final : String} {span region : Span} {targets : List String}
    {rest : List (List String)} {module : Outlines} {other : String}
    (parsed : Outlines.ofText? dialect text.toList = some module) (target : other ∈ targets)
    (free : other ∉ needed) (goes : RemovedWith module other region)
    (meets : Meets (Covers text.toList region) span)
    (not_static : (specifier, span) ∉ module.imports)
    (shared : ∀ path, DynamicAt text.toList module specifier path span →
      SharesDeclaration module other region path) :
    Lasts dialect needed specifier text span (targets :: rest) final

/-- The texts from which imports are removed in turn. -/
inductive Reaches (dialect : Dialect) : String → List (List String) → String → Prop where
  | here {text : String} {targets : List String} {rest : List (List String)} :
    Reaches dialect text (targets :: rest) text
  | later {text reached : String} {targets : List String} {rest : List (List String)}
    (more : Reaches dialect (remove dialect targets text).text rest reached) :
    Reaches dialect text (targets :: rest) reached

section Carried

variable {region : Nat → Prop} {bytes kept : List UInt8} {span span' : Span}

lemma Carried.within (h : Carried region bytes span kept span') :
    span'.start ≤ span'.stop ∧ span'.stop ≤ kept.length := by
  cases h
  simp

/-- A span without any byte in a region is kept when the region is deleted. -/
lemma Deletes.carried (h : Deletes region 0 bytes kept)
    (hspan : span.start ≤ span.stop ∧ span.stop ≤ bytes.length) (hfree : ¬Meets region span) :
    ∃ span', Carried region bytes span kept span' := by
  obtain ⟨hle, hstop⟩ := hspan
  obtain ⟨front, behind, rfl, hfront⟩ : ∃ front behind, bytes = front ++ behind ∧
      front.length = span.stop :=
    ⟨bytes.take span.stop, bytes.drop span.stop, (List.take_append_drop _ _).symm, by simp [hstop]⟩
  obtain ⟨before, part, rfl, hbefore⟩ : ∃ before part, front = before ++ part ∧
      before.length = span.start :=
    ⟨front.take span.start, front.drop span.start, (List.take_append_drop _ _).symm,
      by rw [List.length_take]; omega⟩
  obtain ⟨keptFront, behind', rfl, hkeptFront, hback⟩ := h.exists_append
  obtain ⟨before', part', rfl, hkeptBefore, hpart⟩ := hkeptFront.exists_append
  have hwhole : part' = part := by
    apply hpart.eq_self
    intro j hlow hhigh hj
    rw [List.length_append] at hfront
    exact hfree ⟨j, by omega, by omega, hj⟩
  subst hwhole
  obtain ⟨start, stop⟩ := span
  obtain rfl : before.length = start := hbefore
  obtain rfl : (before ++ part').length = stop := hfront
  rw [Nat.zero_add] at hback
  exact ⟨_, Carried.mk hkeptBefore hback⟩

end Carried

section Step

variable {dialect : Dialect} {text : String} {module : Outlines} {targets needed : List String}
  {specifier other : String} {region span : Span}

/-- A span that begins with no line feed has nothing of what goes with a region apart from it. -/
lemma Apart.not_meets {text : List Char} (h : Apart region span) (hspan : Placed text span) :
    ¬Meets (Covers text region) span := by
  rintro ⟨i, hlow, hhigh, hstart, hcovers⟩
  rcases h with hbefore | hbehind
  · rcases hcovers with hinside | ⟨rfl, hfeed⟩
    · omega
    · have heq : region.stop = span.start := Nat.le_antisymm hbefore hlow
      exact hspan.start_not_lineFeed (heq ▸ hfeed)
  · omega

lemma WellPlaced.not_static {text : List Char} (h : WellPlaced text module)
    (hne : other ≠ specifier) (hgoes : RemovedWith module other region)
    (hmeets : Meets (Covers text region) span) : (specifier, span) ∉ module.imports := by
  intro hstatic
  have hapart : Apart region span := by
    cases hgoes with
    | static hfirst =>
      obtain ⟨before, after, heq, -⟩ := List.lookup_eq_some_iff.mp hfirst
      exact h.imports_apart (other, region) (by simp [heq]) _ hstatic (by simp [hne])
    | dynamic _ _ haround => exact (h.import_apart_declaration _ hstatic _ _ haround).symm
  exact hapart.not_meets (h.import_placed _ hstatic) hmeets

/-- Where the region of one package takes a byte of a dynamic import of another one, the two share a
declaration. -/
lemma DynamicAt.sharesDeclaration {text : List Char} {path : List Nat}
    (h : DynamicAt text module specifier path span) (hgoes : RemovedWith module other region)
    (hmeets : Meets (Covers text region) span) : SharesDeclaration module other region path := by
  cases hgoes with
  | static hfirst =>
    obtain ⟨before, after, heq, -⟩ := List.lookup_eq_some_iff.mp hfirst
    have hapart := h.apart_import (other, region) (by simp [heq])
    exact absurd hmeets (hapart.not_meets h.placed)
  | @dynamic first _ hnone hfirst haround =>
    by_cases hprefix : first.dropLast <+: path
    · exact ⟨first, hnone, hfirst, hprefix, haround⟩
    · exact absurd hmeets ((h.beside _ _ haround hprefix).not_meets h.placed)

/-- One removal carries a span along, unless a region that goes with a target takes a byte of it. -/
lemma carried_or_meets (hparsed : Outlines.ofText? dialect text.toList = some module)
    (hplaced : WellPlaced text.toList module) (hdistinct : targets.Nodup)
    (hspan : span.start ≤ span.stop ∧ span.stop ≤ (utf8 text.toList).length) :
    (∃ span', Carried (Taken text.toList module targets) (utf8 text.toList) span
      (utf8 (remove dialect targets text).text.toList) span') ∨
    ∃ other ∈ targets, ∃ region, RemovedWith module other region ∧
      Meets (Covers text.toList region) span := by
  by_cases hmeets : Meets (Taken text.toList module targets) span
  · obtain ⟨i, hlow, hhigh, other, hother, region, hgoes, hcovers⟩ := hmeets
    exact Or.inr ⟨other, hother, region, hgoes, i, hlow, hhigh, hcovers⟩
  · have hdeletes := (removesImports_removeOutlined hplaced hdistinct).deletes
    rw [← remove_eq_removeOutlined hparsed] at hdeletes
    exact Or.inl (Deletes.carried hdeletes hspan hmeets)

lemma Reaches.append {reached : String} {done : List (List String)}
    (h : Reaches dialect text done reached) (more : List (List String)) :
    Reaches dialect text (done ++ more) reached := by
  induction h with
  | here => exact .here
  | later _ ih => exact .later ih

lemma Reaches.eq_of_singleton {reached : String} (h : Reaches dialect text [targets] reached) :
    reached = text := by
  cases h with
  | here => rfl
  | later more => cases more

lemma ImportsAt.within {text : List Char} (h : ImportsAt text module specifier span)
    (hplaced : WellPlaced text module) :
    span.start ≤ span.stop ∧ span.stop ≤ (utf8 text).length := by
  have hspan : Placed text span := by
    rcases h with hstatic | ⟨path, hdynamic⟩
    · exact hplaced.import_placed _ hstatic
    · exact hdynamic.placed
  rw [length_utf8]
  exact ⟨Nat.le_of_lt hspan.nonempty, hspan.stop_boundary.le_byteSize⟩

lemma RemovesInTurn.lasts {lists : List (List String)} {found : List String} {final : String}
    (h : RemovesInTurn dialect text lists found final)
    (hdistinct : ∀ targets ∈ lists, targets.Nodup)
    (hfree : ∀ targets ∈ lists, ∀ t ∈ targets, t ∉ needed) (hneeded : specifier ∈ needed)
    (hplaced : ∀ reached module, Reaches dialect text lists reached →
      Outlines.ofText? dialect reached.toList = some module → WellPlaced reached.toList module)
    (hspan : span.start ≤ span.stop ∧ span.stop ≤ (utf8 text.toList).length) :
    Lasts dialect needed specifier text span lists final := by
  -- The span moves with every removal, so the induction is for all spans.
  induction h generalizing span with
  | done => exact .done
  | @next text final targets rest found wellFormed more ih =>
    obtain ⟨hfirst, hrest⟩ := List.forall_mem_cons.mp hdistinct
    obtain ⟨hfreeFirst, hfreeRest⟩ := List.forall_mem_cons.mp hfree
    obtain ⟨module, hparsed⟩ : WellFormed dialect text := by
      by_contra hbad
      rw [malformed_iff.mpr hbad] at wellFormed
      cases wellFormed
    have hplacedHere := hplaced text module .here hparsed
    rcases carried_or_meets hparsed hplacedHere hfirst hspan with
      ⟨span', hcarried⟩ | ⟨other, hother, region, hgoes, hmeets⟩
    · exact .carried hparsed hcarried (ih hrest hfreeRest
        (fun reached module hreached => hplaced reached module (.later hreached)) hcarried.within)
    · have hne : other ≠ specifier := fun heq => hfreeFirst other hother (heq ▸ hneeded)
      exact .taken hparsed hother (hfreeFirst other hother) hgoes hmeets
        (hplacedHere.not_static hne hgoes hmeets) fun _ hdynamic =>
        hdynamic.sharesDeclaration hgoes hmeets

end Step

/-- The text of a module once all entries have replaced their calls. -/
def embeddedText (id code : String) (acquired : List Acquired) : String :=
  (acquired.foldl Report.embed { moduleId := id, text := code }).text

/-- When an inliner that drops imports transforms a module, every import of a package of a skipped
entry is followed from the text before the removals up to the last removal: it is carried along, or
taken with the region of a package that no skipped entry needs. A static import is never taken, and
a dynamic one only if it stands in the declaration that goes with an import of the other package. -/
theorem skipped_import_lasts {e : Inliner} {id code specifier : String}
    {acquired : List Acquired} {module : Outlines} {span : Span} {a : Acquired}
    (hdrops : e.options.dropsImports = true) (hmem : a ∈ acquired) (hskipped : Skipped a)
    (hspecifier : specifier ∈ a.1.packages)
    (hparsed : Outlines.ofText? (.ofModuleId id) (embeddedText id code acquired).toList =
      some module)
    (hplaced : ∀ reached outlines,
      Reaches (.ofModuleId id) (embeddedText id code acquired) (targetLists acquired) reached →
      Outlines.ofText? (.ofModuleId id) reached.toList = some outlines →
      WellPlaced reached.toList outlines)
    (himports : ImportsAt (embeddedText id code acquired).toList module specifier span) :
    ∃ done, done <+: targetLists acquired ∧
      Lasts (.ofModuleId id) (neededPackages acquired) specifier
        (embeddedText id code acquired) span done (e.report id code acquired).1.text := by
  obtain ⟨blocks, embedded, -, hfold⟩ :=
    exists_rewrites_foldl acquired { moduleId := id, text := code }
  have hid : (acquired.foldl Report.embed { moduleId := id, text := code }).moduleId = id := by
    rw [hfold]
  obtain ⟨done, found, final, failed, hturn, hreport, hend⟩ := removeEach_eq
    (acquired.foldl Report.embed { moduleId := id, text := code }) (targetLists acquired)
  rw [hid] at hturn
  have htext : (e.report id code acquired).1.text = final := by
    rw [Inliner.report]
    simp only [hdrops, if_true]
    rw [Report.removeImports, ← targetLists, hreport]
  have hdone : done <+: targetLists acquired := prefix_of_end hend
  obtain ⟨hdistinct, -⟩ := List.nodup_flatten.mp (nodup_flatten_targetLists acquired)
  have hneeded : specifier ∈ neededPackages acquired :=
    mem_neededPackages_iff.mpr ⟨a, hmem, hskipped, hspecifier⟩
  have hfree : ∀ targets ∈ targetLists acquired, ∀ t ∈ targets, t ∉ neededPackages acquired := by
    intro targets htargets t ht hneeds
    obtain ⟨b, hb, hbad, htb⟩ := mem_neededPackages_iff.mp hneeds
    exact (mem_flatten_targetLists_iff.mp (List.mem_flatten.mpr ⟨targets, htargets, ht⟩)).2
      b hb hbad htb
  have hplacedDone : ∀ reached outlines,
      Reaches (.ofModuleId id) (embeddedText id code acquired) done reached →
      Outlines.ofText? (.ofModuleId id) reached.toList = some outlines →
      WellPlaced reached.toList outlines := by
    intro reached outlines hreached
    obtain ⟨more, hmore⟩ := hdone
    exact hplaced reached outlines (hmore ▸ hreached.append more)
  refine ⟨done, hdone, ?_⟩
  rw [htext]
  cases done with
  | nil =>
    cases hturn
    exact .done
  | cons targets rest =>
    exact hturn.lasts (fun targets ht => hdistinct targets (hdone.subset ht))
      (fun targets ht => hfree targets (hdone.subset ht)) hneeded hplacedDone
      (himports.within (hplacedDone _ _ .here hparsed))

/-! ## Two packages in one declaration -/

/-- The datasets of the first two imports of the nested module are loaded, that of the third one is
not. -/
def nestedAcquired : List Acquired :=
  [(⟨⟨"c", "icons"⟩, "a", .standard, iconCallee⟩, .ok []),
    (⟨⟨"d", "icons"⟩, "d", .standard, iconCallee⟩, .error (.dataset "d" "not installed"))]

def nestedInliner : Inliner where
  options := {}
  entries := nestedAcquired.map Prod.fst
  filter := some ⟨[[.leadingDirs]]⟩
  setup := []

lemma embeddedText_nested :
    embeddedText "/icons.js" nestedText nestedAcquired = nestedText := by
  decide +kernel

/-- The third import of the nested module, which stands in the outer declaration only. -/
lemma nestedModule_dynamicAt :
    DynamicAt nestedText.toList nestedModule "d" [0, 1] ⟨67, 78⟩ where
  importAt := rfl
  placed := by decide +kernel
  apart_import := by
    intro entry hentry
    obtain rfl := List.mem_singleton.mp hentry
    exact Or.inl (by decide)
  inside := by
    intro other outer h hprefix
    rcases nestedModule_declarationAt? h with ⟨rfl, rfl⟩ | ⟨rfl, rfl⟩
    · exact ⟨by decide, by decide⟩
    · exact absurd hprefix (by decide)
  beside := by
    intro other outer h hnot
    rcases nestedModule_declarationAt? h with ⟨rfl, rfl⟩ | ⟨rfl, rfl⟩
    · exact absurd (by decide) hnot
    · exact Or.inl (by decide)

theorem skipped_import_lasts_nested :
    nestedInliner.options.dropsImports = true ∧
      WellPlaced nestedText.toList nestedModule ∧
      ∃ done, done <+: targetLists nestedAcquired ∧
        Lasts (.ofModuleId "/icons.js") (neededPackages nestedAcquired) "d"
          (embeddedText "/icons.js" nestedText nestedAcquired) ⟨67, 78⟩ done
          (nestedInliner.report "/icons.js" nestedText nestedAcquired).1.text := by
  have hparsed : Outlines.ofText? (.ofModuleId "/icons.js") nestedText.toList =
      some nestedModule := by decide +kernel
  have hlists : targetLists nestedAcquired = [["c", "a"]] := by decide
  have himports : ImportsAt (embeddedText "/icons.js" nestedText nestedAcquired).toList
      nestedModule "d" ⟨67, 78⟩ := by
    rw [embeddedText_nested]
    exact Or.inr ⟨_, nestedModule_dynamicAt⟩
  have hskipped : Skipped nestedAcquired[1] := ⟨_, rfl⟩
  have hspecifier : "d" ∈ nestedAcquired[1].1.packages := by
    simp [nestedAcquired, Entry.packages]
  refine ⟨rfl, nestedModule_wellPlaced, skipped_import_lasts rfl (List.getElem_mem _) hskipped
    hspecifier (by rw [embeddedText_nested, hparsed]) ?_ himports⟩
  intro reached outlines hreached houtlines
  have htext : reached = nestedText := by
    rw [embeddedText_nested, hlists] at hreached
    exact hreached.eq_of_singleton
  rw [htext, hparsed] at houtlines
  cases houtlines
  rw [htext]
  exact nestedModule_wellPlaced

/-- Of two packages that one declaration imports only the dataset of the first is loaded. -/
def sharedDeclaration : List Acquired :=
  [(⟨⟨"solid", "fas"⟩, "helper", .standard, iconCallee⟩, .ok [("faAt", .plain 1 1 "M0")]),
    (⟨⟨"brands", "fab"⟩, "helper", .standard, iconCallee⟩,
      .error (.dataset "brands" "not installed"))]

def sharedDeclarationInliner : Inliner where
  options := {}
  entries := sharedDeclaration.map Prod.fst
  filter := some ⟨[[.leadingDirs]]⟩
  setup := []

def sharedDeclarationText : String :=
  "let s = import('solid'), b = import('brands');\nicon(faAt);\n"

/-- The import of the package of a skipped entry is gone, and the module is still well-formed. -/
theorem skipped_import_taken :
    sharedDeclarationInliner.admits "/icons.js" = true ∧
      sharedDeclarationInliner.options.dropsImports = true ∧
      (∃ a ∈ sharedDeclaration, Skipped a ∧ "brands" ∈ a.1.packages) ∧
      (∃ module, Outlines.ofText? (.ofModuleId "/icons.js")
        (embeddedText "/icons.js" sharedDeclarationText sharedDeclaration).toList = some module ∧
        IsImported module "brands") ∧
      ∃ module, Outlines.ofText? (.ofModuleId "/icons.js")
        (sharedDeclarationInliner.report "/icons.js" sharedDeclarationText
          sharedDeclaration).1.text.toList = some module ∧
        ¬IsImported module "brands" := by
  simp only [← isSome_firstSite?_sites_iff]
  refine ⟨by decide, rfl, ?_, ?_, ?_⟩
  · exact ⟨sharedDeclaration[1], List.getElem_mem _, ⟨_, rfl⟩,
      by simp [sharedDeclaration, Entry.packages]⟩
  · exact (Option.any_eq_true _ _).mp (by decide +kernel)
  · simp only [← Bool.not_eq_true', Bool.not_eq_true]
    exact (Option.any_eq_true _ _).mp (by decide +kernel)

end IconInline.Proofs
