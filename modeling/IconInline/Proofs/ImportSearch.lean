import IconInline.Imports.Removal
import IconInline.Proofs.OutlinePaths

/-!
# The search for imports

A search with different targets resolves the ones that the module imports, and takes the region
of the first site of each: a static import if there is one, else the innermost declaration around
the first dynamic import, if it stands in a declaration.
-/

namespace IconInline.Proofs
open Script Source Imports

section Search

variable {specifiers : List String} {seen : List Site} {search : Search}

/-- The state of a search that has considered some sites: the targets with a site are resolved, and
the regions are those of their first sites. -/
structure Searched (specifiers : List String) (seen : List Site) (search : Search) : Prop where
  targets_eq : search.targets = specifiers.map fun s => ⟨s, (firstSite? seen s).isSome⟩
  mem_regions_iff : ∀ span, span ∈ search.regions ↔
    ∃ s ∈ specifiers, ∃ site, firstSite? seen s = some site ∧ site.region = some span

/-- Among different targets a specifier claims its own, if that one is open. -/
lemma claim?_map (taken : String → Bool) (hdistinct : specifiers.Nodup) (named : String) :
    claim? named (specifiers.map fun s => ⟨s, taken s⟩) =
      if named ∈ specifiers ∧ taken named = false then
        some (specifiers.map fun s => ⟨s, taken s || s == named⟩)
      else none := by
  induction specifiers with
  | nil => simp [claim?]
  | cons s rest ih =>
    obtain ⟨hnot, hdistinct'⟩ := List.nodup_cons.mp hdistinct
    rw [List.map_cons, claim?, ih hdistinct']
    by_cases hs : s = named
    · subst hs
      cases htaken : taken s with
      | true => simp
      | false =>
        have hrest : ∀ t ∈ rest, taken t = (taken t || t == s) := by
          intro t ht
          have hne : t ≠ s := fun heq => hnot (heq ▸ ht)
          simp [hne]
        simpa [htaken] using hrest
    · simp only [hs, beq_iff_eq, Bool.and_eq_true, and_false, if_false, List.mem_cons,
        Ne.symm hs, false_or, List.map_cons]
      split
      · simp [hs]
      · rfl

lemma firstSite?_snoc (site : Site) (s : String) :
    firstSite? (seen ++ [site]) s =
      (firstSite? seen s).or (if site.specifier = s then some site else none) := by
  rw [firstSite?_append]
  congr 1
  by_cases h : site.specifier = s
  · simp [firstSite?, h]
  · simp [firstSite?, h]

/-- Sites that are first for no target make no difference. -/
lemma Searched.of_firstSite?_eq {seen' : List Site} (h : Searched specifiers seen search)
    (hsame : ∀ s ∈ specifiers, firstSite? seen' s = firstSite? seen s) :
    Searched specifiers seen' search := by
  constructor
  · rw [h.targets_eq]
    refine List.map_congr_left ?_
    intro s hs
    rw [hsame s hs]
  · intro span
    rw [h.mem_regions_iff]
    refine exists_congr ?_
    intro s
    refine and_congr_right ?_
    intro hs
    rw [hsame s hs]

lemma Searched.visit (h : Searched specifiers seen search) (hdistinct : specifiers.Nodup)
    (site : Site) : Searched specifiers (seen ++ [site]) (search.visit site) := by
  have hclaim := claim?_map (fun s => (firstSite? seen s).isSome) hdistinct site.specifier
  rw [← h.targets_eq] at hclaim
  by_cases hopen : site.specifier ∈ specifiers ∧ firstSite? seen site.specifier = none
  · rw [if_pos (by simpa using hopen)] at hclaim
    rw [Search.visit, hclaim]
    refine ⟨?_, ?_⟩
    · refine List.map_congr_left ?_
      intro s hs
      rw [firstSite?_snoc]
      by_cases hsite : site.specifier = s
      · simp [hsite]
      · simp [hsite, Ne.symm hsite]
    · intro span
      rw [List.mem_append, h.mem_regions_iff, Option.mem_toList]
      constructor
      · rintro (⟨s, hs, old, hold, hspan⟩ | hspan)
        · exact ⟨s, hs, old, by rw [firstSite?_snoc, hold]; rfl, hspan⟩
        · exact ⟨site.specifier, hopen.1, site, by rw [firstSite?_snoc, hopen.2]; simp, hspan⟩
      · rintro ⟨s, hs, found, hfound, hspan⟩
        rw [firstSite?_snoc] at hfound
        rcases Option.or_eq_some_iff.mp hfound with hold | ⟨-, hnew⟩
        · exact Or.inl ⟨s, hs, found, hold, hspan⟩
        · split at hnew
          · cases hnew
            exact Or.inr hspan
          · cases hnew
  · -- No target of this specifier is open, so the first sites of the targets stay the same.
    have hsame : ∀ s ∈ specifiers, firstSite? (seen ++ [site]) s = firstSite? seen s := by
      intro s hs
      rw [firstSite?_snoc]
      by_cases hsite : site.specifier = s
      · cases hfirst : firstSite? seen s with
        | some old => rfl
        | none => exact absurd ⟨hsite ▸ hs, hsite ▸ hfirst⟩ hopen
      · rw [if_neg hsite, Option.or_none]
    rw [if_neg (by simpa using hopen)] at hclaim
    rw [Search.visit, hclaim]
    exact h.of_firstSite?_eq hsame

lemma Searched.foldl (h : Searched specifiers seen search) (hdistinct : specifiers.Nodup)
    (more : List Site) :
    Searched specifiers (seen ++ more) (more.foldl Search.visit search) := by
  induction more generalizing seen search with
  | nil => simpa using h
  | cons site more ih =>
    simpa using ih (h.visit hdistinct site)

lemma searched_sites (module : Outlines) (hdistinct : specifiers.Nodup) :
    Searched specifiers (sites module) (Imports.search module specifiers) := by
  have hstart : Searched specifiers [] ⟨specifiers.map fun s => ⟨s, false⟩, []⟩ :=
    ⟨rfl, by simp [firstSite?]⟩
  exact hstart.foldl hdistinct (sites module)

lemma Searched.found_eq (h : Searched specifiers seen search) :
    search.found = specifiers.filter fun s => (firstSite? seen s).isSome := by
  rw [Search.found, h.targets_eq, List.filter_map, List.map_map]
  exact List.map_id _

end Search

/-! ## Static before dynamic -/

section Module

variable {module : Outlines} {specifier : String} {span : Span}

/-- A module imports a specifier, by a declaration at its top level or dynamically. -/
def IsImported (module : Outlines) (specifier : String) : Prop :=
  (∃ span, (specifier, span) ∈ module.imports) ∨ ∃ path, ImportAt module.body specifier path

/-- The region that goes with a target. -/
inductive RemovedWith (module : Outlines) (specifier : String) : Span → Prop where
  /-- The first static import of the target. -/
  | static {span : Span} (hfirst : module.imports.lookup specifier = some span) :
      RemovedWith module specifier span
  /-- Where there is none, the innermost declaration around the first dynamic import. -/
  | dynamic {path : List Nat} {span : Span} (hstatic : module.imports.lookup specifier = none)
      (hfirst : FirstImportAt module.body specifier path)
      (haround : declarationAt? module.body path.dropLast = some span) :
      RemovedWith module specifier span

lemma FirstImportAt.unique {parts : List Outline} {path other : List Nat}
    (h : FirstImportAt parts specifier path) (hother : FirstImportAt parts specifier other) :
    path = other := by
  rcases h.precedes other hother.importAt with heq | hbefore
  · exact heq
  · rcases hother.precedes path h.importAt with heq | hafter
    · exact heq.symm
    · exact absurd hafter (List.lex_asymm Nat.lt_asymm hbefore)

lemma firstSite?_staticSites (module : Outlines) (specifier : String) :
    firstSite? (staticSites module) specifier =
      (module.imports.lookup specifier).map fun span => ⟨specifier, some span⟩ := by
  rw [firstSite?, staticSites]
  induction module.imports with
  | nil => rfl
  | cons entry rest ih =>
    obtain ⟨named, span⟩ := entry
    by_cases h : named = specifier
    · simp [h]
    · simp only [List.map_cons, List.find?_cons, List.lookup_cons, beq_eq_false_iff_ne.mpr h,
        beq_eq_false_iff_ne.mpr (Ne.symm h)]
      exact ih

/-- A target has a site just if the module imports it. -/
lemma isSome_firstSite?_sites_iff :
    (firstSite? (sites module) specifier).isSome ↔ IsImported module specifier := by
  have hstatic : (∃ entry ∈ module.imports, specifier == entry.1) ↔
      ∃ span, (specifier, span) ∈ module.imports := by
    constructor
    · rintro ⟨⟨named, span⟩, hentry, hnamed⟩
      obtain rfl := eq_of_beq hnamed
      exact ⟨span, hentry⟩
    · rintro ⟨span, hentry⟩
      exact ⟨_, hentry, beq_self_eq_true specifier⟩
  rw [sites, firstSite?_append, firstSite?_staticSites, Option.isSome_or, Bool.or_eq_true,
    Option.isSome_map, List.lookup_isSome_iff, hstatic,
    (finds_dynamicSitesIn none specifier module.body).isSome_iff, IsImported]

/-- The region of the first site of a target is the one that goes with it. -/
lemma region_firstSite?_sites_iff :
    (∃ site, firstSite? (sites module) specifier = some site ∧ site.region = some span) ↔
      RemovedWith module specifier span := by
  have hfinds := finds_dynamicSitesIn none specifier module.body
  rw [sites, firstSite?_append, firstSite?_staticSites]
  cases hlookup : module.imports.lookup specifier with
  | some first =>
    constructor
    · rintro ⟨site, hsite, hspan⟩
      cases hsite
      cases hspan
      exact RemovedWith.static hlookup
    · intro h
      cases h with
      | static hfirst =>
        rw [hlookup] at hfirst
        exact ⟨_, rfl, hfirst⟩
      | dynamic hstatic => rw [hlookup] at hstatic; cases hstatic
  | none =>
    rw [Option.map_none, Option.none_or]
    constructor
    · rintro ⟨site, hsite, hspan⟩
      rw [hsite] at hfinds
      obtain ⟨path, hfirst, henclosed⟩ := hfinds
      rcases henclosed with ⟨-, hregion⟩ | ⟨around, haround, hregion⟩
      · rw [hregion] at hspan
        cases hspan
      · rw [hregion] at hspan
        cases hspan
        exact RemovedWith.dynamic hlookup hfirst haround
    · intro h
      cases h with
      | static hfirst => rw [hlookup] at hfirst; cases hfirst
      | dynamic hstatic hfirst haround =>
        cases hsite : firstSite? (dynamicSitesIn none module.body) specifier with
        | none =>
          rw [hsite] at hfinds
          exact absurd hfirst.importAt (hfinds _)
        | some site =>
          rw [hsite] at hfinds
          obtain ⟨path, hfirst', henclosed⟩ := hfinds
          obtain rfl := hfirst.unique hfirst'
          refine ⟨site, rfl, ?_⟩
          rcases henclosed with ⟨houter, -⟩ | ⟨around, haround', hregion⟩
          · rw [houter, declarationAt?, partAt?_nil_path] at haround
            cases haround
          · rw [hregion, ← haround', haround]

end Module

end IconInline.Proofs
