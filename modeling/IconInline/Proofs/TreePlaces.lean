import IconInline.Proofs.PathNames

/-!
# Places in a file tree

Where a path leads depends on its components only, and on where relative paths begin. What goes on
from a path by names lies below the place that the path leads to. A write changes the content of one
place, and no place of a file that is there turns into a directory.
-/

namespace IconInline.Proofs
open IconInline.Path

/-! ## Where paths lead -/

/-- Where a component leads from a place, whatever stands there. -/
def goOn (tree : FileTree) (location : Location) : Component → Option Location
  | .root => tree.root?
  | .here => some location
  | .up => tree.above? location
  | .name n => some (location ++ [n])

/-- Where a path leads, whatever stands there. -/
def placeOf (tree : FileTree) (p : Path) : Option Location :=
  p.components.foldlM (goOn tree) tree.start

/-- The place of what a path leads to. -/
def spotPlace : FileTree.Spot → Location
  | .file location _ => location
  | .directory location => location
  | .vacant location => location

/-- From a place, components lead to something, through directories only. -/
inductive Leads (tree : FileTree) : Location → List Component → FileTree.Spot → Prop where
  | arrived (location : Location) : Leads tree location [] (.directory location)
  | step {location next : Location} {c : Component} {rest : List Component}
    {spot : FileTree.Spot} (goes : goOn tree location c = some next)
    (isDirectory : ∀ n, c = .name n → tree.hasDirectory next = true)
    (leads : Leads tree next rest spot) : Leads tree location (c :: rest) spot
  | file {location : Location} {n : List Char} {content : FileContent}
    (noDirectory : tree.hasDirectory (location ++ [n]) = false)
    (holds : tree.content? (location ++ [n]) = some content) :
    Leads tree location [.name n] (.file (location ++ [n]) content)
  | vacant {location : Location} {n : List Char}
    (noDirectory : tree.hasDirectory (location ++ [n]) = false)
    (empty : tree.content? (location ++ [n]) = none) :
    Leads tree location [.name n] (.vacant (location ++ [n]))

section Places

variable {tree : FileTree} {p : Path} {names : Location}

lemma foldlM_goOn_names (location : Location) :
    (names.map Component.name).foldlM (goOn tree) location = some (location ++ names) := by
  induction names generalizing location with
  | nil => simp
  | cons first rest ih =>
    rw [List.map_cons, List.foldlM_cons, goOn, Option.bind_eq_bind, Option.bind_some, ih]
    simp

lemma placeOf_under (hnames : ∀ name ∈ names, IsName name) :
    placeOf tree (under p names) = (placeOf tree p).map (· ++ names) := by
  rw [placeOf, components_under hnames, List.foldlM_append, ← placeOf]
  cases placeOf tree p with
  | none => rfl
  | some location => exact foldlM_goOn_names location

lemma eq_append_of_placeOf_under {location : Location} (hnames : ∀ name ∈ names, IsName name)
    (h : placeOf tree (under p names) = some location) :
    location = (placeOf tree p).getD [] ++ names := by
  rw [placeOf_under hnames] at h
  obtain ⟨place, hplace, rfl⟩ := Option.map_eq_some_iff.mp h
  rw [hplace]
  rfl

lemma placeOf_under_inj {names' : Location} {place : Location}
    (hnames : ∀ name ∈ names, IsName name) (hnames' : ∀ name ∈ names', IsName name)
    (h : placeOf tree (under p names) = some place)
    (h' : placeOf tree (under p names') = some place) : names = names' := by
  have heq := eq_append_of_placeOf_under hnames h
  rw [eq_append_of_placeOf_under hnames' h'] at heq
  exact (List.append_cancel_left heq).symm

lemma leads_of_follow {components : List Component} {location : Location}
    {spot : FileTree.Spot} (h : tree.follow components location = .ok spot) :
    Leads tree location components spot := by
  induction components generalizing location with
  | nil =>
    cases h
    exact .arrived location
  | cons c rest ih =>
    cases c with
    | root =>
      rw [FileTree.follow] at h
      split at h
      · next hroot => exact .step hroot nofun (ih h)
      · cases h
    | here =>
      rw [FileTree.follow] at h
      exact .step rfl nofun (ih h)
    | up =>
      rw [FileTree.follow] at h
      split at h
      · next habove => exact .step habove nofun (ih h)
      · cases h
    | name n =>
      rw [FileTree.follow] at h
      split at h
      · next hdirectory => exact .step rfl (fun _ _ => hdirectory) (ih h)
      · next hdirectory =>
        have hno := Bool.eq_false_iff.mpr hdirectory
        split at h
        · next content hcontent =>
          cases rest with
          | nil =>
            cases h
            exact .file hno hcontent
          | cons => cases h
        · next hcontent =>
          cases rest with
          | nil =>
            cases h
            exact .vacant hno hcontent
          | cons => cases h

lemma Leads.follow_eq {components : List Component} {location : Location}
    {spot : FileTree.Spot} (h : Leads tree location components spot) :
    tree.follow components location = .ok spot := by
  induction h with
  | arrived location => rfl
  | @step location next c rest spot goes isDirectory _ ih =>
    cases c with
    | root =>
      have hroot : tree.root? = some next := goes
      rw [FileTree.follow, hroot]
      exact ih
    | here =>
      cases goes
      rw [FileTree.follow]
      exact ih
    | up =>
      have habove : tree.above? location = some next := goes
      rw [FileTree.follow, habove]
      exact ih
    | name n =>
      cases goes
      rw [FileTree.follow, if_pos (isDirectory n rfl)]
      exact ih
  | file noDirectory holds => simp [FileTree.follow, noDirectory, holds]
  | vacant noDirectory empty => simp [FileTree.follow, noDirectory, empty]

lemma Leads.foldlM_eq {components : List Component} {location : Location}
    {spot : FileTree.Spot} (h : Leads tree location components spot) :
    components.foldlM (goOn tree) location = some (spotPlace spot) := by
  induction h with
  | arrived location => rfl
  | step goes _ _ ih =>
    rw [List.foldlM_cons, goes]
    exact ih
  | file => rfl
  | vacant => rfl

lemma Leads.hasDirectory_eq {components : List Component} {location : Location}
    {spot : FileTree.Spot} (h : Leads tree location components spot)
    (hspot : ∀ d, spot ≠ .directory d) : tree.hasDirectory (spotPlace spot) = false := by
  induction h with
  | arrived location => exact absurd rfl (hspot location)
  | step _ _ _ ih => exact ih hspot
  | file noDirectory => exact noDirectory
  | vacant noDirectory => exact noDirectory

lemma Leads.content?_eq {components : List Component} {start location : Location}
    {content : FileContent} (h : Leads tree start components (.file location content)) :
    tree.content? location = some content := by
  generalize hspot : FileTree.Spot.file location content = spot at h
  induction h with
  | arrived => cases hspot
  | step _ _ _ ih => exact ih hspot
  | file _ holds =>
    cases hspot
    exact holds
  | vacant => cases hspot

lemma leads_of_find {spot : FileTree.Spot} (h : tree.find p = .ok spot) :
    Leads tree tree.start p.components spot := by
  unfold FileTree.find at h
  split at h
  · cases h
  · split at h
    · next hfollow =>
      split at h
      · cases h
      · cases h
        exact leads_of_follow hfollow
    · exact leads_of_follow h

lemma placeOf_of_find {spot : FileTree.Spot} (h : tree.find p = .ok spot) :
    placeOf tree p = some (spotPlace spot) :=
  (leads_of_find h).foldlM_eq

lemma find_of_leads {location : Location} {content : FileContent} (hchars : p.chars ≠ [])
    (hends : FileTree.mustBeDirectory p = false)
    (h : Leads tree tree.start p.components (.file location content)) :
    tree.find p = .ok (.file location content) := by
  unfold FileTree.find
  rw [if_neg hchars, h.follow_eq]
  simp [hends]

lemma file_of_find {location : Location} {content : FileContent}
    (h : tree.find p = .ok (.file location content)) :
    p.chars ≠ [] ∧ FileTree.mustBeDirectory p = false := by
  unfold FileTree.find at h
  split at h
  · cases h
  · next hchars =>
    refine ⟨hchars, ?_⟩
    split at h
    · split at h
      · cases h
      · next hends => exact Bool.eq_false_iff.mpr hends
    · next hother => exact absurd h (hother location content)

lemma exists_find_of_read {text : String} (h : tree.read p = .ok text) :
    ∃ location, tree.find p = .ok (.file location (.text text)) := by
  unfold FileTree.read at h
  split at h
  · next location found hfind =>
    cases h
    exact ⟨location, hfind⟩
  all_goals cases h

lemma isSome_content?_iff (location : Location) :
    (tree.content? location).isSome ↔ ∃ file ∈ tree.files, file.1 = location := by
  simp only [FileTree.content?, List.lookup_isSome_iff, beq_iff_eq, eq_comm (a := location)]

/-- The files below a directory are what goes on from its path by names to where a file is. -/
lemma mem_filesBelow_iff {base : Location} (hfind : tree.find p = .ok (.directory base))
    {found : List Path} (h : tree.filesBelow p = .ok found) (file : Path) :
    file ∈ found ↔ ∃ names, (tree.content? (base ++ names)).isSome ∧ file = under p names := by
  unfold FileTree.filesBelow at h
  rw [hfind] at h
  cases h
  simp only [List.mem_map, List.mem_filter, isSome_content?_iff]
  constructor
  · rintro ⟨entry, ⟨hentry, hprefix⟩, rfl⟩
    obtain ⟨names, hnames⟩ := List.isPrefixOf_iff_prefix.mp hprefix
    refine ⟨names, ⟨entry, hentry, hnames.symm⟩, ?_⟩
    rw [← hnames, List.drop_left]
    rfl
  · rintro ⟨names, ⟨entry, hentry, hnames⟩, rfl⟩
    refine ⟨entry, ⟨hentry, ?_⟩, ?_⟩
    · rw [hnames]
      exact List.isPrefixOf_iff_prefix.mpr (List.prefix_append _ _)
    · rw [hnames, List.drop_left]
      rfl

end Places

/-! ## What stays through changes -/

/-- A tree has grown: what was there is there, and no place of a file has become a directory. -/
structure Extends (before after : FileTree) : Prop where
  home : after.home = before.home
  directories : ∀ location, before.hasDirectory location = true →
    after.hasDirectory location = true
  contents : ∀ location, (before.content? location).isSome → (after.content? location).isSome
  files : ∀ location, (before.content? location).isSome →
    before.hasDirectory location = false → after.hasDirectory location = false

section Changes

variable {before tree after : FileTree} {p : Path} {location : Location}

lemma Extends.refl (tree : FileTree) : Extends tree tree :=
  ⟨rfl, fun _ h => h, fun _ h => h, fun _ _ h => h⟩

lemma Extends.trans (h : Extends before tree) (h' : Extends tree after) :
    Extends before after where
  home := h'.home.trans h.home
  directories location hlocation := h'.directories location (h.directories location hlocation)
  contents location hlocation := h'.contents location (h.contents location hlocation)
  files location hcontent hno :=
    h'.files location (h.contents location hcontent) (h.files location hcontent hno)

lemma Extends.start_eq (h : Extends before after) : after.start = before.start := by
  rw [FileTree.start, FileTree.start, h.home]

lemma Extends.goOn_eq (h : Extends before after) : goOn after = goOn before := by
  funext location c
  cases c <;> simp [goOn, FileTree.root?, FileTree.above?, h.home]

lemma Extends.placeOf_eq (h : Extends before after) (p : Path) :
    placeOf after p = placeOf before p := by
  rw [placeOf, placeOf, h.goOn_eq, h.start_eq]

/-- In a grown tree, components lead to the file that now stands where they led before. -/
lemma Leads.grow {components : List Component} {start : Location} {spot : FileTree.Spot}
    {content : FileContent} (h : Leads before start components spot)
    (hspot : ∀ d, spot ≠ .directory d) (hextends : Extends before after)
    (hno : after.hasDirectory (spotPlace spot) = false)
    (hcontent : after.content? (spotPlace spot) = some content) :
    Leads after start components (.file (spotPlace spot) content) := by
  induction h with
  | arrived location => exact absurd rfl (hspot location)
  | step goes isDirectory _ ih =>
    refine .step ?_ ?_ (ih hspot hno hcontent)
    · rw [hextends.goOn_eq]
      exact goes
    · intro n hn
      exact hextends.directories _ (isDirectory n hn)
  | file => exact .file hno hcontent
  | vacant => exact .file hno hcontent

lemma extends_addDirectory (hempty : (before.content? location).isSome = false) :
    Extends before { before with directories := before.directories ++ [location] } where
  home := rfl
  directories place hplace := by
    rcases Bool.or_eq_true_iff.mp hplace with hroot | hmember
    · exact Bool.or_eq_true_iff.mpr (Or.inl hroot)
    · refine Bool.or_eq_true_iff.mpr (Or.inr ?_)
      rw [List.contains_iff_mem] at hmember ⊢
      exact List.mem_append_left _ hmember
  contents _ hcontent := hcontent
  files place hcontent hno := by
    have hne : place ≠ location := by
      rintro rfl
      rw [hempty] at hcontent
      cases hcontent
    simpa [FileTree.hasDirectory, hne] using hno

lemma extends_create {components : List Component} {location : Location}
    (h : before.create components location = .ok after) :
    Extends before after ∧ after.files = before.files := by
  induction components generalizing before location with
  | nil =>
    rw [FileTree.create] at h
    cases h
    exact ⟨.refl _, rfl⟩
  | cons c rest ih =>
    cases c with
    | root =>
      rw [FileTree.create] at h
      split at h
      · exact ih h
      · cases h
    | here =>
      rw [FileTree.create] at h
      exact ih h
    | up =>
      rw [FileTree.create] at h
      split at h
      · exact ih h
      · cases h
    | name n =>
      rw [FileTree.create] at h
      split at h
      · exact ih h
      · split at h
        · cases h
        · next hempty =>
          -- A new directory takes a place where no file is.
          obtain ⟨hextends, hfiles⟩ := ih h
          have hadded := extends_addDirectory (Bool.eq_false_iff.mpr hempty)
          exact ⟨hadded.trans hextends, hfiles⟩

lemma extends_createDirectories (h : before.createDirectories p = .ok after) :
    Extends before after ∧ ∀ location, after.content? location = before.content? location := by
  obtain ⟨hextends, hfiles⟩ := extends_create h
  refine ⟨hextends, fun location => ?_⟩
  rw [FileTree.content?, FileTree.content?, hfiles]

lemma lookup_cons_eq (other l : Location) (c : FileContent)
    (rest : List (Location × FileContent)) :
    ((l, c) :: rest).lookup other = if other = l then some c else rest.lookup other := by
  by_cases h : other = l
  · rw [if_pos h, h, List.lookup_cons_self]
  · rw [if_neg h, List.lookup_cons, beq_eq_false_iff_ne.mpr h]

lemma lookup_put (location : Location) (content : FileContent)
    (files : List (Location × FileContent)) (other : Location) :
    (FileTree.put location content files).lookup other =
      if other = location then some content else files.lookup other := by
  induction files with
  | nil => rw [FileTree.put, lookup_cons_eq]
  | cons first rest ih =>
    obtain ⟨l, c⟩ := first
    rw [FileTree.put]
    by_cases hl : l = location
    · rw [if_pos hl, lookup_cons_eq, lookup_cons_eq, hl]
      split_ifs <;> rfl
    · rw [if_neg hl, lookup_cons_eq, lookup_cons_eq, ih]
      by_cases h : other = location
      · rw [if_pos h, if_neg (fun hother => hl (hother.symm.trans h)), if_pos h]
      · rw [if_neg h, if_neg h]

/-- The tree in which a file at a place holds a content. -/
def putAt (tree : FileTree) (place : Location) (content : FileContent) : FileTree :=
  { tree with files := FileTree.put place content tree.files }

lemma content?_putAt (place : Location) (content : FileContent) (location : Location) :
    (putAt tree place content).content? location =
      if location = place then some content else tree.content? location :=
  lookup_put place content tree.files location

lemma extends_putAt (tree : FileTree) (place : Location) (content : FileContent) :
    Extends tree (putAt tree place content) where
  home := rfl
  directories _ hdirectory := hdirectory
  contents location hlocation := by
    rw [content?_putAt]
    split
    · rfl
    · exact hlocation
  files _ _ hno := hno

lemma eq_putAt_of_write {text : String} (hends : FileTree.mustBeDirectory p = false)
    (h : before.write p text = .ok after) :
    ∃ spot, before.find p = .ok spot ∧ (∀ d, spot ≠ .directory d) ∧
      after = putAt before (spotPlace spot) (.text text) := by
  unfold FileTree.write FileTree.store at h
  split at h
  · next hfind =>
    cases h
    exact ⟨_, hfind, nofun, rfl⟩
  · cases h
  · next hfind =>
    rw [if_neg (by simp [hends])] at h
    cases h
    exact ⟨_, hfind, nofun, rfl⟩
  · cases h

/-- A text has been put where a path leads, and every other file is as before. -/
structure Puts (p : Path) (text : String) (place : Location) (before after : FileTree) :
    Prop where
  leads : placeOf before p = some place
  grown : Extends before after
  found : after.find p = .ok (.file place (.text text))
  frame : ∀ location, location ≠ place → after.content? location = before.content? location

lemma puts_of_write {text : String} (hchars : p.chars ≠ [])
    (hends : FileTree.mustBeDirectory p = false) (h : before.write p text = .ok after) :
    ∃ place, Puts p text place before after := by
  obtain ⟨spot, hfind, hspot, rfl⟩ := eq_putAt_of_write hends h
  have hgrown := extends_putAt before (spotPlace spot) (.text text)
  have hbefore := leads_of_find hfind
  have hleads := hbefore.grow hspot hgrown (hbefore.hasDirectory_eq hspot)
    (by rw [content?_putAt, if_pos rfl])
  refine ⟨spotPlace spot, placeOf_of_find hfind, hgrown, find_of_leads hchars hends hleads, ?_⟩
  intro location hne
  rw [content?_putAt, if_neg hne]

lemma Extends.puts {text : String} {place : Location} (h : Extends before tree)
    (hsame : ∀ location, tree.content? location = before.content? location)
    (hputs : Puts p text place tree after) : Puts p text place before after where
  leads := (h.placeOf_eq p).symm.trans hputs.leads
  grown := h.trans hputs.grown
  found := hputs.found
  frame location hne := (hputs.frame location hne).trans (hsame location)

/-- A path that led to a file leads there in a grown tree. -/
lemma Extends.find_eq {content content' : FileContent} (h : Extends before after)
    (hfind : before.find p = .ok (.file location content))
    (hcontent : after.content? location = some content') :
    after.find p = .ok (.file location content') := by
  obtain ⟨hchars, hends⟩ := file_of_find hfind
  have hleads := leads_of_find hfind
  have hheld : (before.content? location).isSome := by
    rw [hleads.content?_eq]
    rfl
  have hno := h.files location hheld (hleads.hasDirectory_eq nofun)
  have hafter := hleads.grow nofun h hno hcontent
  rw [← h.start_eq] at hafter
  exact find_of_leads hchars hends hafter

/-! ## Texts below a path -/

/-- Texts have been put where names lead from a path, and every other file is as before. -/
structure PutsAll (target : Path) (texts : Location → String → Prop) (before after : FileTree) :
    Prop where
  grown : Extends before after
  found : ∀ names text, texts names text → ∃ place,
    placeOf before (under target names) = some place ∧
    after.find (under target names) = .ok (.file place (.text text))
  frame : ∀ location,
    (∀ names text, texts names text → placeOf before (under target names) ≠ some location) →
    after.content? location = before.content? location

lemma PutsAll.congr {texts texts' : Location → String → Prop} (h : PutsAll p texts before after)
    (heq : ∀ names text, texts' names text ↔ texts names text) : PutsAll p texts' before after := by
  have htexts : texts' = texts := funext fun names => funext fun text => propext (heq names text)
  rwa [htexts]

/-- Texts put one after the other: a name that comes twice gets the same text both times. -/
lemma Puts.putsAll {names : Location} {text : String} {place : Location}
    {texts : Location → String → Prop} (hnames : ∀ name ∈ names, IsName name)
    (hvalid : ∀ names text, texts names text → ∀ name ∈ names, IsName name)
    (hsame : ∀ text', texts names text' → text' = text)
    (hputs : Puts (under p names) text place before tree) (hall : PutsAll p texts tree after) :
    PutsAll p (fun n t => n = names ∧ t = text ∨ texts n t) before after where
  grown := hputs.grown.trans hall.grown
  found n t ht := by
    have hlater : texts n t → ∃ place, placeOf before (under p n) = some place ∧
        after.find (under p n) = .ok (.file place (.text t)) := by
      intro ht
      obtain ⟨there, hthere, hfound⟩ := hall.found n t ht
      exact ⟨there, (hputs.grown.placeOf_eq _).symm.trans hthere, hfound⟩
    rcases ht with ⟨rfl, rfl⟩ | ht
    · by_cases hagain : ∃ t', texts n t'
      · -- The names come again behind; what is put there last counts, and it is the same.
        obtain ⟨t', ht'⟩ := hagain
        obtain rfl := hsame t' ht'
        exact hlater ht'
      · have hkept : after.content? place = tree.content? place := by
          refine hall.frame place ?_
          intro n' t' ht' hthere
          rw [hputs.grown.placeOf_eq] at hthere
          obtain rfl := placeOf_under_inj (hvalid n' t' ht') hnames hthere hputs.leads
          exact hagain ⟨t', ht'⟩
        refine ⟨place, hputs.leads, hall.grown.find_eq hputs.found ?_⟩
        rw [hkept, (leads_of_find hputs.found).content?_eq]
    · exact hlater ht
  frame location hlocation := by
    have hne : location ≠ place := by
      rintro rfl
      exact hlocation names text (Or.inl ⟨rfl, rfl⟩) hputs.leads
    rw [← hputs.frame location hne]
    refine hall.frame location ?_
    intro n t ht
    rw [hputs.grown.placeOf_eq]
    exact hlocation n t (Or.inr ht)

end Changes

end IconInline.Proofs
