import IconInline.Dataset
import IconInline.Proofs.PathNames

/-!
# Files of packages

The file of a package lies below the dataset directory, at the names that the segments of the
package are, with `.json` behind the whole of the last one. Whatever dots a segment has, nothing of
it is replaced, so packages of different segments have different files.
-/

namespace IconInline.Proofs
open Text IconInline.Path

/-- The segments of a package's name that lead to its file. -/
def keptSegments (package : String) : List (List Char) :=
  (package.toList.splitOn '/').filter fun s => s ≠ [] ∧ s ≠ ['.', '.']

def jsonName (name : List Char) : List Char := name ++ ".json".toList

section Extensions

lemma fileName?_push {p : Path} {name : List Char} (h : IsName name) :
    (p.push name).fileName? = some name := by
  rw [fileName?, components_push h, List.getLast?_concat]

/-- A name is its own stem, or its stem, a dot and its extension. -/
lemma splitExtension_cases (name : List Char) :
    splitExtension name = (name, none) ∨
      ∃ stem extension, splitExtension name = (stem, some extension) ∧
        name = stem ++ '.' :: extension := by
  rw [splitExtension]
  split
  · exact Or.inl rfl
  · next hdot =>
    refine Or.inr ⟨_, _, rfl, ?_⟩
    have hname := List.takeWhile_append_dropWhile (p := (· != '.')) (l := name.reverse)
    cases hrest : name.reverse.dropWhile (· != '.') with
    | nil =>
      rw [hrest, List.append_nil] at hname
      rw [hname, List.length_reverse] at hdot
      exact absurd (Or.inl rfl) hdot
    | cons c rest =>
      have hc : c = '.' := by
        have hhead := List.head?_dropWhile_not (· != '.') name.reverse
        rw [hrest] at hhead
        simpa using hhead
      rw [hrest, hc] at hname
      have hreverse := congrArg List.reverse hname
      rw [List.reverse_reverse, List.reverse_append, List.reverse_cons, List.append_assoc,
        List.singleton_append] at hreverse
      clear hdot hname hrest
      generalize name.reverse.takeWhile (· != '.') = tail at hreverse ⊢
      subst hreverse
      have hlength : (rest.reverse ++ '.' :: tail.reverse).length - tail.length - 1 =
          rest.reverse.length := by
        simp only [List.length_append, List.length_cons, List.length_reverse]
        omega
      rw [hlength, List.take_left]

/-- To give a name behind a path an extension goes behind the stem of the name. -/
lemma setExtension_push {name stem : List Char} {own : Option (List Char)} (p : Path)
    (h : IsName name) (hsplit : splitExtension name = (stem, own)) {extension : List Char}
    (hextension : extension ≠ []) :
    ∃ front, (∀ more, p.push (name ++ more) = ⟨front ++ name ++ more⟩) ∧
      (p.push name).setExtension extension = ⟨front ++ stem ++ '.' :: extension⟩ := by
  obtain ⟨front, hfront⟩ := exists_push_append p h
  refine ⟨front, hfront, ?_⟩
  have hname : p.push name = ⟨front ++ name⟩ := by simpa using hfront []
  have hfile := fileName?_push (p := p) h
  rw [setExtension, hfile, hname]
  dsimp only
  rw [hsplit, List.reverse_append, dropEmptyPieces_reverse h front.reverse, ← List.reverse_append,
    List.reverse_reverse, if_neg hextension, List.length_append, Nat.add_sub_cancel, List.take_left]

end Extensions

section Files

variable {directory : Path} {name : List Char} {parents : List (List Char)} {package : String}

lemma isName_jsonName (h : IsName name) : IsName (jsonName name) where
  ne_nil := by simp [jsonName]
  ne_dot := by simp [jsonName, List.append_eq_singleton_iff]
  ne_dots := by
    intro hdots
    have hlength := congrArg List.length hdots
    simp [jsonName] at hlength
  no_slash := by
    intro hslash
    rcases List.mem_append.mp hslash with hname | hjson
    · exact h.no_slash hname
    · exact absurd hjson (by decide)

lemma file_eq_setExtension (directory : Path) (package : String) :
    Dataset.file directory package =
      let path := under directory (keptSegments package)
      path.setExtension
        (match path.extension? with
        | some extension => extension ++ '.' :: "json".toList
        | none => "json".toList) := by
  have hkept : (Text.splitOn '/' package.toList).filter (fun s => s != [] && s != ['.', '.']) =
      keptSegments package := by
    rw [splitOn_eq_listSplitOn, keptSegments]
    refine List.filter_congr fun s _ => ?_
    rw [Bool.eq_iff_iff]
    simp
  rw [Dataset.file, hkept]
  rfl

/-- The whole name keeps its place, be a part of it an extension or not. -/
lemma file_of_segments (hsegments : keptSegments package = parents ++ [name]) (h : IsName name) :
    Dataset.file directory package = (under directory parents).push (jsonName name) := by
  rw [file_eq_setExtension, hsegments, under_concat]
  dsimp only
  rw [extension?, fileName?_push h]
  dsimp only
  rcases splitExtension_cases name with hnone | ⟨stem, extension, hsome, hname⟩
  · have hjson : "json".toList ≠ [] := by decide
    obtain ⟨front, hfront, hset⟩ := setExtension_push (under directory parents) h hnone hjson
    rw [hnone, hset, jsonName, hfront]
    rfl
  · have hjson : extension ++ '.' :: "json".toList ≠ [] := by simp
    obtain ⟨front, hfront, hset⟩ := setExtension_push (under directory parents) h hsome hjson
    rw [hsome, hset, jsonName, hfront, hname]
    simp

lemma isName_of_mem_keptSegments (hdot : ['.'] ∉ keptSegments package)
    (h : name ∈ keptSegments package) : IsName name := by
  obtain ⟨hpiece, hkept⟩ := List.mem_filter.mp h
  have hne : name ≠ [] ∧ name ≠ ['.', '.'] := by simpa using hkept
  refine ⟨hne.1, ?_, hne.2, not_mem_of_mem_splitOn hpiece⟩
  rintro rfl
  exact hdot h

variable (directory) in
lemma components_file (hsegments : keptSegments package = parents ++ [name])
    (hdot : ['.'] ∉ keptSegments package) :
    (Dataset.file directory package).components =
      directory.components ++ (parents ++ [jsonName name]).map .name := by
  have hnames : ∀ n ∈ parents ++ [name], IsName n := by
    intro n hn
    rw [← hsegments] at hn
    exact isName_of_mem_keptSegments hdot hn
  obtain ⟨hparents, hname⟩ := List.forall_mem_append.mp hnames
  have hlast := hname name List.mem_cons_self
  rw [file_of_segments hsegments hlast, components_push (isName_jsonName hlast),
    components_under hparents, List.map_append, List.append_assoc]
  rfl

lemma jsonName_injective : Function.Injective jsonName :=
  fun _ _ h => List.append_cancel_right h

end Files

/-- The file of a package that has a segment left and no segment `.` lies at the segments below the
directory, with the extension behind the whole of the last one. So it is strictly below the
directory, no step upwards leads to it, and it tells which segments the package has. -/
theorem file_at_segments (directory : Path) {package : String}
    (hne : keptSegments package ≠ []) (hdot : ['.'] ∉ keptSegments package) :
    (∃ parents name, keptSegments package = parents ++ [name] ∧
      (Dataset.file directory package).components =
        directory.components ++ (parents ++ [name ++ ".json".toList]).map .name) ∧
      (∃ below, directory.below? (Dataset.file directory package) = some below ∧ below ≠ [] ∧
        .up ∉ below) ∧
      ∀ other, keptSegments other ≠ [] → ['.'] ∉ keptSegments other →
        keptSegments package ≠ keptSegments other →
        (Dataset.file directory package).components ≠
          (Dataset.file directory other).components := by
  obtain ⟨parents, name, hsegments⟩ := List.eq_nil_or_concat' _ |>.resolve_left hne
  have hcomponents := components_file directory hsegments hdot
  refine ⟨⟨parents, name, hsegments, hcomponents⟩, ?_, ?_⟩
  · refine ⟨(parents ++ [jsonName name]).map .name, ?_, by simp, by simp⟩
    have hbelow : directory.components.isPrefixOf (Dataset.file directory package).components := by
      rw [hcomponents]
      exact List.isPrefixOf_iff_prefix.mpr (List.prefix_append _ _)
    rw [below?, if_pos hbelow, hcomponents, List.drop_left]
  · intro other hne' hdot' hdiffer hsame
    obtain ⟨parents', name', hsegments'⟩ := List.eq_nil_or_concat' _ |>.resolve_left hne'
    rw [hcomponents, components_file directory hsegments' hdot',
      List.append_cancel_left_eq] at hsame
    have hnames := List.map_injective_iff.mpr (fun _ _ => Component.name.inj) hsame
    obtain ⟨hparents, hlast⟩ := List.append_inj' hnames rfl
    have hname := jsonName_injective (List.cons_eq_cons.mp hlast).1
    exact hdiffer (by rw [hsegments, hsegments', hparents, hname])

/-- A package with a step upwards and a dot at its end, and one without either. -/
theorem file_at_segments_dotted :
    let directory := Path.ofString "../data/"
    let package := "@scope/../lucide.v2."
    let other := "@scope/lucide.v2"
    keptSegments package ≠ [] ∧ ['.'] ∉ keptSegments package ∧
      keptSegments other ≠ [] ∧ ['.'] ∉ keptSegments other ∧
      keptSegments package ≠ keptSegments other ∧
      (∃ parents name, keptSegments package = parents ++ [name] ∧
        (Dataset.file directory package).components =
          directory.components ++ (parents ++ [name ++ ".json".toList]).map .name) ∧
      (∃ below, directory.below? (Dataset.file directory package) = some below ∧ below ≠ [] ∧
        .up ∉ below) ∧
      (Dataset.file directory package).components ≠ (Dataset.file directory other).components := by
  intro directory package other
  have hne : keptSegments package ≠ [] := by decide
  have hdot : ['.'] ∉ keptSegments package := by decide
  have hne' : keptSegments other ≠ [] := by decide
  have hdot' : ['.'] ∉ keptSegments other := by decide
  have hdiffer : keptSegments package ≠ keptSegments other := by decide
  obtain ⟨hplace, hbelow, hapart⟩ := file_at_segments directory hne hdot
  exact ⟨hne, hdot, hne', hdot', hdiffer, hplace, hbelow, hapart other hne' hdot' hdiffer⟩

example : Dataset.file (.ofString "../data/") "@scope/../lucide.v2." =
    .ofString "../data/@scope/lucide.v2..json" := by decide

end IconInline.Proofs
