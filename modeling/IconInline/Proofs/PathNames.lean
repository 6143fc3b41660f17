import IconInline.Files.FileTree
import Mathlib.Data.List.Basic
import Mathlib.Tactic.Common

/-!
# Paths that go on by names

To go on from a path by a name adds the name to its components, whatever slashes the path ends in.
So the names are what is below the path, and they can be read off from it again.
-/

namespace IconInline.Proofs
open IconInline.Path

/-- A name that a file or a directory can have. -/
structure IsName (name : List Char) : Prop where
  ne_nil : name ≠ []
  ne_dot : name ≠ ['.']
  ne_dots : name ≠ ['.', '.']
  no_slash : '/' ∉ name

instance (name : List Char) : Decidable (IsName name) :=
  decidable_of_iff (name ≠ [] ∧ name ≠ ['.'] ∧ name ≠ ['.', '.'] ∧ '/' ∉ name)
    ⟨fun ⟨hnil, hdot, hdots, hslash⟩ => ⟨hnil, hdot, hdots, hslash⟩,
      fun h => ⟨h.ne_nil, h.ne_dot, h.ne_dots, h.no_slash⟩⟩

/-- The path that goes on from another one by names. -/
def under (p : Path) (names : Location) : Path := names.foldl Path.push p

section Components

variable {p : Path} {name : List Char} {names : Location}

lemma IsName.component?_eq (h : IsName name) : component? name = some (.name name) := by
  unfold component?
  split
  · exact absurd rfl h.ne_nil
  · exact absurd rfl h.ne_dot
  · exact absurd rfl h.ne_dots
  · rfl

lemma IsName.frontComponent?_eq (h : IsName name) : frontComponent? name = some (.name name) := by
  unfold frontComponent?
  split
  · exact absurd rfl h.ne_nil
  · exact absurd rfl h.ne_dot
  · exact h.component?_eq

lemma IsName.head?_ne_slash (h : IsName name) : name.head? ≠ some '/' := by
  intro hhead
  exact h.no_slash (List.mem_of_mem_head? hhead)

/-- The components of pieces, of which the first one stands at the front. -/
def piecesComponents : List (List Char) → List Component
  | [] => []
  | front :: rest => (frontComponent? front).toList ++ rest.filterMap component?

lemma components_eq (hchars : p.chars ≠ []) :
    p.components = piecesComponents (p.chars.splitOn '/') := by
  have hpieces : p.components = piecesComponents (Text.splitOn '/' p.chars) := by
    unfold components
    exact if_neg hchars
  rw [hpieces, Text.splitOn_eq_listSplitOn]

lemma piecesComponents_append {pieces : List (List Char)} (hpieces : pieces ≠ [])
    (last : List Char) :
    piecesComponents (pieces ++ [last]) =
      piecesComponents pieces ++ (component? last).toList := by
  obtain ⟨front, rest, rfl⟩ := List.exists_cons_of_ne_nil hpieces
  cases hlast : component? last <;> simp [piecesComponents, hlast]

lemma splitOn_slash_append (cs : List Char) {piece : List Char} (hpiece : '/' ∉ piece) :
    (cs ++ '/' :: piece).splitOn '/' = cs.splitOn '/' ++ [piece] := by
  rw [List.splitOn_append_cons_self, List.splitOn_eq_singleton hpiece]

lemma components_append_slash (cs : List Char) {piece : List Char} (hpiece : '/' ∉ piece) :
    components ⟨cs ++ '/' :: piece⟩ =
      piecesComponents (cs.splitOn '/') ++ (component? piece).toList := by
  have hchars : cs ++ '/' :: piece ≠ [] := by simp
  rw [components_eq hchars, splitOn_slash_append cs hpiece,
    piecesComponents_append (List.splitOn_ne_nil '/' cs)]

lemma components_push (h : IsName name) :
    (p.push name).components = p.components ++ [.name name] := by
  have hlast : (component? name).toList = [.name name] := by rw [h.component?_eq]; rfl
  unfold push
  by_cases hempty : p.chars = []
  · rw [if_pos (Or.inr hempty), components_eq h.ne_nil, List.splitOn_eq_singleton h.no_slash]
    simp [components, hempty, piecesComponents, h.frontComponent?_eq]
  · rw [if_neg (by simp [h.head?_ne_slash, hempty])]
    split
    · next hslash =>
      -- A slash at the end is the one before the name, so another one is not needed.
      obtain ⟨cs, hcs⟩ := List.getLast?_eq_some_iff.mp hslash
      have hfront : p.components = piecesComponents (cs.splitOn '/') := by
        have hp : p = ⟨cs ++ '/' :: []⟩ := by rw [← hcs]
        rw [hp, components_append_slash cs List.not_mem_nil]
        exact List.append_nil _
      rw [hcs, List.append_assoc, List.singleton_append, components_append_slash cs h.no_slash,
        hlast, hfront]
    · rw [components_append_slash p.chars h.no_slash, hlast, components_eq hempty]

lemma under_concat (p : Path) (names : Location) (name : List Char) :
    under p (names ++ [name]) = (under p names).push name := by
  simp [under, List.foldl_append]

lemma components_under (hnames : ∀ name ∈ names, IsName name) :
    (under p names).components = p.components ++ names.map .name := by
  induction names generalizing p with
  | nil => simp [under]
  | cons first rest ih =>
    obtain ⟨hfirst, hrest⟩ := List.forall_mem_cons.mp hnames
    have hunder : under p (first :: rest) = under (p.push first) rest := rfl
    rw [hunder, ih hrest, components_push hfirst]
    simp

lemma under_injective {names' : Location} (hnames : ∀ name ∈ names, IsName name)
    (hnames' : ∀ name ∈ names', IsName name) (h : under p names = under p names') :
    names = names' := by
  have hcomponents := congrArg components h
  rw [components_under hnames, components_under hnames'] at hcomponents
  have hmap := List.append_cancel_left hcomponents
  exact List.map_injective_iff.mpr (fun _ _ => Component.name.inj) hmap

/-- What goes on from a path by names is below it, by just these names. -/
lemma below?_under (hnames : ∀ name ∈ names, IsName name) :
    p.below? (under p names) = some (names.map .name) := by
  have hprefix : p.components.isPrefixOf (p.components ++ names.map .name) = true :=
    List.isPrefixOf_iff_prefix.mpr (List.prefix_append _ _)
  rw [below?, components_under hnames, if_pos hprefix, List.drop_left]

lemma ofComponents_names (names : Location) :
    ofComponents (names.map .name) = ⟨['/'].intercalate names⟩ := by
  have hroot : names.map Component.name ≠ [.root] := by
    cases names with
    | nil => nofun
    | cons => simp
  have hchars : (names.map Component.name).map Component.chars = names := by
    rw [List.map_map]
    exact List.map_id names
  rw [ofComponents, if_neg hroot, hchars]

/-- Whatever follows a name, a path goes on by both behind the same front. -/
lemma exists_push_append (p : Path) (h : IsName name) :
    ∃ front, ∀ more, p.push (name ++ more) = ⟨front ++ name ++ more⟩ := by
  have hhead : ∀ more, (name ++ more).head? ≠ some '/' := by
    intro more
    rw [List.head?_append_of_ne_nil name h.ne_nil]
    exact h.head?_ne_slash
  by_cases hempty : p.chars = []
  · refine ⟨[], fun more => ?_⟩
    simp [push, hempty]
  · by_cases hslash : p.chars.getLast? = some '/'
    · refine ⟨p.chars, fun more => ?_⟩
      rw [push, if_neg (by simp only [hhead, hempty, or_self, not_false_eq_true]), if_pos hslash,
        List.append_assoc]
    · refine ⟨p.chars ++ ['/'], fun more => ?_⟩
      rw [push, if_neg (by simp only [hhead, hempty, or_self, not_false_eq_true]), if_neg hslash]
      simp

lemma push_push (h : IsName name) {piece : List Char} (hpiece : piece.head? ≠ some '/') :
    (p.push name).push piece = p.push (name ++ '/' :: piece) := by
  obtain ⟨front, hfront⟩ := exists_push_append p h
  have hname : p.push name = ⟨front ++ name⟩ := by simpa using hfront []
  have hlast : (front ++ name).getLast? ≠ some '/' := by
    intro hslash
    rw [List.getLast?_append_of_ne_nil front h.ne_nil] at hslash
    exact h.no_slash (List.mem_of_getLast? hslash)
  have hne : front ++ name ≠ [] := by simp [h.ne_nil]
  rw [hname, hfront, push, if_neg (by simp only [hpiece, hne, or_self, not_false_eq_true]),
    if_neg hlast]

lemma head?_intercalate (h : IsName name) (names : Location) :
    (['/'].intercalate (name :: names)).head? ≠ some '/' := by
  have hhead := h.head?_ne_slash
  cases names with
  | nil => rwa [List.intercalate_singleton]
  | cons next rest =>
    rwa [List.intercalate_cons_cons, List.append_assoc, List.head?_append_of_ne_nil name h.ne_nil]

/-- To go on by names one after the other is to go on by them with slashes between them. -/
lemma push_intercalate (hnames : ∀ n ∈ name :: names, IsName n) :
    p.push (['/'].intercalate (name :: names)) = under p (name :: names) := by
  induction names generalizing p name with
  | nil =>
    rw [List.intercalate_singleton]
    rfl
  | cons next rest ih =>
    obtain ⟨hname, hrest⟩ := List.forall_mem_cons.mp hnames
    have hhead := head?_intercalate (hrest next List.mem_cons_self) rest
    rw [List.intercalate_cons_cons, List.append_assoc, List.singleton_append,
      ← push_push hname hhead, ih hrest]
    rfl

lemma dropEmptyPieces_reverse (h : IsName name) (front : List Char) :
    dropEmptyPieces (name.reverse ++ front) = name.reverse ++ front := by
  have hslash : ∀ c ∈ name.reverse, c ≠ '/' := by
    rintro c hc rfl
    exact h.no_slash (List.mem_reverse.mp hc)
  cases hname : name.reverse with
  | nil => exact absurd (List.reverse_eq_nil_iff.mp hname) h.ne_nil
  | cons c rest =>
    rw [hname] at hslash
    cases rest with
    | nil =>
      have hdot : c ≠ '.' := by
        rintro rfl
        exact h.ne_dot (List.reverse_eq_iff.mp hname)
      simp [dropEmptyPieces, hslash c List.mem_cons_self, hdot]
    | cons d more =>
      have hd := hslash d (List.mem_cons_of_mem c List.mem_cons_self)
      simp [dropEmptyPieces, hslash c List.mem_cons_self, hd]

/-- A path that ends in a name may lead to a file. -/
lemma mustBeDirectory_push (h : IsName name) :
    FileTree.mustBeDirectory (p.push name) = false := by
  obtain ⟨front, hfront⟩ := exists_push_append p h
  have hname : p.push name = ⟨front ++ name⟩ := by simpa using hfront []
  rw [hname, FileTree.mustBeDirectory, List.reverse_append,
    dropEmptyPieces_reverse h front.reverse]
  exact bne_self_eq_false _

/-- To go on by at least one name leads to a path that may lead to a file. -/
lemma mustBeDirectory_under (hne : names ≠ []) (hnames : ∀ name ∈ names, IsName name) :
    (under p names).chars ≠ [] ∧ FileTree.mustBeDirectory (under p names) = false := by
  obtain ⟨front, last, rfl⟩ := List.eq_nil_or_concat names |>.resolve_left hne
  rw [List.concat_eq_append] at hnames ⊢
  have hlast : IsName last := hnames last (by simp)
  rw [under_concat]
  refine ⟨?_, mustBeDirectory_push hlast⟩
  intro hempty
  have hcomponents := components_push (p := under p front) hlast
  rw [components, if_pos hempty] at hcomponents
  simp at hcomponents

end Components

end IconInline.Proofs
