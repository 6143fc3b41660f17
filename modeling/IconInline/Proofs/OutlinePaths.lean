import IconInline.Imports.Site
import Mathlib.Tactic.Common

/-!
# Paths in an outline

The parts of a module form a tree, in which a path leads to each part. The search for the dynamic
imports passes through the tree in the order of the paths and carries the innermost declaration
along, so the first site of a specifier that it comes to is the one of the least path.
-/

namespace IconInline.Proofs
open Script Source Imports

/-- The part at a path, in which each number is a place among the parts of the declaration that
the numbers before it lead to. -/
def partAt? : List Outline → List Nat → Option Outline
  | _, [] => none
  | parts, [place] => parts[place]?
  | parts, place :: next :: path =>
    match parts[place]? with
    | some (.declaration _ body) => partAt? body (next :: path)
    | _ => none

def declarationAt? (parts : List Outline) (path : List Nat) : Option Span :=
  match partAt? parts path with
  | some (.declaration span _) => some span
  | _ => none

def ImportAt (parts : List Outline) (specifier : String) (path : List Nat) : Prop :=
  partAt? parts path = some (.imported specifier)

/-- A path comes before another one in the order of the text. -/
def Precedes (path other : List Nat) : Prop := List.Lex (· < ·) path other

/-- The dynamic import of a specifier that comes first in the order of the text. -/
structure FirstImportAt (parts : List Outline) (specifier : String) (path : List Nat) : Prop where
  importAt : ImportAt parts specifier path
  precedes : ∀ other, ImportAt parts specifier other → path = other ∨ Precedes path other

/-- The region is the innermost declaration around a path; outside of any declaration of the parts
it is the one around all of them. -/
def EnclosedIn (around : Option Span) (parts : List Outline) (path : List Nat)
    (region : Option Span) : Prop :=
  path.dropLast = [] ∧ region = around ∨
    ∃ span, declarationAt? parts path.dropLast = some span ∧ region = some span

def firstSite? (sites : List Site) (specifier : String) : Option Site :=
  sites.find? fun site => site.specifier == specifier

/-- A search of parts for a specifier has this result. -/
def Finds (around : Option Span) (parts : List Outline) (specifier : String) :
    Option Site → Prop
  | none => ∀ path, ¬ImportAt parts specifier path
  | some site => ∃ path, FirstImportAt parts specifier path ∧
      EnclosedIn around parts path site.region

section Paths

variable {part : Outline} {parts rest body : List Outline} {span : Span} {specifier : String}
  {around : Option Span}

@[simp] lemma partAt?_nil_path : partAt? parts [] = none := by
  simp [partAt?]

@[simp] lemma partAt?_nil_parts (path : List Nat) : partAt? [] path = none := by
  match path with
  | [] => rfl
  | [_] => rfl
  | _ :: _ :: _ => rfl

@[simp] lemma partAt?_cons_succ (place : Nat) (path : List Nat) :
    partAt? (part :: rest) ((place + 1) :: path) = partAt? rest (place :: path) := by
  cases path with
  | nil => rfl
  | cons next path => simp [partAt?]

@[simp] lemma partAt?_cons_zero (path : List Nat) :
    partAt? (part :: rest) (0 :: path) = partAt? [part] (0 :: path) := by
  cases path with
  | nil => rfl
  | cons next path => simp [partAt?]

lemma importAt_cons_succ (place : Nat) (path : List Nat) :
    ImportAt (part :: rest) specifier ((place + 1) :: path) ↔
      ImportAt rest specifier (place :: path) := by
  rw [ImportAt, ImportAt, partAt?_cons_succ]

lemma importAt_cons_zero (path : List Nat) :
    ImportAt (part :: rest) specifier (0 :: path) ↔ ImportAt [part] specifier (0 :: path) := by
  rw [ImportAt, ImportAt, partAt?_cons_zero]

lemma not_importAt_nil_path : ¬ImportAt parts specifier [] := by
  simp [ImportAt]

/-- All paths in a single part begin with zero. -/
lemma ImportAt.eq_zero_cons {path : List Nat} (h : ImportAt [part] specifier path) :
    ∃ tail, path = 0 :: tail := by
  match path with
  | [] => exact absurd h not_importAt_nil_path
  | 0 :: tail => exact ⟨tail, rfl⟩
  | (place + 1) :: tail =>
    rw [importAt_cons_succ, ImportAt, partAt?_nil_parts] at h
    cases h

lemma importAt_declaration (path : List Nat) :
    ImportAt [.declaration span body] specifier (0 :: path) ↔ ImportAt body specifier path := by
  cases path with
  | nil => simp [ImportAt, partAt?]
  | cons next path => rfl

lemma EnclosedIn.cons_zero {path : List Nat} {region : Option Span}
    (h : EnclosedIn around [part] (0 :: path) region) :
    EnclosedIn around (part :: rest) (0 :: path) region := by
  cases path with
  | nil => exact h
  | cons next path =>
    simpa [EnclosedIn, declarationAt?] using h

lemma EnclosedIn.cons_succ {place : Nat} {path : List Nat} {region : Option Span}
    (h : EnclosedIn around rest (place :: path) region) :
    EnclosedIn around (part :: rest) ((place + 1) :: path) region := by
  cases path with
  | nil => exact h
  | cons next path =>
    simpa [EnclosedIn, declarationAt?] using h

end Paths

/-! ## The search -/

section Search

variable {part : Outline} {rest body : List Outline} {span : Span} {specifier : String}
  {around : Option Span}

lemma Finds.isSome_iff {parts : List Outline} {found : Option Site}
    (h : Finds around parts specifier found) :
    found.isSome ↔ ∃ path, ImportAt parts specifier path := by
  cases found with
  | none =>
    have hnone : ∀ path, ¬ImportAt parts specifier path := h
    simpa using hnone
  | some site =>
    obtain ⟨path, hfirst, -⟩ := h
    exact ⟨fun _ => ⟨path, hfirst.importAt⟩, fun _ => rfl⟩

lemma Finds.nil : Finds around [] specifier none := by
  intro path h
  rw [ImportAt, partAt?_nil_parts] at h
  cases h

/-- What a part holds comes before what the parts behind it hold. -/
lemma Finds.cons {first later : Option Site} (hfirst : Finds around [part] specifier first)
    (hlater : Finds around rest specifier later) :
    Finds around (part :: rest) specifier (first.or later) := by
  cases first with
  | some site =>
    obtain ⟨path, ⟨himport, hleast⟩, henclosed⟩ := hfirst
    obtain ⟨tail, rfl⟩ := himport.eq_zero_cons
    refine ⟨0 :: tail, ⟨(importAt_cons_zero tail).mpr himport, ?_⟩, henclosed.cons_zero⟩
    intro other hother
    match other with
    | [] => exact absurd hother not_importAt_nil_path
    | 0 :: otherTail => exact hleast _ ((importAt_cons_zero otherTail).mp hother)
    | (place + 1) :: otherTail =>
      exact Or.inr (List.Lex.rel (Nat.succ_pos place))
  | none =>
    have hnone : ∀ path, ¬ImportAt (part :: rest) specifier (0 :: path) := fun path h =>
      hfirst _ ((importAt_cons_zero path).mp h)
    cases later with
    | none =>
      intro path h
      match path with
      | [] => exact not_importAt_nil_path h
      | 0 :: tail => exact hnone tail h
      | (place + 1) :: tail => exact hlater _ ((importAt_cons_succ place tail).mp h)
    | some site =>
      obtain ⟨path, ⟨himport, hleast⟩, henclosed⟩ := hlater
      cases path with
      | nil => exact absurd himport not_importAt_nil_path
      | cons place tail =>
        refine ⟨(place + 1) :: tail, ⟨(importAt_cons_succ place tail).mpr himport, ?_⟩,
          henclosed.cons_succ⟩
        intro other hother
        match other with
        | [] => exact absurd hother not_importAt_nil_path
        | 0 :: otherTail => exact absurd hother (hnone otherTail)
        | (otherPlace + 1) :: otherTail =>
          rcases hleast _ ((importAt_cons_succ otherPlace otherTail).mp hother) with heq | hlex
          · cases heq
            exact Or.inl rfl
          · cases hlex with
            | rel hlt => exact Or.inr (List.Lex.rel (Nat.succ_lt_succ hlt))
            | cons htail => exact Or.inr (List.Lex.cons htail)

lemma Finds.imported_same : Finds around [.imported specifier] specifier
    (some ⟨specifier, around⟩) := by
  refine ⟨[0], ⟨rfl, ?_⟩, Or.inl ⟨rfl, rfl⟩⟩
  intro other hother
  obtain ⟨tail, rfl⟩ := hother.eq_zero_cons
  cases tail with
  | nil => exact Or.inl rfl
  | cons next tail => cases hother

lemma Finds.imported_other {named : String} (h : named ≠ specifier) :
    Finds around [.imported named] specifier none := by
  intro path hpath
  obtain ⟨tail, rfl⟩ := hpath.eq_zero_cons
  cases tail with
  | nil =>
    cases hpath
    exact h rfl
  | cons next tail => cases hpath

/-- A declaration is the innermost one around what stands in it outside of any other. -/
lemma Finds.declaration {found : Option Site} (h : Finds (some span) body specifier found) :
    Finds around [.declaration span body] specifier found := by
  cases found with
  | none =>
    intro path hpath
    obtain ⟨tail, rfl⟩ := hpath.eq_zero_cons
    exact h tail ((importAt_declaration tail).mp hpath)
  | some site =>
    obtain ⟨path, ⟨himport, hleast⟩, henclosed⟩ := h
    refine ⟨0 :: path, ⟨(importAt_declaration path).mpr himport, ?_⟩, Or.inr ?_⟩
    · intro other hother
      obtain ⟨tail, rfl⟩ := hother.eq_zero_cons
      rcases hleast tail ((importAt_declaration tail).mp hother) with rfl | hlex
      · exact Or.inl rfl
      · exact Or.inr (List.Lex.cons hlex)
    · have hne : path ≠ [] := fun hnil => not_importAt_nil_path (hnil ▸ himport)
      rw [List.dropLast_cons_of_ne_nil hne]
      rcases henclosed with ⟨houter, hregion⟩ | ⟨inner, hinner, hregion⟩
      · rw [houter]
        exact ⟨span, rfl, hregion⟩
      · refine ⟨inner, ?_, hregion⟩
        cases hpath : path.dropLast with
        | nil => rw [hpath, declarationAt?, partAt?_nil_path] at hinner; cases hinner
        | cons next tail => rw [hpath] at hinner; exact hinner

end Search

lemma firstSite?_append (sites more : List Site) (specifier : String) :
    firstSite? (sites ++ more) specifier =
      (firstSite? sites specifier).or (firstSite? more specifier) := by
  rw [firstSite?, List.find?_append]
  rfl

mutual

lemma finds_dynamicSites (around : Option Span) (specifier : String) (part : Outline) :
    Finds around [part] specifier
      (firstSite? (dynamicSites around part) specifier) := by
  cases part with
  | imported named =>
    by_cases h : named = specifier
    · subst h
      simpa [firstSite?, dynamicSites] using Finds.imported_same
    · simpa [firstSite?, dynamicSites, h] using Finds.imported_other h
  | declaration span body =>
    rw [dynamicSites]
    exact (finds_dynamicSitesIn (some span) specifier body).declaration

/-- The first site of a specifier is the one of the least path, with the innermost declaration
around it. -/
lemma finds_dynamicSitesIn (around : Option Span) (specifier : String) (parts : List Outline) :
    Finds around parts specifier
      (firstSite? (dynamicSitesIn around parts) specifier) := by
  cases parts with
  | nil => exact Finds.nil
  | cons part rest =>
    rw [dynamicSitesIn, firstSite?_append]
    exact (finds_dynamicSites around specifier part).cons
      (finds_dynamicSitesIn around specifier rest)

end

end IconInline.Proofs
