import IconInline.Imports.Site
import IconInline.Script.Grammar
import IconInline.Source.Cut

/-!
# Removing imports

Each target takes the first import site that names it, and the regions of the sites that were
taken are cut out of the text. A text that is no well-formed module stays as it is.
-/

namespace IconInline.Imports

open Script (Dialect Outlines)
open Source (Span)

/-- A specifier whose import is to be removed, and whether its site has been taken. -/
structure Target where
  specifier : String
  resolved : Bool := false
  deriving DecidableEq, Repr

/-- The targets once the first open one of this specifier has been resolved, if there is one. -/
def claim? (specifier : String) : List Target → Option (List Target)
  | [] => none
  | t :: rest =>
    if !t.resolved && t.specifier == specifier then some ({ t with resolved := true } :: rest)
    else (claim? specifier rest).map (t :: ·)

/-- The state of a search for targets. -/
structure Search where
  targets : List Target
  regions : List Span := []
  deriving DecidableEq, Repr

/-- Considers one import site. -/
def Search.visit (search : Search) (site : Site) : Search :=
  match claim? site.specifier search.targets with
  | some targets => ⟨targets, search.regions ++ site.region.toList⟩
  | none => search

/-- The outcome of removing imports. -/
structure Removal where
  text : String
  /-- The targets that were found, in the order in which they were given. -/
  resolved : List String := []
  malformed : Bool := false
  deriving DecidableEq, Repr

/-- Searches a module for the imports of some specifiers. -/
def search (module : Outlines) (specifiers : List String) : Search :=
  (sites module).foldl Search.visit ⟨specifiers.map fun s => ⟨s, false⟩, []⟩

/-- The specifiers of the targets that were found. -/
def Search.found (search : Search) : List String :=
  (search.targets.filter (·.resolved)).map (·.specifier)

/-- Removes the imports of some specifiers from a text with a known outline. -/
def removeOutlined (module : Outlines) (specifiers : List String) (text : String) : Removal :=
  let result := search module specifiers
  let kept := (Source.cut text.toList result.regions).getD text.toList
  { text := String.ofList kept, resolved := result.found }

/-- Removes the imports of some specifiers from a text in a dialect. -/
def remove (dialect : Dialect) (specifiers : List String) (text : String) : Removal :=
  match Outlines.ofText? dialect text.toList with
  | some module => removeOutlined module specifiers text
  | none => { text, malformed := true }

end IconInline.Imports
