import IconInline.Proofs.BrokenModules
import IconInline.Proofs.Bytes

/-!
# Removing whole statements keeps a module well-formed

The regions that a removal takes from a module are whole statements if the module can be read
around them: what is kept part by part, each up to a place between two statements, and every region
for itself at the place where it stands. That reading decides whether what is left is well-formed,
and gives its outline. Only of regions that sever a statement it says nothing. So a module that was
well-formed is broken only by a removal whose regions are more or less than whole statements.
-/

namespace IconInline.Proofs
open Script Source Imports Text Report

/-- What is kept of a text from an offset on around ascending spans, and what is taken away before
each part of it but the first. -/
def partsAround (text : List Char) : (next : Nat) → List Span → Option (List Char × List Part)
  | next, [] => (dropBytes next text).map (·, [])
  | next, span :: rest =>
    if span.start < next ∨ byteSize text < span.stop then partsAround text next rest
    else do
      let kept ← slice next span.start text
      let omitted ← slice span.start (resume text span.stop) text
      let (first, later) ← partsAround text (resume text span.stop) rest
      return (kept, ⟨omitted, first⟩ :: later)

/-- What is kept of a module, and what goes with the imports of some specifiers. -/
def partsWithout (module : Outlines) (specifiers : List String) (text : List Char) :
    Option (List Char × List Part) :=
  partsAround text 0 ((search module specifiers).regions.mergeSort
    (fun a b => decide (a.start ≤ b.start)))

/-- Reads a module around the regions that the imports of some specifiers take along. -/
def readAround (dialect : Dialect) (specifiers : List String) (text : String) :
    Except Stop Outlines :=
  match Outlines.ofText? dialect text.toList with
  | none => .error .mismatch
  | some module =>
    match partsWithout module specifiers text.toList with
    | none => .error .severed
    | some (first, later) => Outlines.ofParts dialect first later

/-- The imports of some specifiers take nothing along but whole statements, and what is left of the
module can be read. -/
def TakesStatements (dialect : Dialect) (specifiers : List String) (text : String) : Prop :=
  (readAround dialect specifiers text).toOption.isSome

instance (dialect : Dialect) (specifiers : List String) (text : String) :
    Decidable (TakesStatements dialect specifiers text) :=
  inferInstanceAs (Decidable (_ = true))

section Parts

variable {text first : List Char} {later : List Part} {next : Nat} {spans : List Span}

/-- A slice and what stands behind it are what stands from its start on. -/
lemma dropBytes_of_slice {start stop : Nat} {part after : List Char}
    (hslice : slice start stop text = some part) (hafter : dropBytes stop text = some after) :
    dropBytes start text = some (part ++ after) := by
  obtain ⟨before, rest, rfl, hstart, hstop⟩ := slice_eq_some_iff.mp hslice
  obtain ⟨front, htext, hfront⟩ := dropBytes_eq_some_iff.mp hafter
  obtain ⟨-, rfl⟩ := append_inj_of_byteSize htext (hstop.trans hfront.symm)
  exact dropBytes_eq_some_iff.mpr ⟨before, List.append_assoc _ _ _, hstart⟩

/-- The parts make up the text from the offset on. -/
theorem text_of_partsAround (h : partsAround text next spans = some (first, later)) :
    dropBytes next text = some (first ++ later.flatMap fun part => part.omitted ++ part.kept) := by
  induction spans generalizing next first later with
  | nil =>
    obtain ⟨rest, hrest, hparts⟩ := Option.map_eq_some_iff.mp h
    cases hparts
    simpa using hrest
  | cons span rest ih =>
    rw [partsAround] at h
    split at h
    · exact ih h
    · obtain ⟨kept, hkept, h⟩ := Option.bind_eq_some_iff.mp h
      obtain ⟨omitted, homitted, h⟩ := Option.bind_eq_some_iff.mp h
      obtain ⟨⟨second, others⟩, hothers, hparts⟩ := Option.bind_eq_some_iff.mp h
      cases hparts
      rw [List.flatMap_cons, List.append_assoc]
      exact dropBytes_of_slice hkept (dropBytes_of_slice homitted (ih hothers))

/-- What the sweep leaves are the parts that are kept. -/
lemma sweep_of_partsAround (h : partsAround text next spans = some (first, later)) :
    sweep text (byteSize text) next spans = some (first ++ keptText later) := by
  induction spans generalizing next first later with
  | nil =>
    obtain ⟨rest, hrest, hparts⟩ := Option.map_eq_some_iff.mp h
    cases hparts
    simpa [sweep] using hrest
  | cons span rest ih =>
    rw [partsAround] at h
    rw [sweep]
    split at h
    · next hpassed =>
      rw [if_pos hpassed]
      exact ih h
    · next htaken =>
      obtain ⟨kept, hkept, h⟩ := Option.bind_eq_some_iff.mp h
      obtain ⟨omitted, homitted, h⟩ := Option.bind_eq_some_iff.mp h
      obtain ⟨⟨second, others⟩, hothers, hparts⟩ := Option.bind_eq_some_iff.mp h
      cases hparts
      rw [if_neg htaken, hkept, ih hothers, Reading.keptText_cons]
      rfl

end Parts

section Removals

variable {dialect : Dialect} {specifiers : List String} {text : String}

lemma remove_of_malformed (h : Outlines.ofText? dialect text.toList = none) :
    (remove dialect specifiers text).text = text := by
  rw [remove, h]

/-- What the removal leaves are the parts that are kept. -/
lemma remove_of_partsWithout {module : Outlines} {first : List Char} {later : List Part}
    (hmodule : Outlines.ofText? dialect text.toList = some module)
    (h : partsWithout module specifiers text.toList = some (first, later)) :
    (remove dialect specifiers text).text.toList = first ++ keptText later := by
  have hcut : cut text.toList (search module specifiers).regions =
      some (first ++ keptText later) := sweep_of_partsAround h
  rw [remove, hmodule]
  simp only [removeOutlined, hcut, Option.getD_some, String.toList_ofList]

/-- Unless a statement is severed, what is left has the outline that is read around the regions. -/
lemma ofText?_remove (h : readAround dialect specifiers text ≠ .error .severed) :
    Outlines.ofText? dialect (remove dialect specifiers text).text.toList =
      (readAround dialect specifiers text).toOption := by
  rw [readAround] at h ⊢
  cases hmodule : Outlines.ofText? dialect text.toList with
  | none =>
    rw [remove_of_malformed hmodule, hmodule]
    rfl
  | some module =>
    rw [hmodule] at h
    dsimp only at h ⊢
    cases hparts : partsWithout module specifiers text.toList with
    | none =>
      rw [hparts] at h
      exact absurd rfl h
    | some parts =>
      rw [hparts] at h
      rw [remove_of_partsWithout hmodule hparts]
      exact Outlines.ofText?_of_ofParts h

lemma TakesStatements.wellFormed_remove (h : TakesStatements dialect specifiers text) :
    WellFormed dialect (remove dialect specifiers text).text := by
  have hread : readAround dialect specifiers text ≠ .error .severed := by
    intro hsevered
    rw [TakesStatements, hsevered] at h
    cases h
  rw [WellFormed, ofText?_remove hread]
  exact Option.isSome_iff_exists.mp h

lemma Breaks.not_takesStatements (h : Breaks dialect specifiers text) :
    ¬TakesStatements dialect specifiers text :=
  fun hwhole => h.2 hwhole.wellFormed_remove

end Removals

/-- Two loaded entries with a package each; the import of the first one is exported. -/
def exportedReport : Report where
  moduleId := "/icons.js"
  text := "export const x = await import('pkg');\n"

def exportedAcquired : List Acquired :=
  [(⟨⟨"pkg", "a"⟩, "pkg", .standard, ⟨['f'], .balanced, by decide⟩⟩, .ok []),
    (⟨⟨"other", "b"⟩, "other", .standard, ⟨['f'], .balanced, by decide⟩⟩, .ok [])]

example : TakesStatements {} ["pkg"] "f()\nimport x from 'pkg'\nimport y from 'other'\ng(y)\n" := by
  decide +kernel

example : TakesStatements {} ["pkg"]
    "async function f() \x7b\n  const x = await import('pkg')\n  return g(x)\n\x7d\n" := by
  decide +kernel

example : ¬TakesStatements {} ["pkg"] "a = b\nimport 'pkg';\n/re/.test(y);\n" := by
  decide +kernel

end IconInline.Proofs
