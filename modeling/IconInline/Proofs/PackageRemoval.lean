import IconInline.Inliner.Report
import IconInline.Proofs.ImportSearch
import Mathlib.Data.List.Nodup

/-!
# Packages whose imports are removed

Over a module each package is a target once at most, on account of the first entry that names it,
and never if an entry that names it was skipped. The removals follow one another, each on the text
that the one before left, up to the first text that is no well-formed module.
-/

namespace IconInline.Proofs
open Script Imports Report

/-- The dataset of an entry could not be loaded. -/
def Skipped (a : Acquired) : Prop := ∃ e, a.2 = .error e

/-- The lists of packages for which imports are removed, in their order. -/
def targetLists (acquired : List Acquired) : List (List String) :=
  (removalTargets (neededPackages acquired) (acquired.map Prod.fst)).filter (!·.isEmpty)

/-- Imports of one list of packages after the other are removed from texts that are well-formed,
and these specifiers are found. -/
inductive RemovesInTurn (dialect : Dialect) : String → List (List String) → List String → String →
    Prop where
  | done {text : String} : RemovesInTurn dialect text [] [] text
  | next {text final : String} {targets : List String} {rest : List (List String)}
    {found : List String} (wellFormed : (remove dialect targets text).malformed = false)
    (more : RemovesInTurn dialect (remove dialect targets text).text rest found final) :
    RemovesInTurn dialect text (targets :: rest) ((remove dialect targets text).resolved ++ found)
      final

section Targets

variable {s : String} {others names settled : List String} {entries : List Entry}
  {acquired : List Acquired}

lemma mem_fresh_iff : s ∈ fresh others names ↔ s ∈ names ∧ s ∉ others := by
  induction names generalizing others with
  | nil => simp [fresh]
  | cons name rest ih =>
    rw [fresh]
    by_cases hold : name ∈ others
    · rw [if_pos (by simpa using hold), ih, List.mem_cons]
      constructor
      · rintro ⟨hrest, hnot⟩
        exact ⟨Or.inr hrest, hnot⟩
      · rintro ⟨rfl | hrest, hnot⟩
        · exact absurd hold hnot
        · exact ⟨hrest, hnot⟩
    · rw [if_neg (by simpa using hold), List.mem_cons, ih, List.mem_cons, List.mem_cons]
      constructor
      · rintro (rfl | ⟨hrest, hnot⟩)
        · exact ⟨Or.inl rfl, hold⟩
        · exact ⟨Or.inr hrest, fun hmem => hnot (Or.inr hmem)⟩
      · rintro ⟨hmem, hnot⟩
        by_cases hs : s = name
        · exact Or.inl hs
        · exact Or.inr ⟨hmem.resolve_left hs, not_or.mpr ⟨hs, hnot⟩⟩

lemma nodup_fresh (others names : List String) : (fresh others names).Nodup := by
  induction names generalizing others with
  | nil => exact List.nodup_nil
  | cons name rest ih =>
    rw [fresh]
    split
    · exact ih others
    · refine List.nodup_cons.mpr ⟨?_, ih (name :: others)⟩
      intro hmem
      exact (mem_fresh_iff.mp hmem).2 List.mem_cons_self

lemma mem_flatten_removalTargets_iff :
    s ∈ (removalTargets settled entries).flatten ↔
      (∃ entry ∈ entries, s ∈ entry.packages) ∧ s ∉ settled := by
  induction entries generalizing settled with
  | nil => simp [removalTargets]
  | cons entry rest ih =>
    rw [removalTargets, List.flatten_cons, List.mem_append, ih, mem_fresh_iff, List.mem_append,
      mem_fresh_iff]
    simp only [List.mem_cons, exists_eq_or_imp]
    tauto

lemma nodup_flatten_removalTargets (settled : List String) (entries : List Entry) :
    (removalTargets settled entries).flatten.Nodup := by
  induction entries generalizing settled with
  | nil => exact List.nodup_nil
  | cons entry rest ih =>
    rw [removalTargets, List.flatten_cons]
    refine List.nodup_append'.mpr ⟨nodup_fresh _ _, ih _, ?_⟩
    intro s hfirst hrest
    exact (mem_flatten_removalTargets_iff.mp hrest).2 (List.mem_append_left _ hfirst)

lemma mem_neededPackages_iff :
    s ∈ neededPackages acquired ↔ ∃ a ∈ acquired, Skipped a ∧ s ∈ a.1.packages := by
  rw [neededPackages, List.mem_flatMap]
  refine exists_congr ?_
  rintro ⟨entry, outcome⟩
  cases outcome with
  | ok icons => simp [Skipped]
  | error e => simp [Skipped]

lemma mem_flatten_targetLists_iff :
    s ∈ (targetLists acquired).flatten ↔
      (∃ a ∈ acquired, s ∈ a.1.packages) ∧ ∀ a ∈ acquired, Skipped a → s ∉ a.1.packages := by
  rw [targetLists, List.flatten_filter_not_isEmpty, mem_flatten_removalTargets_iff,
    mem_neededPackages_iff]
  simp only [List.mem_map, exists_exists_and_eq_and, not_exists, not_and]

lemma nodup_flatten_targetLists (acquired : List Acquired) :
    (targetLists acquired).flatten.Nodup := by
  rw [targetLists, List.flatten_filter_not_isEmpty]
  exact nodup_flatten_removalTargets _ _

end Targets

section Removals

variable {dialect : Dialect} {targets : List String} {text : String}

lemma resolved_sublist (hdistinct : targets.Nodup) :
    (remove dialect targets text).resolved.Sublist targets := by
  rw [remove]
  split
  · next module _ =>
    have hfound : (removeOutlined module targets text).resolved =
        targets.filter fun s => (firstSite? (sites module) s).isSome :=
      (searched_sites module hdistinct).found_eq
    rw [hfound]
    exact List.filter_sublist
  · exact List.nil_sublist targets

lemma RemovesInTurn.found_sublist {lists : List (List String)} {found : List String}
    {final : String} (h : RemovesInTurn dialect text lists found final)
    (hdistinct : ∀ targets ∈ lists, targets.Nodup) : found.Sublist lists.flatten := by
  induction h with
  | done => exact List.Sublist.slnil
  | next wellFormed more ih =>
    obtain ⟨hfirst, hrest⟩ := List.forall_mem_cons.mp hdistinct
    exact (resolved_sublist hfirst).append (ih hrest)

/-- Removals go on as long as the text is well-formed; where it is not, they end with a finding. -/
lemma removeEach_eq (report : Report) (lists : List (List String)) :
    ∃ done found final failed,
      RemovesInTurn (.ofModuleId report.moduleId) report.text done found final ∧
      (report.removeEach lists).1 =
        { report with
          text := final
          foundImports := report.foundImports ++ found
          findings := report.findings ++ failed } ∧
      (done = lists ∧ failed = [] ∨
        ∃ targets later, lists = done ++ targets :: later ∧
          (remove (.ofModuleId report.moduleId) targets final).malformed = true ∧
          failed = [.malformedModule report.moduleId]) := by
  induction lists generalizing report with
  | nil => exact ⟨[], [], report.text, [], .done, by simp [removeEach], Or.inl ⟨rfl, rfl⟩⟩
  | cons targets rest ih =>
    by_cases hbad : (remove (.ofModuleId report.moduleId) targets report.text).malformed = true
    · refine ⟨[], [], report.text, [.malformedModule report.moduleId], .done, ?_,
        Or.inr ⟨targets, rest, rfl, hbad, rfl⟩⟩
      simp [removeEach, hbad]
    · obtain ⟨done, found, final, failed, hturn, hreport, hend⟩ := ih
        { report with
          text := (remove (.ofModuleId report.moduleId) targets report.text).text
          foundImports := report.foundImports ++
            (remove (.ofModuleId report.moduleId) targets report.text).resolved }
      refine ⟨targets :: done, _, final, failed, .next (by simpa using hbad) hturn, ?_, ?_⟩
      · simp [removeEach, hbad, hreport]
      · rcases hend with ⟨rfl, hfailed⟩ | ⟨next, later, rfl, hnext, hfailed⟩
        · exact Or.inl ⟨rfl, hfailed⟩
        · exact Or.inr ⟨next, later, rfl, hnext, hfailed⟩

/-- The lists that came to their turn are the first ones. -/
lemma prefix_of_end {lists done : List (List String)} {complete : Prop}
    {stops : List String → Prop}
    (h : done = lists ∧ complete ∨
      ∃ targets later, lists = done ++ targets :: later ∧ stops targets) :
    done <+: lists := by
  rcases h with ⟨rfl, -⟩ | ⟨targets, later, rfl, -⟩
  · exact List.prefix_rfl
  · exact List.prefix_append done _

end Removals

/-- The removals for the entries of a module, whichever of them were skipped. Their targets are
different packages, and they are just the packages of all entries that no skipped entry names.
What is found are some of the targets that came to their turn, in their order. If the text before
a removal is no well-formed module, the outcome is the one of the removals before it with one
finding more, and none follows. -/
theorem removeImports_once (report : Report) (acquired : List Acquired) :
    (∀ targets ∈ targetLists acquired, targets ≠ [] ∧ targets.Nodup) ∧
    (targetLists acquired).Pairwise List.Disjoint ∧
    (∀ s, (∃ targets ∈ targetLists acquired, s ∈ targets) ↔
      (∃ a ∈ acquired, s ∈ a.1.packages) ∧ ∀ a ∈ acquired, Skipped a → s ∉ a.1.packages) ∧
    ∃ done found final failed,
      RemovesInTurn (.ofModuleId report.moduleId) report.text done found final ∧
      found.Nodup ∧ found.Sublist done.flatten ∧
      (report.removeImports acquired).1 =
        { report with
          text := final
          foundImports := report.foundImports ++ found
          findings := report.findings ++ failed } ∧
      (done = targetLists acquired ∧ failed = [] ∨
        ∃ targets later, targetLists acquired = done ++ targets :: later ∧
          (remove (.ofModuleId report.moduleId) targets final).malformed = true ∧
          failed = [.malformedModule report.moduleId]) := by
  obtain ⟨hdistinct, hdisjoint⟩ := List.nodup_flatten.mp (nodup_flatten_targetLists acquired)
  refine ⟨?_, hdisjoint, ?_, ?_⟩
  · intro targets hmem
    refine ⟨?_, hdistinct targets hmem⟩
    rintro rfl
    simp [targetLists] at hmem
  · intro s
    rw [← mem_flatten_targetLists_iff, List.mem_flatten]
  · obtain ⟨done, found, final, failed, hturn, hreport, hend⟩ :=
      removeEach_eq report (targetLists acquired)
    have hdone : done <+: targetLists acquired := prefix_of_end hend
    have hsublist : found.Sublist done.flatten :=
      hturn.found_sublist fun targets hmem => hdistinct targets (hdone.subset hmem)
    refine ⟨done, found, final, failed, hturn, ?_, hsublist, hreport, hend⟩
    obtain ⟨rest, hrest⟩ := hdone
    have hall := nodup_flatten_targetLists acquired
    rw [← hrest, List.flatten_append] at hall
    exact (hall.of_append_left).sublist hsublist

end IconInline.Proofs
