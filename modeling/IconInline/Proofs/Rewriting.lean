import IconInline.Inliner.Report
import IconInline.Proofs.CallFindings

/-!
# Entries in a row

The entries of an inliner rewrite a text one after the other. An entry with its dataset replaces its
calls in what the entries before it left, and an entry without one only says so.
-/

namespace IconInline.Proofs
open CallSite

/-- Entries rewrite a text in turn, each with a block of findings of its own. -/
inductive Rewrites : String → List Acquired → List (List Finding) → String → Prop where
  | done {text : String} : Rewrites text [] [] text
  | skipped {text final : String} {entry : Entry} {e : Failure} {rest : List Acquired}
    {blocks : List (List Finding)} (more : Rewrites text rest blocks final) :
    Rewrites text ((entry, .error e) :: rest)
      ([.datasetMissing entry.dataset.display e.display] :: blocks) final
  | rewritten {text final : String} {entry : Entry} {icons : IconSet} {rest : List Acquired}
    {blocks : List (List Finding)}
    (more : Rewrites (String.ofList (entry.replaceCalls icons text).text) rest blocks final) :
    Rewrites text ((entry, .ok icons) :: rest)
      ((entry.replaceCalls icons text).findings :: blocks) final

section Entries

variable {entry : Entry} {icons : IconSet} {text identifier literal : String}

/-- A target with a well-formed function name has an entry, unless its strategy does not exist. -/
lemma entryOf_ok {scan : ArgumentExtent} {target : Target} {found : Option Entry}
    (h : Inliner.entryOf scan target = .ok found) :
    Text.isExtractorName target.extractor.name = true ∧
      (target.extractor.strategy.resolve? = none ∧ found = none ∨
        ∃ strategy callee, target.extractor.strategy.resolve? = some strategy ∧
          callee.name = target.extractor.name.toList ∧ callee.scan = scan ∧
          found = some ⟨target.dataset, target.extractor.package, strategy, callee⟩) := by
  rw [Inliner.entryOf] at h
  split at h
  · cases h
  · next hname =>
    refine ⟨by simpa using hname, ?_⟩
    split at h
    · next hnone =>
      cases h
      exact Or.inl ⟨hnone, rfl⟩
    · next strategy hstrategy =>
      rw [Callee.ofName] at h
      split at h
      · cases h
        exact Or.inr ⟨strategy, _, hstrategy, rfl, rfl, rfl⟩
      · cases h

/-- The code that an entry puts in the place of an icon's name. -/
def codeOf (entry : Entry) (icons : IconSet) (identifier : String) : Option IconCode :=
  (icons.find? identifier).map entry.strategy.encode

lemma replaceCalls_eq (entry : Entry) (icons : IconSet) (text : String) :
    entry.replaceCalls icons text =
      outcomeOf (codeOf entry icons) (entry.callee.segments text.toList) := rfl

lemma replaced_replaceCalls (entry : Entry) (icons : IconSet) (text : String) :
    (entry.replaceCalls icons text).replaced =
      (entry.replaceCalls icons text).findings.filterMap replacedIcon? :=
  replaced_outcomeOf _ _

/-- A literal that an entry puts into a text is the one of an icon of its set. -/
lemma exists_icon_of_replaceCalls
    (h : .replaced identifier literal ∈ (entry.replaceCalls icons text).findings) :
    ∃ icon, icons.find? identifier = some icon ∧
      literal = (entry.strategy.encode icon).literal := by
  obtain ⟨code, hcode, rfl⟩ := exists_icon_of_replaced h
  obtain ⟨icon, hfound, rfl⟩ := Option.map_eq_some_iff.mp hcode
  exact ⟨icon, hfound, rfl⟩

end Entries

/-- A finding of the entries says that a dataset is missing, or it is one of an entry that replaces
its calls in some text. -/
lemma Rewrites.exists_of_mem {acquired : List Acquired} {blocks : List (List Finding)}
    {text final : String} {finding : Finding} (h : Rewrites text acquired blocks final)
    (hmem : finding ∈ blocks.flatten) :
    (∃ entry e, (entry, .error e) ∈ acquired ∧
      finding = .datasetMissing entry.dataset.display e.display) ∨
      ∃ entry icons given, (entry, .ok icons) ∈ acquired ∧
        finding ∈ (entry.replaceCalls icons given).findings := by
  induction h with
  | done => cases hmem
  | @skipped text final entry e rest blocks more ih =>
    rw [List.flatten_cons, List.singleton_append, List.mem_cons] at hmem
    rcases hmem with rfl | hlater
    · exact Or.inl ⟨entry, e, List.mem_cons_self, rfl⟩
    · rcases ih hlater with ⟨entry, e, hmem, hfinding⟩ | ⟨entry, icons, given, hmem, hfinding⟩
      · exact Or.inl ⟨entry, e, List.mem_cons_of_mem _ hmem, hfinding⟩
      · exact Or.inr ⟨entry, icons, given, List.mem_cons_of_mem _ hmem, hfinding⟩
  | @rewritten text final entry icons rest blocks more ih =>
    rw [List.flatten_cons, List.mem_append] at hmem
    rcases hmem with hhere | hlater
    · exact Or.inr ⟨entry, icons, text, List.mem_cons_self, hhere⟩
    · rcases ih hlater with ⟨entry, e, hmem, hfinding⟩ | ⟨entry, icons, given, hmem, hfinding⟩
      · exact Or.inl ⟨entry, e, List.mem_cons_of_mem _ hmem, hfinding⟩
      · exact Or.inr ⟨entry, icons, given, List.mem_cons_of_mem _ hmem, hfinding⟩

/-- A report collects the blocks of the entries, and the icons that they embed. -/
lemma exists_rewrites_foldl (acquired : List Acquired) (report : Report) :
    ∃ blocks final, Rewrites report.text acquired blocks final ∧
      acquired.foldl Report.embed report =
        { report with
          text := final
          replaced := report.replaced ++ blocks.flatten.filterMap replacedIcon?
          findings := report.findings ++ blocks.flatten } := by
  induction acquired generalizing report with
  | nil => exact ⟨[], report.text, .done, by simp⟩
  | cons a rest ih =>
    obtain ⟨entry, outcome⟩ := a
    obtain ⟨blocks, final, hrewrites, hfold⟩ := ih (report.embed (entry, outcome))
    rw [List.foldl_cons, hfold]
    cases outcome with
    | ok icons =>
      refine ⟨_, final, .rewritten hrewrites, ?_⟩
      simp [Report.embed, replaced_replaceCalls]
    | error e =>
      refine ⟨_, final, .skipped hrewrites, ?_⟩
      simp [Report.embed, List.filterMap_cons, replacedIcon?]

end IconInline.Proofs
