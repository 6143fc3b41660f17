import IconInline.Inliner.Transform
import IconInline.Proofs.Acquisition
import IconInline.Proofs.IconCodes
import IconInline.Proofs.LiteralValues
import IconInline.Proofs.PackageRemoval
import IconInline.Proofs.Rewriting
import IconInline.Proofs.SingleFlight

/-!
# What a transform embeds and reports

A transform of an admitted module fails only where the journal does. Otherwise its report holds one
block of findings for each entry, in their order, and one more finding at most; and each literal in
it evaluates to the code of the icon that the dataset of the entry has under the identifier.
-/

namespace IconInline.Proofs

/-- The literals that a block of findings reports carry the fields of icons of the entry's set. -/
def Carries (a : Acquired) (block : List Finding) : Prop :=
  ∀ identifier literal, .replaced identifier literal ∈ block →
    ∃ icons icon value code, a.2 = .ok icons ∧ icons.find? identifier = some icon ∧
      EvaluatesTo literal value ∧ (∀ other, EvaluatesTo literal other → other = value) ∧
      IconCode.ofText? value = some code ∧
      code.fields.toList = (a.1.strategy.fields icon).toList.map withoutSeparators

/-- What a report tells of a module, given what became of the datasets of the entries. -/
structure Tells (e : Inliner) (id code : String) (acquired : List Acquired) (report : Report) :
    Prop where
  moduleId_eq : report.moduleId = id
  findings_eq : ∃ blocks embedded failed, Rewrites code acquired blocks embedded ∧
    List.Forall₂ Carries acquired blocks ∧ report.findings = blocks.flatten ++ failed ∧
    (failed = [] ∨ failed = [.malformedModule id]) ∧
    (e.options.dropsImports = false → failed = [] ∧ report.text = embedded)
  replaced_eq : report.replaced = report.findings.filterMap replacedIcon?

section Effects

variable {σ : Type}

/-- The outcome of a transform is its report, unless the report cannot be put in the journal. -/
def EndsWith (host : Host (StateM σ)) (e : Inliner) (report : Report)
    (outcome : Except Failure (Option Report)) : Prop :=
  match e.options.journal with
  | none => outcome = .ok (some report)
  | some file => ∃ world, outcome =
    ((host.append file (report.journalEntry e.options.verbose)).run world).1.map
      fun _ => some report

/-- A transform ends with the report on what its entries obtained of their datasets. -/
def EndsInReport (host : Host (StateM σ)) (e : Inliner) (id code : String) (cache : Cache)
    (world : σ) : Prop :=
  let result := (((e.transform host id code).run cache).run world).1
  ∃ acquired : List Acquired, acquired.map Prod.fst = e.entries ∧
    Grows host cache result.2 ∧ (∀ a ∈ acquired, Obtained host cache result.2 a) ∧
    EndsWith host e (e.report id code acquired).1 result.1

variable {host : Host (StateM σ)} {e : Inliner} {id : String} {cache : Cache}

variable (host) in
lemma run_forM_log (records : List LogRecord) (cache : Cache) (world : σ) :
    ∃ world', ((records.forM fun record => (host.log record : StateT Cache (StateM σ) Unit)).run
      cache).run world = (((), cache), world') := by
  induction records generalizing world with
  | nil => exact ⟨world, rfl⟩
  | cons record rest ih =>
    obtain ⟨world', h⟩ := ih ((host.log record).run world).2
    exact ⟨world', h⟩

variable (host) (cache) in
lemma transform_of_admits (hadmits : e.admits id = true) (code : String) (world : σ) :
    ∃ world', ((e.transform host id code).run cache).run world =
      let result := ((Inliner.acquire host id e.entries).run cache).run world
      let report := (e.report id code result.1.1).1
      let journaled := (e.record host report).run world'
      ((journaled.1.map fun _ => some report, result.1.2), journaled.2) := by
  rw [Inliner.transform]
  simp only [hadmits, Bool.not_true, Bool.false_eq_true, if_false, StateT.run_bind]
  rcases ((Inliner.acquire host id e.entries).run cache).run world with ⟨⟨acquired, cache'⟩, w⟩
  obtain ⟨world', hlogged⟩ := run_forM_log host (e.report id code acquired).2 cache' w
  refine ⟨world', ?_⟩
  dsimp only [bind]
  rw [hlogged, run_lift_cache]
  dsimp only
  rcases (e.record host (e.report id code acquired).1).run world' with ⟨outcome, after⟩
  cases outcome with
  | ok _ => rfl
  | error failure => rfl

lemma endsWith_record (host : Host (StateM σ)) (e : Inliner) (report : Report) (world : σ) :
    EndsWith host e report (((e.record host report).run world).1.map fun _ => some report) := by
  rw [EndsWith, Inliner.record]
  cases e.options.journal with
  | none => rfl
  | some file => exact ⟨world, rfl⟩

lemma endsInReport (hadmits : e.admits id = true) (hdistinct : Distinct cache) (code : String)
    (world : σ) : EndsInReport host e id code cache world := by
  obtain ⟨hentries, hgrows, hobtained⟩ := acquire_spec host id e.entries hdistinct world
  obtain ⟨world', htransform⟩ := transform_of_admits host cache hadmits code world
  rw [EndsInReport, htransform]
  exact ⟨_, hentries, hgrows, hobtained, endsWith_record host e _ world'⟩

end Effects

section Reports

variable {acquired : List Acquired} {blocks : List (List Finding)} {text final : String}

lemma carries_replaceCalls (entry : Entry) (icons : IconSet) (text : String) :
    Carries (entry, .ok icons) (entry.replaceCalls icons text).findings := by
  intro identifier literal hreplaced
  obtain ⟨icon, hfound, rfl⟩ := exists_icon_of_replaceCalls hreplaced
  have hencodes := encodes_ofFields (entry.strategy.fields icon)
  have hvalue := literal_evaluatesTo (entry.strategy.encode icon)
  exact ⟨icons, icon, (entry.strategy.encode icon).text, entry.strategy.encode icon, rfl, hfound,
    hvalue, fun other hother => hother.unique hvalue, hencodes.reads, hencodes.decodes⟩

lemma Rewrites.carries (h : Rewrites text acquired blocks final) :
    List.Forall₂ Carries acquired blocks := by
  induction h with
  | done => exact .nil
  | skipped more ih =>
    refine .cons ?_ ih
    intro identifier literal hreplaced
    rw [List.mem_singleton] at hreplaced
    cases hreplaced
  | rewritten more ih => exact .cons (carries_replaceCalls _ _ _) ih

lemma filterMap_replacedIcon?_eq_nil {failed : List Finding} {id : String}
    (h : failed = [] ∨ failed = [.malformedModule id]) : failed.filterMap replacedIcon? = [] := by
  rcases h with rfl | rfl
  · rfl
  · rfl

/-- Removing imports adds one finding at most. -/
lemma removeImports_adds (report : Report) (acquired : List Acquired) :
    ∃ text found failed, (failed = [] ∨ failed = [.malformedModule report.moduleId]) ∧
      (report.removeImports acquired).1 =
        { report with
          text
          foundImports := report.foundImports ++ found
          findings := report.findings ++ failed } := by
  obtain ⟨done, found, final, failed, -, hreport, hend⟩ :=
    removeEach_eq report (targetLists acquired)
  refine ⟨final, found, failed, ?_, hreport⟩
  rcases hend with ⟨-, hfailed⟩ | ⟨targets, later, -, -, hfailed⟩
  · exact Or.inl hfailed
  · exact Or.inr hfailed

lemma report_tells (e : Inliner) (id code : String) (acquired : List Acquired) :
    Tells e id code acquired (e.report id code acquired).1 := by
  obtain ⟨blocks, embedded, hrewrites, hfold⟩ :=
    exists_rewrites_foldl acquired { moduleId := id, text := code }
  have hcarries := hrewrites.carries
  simp only [List.nil_append] at hrewrites hfold
  cases hdrops : e.options.dropsImports with
  | false =>
    have hreport : (e.report id code acquired).1 =
        acquired.foldl Report.embed { moduleId := id, text := code } := by
      simp [Inliner.report, hdrops]
    rw [hreport, hfold]
    exact ⟨rfl, ⟨blocks, embedded, [], hrewrites, hcarries, (List.append_nil _).symm,
      Or.inl rfl, fun _ => ⟨rfl, rfl⟩⟩, rfl⟩
  | true =>
    have hreport : (e.report id code acquired).1 =
        ((acquired.foldl Report.embed { moduleId := id, text := code }).removeImports
          acquired).1 := by
      simp [Inliner.report, hdrops]
    obtain ⟨text, found, failed, hfailed, hremoved⟩ := removeImports_adds
      (acquired.foldl Report.embed { moduleId := id, text := code }) acquired
    rw [hfold] at hfailed
    rw [hreport, hremoved, hfold]
    refine ⟨rfl, ⟨blocks, embedded, failed, hrewrites, hcarries, rfl, hfailed, ?_⟩, ?_⟩
    · intro hkeeps
      rw [hdrops] at hkeeps
      cases hkeeps
    · dsimp only
      rw [List.filterMap_append, filterMap_replacedIcon?_eq_nil hfailed, List.append_nil]

end Reports

/-- A transform of an admitted module, on a cache that any requests have left behind and with any
loads. Whatever becomes of the datasets, the report holds the findings of the entries in their
order, with one more at most, and tells which icons they embedded; each literal evaluates to the
code of the icon that the entry's dataset has under the identifier. The transform itself ends with
the report on the datasets that it found or loaded, and fails only if the journal does. -/
theorem transform_reports {σ : Type} {e : Inliner} {id : String} (hadmits : e.admits id = true)
    {events : List Dataset.Event} {traffic : Dataset.Traffic} (hrun : Dataset.Run events traffic)
    (host : Host (StateM σ)) (code : String) (world : σ) :
    (∀ acquired, Tells e id code acquired (e.report id code acquired).1) ∧
      EndsInReport host e id code traffic.cache world :=
  ⟨report_tells e id code,
    endsInReport hadmits (Consistent.of_run hrun).distinct code world⟩

def iconCallee : CallSite.Callee := ⟨['i', 'c', 'o', 'n'], .balanced, List.cons_ne_nil _ _⟩

/-- Two entries for all paths, with a journal. -/
def journalingInliner : Inliner where
  options := { journal := some (.ofString "journal.js") }
  entries :=
    [⟨⟨"solid", "fas"⟩, "helper", .standard, iconCallee⟩,
      ⟨⟨"brands", "fab"⟩, "helper", .pathOnly, iconCallee⟩]
  filter := some ⟨[[.leadingDirs]]⟩
  setup := []

/-- A host that knows one dataset, and fails to load any other. Its state counts the loads. -/
def countingHost : Host (StateM Nat) where
  load key := do
    modify (· + 1)
    return if key.package = "solid" then .ok [("faAt", .plain 1 1 "M0 0")]
      else .error (.dataset key.package "not found")
  log _ := pure ()
  append _ _ := return .error (.io "read-only")

theorem transform_reports_journaling :
    journalingInliner.admits "/icons.js" = true ∧ Dataset.Run [] {} ∧
      (∀ acquired, Tells journalingInliner "/icons.js" "icon(faAt)" acquired
        (journalingInliner.report "/icons.js" "icon(faAt)" acquired).1) ∧
      EndsInReport countingHost journalingInliner "/icons.js" "icon(faAt)" {} 0 :=
  ⟨by decide, .start, transform_reports (by decide) .start countingHost "icon(faAt)" 0⟩

end IconInline.Proofs
