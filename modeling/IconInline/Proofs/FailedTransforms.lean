import IconInline.Proofs.CommandRuns
import IconInline.Proofs.Rewriting

/-!
# Transforms that fail

The command that transforms modules writes only when all of them have been transformed. Up to then
tree and output stay as they are, so a request with a defect anywhere, be it in the last of its
files, fails and leaves no trace but in the log. The files may be transformed in any order.
-/

namespace IconInline.Proofs
open Command

/-- A file that is to be transformed: the input, or an admitted file below it. -/
inductive IsInput (tree : FileTree) (filter : PathFilter) (request : TransformRequest) :
    Path → Prop where
  | self (isFile : tree.kind? (.ofString request.input) = some .file) :
    IsInput tree filter request (.ofString request.input)
  | below {found : List Path} {file : Path}
    (isDirectory : tree.kind? (.ofString request.input) = some .directory)
    (recursive : request.recursive = true)
    (listed : tree.filesBelow (.ofString request.input) = .ok found) (member : file ∈ found)
    (admitted : filter.admits (modulePath file.text) = true) : IsInput tree filter request file

/-- What makes a request to transform modules fail. -/
inductive Defect (tree : FileTree) (options : Options) (request : TransformRequest) : Prop where
  | inputMissing (missing : tree.kind? (.ofString request.input) = none)
  | inputDirectory (isDirectory : tree.kind? (.ofString request.input) = some .directory)
    (flat : request.recursive = false)
  | severalModules {filter : PathFilter} {a b : Path}
    (reads : PathFilter.ofPatterns options.patterns = .ok filter)
    (first : IsInput tree filter request a) (second : IsInput tree filter request b) (ne : a ≠ b)
    (printed : request.destination = .output)
  | badPattern {pattern : String} {fault : Glob.Fault} (member : pattern ∈ options.patterns)
    (bad : Glob.parts pattern.toList = .error fault)
  | badName {target : Target} (member : target ∈ options.targets)
    (bad : Text.isExtractorName target.extractor.name = false)
  | datasetFails {target : Target} {strategy : Strategy} {e : Failure}
    (member : target ∈ options.targets)
    (known : target.extractor.strategy.resolve? = some strategy)
    (fails : datasetIn tree options.datasetRoot target.dataset = .error e)
  | unreadable {filter : PathFilter} {file : Path} {fault : FileFault}
    (reads : PathFilter.ofPatterns options.patterns = .ok filter)
    (input : IsInput tree filter request file) (bad : tree.read file = .error fault)

variable {m : Type → Type} [Monad m]

/-- Embeds icons into modules that are transformed in any order, and puts the results in any other
one. -/
def transformInOrder (arrange : List Path → List Path) (restore : List Reported → List Reported)
    (t : Terminal m) (options : Options) (request : TransformRequest) :
    ExceptT Failure m Unit := do
  if !options.runsIn request.phase then
    printLine t "Embedding is restricted to another build phase, nothing to do."
  else
    let e ← Inliner.ofOptions t.console.log options
    let files ← collect t.files e request.input request.recursive
    if files.length > 1 && request.destination == .output then
      throw (.invalidFormat "Transforming several files requires --output or --in-place")
    let results ← transformAll t e (arrange files)
    deliverAll t request (restore results)
    unless request.destination == .output do summarize t (restore results)

lemma transform_eq_transformInOrder (t : Terminal m) (options : Options)
    (request : TransformRequest) :
    transform t options request = transformInOrder id id t options request := rfl

/-- An inliner was built from options with at least one pattern. -/
structure Built (options : Options) (e : Inliner) : Prop where
  options_eq : e.options = options
  filter : ∃ filter, PathFilter.ofPatterns options.patterns = .ok filter ∧ e.filter = some filter
  names : ∀ target ∈ options.targets, Text.isExtractorName target.extractor.name = true
  entries : ∀ target ∈ options.targets, ∀ strategy,
    target.extractor.strategy.resolve? = some strategy →
    ∃ entry ∈ e.entries, entry.dataset = target.dataset

/-- The input is there, and these files are the ones that it stands for. -/
structure Collected (tree : FileTree) (filter : PathFilter) (request : TransformRequest)
    (files : List Path) : Prop where
  exists_input : tree.kind? (.ofString request.input) ≠ none
  recursive : tree.kind? (.ofString request.input) = some .directory → request.recursive = true
  inputs : ∀ file, file ∈ files ↔ IsInput tree filter request file

/-- Each file has been read and comes with the report on it, without one if it is not admitted. -/
structure Transformed (tree : FileTree) (directory : Path) (e : Inliner) (files : List Path)
    (results : List Reported) : Prop where
  files_eq : results.map Prod.fst = files
  report_eq : ∀ done ∈ results, ∃ code, tree.read done.1 = .ok code ∧
    done.2 = reportOn (datasetIn tree directory) e done.1.text code

lemma Transformed.exists_text {tree : FileTree} {directory file : Path} {e : Inliner}
    {files : List Path} {results : List Reported}
    (h : Transformed tree directory e files results) (hfile : file ∈ files) :
    ∃ text, tree.read file = .ok text := by
  rw [← h.files_eq] at hfile
  obtain ⟨done, hdone, rfl⟩ := List.mem_map.mp hfile
  obtain ⟨code, hcode, -⟩ := h.report_eq done hdone
  exact ⟨code, hcode⟩

section Stages

variable {tree : FileTree} {output : String} {options : Options} {request : TransformRequest}
  {e : Inliner}

lemma exists_parts_of_ofPatterns {patterns : List String} {filter : PathFilter}
    (h : PathFilter.ofPatterns patterns = .ok filter) :
    ∀ pattern ∈ patterns, ∃ parts, Glob.parts pattern.toList = .ok parts := by
  induction patterns generalizing filter with
  | nil => nofun
  | cons first rest ih =>
    rw [PathFilter.ofPatterns] at h
    split at h
    · cases h
    · next parts hparts =>
      cases hrest : PathFilter.ofPatterns rest with
      | error e => rw [hrest] at h; cases h
      | ok others => exact List.forall_mem_cons.mpr ⟨⟨parts, hparts⟩, ih hrest⟩

lemma yields_entriesOf (scan : CallSite.ArgumentExtent) (targets : List Target) :
    Yields (Untouched tree output) (Inliner.entriesOf Workspace.console.log scan targets)
      fun result => ∀ target ∈ targets, Text.isExtractorName target.extractor.name = true ∧
        ∀ strategy, target.extractor.strategy.resolve? = some strategy →
          ∃ entry ∈ result.1, entry.dataset = target.dataset := by
  induction targets with
  | nil => exact Yields.pure nofun
  | cons target rest ih =>
    rw [Inliner.entriesOf]
    refine (Yields.of_except _).bind ?_
    intro found hfound
    obtain ⟨hname, ⟨hnone, rfl⟩ | ⟨strategy, callee, hstrategy, -, -, rfl⟩⟩ := entryOf_ok hfound
    · refine (keeps_log _).yields.bind fun _ _ => ih.bind fun result hresult => Yields.pure ?_
      refine List.forall_mem_cons.mpr ⟨⟨hname, ?_⟩, hresult⟩
      intro strategy hstrategy
      rw [hnone] at hstrategy
      cases hstrategy
    · refine ih.bind fun result hresult => Yields.pure ?_
      refine List.forall_mem_cons.mpr ⟨⟨hname, ?_⟩, ?_⟩
      · intro other _
        exact ⟨_, List.mem_cons_self, rfl⟩
      · intro other hother
        obtain ⟨hvalid, hentries⟩ := hresult other hother
        refine ⟨hvalid, ?_⟩
        intro known hknown
        obtain ⟨entry, hmem, hdataset⟩ := hentries known hknown
        exact ⟨entry, List.mem_cons_of_mem _ hmem, hdataset⟩

lemma yields_ofOptions (hpatterns : options.patterns ≠ []) :
    Yields (Untouched tree output) (Inliner.ofOptions Workspace.console.log options)
      (Built options) := by
  have hfilter : Yields (Untouched tree output)
      (Inliner.filterOf Workspace.console.log options.patterns) fun result =>
        ∃ filter, PathFilter.ofPatterns options.patterns = .ok filter ∧
          result.1 = some filter := by
    rw [Inliner.filterOf, if_neg (by simpa using hpatterns)]
    exact (Yields.of_except _).bind fun filter hreads => Yields.pure ⟨filter, hreads, rfl⟩
  rw [Inliner.ofOptions]
  refine hfilter.bind fun filtered hfiltered => ?_
  refine (yields_entriesOf options.scan options.targets).bind fun result hresult => ?_
  exact Yields.pure ⟨rfl, hfiltered, fun target htarget => (hresult target htarget).1,
    fun target htarget => (hresult target htarget).2⟩

lemma collected_self {filter : PathFilter}
    (hinput : tree.kind? (.ofString request.input) = some .file) :
    Collected tree filter request [.ofString request.input] := by
  refine ⟨by simp [hinput], by simp [hinput], fun file => ⟨?_, ?_⟩⟩
  · intro hfile
    rw [List.mem_singleton.mp hfile]
    exact .self hinput
  · intro hfile
    cases hfile with
    | self => exact List.mem_singleton_self _
    | below isDirectory =>
      rw [hinput] at isDirectory
      cases isDirectory

lemma collected_below {filter : PathFilter} {found : List Path} (hfilter : e.filter = some filter)
    (hinput : tree.kind? (.ofString request.input) = some .directory)
    (hrecursive : request.recursive = true)
    (hfound : tree.filesBelow (.ofString request.input) = .ok found) :
    Collected tree filter request
      ((found.filter fun file => e.admits file.text).mergeSort Path.sortsBefore) := by
  have hmem : ∀ file, file ∈ (found.filter fun file => e.admits file.text).mergeSort
      Path.sortsBefore ↔ file ∈ found ∧ filter.admits (modulePath file.text) = true := by
    intro file
    simp [Inliner.admits, hfilter]
  refine ⟨by simp [hinput], fun _ => hrecursive, fun file => ⟨?_, ?_⟩⟩
  · intro hfile
    obtain ⟨member, admitted⟩ := (hmem file).mp hfile
    exact .below hinput hrecursive hfound member admitted
  · intro hfile
    cases hfile with
    | self isFile =>
      rw [hinput] at isFile
      cases isFile
    | below _ _ listed member admitted =>
      rw [hfound] at listed
      cases listed
      exact (hmem file).mpr ⟨member, admitted⟩

lemma yields_collect {filter : PathFilter} (hfilter : e.filter = some filter) :
    Yields (Untouched tree output)
      (collect Workspace.files e request.input request.recursive)
      (Collected tree filter request) := by
  have hkind : Keeps (Untouched tree output) (Workspace.files.kind? (.ofString request.input))
      (· = tree.kind? (.ofString request.input)) :=
    fun _ hcalm => ⟨congrArg (fun t : FileTree => t.kind? _) hcalm.1, hcalm⟩
  have hlisted : Keeps (Untouched tree output)
      (Workspace.files.filesBelow (.ofString request.input))
      (· = tree.filesBelow (.ofString request.input)) :=
    fun _ hcalm => ⟨congrArg (fun t : FileTree => t.filesBelow _) hcalm.1, hcalm⟩
  rw [collect]
  refine hkind.yields.bind ?_
  rintro kind rfl
  cases hinput : tree.kind? (.ofString request.input) with
  | none => exact Yields.throw _
  | some kind =>
    cases kind with
    | file => exact Yields.pure (collected_self hinput)
    | directory =>
      cases hrecursive : request.recursive with
      | false => exact Yields.throw _
      | true =>
        refine hlisted.attempt.bind fun found hfound => Yields.pure ?_
        exact collected_below hfilter hinput hrecursive hfound.symm

lemma run_transformFiles_cons {m : Type → Type} [Monad m] [LawfulMonad m] (t : Terminal m)
    (host : Host m) (e : Inliner) (file : Path) (rest : List Path) (cache : Cache) :
    (transformFiles t host e (file :: rest)).run cache = (do
      let code ← attempt (t.files.read file)
      let done ← (e.transform host file.text code).run cache
      let report ← done.1
      let more ← (transformFiles t host e rest).run done.2
      return ((file, report) :: more.1, more.2)) := by
  rw [transformFiles]
  simp only [bind_pure_comp, StateT.run_bind, StateT.run_monadLift, monadLift_self, StateT.run_get,
    StateT.run_set, StateT.run_map, bind_map_left, pure_bind]

lemma yields_transformFiles (hjournal : e.options.journal = none) (files : List Path)
    {cache : Cache} (hcache : Faithful (datasetIn tree options.datasetRoot) cache) :
    Yields (Untouched tree output)
      ((transformFiles Workspace.terminal (Workspace.terminal.host options.datasetRoot) e
        files).run cache)
      fun done => Transformed tree options.datasetRoot e files done.1 := by
  -- A transform may load a dataset anew, so the files that follow find some faithful cache.
  induction files generalizing cache with
  | nil => exact Yields.pure ⟨rfl, nofun⟩
  | cons file rest ih =>
    have hsteady := steady_terminal tree output options.datasetRoot
    rw [run_transformFiles_cons]
    refine (keeps_read file).attempt.bind fun code hcode => ?_
    have htransform := hsteady.transform_of_no_journal hjournal file.text code cache hcache
    refine htransform.yields.bind fun done hdone => ?_
    refine (Yields.of_except _).bind fun report hreport => ?_
    refine (ih hdone.2).bind fun more hmore => Yields.pure ⟨?_, ?_⟩
    · rw [List.map_cons, hmore.files_eq]
    · have hlone : report = reportOn (datasetIn tree options.datasetRoot) e file.text code :=
        Except.ok.inj (hreport.symm.trans hdone.1)
      exact List.forall_mem_cons.mpr ⟨⟨code, hcode.symm, hlone⟩, hmore.report_eq⟩

lemma yields_transformAll (hbuilt : Built options e) (hjournal : options.journal = none)
    (files : List Path) :
    Yields (Untouched tree output) (transformAll Workspace.terminal e files) fun results =>
      (∀ entry ∈ e.entries, ∃ icons,
        datasetIn tree options.datasetRoot entry.dataset = .ok icons) ∧
      Transformed tree options.datasetRoot e files results := by
  obtain ⟨filter, -, hfilter⟩ := hbuilt.filter
  have hsteady := steady_terminal tree output options.datasetRoot
  have hpreload := hsteady.preload e {} faithful_empty
  rw [transformAll, hbuilt.options_eq]
  refine hpreload.yields.bind ?_
  rintro ⟨loaded, cache⟩ ⟨hloaded, hcache⟩
  refine (Yields.of_except _).bind ?_
  rintro _ rfl
  have hentries := (hloaded (by rw [hfilter]; rfl)).mp rfl
  have hnone : e.options.journal = none := by rw [hbuilt.options_eq, hjournal]
  rw [StateT.run'_eq, map_eq_pure_bind]
  exact (yields_transformFiles hnone files hcache).bind fun _ hfiles =>
    Yields.pure ⟨hentries, hfiles⟩

/-- A request that gets as far as this has no defect. -/
lemma not_defect {filter : PathFilter} {files : List Path} (hbuilt : Built options e)
    (hreads : PathFilter.ofPatterns options.patterns = .ok filter)
    (hcollected : Collected tree filter request files)
    (hcount : files.length ≤ 1 ∨ request.destination ≠ .output)
    (hentries : ∀ entry ∈ e.entries, ∃ icons,
      datasetIn tree options.datasetRoot entry.dataset = .ok icons)
    (hfiles : ∀ file ∈ files, ∃ text, tree.read file = .ok text) :
    ¬Defect tree options request := by
  intro hdefect
  cases hdefect with
  | inputMissing missing => exact hcollected.exists_input missing
  | inputDirectory isDirectory flat =>
    rw [hcollected.recursive isDirectory] at flat
    cases flat
  | @severalModules other a b reads first second ne printed =>
    rw [hreads] at reads
    cases reads
    have ha := (hcollected.inputs a).mpr first
    have hb := (hcollected.inputs b).mpr second
    have hshort := hcount.resolve_right (not_not.mpr printed)
    match files with
    | [] => cases ha
    | [file] => exact ne ((List.mem_singleton.mp ha).trans (List.mem_singleton.mp hb).symm)
    | _ :: _ :: _ => simp at hshort
  | @badPattern pattern fault member bad =>
    obtain ⟨parts, hparts⟩ := exists_parts_of_ofPatterns hreads pattern member
    rw [hparts] at bad
    cases bad
  | @badName target member bad =>
    rw [hbuilt.names target member] at bad
    cases bad
  | @datasetFails target strategy e member known fails =>
    obtain ⟨entry, hentry, hdataset⟩ := hbuilt.entries target member strategy known
    obtain ⟨icons, hicons⟩ := hentries entry hentry
    rw [hdataset, fails] at hicons
    cases hicons
  | @unreadable other file fault reads input bad =>
    rw [hreads] at reads
    cases reads
    obtain ⟨text, htext⟩ := hfiles file ((hcollected.inputs file).mpr input)
    rw [htext] at bad
    cases bad

lemma yields_transformInOrder {arrange : List Path → List Path}
    (harrange : ∀ files, (arrange files).Perm files) (restore : List Reported → List Reported)
    (hpatterns : options.patterns ≠ []) (hruns : options.runsIn request.phase = true)
    (hjournal : options.journal = none) (hdefect : Defect tree options request) :
    Yields (Untouched tree output)
      (transformInOrder arrange restore Workspace.terminal options request) fun _ => False := by
  rw [transformInOrder, if_neg (by simp [hruns])]
  refine (yields_ofOptions hpatterns).bind fun e hbuilt => ?_
  obtain ⟨filter, hreads, hfilter⟩ := hbuilt.filter
  refine (yields_collect hfilter).bind fun files hcollected => ?_
  by_cases hcount : files.length > 1 ∧ request.destination = .output
  · rw [if_pos (by simpa using hcount)]
    exact Yields.throw _
  · have hread : Yields (Untouched tree output)
        (transformAll Workspace.terminal e (arrange files)) fun _ => False := by
      refine (yields_transformAll hbuilt hjournal (arrange files)).mono ?_
      rintro results ⟨hentries, htransformed⟩
      refine not_defect hbuilt hreads hcollected ?_ hentries ?_ hdefect
      · rwa [not_and_or, Nat.not_lt] at hcount
      · intro file hfile
        exact htransformed.exists_text ((harrange files).mem_iff.mpr hfile)
    rw [if_neg (by simpa using hcount)]
    exact hread.bind fun _ hfalse => hfalse.elim

end Stages

/-- A request with a defect ends the command with exit code 1, and nothing has been written or
printed; nor is anything if the files are transformed in any other order. -/
theorem failed_transform_writes_nothing {arguments : List String} {w : Workspace}
    {request : TransformRequest} {options : Options}
    (hasks : Asks w.tree arguments (.transform request) options)
    (hruns : options.runsIn request.phase = true) (hjournal : options.journal = none)
    (hdefect : Defect w.tree options request) :
    (∃ exit after, (run Workspace.terminal arguments).run w = (exit, after) ∧
      exit.code = 1 ∧ after.tree = w.tree ∧ after.output = w.output) ∧
    ∀ arrange restore, (∀ files, (arrange files).Perm files) →
      ∃ e after,
        (transformInOrder arrange restore Workspace.terminal options request).run.run w =
          (.error e, after) ∧ after.tree = w.tree ∧ after.output = w.output := by
  have hfails : ∀ arrange restore, (∀ files, (arrange files).Perm files) →
      ∀ w', Untouched w.tree w.output w' → ∃ e after,
        (transformInOrder arrange restore Workspace.terminal options request).run.run w' =
          (.error e, after) ∧ Untouched w.tree w.output after := by
    intro arrange restore harrange w' hw'
    obtain ⟨houtcome, hafter⟩ := yields_transformInOrder harrange restore hasks.patterns_ne_nil
      hruns hjournal hdefect w' hw'
    rcases hran : (transformInOrder arrange restore Workspace.terminal options request).run.run w'
      with ⟨outcome, after⟩
    rw [hran] at houtcome hafter
    cases outcome with
    | ok result => exact (houtcome result rfl).elim
    | error e => exact ⟨e, after, rfl, hafter⟩
  constructor
  · obtain ⟨w', hw', hrun⟩ := hasks.run_eq
    obtain ⟨e, after, hran, hafter⟩ := hfails id id (fun _ => .refl _) w' hw'
    rw [serve, transform_eq_transformInOrder, hran] at hrun
    exact ⟨_, after, hrun, rfl, hafter⟩
  · intro arrange restore harrange
    exact hfails arrange restore harrange w (untouched_self w)

/-! ## A file that is no text -/

/-- A workspace with a configuration without targets, a module and a file that is no text. -/
def mixedWorkspace : Workspace where
  tree :=
    { files :=
        [(["cfg.json".toList], .text "\x7b\"targets\":[]\x7d"),
          (["src".toList, "a.js".toList], .text "f();\n"),
          (["src".toList, "b.js".toList], .binary [0xff])]
      directories := [["src".toList]] }

def mixedArguments : List String :=
  ["transform", "src", "--recursive", "--in-place", "--config", "cfg.json"]

def mixedRequest : TransformRequest := ⟨"src", .inPlace, true, .build⟩

def mixedOptions : Options := ({} : Overrides).apply { targets := some [] : Config }.toOptions

lemma asks_mixed :
    Asks mixedWorkspace.tree mixedArguments (.transform mixedRequest) mixedOptions := by
  have hreads : Invocation.ofArguments mixedArguments =
      .ok ⟨some "cfg.json", 0, some (.transform mixedRequest, {})⟩ := by decide +kernel
  exact .mk hreads rfl (by decide +kernel)

lemma defect_mixed : Defect mixedWorkspace.tree mixedOptions mixedRequest := by
  have hadmits : ((PathFilter.ofPatterns mixedOptions.patterns).toOption.any fun filter =>
      filter.admits (modulePath "src/b.js")) = true := by decide +kernel
  obtain ⟨filter, hfilter, hadmitted⟩ := (Option.any_eq_true _ _).mp hadmits
  have hreads : PathFilter.ofPatterns mixedOptions.patterns = .ok filter := by
    cases hpatterns : PathFilter.ofPatterns mixedOptions.patterns with
    | ok other =>
      rw [hpatterns] at hfilter
      exact congrArg Except.ok (Option.some_inj.mp hfilter)
    | error e =>
      rw [hpatterns] at hfilter
      cases hfilter
  have hlisted : mixedWorkspace.tree.filesBelow (.ofString "src") =
      .ok [.ofString "src/a.js", .ofString "src/b.js"] := by decide +kernel
  have hinput : IsInput mixedWorkspace.tree filter mixedRequest (.ofString "src/b.js") :=
    .below (by decide +kernel) rfl hlisted (by simp) hadmitted
  exact .unreadable hreads hinput (by decide +kernel : _ = Except.error FileFault.notText)

theorem failed_transform_writes_nothing_mixed :
    Asks mixedWorkspace.tree mixedArguments (.transform mixedRequest) mixedOptions ∧
      Defect mixedWorkspace.tree mixedOptions mixedRequest ∧
      ∃ exit after, (run Workspace.terminal mixedArguments).run mixedWorkspace = (exit, after) ∧
        exit.code = 1 ∧ after.tree = mixedWorkspace.tree ∧
        after.output = mixedWorkspace.output :=
  ⟨asks_mixed, defect_mixed,
    (failed_transform_writes_nothing asks_mixed rfl rfl defect_mixed).1⟩

end IconInline.Proofs
