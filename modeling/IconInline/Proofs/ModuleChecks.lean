import IconInline.Proofs.CallSites
import IconInline.Proofs.ModuleMap

/-!
# Checking one module

A check that gets as far as a report on its module prints the report, and then ends well just if the
report has no missing icon. It gets that far when the inliner can be built, the module is there and
admitted, and all datasets can be loaded.
-/

namespace IconInline.Proofs
open Command CallSite

/-- How a check ends that has found these icons missing. -/
def checkExit (missing : List String) : Exit :=
  if missing = [] then .success else .failure (.config "some icons could not be resolved")

/-- A check is asked for, on a module that an inliner admits, and all datasets of this can be
loaded. -/
structure ChecksModule (w : Workspace) (arguments : List String) (options : Options) (e : Inliner)
    (file : Path) (code : String) : Prop where
  asks : ∃ request, Asks w.tree arguments (.check request) options ∧ .ofString request.input = file
  isFile : w.tree.kind? file = some .file
  reads : w.tree.read file = .ok code
  admits : e.admits file.text = true
  loads : ∀ entry ∈ e.entries, ∃ icons,
    datasetIn w.tree options.datasetRoot entry.dataset = .ok icons

section Building

variable {α β : Type} {options : Options} {e : Inliner}

lemma bind_of_ok {x : ExceptT Failure Id α} {a : α} (h : Id.run x.run = .ok a)
    (f : α → ExceptT Failure Id β) : Id.run (x >>= f).run = Id.run (f a).run := by
  have hx : x.run = .ok a := h
  rw [ExceptT.run_bind, hx]
  rfl

lemma exists_of_bind_ok {x : ExceptT Failure Id α} {f : α → ExceptT Failure Id β} {b : β}
    (h : Id.run (x >>= f).run = .ok b) :
    ∃ a, Id.run x.run = .ok a ∧ Id.run (f a).run = .ok b := by
  cases hx : Id.run x.run with
  | ok a => exact ⟨a, rfl, (bind_of_ok hx f).symm.trans h⟩
  | error failure =>
    have hrun : x.run = .error failure := hx
    rw [ExceptT.run_bind, hrun] at h
    cases h

/-- An entry looks for the calls of a well-formed name, in the way that the options say. -/
def LooksFor (scan : ArgumentExtent) (entry : Entry) : Prop :=
  entry.callee.scan = scan ∧ ∀ c ∈ entry.callee.name, continuesName c = true

lemma looksFor_of_entryOf {scan : ArgumentExtent} {target : Target} {entry : Entry}
    (h : Inliner.entryOf scan target = .ok (some entry)) : LooksFor scan entry := by
  obtain ⟨hname, ⟨-, hnone⟩ | ⟨strategy, callee, -, hcallee, hscan, hsome⟩⟩ := entryOf_ok h
  · cases hnone
  · cases hsome
    refine ⟨hscan, ?_⟩
    rw [hcallee]
    exact continuesName_of_isExtractorName hname

lemma looksFor_of_entriesOf {scan : ArgumentExtent} {targets : List Target}
    {result : List Entry × List Finding}
    (h : Id.run (Inliner.entriesOf (fun _ => pure ()) scan targets).run = .ok result) :
    ∀ entry ∈ result.1, LooksFor scan entry := by
  induction targets generalizing result with
  | nil =>
    cases h
    nofun
  | cons target rest ih =>
    rw [Inliner.entriesOf] at h
    obtain ⟨found, hfound, h⟩ := exists_of_bind_ok h
    cases found with
    | none =>
      obtain ⟨⟨⟩, -, h⟩ := exists_of_bind_ok h
      obtain ⟨more, hmore, h⟩ := exists_of_bind_ok h
      cases h
      have hrest := ih hmore
      exact hrest
    | some entry =>
      obtain ⟨more, hmore, h⟩ := exists_of_bind_ok h
      cases h
      exact List.forall_mem_cons.mpr ⟨looksFor_of_entryOf hfound, ih hmore⟩

lemma built_of_inlinerOf (h : inlinerOf options = .ok e) :
    e.options = options ∧ ∀ entry ∈ e.entries, LooksFor options.scan entry := by
  obtain ⟨filtered, -, h⟩ := exists_of_bind_ok h
  obtain ⟨result, hresult, h⟩ := exists_of_bind_ok h
  cases h
  exact ⟨rfl, looksFor_of_entriesOf hresult⟩

/-- The inliner of a check is the same but for the journal. -/
lemma inlinerOf_without_journal (h : inlinerOf options = .ok e) :
    inlinerOf { options with journal := none } =
      .ok { e with options := { options with journal := none } } := by
  obtain ⟨filtered, hfiltered, h⟩ := exists_of_bind_ok h
  obtain ⟨result, hresult, h⟩ := exists_of_bind_ok h
  cases h
  exact (bind_of_ok hfiltered _).trans (bind_of_ok hresult _)

end Building

section Checking

variable {tree : FileTree} {output : String} {options : Options} {e : Inliner} {file : Path}
  {code : String} {w : Workspace}

lemma Keeps.bind_ok {σ α β : Type} {calm : σ → Prop} {x : ExceptT Failure (StateM σ) α} {a : α}
    {f : α → ExceptT Failure (StateM σ) β} {outcome : Except Failure β → Prop}
    (h : Keeps calm x.run (· = .ok a)) (hf : Keeps calm (f a).run outcome) :
    Keeps calm (x >>= f).run outcome := by
  intro world hcalm
  obtain ⟨hok, hafter⟩ := h world hcalm
  have hx : x.run.run world = (.ok a, (x.run.run world).2) := Prod.ext hok rfl
  rw [run_bind_ok hx]
  exact hf _ hafter

lemma keeps_collect_file {request : CheckRequest}
    (hfile : tree.kind? (.ofString request.input) = some .file) :
    Keeps (Untouched tree output)
      (collect Workspace.files e request.input request.recursive).run
      (· = .ok [.ofString request.input]) := by
  have hkind : Keeps (Untouched tree output) (Workspace.files.kind? (.ofString request.input))
      (· = tree.kind? (.ofString request.input)) :=
    fun _ hcalm => ⟨congrArg (·.kind? (.ofString request.input)) hcalm.1, hcalm⟩
  rw [collect]
  refine hkind.bind_lift ?_
  rintro kind rfl
  rw [hfile]
  exact Keeps.pure rfl

lemma keeps_attempt_read (hread : tree.read file = .ok code) :
    Keeps (Untouched tree output) (attempt (Workspace.files.read file)).run (· = .ok code) := by
  refine Keeps.bind (keeps_read file) ?_
  rintro content rfl
  rw [hread]
  exact Keeps.pure rfl

/-- With all its datasets an inliner transforms a file that can be read. -/
lemma keeps_transformAll_file (hjournal : e.options.journal = none)
    (hadmits : e.admits file.text = true) (hread : tree.read file = .ok code)
    (hloads : ∀ entry ∈ e.entries, ∃ icons,
      datasetIn tree e.options.datasetRoot entry.dataset = .ok icons) :
    Keeps (Untouched tree output) (transformAll Workspace.terminal e [file]).run
      (· = .ok [(file, reportOn (datasetIn tree e.options.datasetRoot) e file.text code)]) := by
  have hsteady := steady_terminal tree output e.options.datasetRoot
  have hfilter : e.filter.isSome = true := by
    cases hnone : e.filter with
    | some filter => rfl
    | none => simp [Inliner.admits, hnone] at hadmits
  rw [transformAll]
  refine (hsteady.preload e {} faithful_empty).bind_lift ?_
  rintro ⟨loaded, cache⟩ ⟨hloaded, hcache⟩
  obtain rfl : loaded = .ok () := (hloaded hfilter).mpr hloads
  refine Keeps.bind_ok (Keeps.pure rfl) ?_
  rw [StateT.run'_eq, map_eq_pure_bind, run_transformFiles_cons, bind_assoc]
  refine (keeps_attempt_read hread).bind_ok ?_
  rw [bind_assoc]
  refine (hsteady.transform_of_no_journal hjournal file.text code cache hcache).bind_lift ?_
  rintro ⟨outcome, cache'⟩ ⟨rfl, -⟩
  exact Keeps.pure rfl

lemma keeps_printLine (line : String) :
    Keeps (fun _ => True) (printLine Workspace.terminal line).run (· = .ok ()) :=
  fun _ _ => ⟨rfl, trivial⟩

lemma keeps_printLines (lines : List String) :
    Keeps (fun _ => True) (lines.forM fun line => printLine Workspace.terminal line).run
      (· = .ok ()) := by
  induction lines with
  | nil => exact Keeps.pure rfl
  | cons line rest ih => exact (keeps_printLine line).bind_ok ih

/-- What a check still does with the reports that it has. -/
def conclude (request : CheckRequest) (found : List Report) :
    ExceptT Failure (StateM Workspace) Unit := do
  if request.json then printLine Workspace.terminal (reportsJson found)
  else (reportsLines found).forM fun line => printLine Workspace.terminal line
  if found.any fun r => !r.missing.isEmpty then
    throw (.config "some icons could not be resolved")

lemma keeps_conclude (request : CheckRequest) (report : Report) :
    Keeps (fun _ => True) (conclude request [report]).run
      (exitOf · = checkExit report.missing) := by
  have hend : Keeps (fun _ => True)
      (if [report].any fun r => !r.missing.isEmpty then
        throw (.config "some icons could not be resolved")
      else pure () : ExceptT Failure (StateM Workspace) Unit).run
      (exitOf · = checkExit report.missing) := by
    cases hmissing : report.missing with
    | nil =>
      have hnone : ([report].any fun r => !r.missing.isEmpty) = false := by simp [hmissing]
      rw [hnone]
      exact Keeps.pure rfl
    | cons name rest =>
      have hsome : ([report].any fun r => !r.missing.isEmpty) = true := by simp [hmissing]
      rw [hsome]
      exact Keeps.pure rfl
  rw [conclude]
  split
  · exact (keeps_printLine _).bind_ok hend
  · exact (keeps_printLines _).bind_ok hend

lemma reportOn_without_journal {content : DatasetRef → Except Failure IconSet} {id : String}
    (hoptions : e.options = options) (hadmits : e.admits id = true) (code : String) :
    reportOn content { e with options := { options with journal := none } } id code =
      some (e.report id code (e.entries.map fun entry => (entry, content entry.dataset))).1 := by
  subst hoptions
  rw [reportOn, if_pos (by exact hadmits)]
  rfl

/-- A check of one module ends as the icons demand that its report has missing. -/
lemma ChecksModule.exit_eq {arguments : List String}
    (h : ChecksModule w arguments options e file code) (hbuilt : inlinerOf options = .ok e) :
    ((run Workspace.terminal arguments).run w).1 =
      checkExit (e.report file.text code
        (e.entries.map fun entry => (entry, datasetIn w.tree options.datasetRoot
          entry.dataset))).1.missing := by
  obtain ⟨request, hasks, rfl⟩ := h.asks
  obtain ⟨w', hw', hrun⟩ := hasks.run_eq
  obtain ⟨hoptions, -⟩ := built_of_inlinerOf hbuilt
  have hmirrors : Keeps (Untouched w.tree w.output)
      (Inliner.ofOptions Workspace.console.log { options with journal := none }).run
      (· = .ok { e with options := { options with journal := none } }) := by
    rw [← inlinerOf_without_journal hbuilt]
    exact mirrors_ofOptions { options with journal := none }
  have htransformed : Keeps (Untouched w.tree w.output)
      (do
        let e ← Inliner.ofOptions Workspace.console.log { options with journal := none }
        let files ← collect Workspace.files e request.input request.recursive
        transformAll Workspace.terminal e files : ExceptT Failure (StateM Workspace) _).run
      (· = .ok [(.ofString request.input, reportOn (datasetIn w.tree options.datasetRoot)
        { e with options := { options with journal := none } }
        (Path.ofString request.input).text code)]) :=
    hmirrors.bind_ok ((keeps_collect_file h.isFile).bind_ok
      (keeps_transformAll_file rfl h.admits h.reads h.loads))
  have hcheck : check Workspace.terminal options request =
      ((do
        let e ← Inliner.ofOptions Workspace.console.log { options with journal := none }
        let files ← collect Workspace.files e request.input request.recursive
        transformAll Workspace.terminal e files) >>= fun results =>
          conclude request (reports results)) := by
    simp only [check, conclude, bind_assoc]
    rfl
  rw [reportOn_without_journal hoptions h.admits] at htransformed
  obtain ⟨houtcome, -⟩ := htransformed w' hw'
  rw [hrun, serve, hcheck, run_bind_ok (Prod.ext houtcome rfl)]
  exact (keeps_conclude request _ _ trivial).1

end Checking

end IconInline.Proofs
