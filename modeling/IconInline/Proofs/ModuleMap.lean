import IconInline.Proofs.Deliveries
import IconInline.Proofs.FailedTransforms
import IconInline.Proofs.History

/-!
# Where transformed modules go

A transform of a directory has read everything before it writes. So each admitted file below the
directory has its counterpart, by the same names below the target, and this holds what the transform
makes of the file as it was before. No other file changes, wherever the target lies.
-/

namespace IconInline.Proofs
open Command

/-! ## Building an inliner -/

/-- What building an inliner comes to when nothing is logged. -/
def inlinerOf (options : Options) : Except Failure Inliner :=
  Id.run (Inliner.ofOptions (fun _ => pure ()) options).run

section Building

variable {σ α β : Type} {calm : σ → Prop} {tree : FileTree} {output : String}

/-- In calm surroundings an action comes to what another one comes to without any. -/
def Mirrors (calm : σ → Prop) (x : ExceptT Failure (StateM σ) α) (y : ExceptT Failure Id α) :
    Prop :=
  Keeps calm x.run (· = Id.run y.run)

lemma Mirrors.pure (a : α) : Mirrors calm (Pure.pure a) (Pure.pure a) := Keeps.pure rfl

lemma Mirrors.of_except (outcome : Except Failure α) :
    Mirrors calm (outcome : ExceptT Failure (StateM σ) α) (outcome : ExceptT Failure Id α) :=
  Keeps.pure rfl

lemma Mirrors.bind {x : ExceptT Failure (StateM σ) α} {y : ExceptT Failure Id α}
    {f : α → ExceptT Failure (StateM σ) β} {g : α → ExceptT Failure Id β} (h : Mirrors calm x y)
    (hf : ∀ a, Mirrors calm (f a) (g a)) : Mirrors calm (x >>= f) (y >>= g) := by
  rw [Mirrors, ExceptT.run_bind, ExceptT.run_bind]
  refine Keeps.bind h ?_
  rintro outcome houtcome
  have hy : y.run = outcome := houtcome.symm
  rw [hy]
  cases outcome with
  | ok a => exact hf a
  | error e => exact Keeps.pure rfl

lemma mirrors_log (record : LogRecord) :
    Mirrors (Untouched tree output)
      (Workspace.console.log record : ExceptT Failure (StateM Workspace) Unit) (Pure.pure ()) :=
  (keeps_log record).bind_lift fun _ _ => Keeps.pure rfl

lemma mirrors_entriesOf (scan : CallSite.ArgumentExtent) (targets : List Target) :
    Mirrors (Untouched tree output) (Inliner.entriesOf Workspace.console.log scan targets)
      (Inliner.entriesOf (fun _ => Pure.pure ()) scan targets) := by
  induction targets with
  | nil => exact Mirrors.pure _
  | cons target rest ih =>
    rw [Inliner.entriesOf, Inliner.entriesOf]
    refine (Mirrors.of_except _).bind fun found => ?_
    cases found with
    | none => exact (mirrors_log _).bind fun _ => ih.bind fun _ => Mirrors.pure _
    | some entry => exact ih.bind fun _ => Mirrors.pure _

lemma mirrors_ofOptions (options : Options) :
    Mirrors (Untouched tree output) (Inliner.ofOptions Workspace.console.log options)
      (Inliner.ofOptions (fun _ => Pure.pure ()) options) := by
  have hfilter : Mirrors (Untouched tree output)
      (Inliner.filterOf Workspace.console.log options.patterns)
      (Inliner.filterOf (fun _ => Pure.pure ()) options.patterns) := by
    rw [Inliner.filterOf, Inliner.filterOf]
    split
    · exact (mirrors_log _).bind fun _ => Mirrors.pure _
    · exact (Mirrors.of_except _).bind fun _ => Mirrors.pure _
  rw [Inliner.ofOptions, Inliner.ofOptions]
  exact hfilter.bind fun _ => (mirrors_entriesOf options.scan options.targets).bind fun _ =>
    Mirrors.pure _

end Building

/-! ## Modules and their counterparts -/

/-- By these names from the input there is a file, and its path is admitted. -/
structure IsModule (tree : FileTree) (e : Inliner) (input : Path) (base names : Location) :
    Prop where
  isFile : (tree.content? (base ++ names)).isSome
  admitted : e.admits (under input names).text = true

/-- Each module below the input has a counterpart below the target, and nothing else changes. -/
structure MapsModules (e : Inliner) (datasets input target : Path) (base place : Location)
    (before after : Workspace) : Prop where
  /-- The counterpart holds what the transform makes of what the module held before. -/
  transformed : ∀ names, IsModule before.tree e input base names → ∃ code report,
    before.tree.find (under input names) = .ok (.file (base ++ names) (.text code)) ∧
    answer (e.transform (Workspace.terminal.host datasets) (under input names).text code) {}
      before = .ok (some report) ∧
    after.tree.find (under target names) = .ok (.file (place ++ names) (.text report.text))
  /-- No file is the counterpart of two modules. -/
  apart : ∀ names names' location content content',
    IsModule before.tree e input base names → IsModule before.tree e input base names' →
    after.tree.find (under target names) = .ok (.file location content) →
    after.tree.find (under target names') = .ok (.file location content') → names = names'
  /-- A file that is no counterpart is as before. -/
  untouched : ∀ location,
    (∀ names, IsModule before.tree e input base names → location ≠ place ++ names) →
    after.tree.content? location = before.tree.content? location
  /-- The counterparts are in the directory that the target leads to, if it was there before. So in
  place each module is its own counterpart. -/
  existing : ∀ location, before.tree.find target = .ok (.directory location) → place = location

section Collecting

variable {tree : FileTree} {e : Inliner} {filter : PathFilter} {request : TransformRequest}
  {input : Path} {base names : Location} {files : List Path}

lemma isName_of_isFile (hnamed : ∀ file ∈ tree.files, ∀ name ∈ file.1, IsName name)
    (h : (tree.content? (base ++ names)).isSome) : ∀ name ∈ names, IsName name := by
  obtain ⟨file, hfile, hplace⟩ := (isSome_content?_iff _).mp h
  intro name hname
  refine hnamed file hfile name ?_
  rw [hplace]
  exact List.mem_append_right _ hname

lemma mem_collected_iff (hfilter : e.filter = some filter)
    (hcollected : Collected tree filter request files)
    (hinput : tree.find (.ofString request.input) = .ok (.directory base)) (file : Path) :
    file ∈ files ↔ ∃ names, IsModule tree e (.ofString request.input) base names ∧
      file = under (.ofString request.input) names := by
  have hkind : tree.kind? (.ofString request.input) = some .directory := by
    rw [FileTree.kind?, hinput]
  obtain ⟨found, hfound⟩ : ∃ found, tree.filesBelow (.ofString request.input) = .ok found := by
    rw [FileTree.filesBelow, hinput]
    exact ⟨_, rfl⟩
  have hadmits : ∀ id, e.admits id = filter.admits (modulePath id) := by
    intro id
    rw [Inliner.admits, hfilter]
    rfl
  rw [hcollected.inputs]
  constructor
  · intro h
    cases h with
    | self isFile =>
      rw [hkind] at isFile
      cases isFile
    | below _ _ listed member admitted =>
      obtain ⟨names, hcontent, rfl⟩ := (mem_filesBelow_iff hinput listed file).mp member
      exact ⟨names, ⟨hcontent, (hadmits _).trans admitted⟩, rfl⟩
  · rintro ⟨names, hmodule, rfl⟩
    refine .below hkind (hcollected.recursive hkind) hfound ?_ ?_
    · exact (mem_filesBelow_iff hinput hfound _).mpr ⟨names, hmodule.isFile, rfl⟩
    · exact (hadmits _).symm.trans hmodule.admitted

lemma find_of_read_under {code : String} (hinput : tree.find input = .ok (.directory base))
    (hnames : ∀ name ∈ names, IsName name) (h : tree.read (under input names) = .ok code) :
    names ≠ [] ∧
      tree.find (under input names) = .ok (.file (base ++ names) (.text code)) := by
  obtain ⟨location, hfind⟩ := exists_find_of_read h
  constructor
  · rintro rfl
    have hsame : under input [] = input := rfl
    rw [hsame, hinput] at hfind
    cases hfind
  · have hplace := placeOf_of_find hfind
    rw [placeOf_under hnames, placeOf_of_find hinput] at hplace
    cases hplace
    exact hfind

end Collecting

section Counterparts

variable {w after : Workspace} {datasets input target : Path} {e : Inliner}
  {base names : Location} {files : List Path} {results : List Reported}
  (hnamed : ∀ file ∈ w.tree.files, ∀ name ∈ file.1, IsName name)
  (hinput : w.tree.find input = .ok (.directory base))
  (hfiles : ∀ file, file ∈ files ↔
    ∃ names, IsModule w.tree e input base names ∧ file = under input names)
  (htransformed : Transformed w.tree datasets e files results)
include hnamed hinput hfiles htransformed

/-- Each result is of a module, and it is the report on what the module holds. -/
lemma exists_module_of_mem {done : Reported} (hdone : done ∈ results) :
    ∃ names code report, IsModule w.tree e input base names ∧ names ≠ [] ∧
      (∀ name ∈ names, IsName name) ∧ done = (under input names, some report) ∧
      w.tree.find (under input names) = .ok (.file (base ++ names) (.text code)) ∧
      reportOn (datasetIn w.tree datasets) e (under input names).text code = some report := by
  have hfile : done.1 ∈ files := by
    rw [← htransformed.files_eq]
    exact List.mem_map_of_mem hdone
  obtain ⟨names, hmodule, hunder⟩ := (hfiles done.1).mp hfile
  obtain ⟨code, hread, hreport⟩ := htransformed.report_eq done hdone
  rw [hunder] at hread hreport
  have hnames := isName_of_isFile hnamed hmodule.isFile
  obtain ⟨hne, hfind⟩ := find_of_read_under hinput hnames hread
  have hadmits := hmodule.admitted
  obtain ⟨report, hsome⟩ : ∃ report,
      reportOn (datasetIn w.tree datasets) e (under input names).text code = some report := by
    rw [reportOn, if_pos hadmits]
    exact ⟨_, rfl⟩
  have heq : done = (under input names, some report) := Prod.ext hunder (hreport.trans hsome)
  exact ⟨names, code, report, hmodule, hne, hnames, heq, hfind, hsome⟩

/-- What is delivered gets below the target, and a file that is delivered twice gets the same text
both times. -/
lemma putsAll_of_transformed {request : TransformRequest} {between : Workspace}
    (hrequest : .ofString request.input = input) (htarget : targetOf request = some target)
    (h : (deliverAll Workspace.terminal request results).run.run between = (.ok (), after)) :
    PutsAll target (Delivered input results) between.tree after.tree := by
  subst hrequest
  refine putsAll_of_deliverAll htarget ?_ ?_ h
  · intro done hdone
    obtain ⟨names, _, _, -, hne, hnames, rfl, -⟩ :=
      exists_module_of_mem hnamed hinput hfiles htransformed hdone
    exact ⟨names, hne, hnames, rfl⟩
  · intro done hdone other hother hsame
    obtain ⟨code, hcode, hreport⟩ := htransformed.report_eq done hdone
    obtain ⟨code', hcode', hreport'⟩ := htransformed.report_eq other hother
    rw [hsame, hcode'] at hcode
    cases hcode
    rw [hreport, hreport', hsame]

/-- A module has been transformed, and the text of its report is where its names lead. -/
lemma exists_counterpart (hjournal : e.options.journal = none)
    (hputs : PutsAll target (Delivered input results) w.tree after.tree)
    (hmodule : IsModule w.tree e input base names) :
    ∃ code report, w.tree.find (under input names) = .ok (.file (base ++ names) (.text code)) ∧
      answer (e.transform (Workspace.terminal.host datasets) (under input names).text code) {} w =
        .ok (some report) ∧
      after.tree.find (under target names) =
        .ok (.file ((placeOf w.tree target).getD [] ++ names) (.text report.text)) := by
  have hfile := (hfiles _).mpr ⟨names, hmodule, rfl⟩
  rw [← htransformed.files_eq] at hfile
  obtain ⟨done, hdone, hunder⟩ := List.mem_map.mp hfile
  obtain ⟨names', code, report, -, -, hnames', rfl, hfind, hreport⟩ :=
    exists_module_of_mem hnamed hinput hfiles htransformed hdone
  obtain rfl := under_injective hnames' (isName_of_isFile hnamed hmodule.isFile) hunder
  obtain ⟨location, hlocation, hfound⟩ :=
    hputs.found names' report.text ⟨hnames', report, hdone, rfl⟩
  rw [eq_append_of_placeOf_under hnames' hlocation] at hfound
  refine ⟨code, report, hfind, ?_, hfound⟩
  have hsteady := steady_terminal w.tree w.output datasets
  have hlone := hsteady.transform_of_no_journal hjournal (under input names').text code {}
    faithful_empty w (untouched_self w)
  rw [answer, hlone.1.1, hreport]

lemma mapsModules_of_putsAll (hjournal : e.options.journal = none)
    (hputs : PutsAll target (Delivered input results) w.tree after.tree) :
    ∃ place, MapsModules e datasets input target base place w after := by
  have hcounterpart := fun names (hmodule : IsModule w.tree e input base names) =>
    exists_counterpart hnamed hinput hfiles htransformed hjournal hputs hmodule
  refine ⟨(placeOf w.tree target).getD [], hcounterpart, ?_, ?_, ?_⟩
  · intro names names' location content content' hmodule hmodule' hfound hfound'
    obtain ⟨_, _, -, -, hthere⟩ := hcounterpart names hmodule
    obtain ⟨_, _, -, -, hthere'⟩ := hcounterpart names' hmodule'
    rw [hthere] at hfound
    rw [hthere'] at hfound'
    cases hfound
    injection hfound' with hspot
    injection hspot with hlocation
    exact (List.append_cancel_left hlocation).symm
  · intro location hlocation
    refine hputs.frame location ?_
    rintro names text ⟨hnames, report, hmem, -⟩ hleads
    obtain ⟨names', _, _, hmodule, -, hnames', heq, -⟩ :=
      exists_module_of_mem hnamed hinput hfiles htransformed hmem
    obtain rfl := under_injective hnames hnames' (Prod.mk.inj heq).1
    exact hlocation names hmodule (eq_append_of_placeOf_under hnames hleads)
  · intro location hlocation
    rw [placeOf_of_find hlocation]
    rfl

end Counterparts

/-! ## The whole command -/

section Printing

variable {tree : FileTree}

lemma yields_printLine (line : String) :
    Yields (·.tree = tree) (printLine Workspace.terminal line) fun _ => True := by
  have hprint : Keeps (·.tree = tree) (Workspace.console.print (line ++ "\n")) fun _ => True :=
    fun _ hcalm => ⟨trivial, hcalm⟩
  exact hprint.yields

lemma yields_summarize (results : List Reported) :
    Yields (·.tree = tree) (summarize Workspace.terminal results) fun _ => True := by
  have helapsed : Keeps (·.tree = tree) Workspace.console.elapsed fun _ => True :=
    fun _ hcalm => ⟨trivial, hcalm⟩
  have htime := helapsed.yields.bind fun time _ => yields_printLine ("   Time: " ++ time ++ "ms")
  rw [summarize]
  refine (yields_printLine _).bind fun _ _ => ?_
  split
  · exact (yields_printLine _).bind fun _ _ => htime
  · exact htime

end Printing

/-- A transform that succeeds has transformed the files of the input without a write, and has then
put the results where they belong. -/
lemma exists_delivery {tree : FileTree} {output : String} {w after : Workspace}
    {request : TransformRequest} {options : Options} (hw : Untouched tree output w)
    (hpatterns : options.patterns ≠ []) (hjournal : options.journal = none)
    (hruns : options.runsIn request.phase = true) (hprinted : request.destination ≠ .output)
    (h : (transform Workspace.terminal options request).run.run w = (.ok (), after)) :
    ∃ e filter files results between delivered,
      inlinerOf options = .ok e ∧ e.options = options ∧ e.filter = some filter ∧
      Collected tree filter request files ∧
      Transformed tree options.datasetRoot e files results ∧ between.tree = tree ∧
      (deliverAll Workspace.terminal request results).run.run between = (.ok (), delivered) ∧
      after.tree = delivered.tree := by
  rw [transform, if_neg (by simp [hruns])] at h
  obtain ⟨e, w₁, hbuild, hcollecting⟩ := exists_of_run_bind h
  have hmirrors := (mirrors_ofOptions options w hw).1
  have hinliner : inlinerOf options = .ok e := hmirrors.symm.trans (congrArg Prod.fst hbuild)
  obtain ⟨hbuilt, hw₁⟩ := (yields_ofOptions hpatterns).of_run hw hbuild
  obtain ⟨filter, -, hfilter⟩ := hbuilt.filter
  obtain ⟨files, w₂, hcollect, hreading⟩ := exists_of_run_bind hcollecting
  obtain ⟨hcollected, hw₂⟩ := (yields_collect hfilter).of_run hw₁ hcollect
  rw [if_neg (by simp [hprinted])] at hreading
  obtain ⟨results, w₃, hreport, hwriting⟩ := exists_of_run_bind hreading
  obtain ⟨⟨-, htransformed⟩, hw₃⟩ := (yields_transformAll hbuilt hjournal files).of_run hw₂ hreport
  obtain ⟨⟨⟩, delivered, hdeliver, hsummary⟩ := exists_of_run_bind hwriting
  rw [if_neg (by simp [hprinted])] at hsummary
  have hafter := ((yields_summarize results).of_run rfl hsummary).2
  exact ⟨e, filter, files, results, w₃, delivered, hinliner, hbuilt.options_eq, hfilter, hcollected,
    htransformed, hw₃.1, hdeliver, hafter⟩

/-- A transform that succeeds on a directory maps the modules below it, if it is for the phase that
is asked for. Otherwise it leaves all files as they are. -/
theorem transform_maps_modules {arguments : List String} {w after : Workspace}
    {request : TransformRequest} {options : Options} {target : Path} {base : Location}
    (hasks : Asks w.tree arguments (.transform request) options) (hjournal : options.journal = none)
    (hnamed : ∀ file ∈ w.tree.files, ∀ name ∈ file.1, IsName name)
    (hinput : w.tree.find (.ofString request.input) = .ok (.directory base))
    (htarget : targetOf request = some target)
    (hrun : (run Workspace.terminal arguments).run w = (.success, after)) :
    (options.runsIn request.phase = true → ∃ e place, inlinerOf options = .ok e ∧
      MapsModules e options.datasetRoot (.ofString request.input) target base place w after) ∧
    (options.runsIn request.phase = false → after.tree = w.tree) := by
  obtain ⟨w', hw', hserve⟩ := hasks.run_eq
  rw [hrun, serve] at hserve
  have htransform :
      (transform Workspace.terminal options request).run.run w' = (.ok (), after) := by
    rcases hran : (transform Workspace.terminal options request).run.run w' with ⟨outcome, last⟩
    rw [hran] at hserve
    cases outcome with
    | ok result =>
      cases hserve
      rfl
    | error failure => cases hserve
  constructor
  · intro hruns
    have hprinted : request.destination ≠ .output := by
      intro houtput
      rw [targetOf, houtput] at htarget
      cases htarget
    obtain ⟨e, filter, files, results, between, delivered, hinliner, hoptions, hfilter, hcollected,
      htransformed, hbetween, hdeliver, hafter⟩ :=
      exists_delivery hw' hasks.patterns_ne_nil hjournal hruns hprinted htransform
    have hfiles := mem_collected_iff hfilter hcollected hinput
    have hputs := putsAll_of_transformed hnamed hinput hfiles htransformed rfl htarget hdeliver
    rw [hbetween, ← hafter] at hputs
    have hnone : e.options.journal = none := by rw [hoptions, hjournal]
    obtain ⟨place, hmaps⟩ := mapsModules_of_putsAll hnamed hinput hfiles htransformed hnone hputs
    exact ⟨e, place, hinliner, hmaps⟩
  · intro hruns
    rw [transform, if_pos (by simp [hruns])] at htransform
    exact ((yields_printLine _).of_run hw'.1 htransform).2

/-! ## A restriction to another phase -/

lemma exists_ended {α : Type} {ran : α × Workspace} {outcome : α} {p : FileTree → Prop}
    (hended : ran.1 = outcome) (hp : p ran.2.tree) :
    ∃ after, ran = (outcome, after) ∧ p after.tree :=
  ⟨ran.2, Prod.ext hended rfl, hp⟩

/-- A workspace with a module and a configuration for the other phase. -/
def restrictedWorkspace : Workspace where
  tree :=
    { files :=
        [(["c.json".toList], .text "\x7b\"apply\":\"serve\",\"targets\":[]\x7d"),
          (["src".toList, "a.js".toList], .text "f();\n")]
      directories := [["src".toList]] }

def restrictedArguments : List String :=
  ["transform", "src", "--recursive", "--output", "out", "--config", "c.json"]

def restrictedRequest : TransformRequest := ⟨"src", .directory (.ofString "out"), true, .build⟩

def restrictedOptions : Options :=
  ({} : Overrides).apply { onlyIn := some .serve, targets := some [] : Config }.toOptions

/-- A transform that succeeds need not map the modules, for it may be for another phase. -/
theorem restricted_transform_maps_nothing :
    Asks restrictedWorkspace.tree restrictedArguments (.transform restrictedRequest)
        restrictedOptions ∧
      restrictedOptions.journal = none ∧
      (∀ file ∈ restrictedWorkspace.tree.files, ∀ name ∈ file.1, IsName name) ∧
      restrictedWorkspace.tree.find (.ofString restrictedRequest.input) =
        .ok (.directory ["src".toList]) ∧
      targetOf restrictedRequest = some (.ofString "out") ∧
      ∃ after, (run Workspace.terminal restrictedArguments).run restrictedWorkspace =
          (.success, after) ∧
        ¬∃ e place, inlinerOf restrictedOptions = .ok e ∧
          MapsModules e restrictedOptions.datasetRoot (.ofString restrictedRequest.input)
            (.ofString "out") ["src".toList] place restrictedWorkspace after := by
  have hreads : Invocation.ofArguments restrictedArguments =
      .ok ⟨some "c.json", 0, some (.transform restrictedRequest, {})⟩ := by decide +kernel
  have hasks : Asks restrictedWorkspace.tree restrictedArguments (.transform restrictedRequest)
      restrictedOptions := .mk hreads rfl (by decide +kernel)
  obtain ⟨after, hrun, hmissing⟩ : ∃ after,
      (run Workspace.terminal restrictedArguments).run restrictedWorkspace = (.success, after) ∧
        after.tree.find (under (.ofString "out") ["a.js".toList]) = .error .notFound :=
    exists_ended (p := fun tree => tree.find _ = .error .notFound) (by decide +kernel)
      (by decide +kernel)
  refine ⟨hasks, rfl, by decide +kernel, by decide +kernel, rfl, after, hrun, ?_⟩
  rintro ⟨e, place, hinliner, hmaps⟩
  have hadmits : (inlinerOf restrictedOptions).toOption.any (·.admits "src/a.js") = true := by
    decide +kernel
  rw [hinliner] at hadmits
  have hmodule : IsModule restrictedWorkspace.tree e (.ofString restrictedRequest.input)
      ["src".toList] ["a.js".toList] := ⟨by decide +kernel, hadmits⟩
  obtain ⟨code, report, -, -, hfound⟩ := hmaps.transformed _ hmodule
  rw [hmissing] at hfound
  cases hfound

/-! ## A target that lies inside of the input -/

/-- A workspace with two modules, one of which is where the other one goes to. -/
def overlapWorkspace : Workspace where
  tree :=
    { files :=
        [(["icons".toList, "@fortawesome".toList, "free-solid-svg-icons.json".toList],
            .text "\x7b\"fas\":\x7b\"faAt\":\x7b\"icon\":[1,1,[],\"f1fa\",\"M0 0\"]\x7d\x7d\x7d"),
          (["src".toList, "a.js".toList], .text "faIconToString(faAt);\n"),
          (["src".toList, "lib".toList, "a.js".toList], .text "f();\n")]
      directories := [["icons".toList], ["icons".toList, "@fortawesome".toList], ["src".toList],
        ["src".toList, "lib".toList]] }

def overlapArguments : List String := ["transform", "src", "--recursive", "--output", "src/lib"]

def overlapRequest : TransformRequest := ⟨"src", .directory (.ofString "src/lib"), true, .build⟩

def overlapOptions : Options := ({} : Overrides).apply ({} : Config).toOptions

def overlapInliner : Inliner :=
  match inlinerOf overlapOptions with
  | .ok e => e
  | .error _ => ⟨overlapOptions, [], none, []⟩

lemma asks_overlap :
    Asks overlapWorkspace.tree overlapArguments (.transform overlapRequest) overlapOptions := by
  have hreads : Invocation.ofArguments overlapArguments =
      .ok ⟨none, 0, some (.transform overlapRequest, {})⟩ := by decide +kernel
  exact .mk hreads rfl rfl

lemma inlinerOf_overlap : inlinerOf overlapOptions = .ok overlapInliner := by
  have hbuilt : (inlinerOf overlapOptions).toOption.isSome = true := by decide +kernel
  unfold overlapInliner
  cases hinliner : inlinerOf overlapOptions with
  | ok e => rfl
  | error failure =>
    rw [hinliner] at hbuilt
    cases hbuilt

lemma ofOptions_overlap :
    (Inliner.ofOptions Workspace.terminal.console.log overlapOptions).run.run overlapWorkspace =
      (.ok overlapInliner, overlapWorkspace) := by
  have hmirrors := (mirrors_ofOptions overlapOptions _ (untouched_self overlapWorkspace)).1
  exact Prod.ext (hmirrors.trans inlinerOf_overlap) (by decide +kernel)

lemma collect_overlap :
    (collect Workspace.terminal.files overlapInliner overlapRequest.input
      overlapRequest.recursive).run.run overlapWorkspace =
        (.ok [.ofString "src/a.js", .ofString "src/lib/a.js"], overlapWorkspace) := by
  have hkind : (Workspace.terminal.files.kind? (.ofString overlapRequest.input) :
      ExceptT Failure (StateM Workspace) (Option FileKind)).run.run overlapWorkspace =
        (.ok (some .directory), overlapWorkspace) :=
    Prod.ext (by decide +kernel) (by decide +kernel)
  have hlisted : (attempt (Workspace.terminal.files.filesBelow
      (.ofString overlapRequest.input))).run.run overlapWorkspace =
        (.ok [.ofString "src/a.js", .ofString "src/lib/a.js"], overlapWorkspace) :=
    Prod.ext (by decide +kernel) (by decide +kernel)
  have hadmitted : [Path.ofString "src/a.js", .ofString "src/lib/a.js"].filter
      (fun file => overlapInliner.admits file.text) =
        [.ofString "src/a.js", .ofString "src/lib/a.js"] := by decide +kernel
  have hsorted : [Path.ofString "src/a.js", .ofString "src/lib/a.js"].mergeSort Path.sortsBefore =
      [.ofString "src/a.js", .ofString "src/lib/a.js"] :=
    List.mergeSort_of_pairwise (by decide +kernel)
  rw [collect, run_bind_ok hkind]
  dsimp only
  rw [if_neg (by decide), run_bind_ok hlisted, hadmitted, hsorted]
  rfl

lemma run_overlap :
    ∃ after, (run Workspace.terminal overlapArguments).run overlapWorkspace = (.success, after) ∧
      after.tree.content? ["src".toList, "lib".toList, "a.js".toList] =
        some (.text "'SVG;0 0 1 1;M0 0;;;';\n") := by
  have hreads : Invocation.ofArguments overlapArguments =
      .ok ⟨none, 0, some (.transform overlapRequest, {})⟩ := by decide +kernel
  have hperform :
      (perform Workspace.terminal ⟨none, 0, some (.transform overlapRequest, {})⟩).run.run
        overlapWorkspace =
          (transform Workspace.terminal overlapOptions overlapRequest).run.run
            overlapWorkspace := rfl
  obtain ⟨after, htransform, hcontent⟩ : ∃ after,
      (transform Workspace.terminal overlapOptions overlapRequest).run.run overlapWorkspace =
        (.ok (), after) ∧ after.tree.content? ["src".toList, "lib".toList, "a.js".toList] =
          some (.text "'SVG;0 0 1 1;M0 0;;;';\n") := by
    rw [transform, if_neg (by decide), run_bind_ok ofOptions_overlap, run_bind_ok collect_overlap,
      if_neg (by decide)]
    exact exists_ended (p := fun tree => tree.content? _ = _) (by decide +kernel)
      (by decide +kernel)
  refine ⟨after, ?_, hcontent⟩
  rw [run, hreads]
  dsimp only
  rw [StateT.run_bind, hperform, htransform]
  rfl

/-- The text of `src/a.js` goes to `src/lib/a.js`, whose own text goes to `src/lib/lib/a.js`. -/
theorem transform_maps_modules_overlap :
    Asks overlapWorkspace.tree overlapArguments (.transform overlapRequest) overlapOptions ∧
      overlapOptions.journal = none ∧
      (∀ file ∈ overlapWorkspace.tree.files, ∀ name ∈ file.1, IsName name) ∧
      overlapWorkspace.tree.find (.ofString "src") = .ok (.directory ["src".toList]) ∧
      targetOf overlapRequest = some (.ofString "src/lib") ∧
      ∃ after, (run Workspace.terminal overlapArguments).run overlapWorkspace = (.success, after) ∧
        after.tree.content? ["src".toList, "lib".toList, "a.js".toList] =
          some (.text "'SVG;0 0 1 1;M0 0;;;';\n") ∧
        ∃ e place, inlinerOf overlapOptions = .ok e ∧
          MapsModules e overlapOptions.datasetRoot (.ofString "src") (.ofString "src/lib")
            ["src".toList] place overlapWorkspace after := by
  have hnamed : ∀ file ∈ overlapWorkspace.tree.files, ∀ name ∈ file.1, IsName name := by
    decide +kernel
  have hinput : overlapWorkspace.tree.find (.ofString "src") = .ok (.directory ["src".toList]) := by
    decide +kernel
  obtain ⟨after, hrun, hcontent⟩ := run_overlap
  exact ⟨asks_overlap, rfl, hnamed, hinput, rfl, after, hrun, hcontent,
    (transform_maps_modules asks_overlap rfl hnamed hinput rfl hrun).1 rfl⟩

end IconInline.Proofs
