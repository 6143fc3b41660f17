import IconInline.Proofs.CommandRuns
import IconInline.Proofs.MissingIcons

/-!
# The literal that is printed for an icon

The command that prints the literal of one icon reads its argument as the scan for calls reads the
argument of a call. So for one dataset and strategy it prints just the literal that takes the place
of the call, and it does not find the icon just if the call stays.
-/

namespace IconInline.Proofs
open Command CallSite Text

/-- The text of a call. -/
def callText (name argument : String) : String := name ++ "(" ++ argument ++ ")"

/-- The closing scan of a call ends at its last parenthesis. -/
def ClosesAtEnd (name argument : String) : Prop :=
  ClosedAt name.toList (callText name argument).toList 0
    (byteSize (name.toList ++ '(' :: argument.toList))

/-- The dataset that a request for one icon is about. -/
def requestedDataset (options : Options) (request : EncodeRequest) : DatasetRef :=
  let target := options.targets.headD {}
  ⟨request.package.getD target.dataset.package, request.binding.getD target.dataset.binding⟩

section Calls

variable {name argument : String} {callee : Callee} {entry : Entry}

lemma toList_callText (name argument : String) :
    (callText name argument).toList = name.toList ++ ('(' :: argument.toList ++ [')']) := by
  simp [callText]

/-- A call that closes at its end is the only segment of its text. -/
lemma segments_callText (hscan : callee.scan = .balanced) (hname : callee.name = name.toList)
    (hcloses : ClosesAtEnd name argument) :
    callee.segments (callText name argument).toList =
      [.call (callText name argument).toList argument.toList] := by
  rw [ClosesAtEnd, toList_callText, ← List.nil_append (name.toList ++ _),
    ← List.append_assoc] at hcloses
  obtain ⟨n, hn, hsize⟩ := closedAt_iff.mp hcloses
  rw [List.getLast?_nil] at hn
  rw [byteSize_append, byteSize_nil, Nat.zero_add, Nat.add_left_cancel_iff] at hsize
  -- The scan ends behind as many bytes as parenthesis and argument have, so it ends behind these.
  obtain ⟨htake, -⟩ := append_inj_of_byteSize
    (List.take_append_drop n ('(' :: argument.toList ++ [')'])) hsize.symm
  obtain ⟨-, hafter⟩ := eq_of_closingAfter? hn
  have hall := take_succ_of_closingAfter? hn
  rw [htake] at hafter hall
  have hnone : ('(' :: argument.toList ++ [')']).drop (n + 1) = [] := by
    have htail := List.append_cancel_left hafter
    exact (List.cons.inj htail).2.symm
  rw [Callee.segments, hscan, toList_callText, ← hname]
  dsimp only
  rw [balancedFrom_name callee hn, hnone, hall, htake, Callee.balancedFrom]
  rfl

lemma source_of_balancedFrom {previous : Option Char} {cs source : List Char}
    {before rest : List Segment} (hname : callee.name = name.toList)
    (h : callee.balancedFrom previous cs = before ++ .call source argument.toList :: rest) :
    source = (callText name argument).toList := by
  obtain ⟨after, n, rfl, hargument, hn⟩ :=
    closingAfter?_of_balancedFrom (fun _ => none) callee previous cs before h
  rw [take_succ_of_closingAfter? hn, (eq_of_closingAfter? hn).1, ← hargument, hname,
    toList_callText]

lemma replaceCalls_callText (icons : IconSet) (hscan : entry.callee.scan = .balanced)
    (hname : entry.callee.name = name.toList) (hcloses : ClosesAtEnd name argument)
    (hidentifier : namedIcon argument.toList ≠ []) :
    entry.replaceCalls icons (callText name argument) =
      ({} : Replacement).examined (callText name argument).toList
        (String.ofList (namedIcon argument.toList))
        (codeOf entry icons (String.ofList (namedIcon argument.toList))) := by
  have hknown : known (codeOf entry icons) (String.ofList (namedIcon argument.toList)) =
      codeOf entry icons (String.ofList (namedIcon argument.toList)) := by
    rw [known, if_neg (by simpa using hidentifier)]
  rw [replaceCalls_eq, segments_callText hscan hname hcloses, outcomeOf_call, outcomeOf_nil, hknown]

lemma examined_eq_replaced_iff {source : List Char} {identifier literal : String}
    {found : Option IconCode} :
    ({} : Replacement).examined source identifier found =
        ⟨literal.toList, [identifier], [.replaced identifier literal]⟩ ↔
      found.map IconCode.literal = some literal := by
  cases found with
  | none => simp [Replacement.examined]
  | some code =>
    rw [Replacement.examined, Option.map_some, Option.some_inj]
    constructor
    · intro h
      simpa using congrArg Replacement.findings h
    · rintro rfl
      simp

lemma examined_eq_missing_iff {source : List Char} {identifier : String}
    {found : Option IconCode} :
    ({} : Replacement).examined source identifier found =
        ⟨source, [], [.unknownIcon identifier]⟩ ↔ found = none := by
  cases found with
  | none => simp [Replacement.examined]
  | some code => simp [Replacement.examined]

end Calls

section Encode

variable {options : Options} {request : EncodeRequest} {strategy : Strategy} {icons : IconSet}
  {w : Workspace}

/-- With its dataset at hand, the command prints the literal of the icon or does not find it. -/
lemma encode_run
    (hstrategy : strategyFor (options.targets.headD {}) request.strategy = .ok strategy)
    (hicons : datasetIn w.tree options.datasetRoot (requestedDataset options request) = .ok icons) :
    ∃ w', Untouched w.tree w.output w' ∧
      (encode Workspace.terminal options request).run.run w =
        match icons.find? (String.ofList (namedIcon request.identifier.toList)) with
        | some icon =>
          (.ok (), { w' with output := w'.output ++ ((strategy.encode icon).literal ++ "\n") })
        | none =>
          (.error (.dataset (requestedDataset options request).package
            ("icon '" ++ request.identifier ++ "' not found")), w') := by
  obtain ⟨⟨hfetched, -⟩, hsame⟩ := (steady_terminal w.tree w.output options.datasetRoot).fetch
    (requestedDataset options request) {} faithful_empty w (untouched_self w)
  rcases hfetch : ((Cache.fetch (Workspace.terminal.host options.datasetRoot)
    (requestedDataset options request)).run {}).run w with ⟨⟨outcome, cache⟩, w'⟩
  rw [hfetch] at hfetched hsame
  obtain rfl : outcome = .ok icons := hfetched.trans hicons
  refine ⟨w', hsame, ?_⟩
  have hresolved : (liftM (strategyFor (options.targets.headD {}) request.strategy) :
      ExceptT Failure (StateM Workspace) Strategy).run.run w = (.ok strategy, w) := by
    rw [hstrategy]
    rfl
  have hrun : (ExceptT.mk ((Cache.fetch (Workspace.terminal.host options.datasetRoot)
      (requestedDataset options request)).run' {})).run.run w = (.ok icons, w') := by
    rw [ExceptT.run_mk, StateT.run'_eq, StateT.run_map, hfetch]
    rfl
  refine (run_bind_ok hresolved).trans ((run_bind_ok hrun).trans ?_)
  dsimp only
  cases icons.find? (String.ofList (namedIcon request.identifier.toList)) with
  | some icon => rfl
  | none => rfl

lemma Asks.run_encode {arguments : List String}
    (hasks : Asks w.tree arguments (.encode request) options)
    (hstrategy : strategyFor (options.targets.headD {}) request.strategy = .ok strategy)
    (hicons : datasetIn w.tree options.datasetRoot (requestedDataset options request) = .ok icons) :
    ∃ last, Untouched w.tree w.output last ∧ (run Workspace.terminal arguments).run w =
      match icons.find? (String.ofList (namedIcon request.identifier.toList)) with
      | some icon =>
        (.success, { last with output := last.output ++ ((strategy.encode icon).literal ++ "\n") })
      | none =>
        (.failure (.dataset (requestedDataset options request).package
          ("icon '" ++ request.identifier ++ "' not found")), last) := by
  obtain ⟨w', ⟨htree, houtput⟩, hrun⟩ := hasks.run_eq
  rw [← htree] at hicons
  obtain ⟨last, hlast, hencode⟩ := encode_run hstrategy hicons
  rw [htree, houtput] at hlast
  refine ⟨last, hlast, ?_⟩
  rw [hrun, serve, hencode]
  cases icons.find? (String.ofList (namedIcon request.identifier.toList)) with
  | some icon => rfl
  | none => rfl

end Encode

/-- Asked for the icon that an argument names, with the dataset and the strategy of an entry, the
command prints a literal just if the entry puts this literal in the place of a call with this
argument, and it does not find the icon just if the entry leaves that call. The call comes to the
same wherever the scan finds it in a text. -/
theorem encode_prints_embedded {arguments : List String} {w : Workspace} {request : EncodeRequest}
    {options : Options} {target : Target} {entry : Entry} {icons : IconSet}
    (hasks : Asks w.tree arguments (.encode request) options)
    (hentry : Inliner.entryOf .balanced target = .ok (some entry))
    (hdataset : requestedDataset options request = target.dataset)
    (hstrategy : strategyFor (options.targets.headD {}) request.strategy = .ok entry.strategy)
    (hicons : datasetIn w.tree options.datasetRoot target.dataset = .ok icons)
    (hcloses : ClosesAtEnd target.extractor.name request.identifier)
    (hidentifier : namedIcon request.identifier.toList ≠ []) :
    let text := callText target.extractor.name request.identifier
    let identifier := String.ofList (namedIcon request.identifier.toList)
    let ran := (run Workspace.terminal arguments).run w
    (∀ literal, ran.1 = .success ∧ ran.2.output = w.output ++ (literal ++ "\n") ↔
      entry.replaceCalls icons text =
        ⟨literal.toList, [identifier], [.replaced identifier literal]⟩) ∧
    (ran.1 = .failure (.dataset target.dataset.package
        ("icon '" ++ request.identifier ++ "' not found")) ↔
      entry.replaceCalls icons text = ⟨text.toList, [], [.unknownIcon identifier]⟩) ∧
    ∀ code before source rest,
      entry.callee.segments code = before ++ .call source request.identifier.toList :: rest →
      entry.replaceCalls icons (String.ofList code) =
        followedBy (outcomeOf (codeOf entry icons) before)
          (followedBy (entry.replaceCalls icons text) (outcomeOf (codeOf entry icons) rest)) := by
  obtain ⟨hname, hscan⟩ : entry.callee.name = target.extractor.name.toList ∧
      entry.callee.scan = .balanced := by
    rcases entryOf_ok hentry with ⟨-, ⟨-, hnone⟩ | ⟨strategy, callee, -, hname, hscan, hsome⟩⟩
    · cases hnone
    · cases hsome
      exact ⟨hname, hscan⟩
  have hreplaced := replaceCalls_callText icons hscan hname hcloses hidentifier
  rw [← hdataset] at hicons ⊢
  obtain ⟨last, ⟨-, hlast⟩, hran⟩ := hasks.run_encode hstrategy hicons
  dsimp only
  refine ⟨?_, ?_, ?_⟩
  · intro literal
    rw [hreplaced, examined_eq_replaced_iff, codeOf]
    cases hfind : icons.find? (String.ofList (namedIcon request.identifier.toList)) with
    | some icon =>
      rw [hfind] at hran
      rw [hran]
      dsimp only
      rw [hlast, String.append_right_inj, String.append_left_inj, Option.map_some,
        Option.map_some, Option.some_inj]
      exact and_iff_right rfl
    | none =>
      rw [hfind] at hran
      simp [hran]
  · rw [hreplaced, examined_eq_missing_iff, codeOf]
    cases hfind : icons.find? (String.ofList (namedIcon request.identifier.toList)) with
    | some icon =>
      rw [hfind] at hran
      simp [hran]
    | none =>
      rw [hfind] at hran
      simp [hran]
  · intro code before source rest hsegments
    have hsource : source =
        (callText target.extractor.name request.identifier).toList := by
      rw [Callee.segments, hscan] at hsegments
      exact source_of_balancedFrom hname hsegments
    rw [replaceCalls_eq entry icons (callText _ _),
      segments_callText hscan hname hcloses, replaceCalls_eq, String.toList_ofList, hsegments,
      outcomeOf_append, ← List.singleton_append, outcomeOf_append, hsource]

/-! ## A quoted argument -/

/-- A workspace with a dataset of one icon. -/
def solidWorkspace : Workspace where
  tree :=
    { files := [(["icons".toList, "solid.json".toList],
        .text "\x7b\"fas\":\x7b\"faAt\":\x7b\"icon\":[1,1,[],\"f1fa\",\"M0 0\"]\x7d\x7d\x7d")]
      directories := [["icons".toList]] }

def solidArguments : List String :=
  ["encode", "'icons.faAt'", "--package", "solid", "--binding", "fas"]

def solidRequest : EncodeRequest := ⟨"'icons.faAt'", some "solid", some "fas", none⟩

def solidTarget : Target := ⟨⟨"solid", "fas"⟩, { name := "icon" }⟩

def solidIcons : IconSet := [("faAt", { Icon.plain 1 1 "M0 0" with glyph := "f1fa" })]

lemma asks_solid :
    Asks solidWorkspace.tree solidArguments (.encode solidRequest)
      (({} : Overrides).apply ({} : Config).toOptions) := by
  have hreads : Invocation.ofArguments solidArguments =
      .ok ⟨none, 0, some (.encode solidRequest, {})⟩ := by decide +kernel
  exact .mk hreads rfl rfl

theorem encode_prints_embedded_solid :
    ClosesAtEnd "icon" "'icons.faAt'" ∧
      datasetIn solidWorkspace.tree (.ofString "icons") ⟨"solid", "fas"⟩ = .ok solidIcons ∧
      let ran := (run Workspace.terminal solidArguments).run solidWorkspace
      ran.1 = .success ∧ ran.2.output = "" ++ ("'SVG;0 0 1 1;M0 0;;;'" ++ "\n") := by
  have hcloses : ClosesAtEnd "icon" "'icons.faAt'" :=
    ⟨⟨[], "'icons.faAt')".toList, by decide +kernel, rfl, nofun⟩, by decide +kernel⟩
  have hicons : datasetIn solidWorkspace.tree (.ofString "icons") ⟨"solid", "fas"⟩ =
      .ok solidIcons := by decide +kernel
  have hentry : Inliner.entryOf .balanced solidTarget =
      .ok (some ⟨⟨"solid", "fas"⟩, "@xrnoz/vuetify-svg-icons", .standard, iconCallee⟩) := rfl
  have hprints := encode_prints_embedded asks_solid hentry rfl rfl hicons hcloses
    (by decide +kernel)
  exact ⟨hcloses, hicons, (hprints.1 "'SVG;0 0 1 1;M0 0;;;'").mpr (by decide +kernel)⟩

end IconInline.Proofs
