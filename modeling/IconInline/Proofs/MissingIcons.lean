import IconInline.Proofs.ModuleChecks
import IconInline.Proofs.PassedCalls

/-!
# Missing icons and the calls that name them

An icon is reported as missing because an entry found a call of it and no such icon. The entry
leaves this call in the text, and closed as it was. There it stays, unless an entry that follows
replaces a call that meets it; and then the report has the icon as missing all the same, and a check
of the module fails.
-/

namespace IconInline.Proofs
open Text CallSite Command

/-- An entry found no icon of a name, and what it left has a closed call that names it. -/
structure Misses (code : String) (acquired : List Acquired) (identifier : String) (entry : Entry)
    (left : String) (after : List Acquired) (call : Call) : Prop where
  here : ∃ before icons earlier given,
    acquired = before ++ (entry, .ok icons) :: after ∧ Rewrites code before earlier given ∧
    .unknownIcon identifier ∈ (entry.replaceCalls icons given).findings ∧
    left = String.ofList (entry.replaceCalls icons given).text
  closed : IsClosedCall entry.callee.name left.toList call
  names : call.identifier = identifier

/-- A call is a closed call of the text that some entries make of another one, and has gone over
into it in one piece. -/
def Stays (name : List Char) (text : String) (call : Call) (acquired : List Acquired)
    (final : String) : Prop :=
  ∃ last, Passes name text call acquired final last ∧ IsClosedCall name final.toList last ∧
    last.identifier = call.identifier

/-- The icons that a report has missing are those that the entries found missing, each on account of
a call which stays to the end, or is lost where an entry replaces a call that meets it. -/
structure FollowsMissing (code : String) (acquired : List Acquired) (missing : List String)
    (blocks : List (List Finding)) (embedded : String) : Prop where
  rewrites : Rewrites code acquired blocks embedded
  missing_eq : missing = missingIcons blocks.flatten
  stays_or_loses : ∀ identifier ∈ missing, ∃ entry left after call,
    Misses code acquired identifier entry left after call ∧
      (Stays entry.callee.name left call after embedded ∨ Loses entry.callee.name left call after)
  /-- If no call of any entry is left in the end, all of them are lost. -/
  loses_of_no_call :
    (∀ a ∈ acquired, ∀ start close, ¬ClosedAt a.1.callee.name embedded.toList start close) →
    ∀ identifier ∈ missing, ∃ entry left after call,
      Misses code acquired identifier entry left after call ∧
        Loses entry.callee.name left call after

section Calls

variable {resolve : String → Option IconCode} {before rest : List Segment}
  {source argument : List Char} {identifier : String}

lemma getLast?_after_plain (hsource : source ≠ []) (previous : Option Char) :
    (outcomeOf resolve (.plain source :: rest)).text.getLast?.or previous =
      (outcomeOf resolve rest).text.getLast?.or source.getLast? := by
  rw [outcomeOf_plain, Replacement.keep, List.getLast?_append, Option.or_assoc,
    Option.or_of_isSome (List.getLast?_isSome.mpr hsource)]

/-- A name may begin behind a call, whether or not the call was replaced. -/
lemma atBoundary_after_call (hsource : source.getLast? = some ')') (previous : Option Char) :
    atBoundary ((outcomeOf resolve (.call source argument :: rest)).text.getLast?.or previous) =
      atBoundary ((outcomeOf resolve rest).text.getLast?.or (some ')')) := by
  rw [outcomeOf_call]
  cases known resolve (String.ofList (namedIcon argument)) with
  | none => simp [Replacement.examined, hsource]
  | some icon =>
    rw [Replacement.examined, List.getLast?_append, getLast?_literal]
    cases (outcomeOf resolve rest).text.getLast? with
    | none => rfl
    | some c => rfl

variable (resolve) in
/-- Among the segments of the balanced scan a call may follow what those before it become. -/
lemma closingAfter?_of_balancedFrom (callee : Callee) (previous : Option Char) (cs : List Char)
    (before : List Segment)
    (h : callee.balancedFrom previous cs = before ++ .call source argument :: rest) :
    ∃ after n, source = callee.name ++ after.take (n + 1) ∧ argument = (after.take n).drop 1 ∧
      closingAfter? ((outcomeOf resolve before).text.getLast?.or previous) after = some n := by
  -- The invariant is on the last character before the scan: where the text in front of it changes,
  -- a literal has come in the place of a call, and a name may begin behind either.
  revert h
  fun_induction Callee.balancedFrom callee previous cs generalizing before with
  | case1 previous => simp
  | case2 previous c tail hprefix after n hn ih =>
    intro h
    cases before with
    | nil =>
      rw [List.nil_append, List.cons_eq_cons, Segment.call.injEq] at h
      obtain ⟨⟨rfl, rfl⟩, -⟩ := h
      exact ⟨after, n, rfl, rfl, hn⟩
    | cons first before =>
      rw [List.cons_append, List.cons_eq_cons] at h
      obtain ⟨rfl, htail⟩ := h
      obtain ⟨after', n', hsource, hargument, hclosing⟩ := ih before htail
      have hlast : (callee.name ++ after.take (n + 1)).getLast? = some ')' := by
        simp [take_succ_of_closingAfter? hn]
      refine ⟨after', n', hsource, hargument, ?_⟩
      rw [closingAfter?_congr (atBoundary_after_call hlast previous), hclosing]
  | case3 previous c tail hprefix after hn ih =>
    intro h
    cases before with
    | nil => cases h
    | cons first before =>
      rw [List.cons_append, List.cons_eq_cons] at h
      obtain ⟨rfl, htail⟩ := h
      obtain ⟨after', n', hsource, hargument, hclosing⟩ := ih before htail
      refine ⟨after', n', hsource, hargument, ?_⟩
      rw [getLast?_after_plain callee.name_ne, hclosing]
  | case4 previous c tail hprefix ih =>
    intro h
    cases before with
    | nil => cases h
    | cons first before =>
      rw [List.cons_append, List.cons_eq_cons] at h
      obtain ⟨rfl, htail⟩ := h
      obtain ⟨after', n', hsource, hargument, hclosing⟩ := ih before htail
      refine ⟨after', n', hsource, hargument, ?_⟩
      rw [getLast?_after_plain (List.cons_ne_nil c [])]
      exact hclosing

/-- A call whose icon is unknown is a closed call of the new text. -/
lemma exists_call_of_missing {entry : Entry} {icons : IconSet} {text : String}
    (hscan : entry.callee.scan = .balanced)
    (h : .unknownIcon identifier ∈ (entry.replaceCalls icons text).findings) :
    ∃ call, IsClosedCall entry.callee.name (entry.replaceCalls icons text).text call ∧
      call.identifier = identifier := by
  rw [replaceCalls_eq, Callee.segments, hscan] at h ⊢
  obtain ⟨before, source, argument, rest, hsegments, hnamed, htext⟩ := exists_call_of_unknownIcon h
  obtain ⟨after, n, rfl, rfl, hclosing⟩ :=
    closingAfter?_of_balancedFrom (codeOf entry icons) _ _ _ before hsegments
  rw [Option.or_none] at hclosing
  have hcall := isClosedCall_of_take entry.callee.name hclosing
    (outcomeOf (codeOf entry icons) rest).text
  rw [← htext] at hcall
  exact ⟨_, hcall, hnamed⟩

end Calls

section Entries

variable {acquired : List Acquired} {blocks : List (List Finding)}
  {code final identifier left : String} {entry : Entry} {after : List Acquired} {call : Call}

lemma Misses.mem (h : Misses code acquired identifier entry left after call) :
    ∃ icons, (entry, .ok icons) ∈ acquired := by
  obtain ⟨before, icons, earlier, given, rfl, -⟩ := h.here
  exact ⟨icons, by simp⟩

lemma Misses.skipped (h : Misses code acquired identifier entry left after call) (other : Entry)
    (e : Failure) :
    Misses code ((other, .error e) :: acquired) identifier entry left after call := by
  obtain ⟨⟨before, icons, earlier, given, rfl, hbefore, hrest⟩, hclosed, hnames⟩ := h
  exact ⟨⟨(other, .error e) :: before, icons, _, given, rfl, .skipped hbefore, hrest⟩, hclosed,
    hnames⟩

lemma Misses.rewritten {other : Entry} {icons : IconSet}
    (h : Misses (String.ofList (other.replaceCalls icons code).text) acquired identifier entry left
      after call) :
    Misses code ((other, .ok icons) :: acquired) identifier entry left after call := by
  obtain ⟨⟨before, found, earlier, given, rfl, hbefore, hrest⟩, hclosed, hnames⟩ := h
  exact ⟨⟨(other, .ok icons) :: before, found, _, given, rfl, .rewritten hbefore, hrest⟩, hclosed,
    hnames⟩

lemma Rewrites.misses (h : Rewrites code acquired blocks final)
    (hlooks : ∀ a ∈ acquired, LooksFor .balanced a.1)
    (hmissing : .unknownIcon identifier ∈ blocks.flatten) :
    ∃ entry left after call, Misses code acquired identifier entry left after call ∧
      (Stays entry.callee.name left call after final ∨
        Loses entry.callee.name left call after) := by
  induction h with
  | done => cases hmissing
  | @skipped text final entry e rest blocks more ih =>
    rw [List.flatten_cons, List.singleton_append, List.mem_cons] at hmissing
    obtain ⟨missed, left, after, call, hmisses, hfate⟩ :=
      ih (List.forall_mem_cons.mp hlooks).2 (hmissing.resolve_left nofun)
    exact ⟨missed, left, after, call, hmisses.skipped entry e, hfate⟩
  | @rewritten text final entry icons rest blocks more ih =>
    obtain ⟨hfirst, hrest⟩ := List.forall_mem_cons.mp hlooks
    rw [List.flatten_cons, List.mem_append] at hmissing
    rcases hmissing with hhere | hlater
    · obtain ⟨call, hcall, hnamed⟩ := exists_call_of_missing hfirst.1 hhere
      have hleft : IsClosedCall entry.callee.name
          (String.ofList (entry.replaceCalls icons text).text).toList call := by
        rwa [String.toList_ofList]
      refine ⟨entry, _, rest, call,
        ⟨⟨[], icons, [], text, rfl, .done, hhere, rfl⟩, hleft, hnamed⟩, ?_⟩
      rcases more.passes_or_loses (fun a ha => (hrest a ha).1) (fun a ha => (hrest a ha).2) hleft
        with ⟨last, hpasses⟩ | hloses
      · obtain ⟨hclosed, hargument⟩ := hpasses.isClosedCall hleft
        exact Or.inl ⟨last, hpasses, hclosed, by rw [Call.identifier, hargument, Call.identifier]⟩
      · exact Or.inr hloses
    · obtain ⟨missed, left, after, call, hmisses, hfate⟩ := ih hrest hlater
      exact ⟨missed, left, after, call, hmisses.rewritten, hfate⟩

lemma mem_missingIcons_iff {findings : List Finding} :
    identifier ∈ missingIcons findings ↔ .unknownIcon identifier ∈ findings := by
  rw [missingIcons, List.mem_filterMap]
  constructor
  · rintro ⟨finding, hmem, hmissing⟩
    cases finding with
    | unknownIcon =>
      cases hmissing
      exact hmem
    | _ => cases hmissing
  · intro hmem
    exact ⟨_, hmem, rfl⟩

lemma exists_followsMissing (hlooks : ∀ a ∈ acquired, LooksFor .balanced a.1) (e : Inliner)
    (id code : String) :
    ∃ blocks embedded,
      FollowsMissing code acquired (e.report id code acquired).1.missing blocks embedded := by
  obtain ⟨-, ⟨blocks, embedded, failed, hrewrites, -, hfindings, hfailed, -⟩, -⟩ :=
    report_tells e id code acquired
  have hmissing : (e.report id code acquired).1.missing = missingIcons blocks.flatten := by
    rw [Report.missing, hfindings, missingIcons, List.filterMap_append]
    rcases hfailed with rfl | rfl
    · exact List.append_nil _
    · exact List.append_nil _
  have hfollows : ∀ identifier ∈ (e.report id code acquired).1.missing, ∃ entry left after call,
      Misses code acquired identifier entry left after call ∧
        (Stays entry.callee.name left call after embedded ∨
          Loses entry.callee.name left call after) := by
    intro identifier hidentifier
    rw [hmissing, mem_missingIcons_iff] at hidentifier
    exact hrewrites.misses hlooks hidentifier
  refine ⟨blocks, embedded, hrewrites, hmissing, hfollows, ?_⟩
  intro hnone identifier hidentifier
  obtain ⟨entry, left, after, call, hmisses, ⟨last, -, hlast, -⟩ | hloses⟩ :=
    hfollows identifier hidentifier
  · obtain ⟨icons, hmem⟩ := hmisses.mem
    exact absurd hlast.closed (hnone _ hmem _ _)
  · exact ⟨entry, left, after, call, hmisses, hloses⟩

end Entries

/-- Where calls are delimited by balanced parentheses, each icon that is reported as missing is
named by a call that its entry left in the text, closed as it was. This call is followed through the
entries behind that one: it is in the final text, byte for byte and closed, or one of them replaces
a call that meets it. A check of the module alone fails just if an icon is reported as missing. -/
theorem missing_call_stays_or_lost {options : Options} {e : Inliner}
    (hbuilt : inlinerOf options = .ok e) (hscan : options.scan = .balanced) :
    (∀ id code acquired, acquired.map Prod.fst = e.entries → ∃ blocks embedded,
      FollowsMissing code acquired (e.report id code acquired).1.missing blocks embedded) ∧
    ∀ w arguments file code, ChecksModule w arguments options e file code →
      ((run Workspace.terminal arguments).run w).1 =
        checkExit (e.report file.text code (e.entries.map fun entry =>
          (entry, datasetIn w.tree options.datasetRoot entry.dataset))).1.missing := by
  constructor
  · intro id code acquired hacquired
    refine exists_followsMissing ?_ e id code
    intro a ha
    have hentry : a.1 ∈ e.entries := hacquired ▸ List.mem_map_of_mem ha
    exact hscan ▸ (built_of_inlinerOf hbuilt).2 a.1 hentry
  · intro w arguments file code hchecks
    exact hchecks.exit_eq hbuilt

/-! ## Two entries of one name -/

/-- Two targets of one function name, each with a dataset of its own. -/
def sharedNameTargets : List TargetConfig :=
  [⟨some "a", some "x", some { name := some "icon" }⟩,
    ⟨some "b", some "x", some { name := some "icon" }⟩]

/-- A workspace with a configuration for these targets, their datasets, and a module with a call of
an icon that only the second dataset has. -/
def sharedNameWorkspace : Workspace where
  tree :=
    { files :=
        [(["c.json".toList], .text ("\x7b\"targets\":["
            ++ "\x7b\"package\":\"a\",\"binding\":\"x\","
            ++ "\"extractor\":\x7b\"name\":\"icon\"\x7d\x7d,"
            ++ "\x7b\"package\":\"b\",\"binding\":\"x\","
            ++ "\"extractor\":\x7b\"name\":\"icon\"\x7d\x7d]\x7d")),
          (["icons".toList, "a.json".toList],
            .text "\x7b\"x\":\x7b\"faAt\":\x7b\"icon\":[1,1,[],\"f1fa\",\"M0\"]\x7d\x7d\x7d"),
          (["icons".toList, "b.json".toList],
            .text "\x7b\"x\":\x7b\"faClock\":\x7b\"icon\":[1,1,[],\"f017\",\"M1\"]\x7d\x7d\x7d"),
          (["m.js".toList], .text "icon(faClock)")]
      directories := [["icons".toList]] }

def sharedNameArguments : List String := ["check", "m.js", "--config", "c.json"]

def sharedNameOptions : Options :=
  ({} : Overrides).apply { targets := some sharedNameTargets : Config }.toOptions

def sharedNameInliner : Inliner :=
  match inlinerOf sharedNameOptions with
  | .ok e => e
  | .error _ => ⟨sharedNameOptions, [], none, []⟩

lemma inlinerOf_sharedName : inlinerOf sharedNameOptions = .ok sharedNameInliner := by
  have hbuilt : (inlinerOf sharedNameOptions).toOption.isSome = true := by decide +kernel
  unfold sharedNameInliner
  cases hinliner : inlinerOf sharedNameOptions with
  | ok e => rfl
  | error failure =>
    rw [hinliner] at hbuilt
    cases hbuilt

/-- What becomes of the datasets of both entries. -/
def sharedNameAcquired : List Acquired :=
  sharedNameInliner.entries.map fun entry =>
    (entry, datasetIn sharedNameWorkspace.tree sharedNameOptions.datasetRoot entry.dataset)

lemma checksModule_sharedName :
    ChecksModule sharedNameWorkspace sharedNameArguments sharedNameOptions sharedNameInliner
      (.ofString "m.js") "icon(faClock)" := by
  have hreads : Invocation.ofArguments sharedNameArguments =
      .ok ⟨some "c.json", 0, some (.check ⟨"m.js", false, false⟩, {})⟩ := by decide +kernel
  have hloads : ∀ entry ∈ sharedNameInliner.entries,
      (datasetIn sharedNameWorkspace.tree sharedNameOptions.datasetRoot
        entry.dataset).toOption.isSome = true := by decide +kernel
  refine ⟨⟨⟨"m.js", false, false⟩, .mk hreads rfl (by decide +kernel), rfl⟩, by decide +kernel,
    by decide +kernel, by decide +kernel, ?_⟩
  intro entry hentry
  have hloaded := hloads entry hentry
  cases hdataset : datasetIn sharedNameWorkspace.tree sharedNameOptions.datasetRoot
      entry.dataset with
  | ok icons => exact ⟨icons, rfl⟩
  | error e =>
    rw [hdataset] at hloaded
    cases hloaded

/-- The call that the first entry missed is gone, and no other one is there; but its icon is
reported as missing, and the check fails. -/
theorem missing_without_call :
    inlinerOf sharedNameOptions = .ok sharedNameInliner ∧ sharedNameOptions.scan = .balanced ∧
      ChecksModule sharedNameWorkspace sharedNameArguments sharedNameOptions sharedNameInliner
        (.ofString "m.js") "icon(faClock)" ∧
      (∃ blocks embedded, Rewrites "icon(faClock)" sharedNameAcquired blocks embedded ∧
        ∀ a ∈ sharedNameAcquired, ∀ start close,
          ¬ClosedAt a.1.callee.name embedded.toList start close) ∧
      (sharedNameInliner.report "m.js" "icon(faClock)" sharedNameAcquired).1.missing =
        ["faClock"] ∧
      ((run Workspace.terminal sharedNameArguments).run sharedNameWorkspace).1 =
        .failure (.config "some icons could not be resolved") := by
  refine ⟨inlinerOf_sharedName, rfl, checksModule_sharedName, ?_, by decide +kernel,
    by decide +kernel⟩
  obtain ⟨blocks, embedded, hrewrites, hfold⟩ :=
    exists_rewrites_foldl sharedNameAcquired { moduleId := "m.js", text := "icon(faClock)" }
  refine ⟨blocks, embedded, hrewrites, ?_⟩
  rintro a - start close ⟨⟨before, after, htext, -⟩, -⟩
  have hopen : '(' ∈ (sharedNameAcquired.foldl Report.embed
      { moduleId := "m.js", text := "icon(faClock)" }).text.toList := by
    rw [hfold]
    simp [htext]
  exact absurd hopen (by decide +kernel)

theorem missing_call_stays_or_lost_sharedName :
    inlinerOf sharedNameOptions = .ok sharedNameInliner ∧ sharedNameOptions.scan = .balanced ∧
      (∃ blocks embedded, FollowsMissing "icon(faClock)" sharedNameAcquired
        (sharedNameInliner.report "m.js" "icon(faClock)" sharedNameAcquired).1.missing blocks
        embedded) ∧
      ((run Workspace.terminal sharedNameArguments).run sharedNameWorkspace).1 =
        checkExit
          (sharedNameInliner.report "m.js" "icon(faClock)" sharedNameAcquired).1.missing := by
  obtain ⟨hfollows, hchecks⟩ := missing_call_stays_or_lost inlinerOf_sharedName rfl
  have hfst : sharedNameAcquired.map Prod.fst = sharedNameInliner.entries := by
    rw [sharedNameAcquired, List.map_map, Function.comp_def, List.map_id']
  exact ⟨inlinerOf_sharedName, rfl, hfollows "m.js" "icon(faClock)" sharedNameAcquired hfst,
    hchecks sharedNameWorkspace sharedNameArguments _ _ checksModule_sharedName⟩

end IconInline.Proofs
