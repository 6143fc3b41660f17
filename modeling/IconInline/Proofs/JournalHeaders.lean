import IconInline.Proofs.Embedding
import IconInline.Proofs.LiteralGrammar
import IconInline.Proofs.RunCalls
import IconInline.Script.Gap

/-!
# Headers in the journal

In the journal a module stands behind a header: the name of its file and, if the inliner is verbose,
one note for each finding. A note begins as a comment, and it stays one just if everything that it
tells does so behind each of its line ends. Line feeds never come from a literal, but an icon's name
may have some where parentheses delimit the calls.
-/

namespace IconInline.Proofs
open CallSite Text

/-- Which characters end a line: the line feed, and of the other line ends of a script any. -/
structure LineEnds where
  ends : Char → Bool
  feed : ends '\n' = true
  only : ∀ c, ends c = true → Script.isLineEnd c = true

def feedLines : LineEnds := ⟨(· == '\n'), rfl, by simp [Script.isLineEnd]⟩

abbrev IsComment (line : List Char) : Prop := ['/', '/'] <+: line

/-- A text that a comment may hold: each of its line ends is followed by a new comment. -/
def Continues (lines : LineEnds) (cs : List Char) : Prop :=
  ∀ c after, c :: after <:+ cs → lines.ends c = true → IsComment after

/-- What a finding tells besides the words of its own. -/
def told : Finding → List String
  | .replaced identifier literal => [identifier, abbreviate literal]
  | .unknownIcon identifier => [identifier]
  | .unknownStrategy name strategy => [name, strategy]
  | .datasetMissing dataset message => [dataset, message]
  | .nothingIncluded => []
  | .malformedModule moduleId => [moduleId]

def identifier? : Finding → Option String
  | .replaced identifier _ | .unknownIcon identifier => some identifier
  | _ => none

/-- What stands in the journal in front of a module's text, without the line feeds. -/
def notes (report : Report) (verbose : Bool) : List String :=
  ("// File: " ++ report.moduleId) ::
    if verbose then report.findings.map fun finding => "//" ++ finding.display else []

def header (report : Report) (verbose : Bool) : String :=
  String.join ((notes report verbose).map (· ++ "\n"))

/-- The lines of a header. Its last line feed begins none. -/
def headerLines (lines : LineEnds) (report : Report) (verbose : Bool) : List (List Char) :=
  ((header report verbose).toList.splitOnP lines.ends).dropLast

section Lines

variable {lines : LineEnds} {as bs cs : List Char} {c : Char}

lemma LineEnds.ends_eq_false (lines : LineEnds) (h : Script.isLineEnd c = false) :
    lines.ends c = false := by
  by_contra hends
  rw [Bool.not_eq_false] at hends
  rw [lines.only c hends] at h
  cases h

lemma continues_nil (lines : LineEnds) : Continues lines [] := by
  intro c after hsuffix
  simp at hsuffix

lemma continues_cons :
    Continues lines (c :: cs) ↔ (lines.ends c = true → IsComment cs) ∧ Continues lines cs := by
  constructor
  · intro h
    exact ⟨h c cs List.suffix_rfl,
      fun d after hsuffix => h d after (hsuffix.trans (List.suffix_cons c cs))⟩
  · rintro ⟨hfirst, hlater⟩ d after hsuffix
    rcases List.suffix_cons_iff.mp hsuffix with heq | hsuffix
    · cases heq
      exact hfirst
    · exact hlater d after hsuffix

lemma continues_of_plain (h : ∀ c ∈ cs, lines.ends c = false) : Continues lines cs := by
  intro c after hsuffix hends
  rw [h c (hsuffix.subset List.mem_cons_self)] at hends
  cases hends

lemma isComment_append (hslash : bs.head? ≠ some '/') : IsComment (as ++ bs) ↔ IsComment as := by
  -- Only a slash at the front of `bs` could complete a comment that `as` does not hold.
  have hfirst (rest : List Char) : bs ≠ '/' :: rest := by
    rintro rfl
    exact hslash rfl
  constructor
  · rintro ⟨after, hafter⟩
    match as, hafter with
    | [], hafter => exact absurd hafter.symm (hfirst _)
    | [a], hafter => exact absurd (List.cons_eq_cons.mp hafter).2.symm (hfirst _)
    | a :: b :: as, hafter =>
      simp only [List.cons_append, List.cons.injEq] at hafter
      obtain ⟨rfl, rfl, -⟩ := hafter
      exact ⟨as, rfl⟩
  · exact fun h => h.trans (List.prefix_append as bs)

lemma continues_append (hslash : bs.head? ≠ some '/') :
    Continues lines (as ++ bs) ↔ Continues lines as ∧ Continues lines bs := by
  induction as with
  | nil => simp [continues_nil]
  | cons a as ih =>
    rw [List.cons_append, continues_cons, continues_cons, ih, isComment_append hslash, and_assoc]

lemma exists_splitOnP_eq (p : Char → Bool) (cs : List Char) :
    ∃ more, cs.splitOnP p = cs.takeWhile (!p ·) :: more := by
  induction cs with
  | nil => exact ⟨[], rfl⟩
  | cons c rest ih =>
    obtain ⟨more, hrest⟩ := ih
    rw [List.splitOnP_cons_eq_if_modifyHead]
    cases hc : p c with
    | true => exact ⟨rest.splitOnP p, by simp [hc]⟩
    | false => exact ⟨more, by simp [hrest, hc]⟩

lemma isComment_takeWhile (lines : LineEnds) :
    IsComment (cs.takeWhile (!lines.ends ·)) ↔ IsComment cs := by
  constructor
  · exact fun h => h.trans (List.takeWhile_prefix _)
  · rintro ⟨after, rfl⟩
    have hslash : lines.ends '/' = false := lines.ends_eq_false (by decide)
    simp [IsComment, hslash]

lemma forall_mem_tail_isComment :
    (∀ line ∈ (cs.splitOnP lines.ends).tail, IsComment line) ↔ Continues lines cs := by
  induction cs with
  | nil => simp [continues_nil]
  | cons c rest ih =>
    -- Where `c` ends a line, the first piece of `rest` is one of the lines behind it.
    obtain ⟨more, hrest⟩ := exists_splitOnP_eq lines.ends rest
    rw [hrest, List.tail_cons] at ih
    rw [List.splitOnP_cons_eq_if_modifyHead, continues_cons, hrest, ← ih]
    cases hc : lines.ends c with
    | true => simp [isComment_takeWhile]
    | false => simp

/-- The lines of a text are comments if the first is one and the text goes on as a comment. -/
lemma forall_mem_splitOnP_isComment :
    (∀ line ∈ cs.splitOnP lines.ends, IsComment line) ↔ IsComment cs ∧ Continues lines cs := by
  obtain ⟨more, hsplit⟩ := exists_splitOnP_eq lines.ends cs
  rw [← forall_mem_tail_isComment, hsplit, List.forall_mem_cons, isComment_takeWhile,
    List.tail_cons]

end Lines

section Findings

variable {lines : LineEnds} {words as bs cs : List Char} {c : Char}

lemma continues_words_append (hwords : words.all (!Script.isLineEnd ·) = true) :
    Continues lines (words ++ bs) ↔ Continues lines bs := by
  induction words with
  | nil => rfl
  | cons c words ih =>
    rw [List.all_cons, Bool.and_eq_true, Bool.not_eq_true'] at hwords
    rw [List.cons_append, continues_cons, ih hwords.2, lines.ends_eq_false hwords.1]
    simp

/-- The words of a finding keep the texts apart that it tells. -/
lemma continues_between (hwords : words.all (!Script.isLineEnd ·) = true)
    (hhead : words.head?.any (· != '/') = true) :
    Continues lines (as ++ (words ++ bs)) ↔ Continues lines as ∧ Continues lines bs := by
  have hslash : (words ++ bs).head? ≠ some '/' := by
    cases words with
    | nil => cases hhead
    | cons c words => simpa using hhead
  rw [continues_append hslash, continues_words_append hwords]

lemma continues_append_words (hwords : words.all (!Script.isLineEnd ·) = true)
    (hhead : words.head?.any (· != '/') = true) :
    Continues lines (as ++ words) ↔ Continues lines as := by
  have hbetween : Continues lines (as ++ (words ++ [])) ↔
      Continues lines as ∧ Continues lines [] := continues_between hwords hhead
  rwa [List.append_nil, and_iff_left (continues_nil lines)] at hbetween

lemma continues_display (lines : LineEnds) (finding : Finding) :
    Continues lines finding.display.toList ↔
      ∀ text ∈ told finding, Continues lines text.toList := by
  cases finding with
  | replaced identifier literal =>
    simp only [Finding.display, String.toList_append, told, List.append_assoc]
    rw [continues_words_append (by decide), continues_between (by decide) (by decide)]
    simp
  | unknownIcon identifier =>
    simp only [Finding.display, String.toList_append, told, List.append_assoc]
    rw [continues_words_append (by decide), continues_append_words (by decide) (by decide)]
    simp
  | unknownStrategy name strategy =>
    simp only [Finding.display, String.toList_append, told, List.append_assoc]
    rw [continues_words_append (by decide), continues_between (by decide) (by decide),
      continues_append_words (by decide) (by decide)]
    simp
  | datasetMissing dataset message =>
    simp only [Finding.display, String.toList_append, told, List.append_assoc]
    rw [continues_words_append (by decide), continues_between (by decide) (by decide)]
    simp
  | nothingIncluded =>
    have hwords : Continues lines ([] ++ Finding.nothingIncluded.display.toList) :=
      (continues_append_words (by decide) (by decide)).mpr (continues_nil lines)
    simpa [told] using hwords
  | malformedModule moduleId =>
    simp only [Finding.display, String.toList_append, told]
    rw [continues_append_words (by decide) (by decide)]
    simp

end Findings

section Headers

variable {lines : LineEnds} {report : Report} {verbose : Bool}

lemma journalEntry_eq (report : Report) (verbose : Bool) :
    report.journalEntry verbose = "\n" ++ header report verbose ++ report.text := by
  have hfile : "\n// File: " = "\n" ++ "// File: " := by decide
  have hnotes : String.join ((if verbose then
      report.findings.map fun finding => "//" ++ finding.display else []).map (· ++ "\n")) =
      if verbose then String.join (report.findings.map fun finding =>
        "//" ++ finding.display ++ "\n") else "" := by
    cases verbose with
    | true => exact congrArg String.join (List.map_map ..)
    | false => rfl
  rw [Report.journalEntry, header, notes, List.map_cons, String.join_cons, hnotes, hfile]
  ac_rfl

lemma splitOnP_join (lines : LineEnds) (texts : List String) :
    (String.join (texts.map (· ++ "\n"))).toList.splitOnP lines.ends =
      (texts.flatMap fun text => text.toList.splitOnP lines.ends) ++ [[]] := by
  induction texts with
  | nil => simp
  | cons text rest ih =>
    have hfeed : "\n".toList = ['\n'] := by decide
    rw [List.map_cons, String.join_cons, String.toList_append, String.toList_append,
      List.append_assoc, hfeed, List.singleton_append, List.splitOnP_append_cons _ _ lines.feed, ih]
    simp

lemma headerLines_eq (lines : LineEnds) (report : Report) (verbose : Bool) :
    headerLines lines report verbose =
      (notes report verbose).flatMap fun note => note.toList.splitOnP lines.ends := by
  rw [headerLines, header, splitOnP_join, List.dropLast_concat]

/-- The lines of a header are comments just if its findings go on as such. -/
lemma headerLines_isComment_iff (hid : ∀ c ∈ report.moduleId.toList, lines.ends c = false) :
    (∀ line ∈ headerLines lines report verbose, IsComment line) ↔
      (verbose = true → ∀ finding ∈ report.findings, ∀ text ∈ told finding,
        Continues lines text.toList) := by
  have hfile : ∀ line ∈ ("// File: " ++ report.moduleId).toList.splitOnP lines.ends,
      IsComment line := by
    rw [forall_mem_splitOnP_isComment, String.toList_append, continues_words_append (by decide)]
    exact ⟨⟨_, rfl⟩, continues_of_plain hid⟩
  have hnote (finding : Finding) :
      (∀ line ∈ ("//" ++ finding.display).toList.splitOnP lines.ends, IsComment line) ↔
        ∀ text ∈ told finding, Continues lines text.toList := by
    rw [forall_mem_splitOnP_isComment, String.toList_append, continues_words_append (by decide),
      continues_display]
    exact and_iff_right ⟨_, rfl⟩
  rw [headerLines_eq, List.forall_mem_flatMap, notes, List.forall_mem_cons,
    and_iff_right hfile]
  cases verbose with
  | true =>
    rw [if_pos rfl, List.forall_mem_map]
    simp only [hnote, forall_const]
  | false => simp

end Headers

section Told

variable {lines : LineEnds} {entry : Entry} {icons : IconSet} {acquired : List Acquired}
  {given text : String} {finding : Finding}

/-- A line ends in a text at a separator of lines or paragraphs. -/
def HasSeparator (lines : LineEnds) (text : String) : Prop :=
  ∃ c ∈ text.toList, lines.ends c = true ∧ (c = '\u2028' ∨ c = '\u2029')

/-- What a finding tells of a call and may not go on as a comment: the name of an icon where
parentheses delimit the calls, and a literal with a separator. -/
def MayBreak (lines : LineEnds) (acquired : List Acquired) (finding : Finding) (text : String) :
    Prop :=
  (identifier? finding = some text ∧ ∃ a ∈ acquired, a.1.callee.scan = .balanced) ∨
    ∃ identifier literal, finding = .replaced identifier literal ∧ text = abbreviate literal ∧
      HasSeparator lines literal

lemma isBlank_of_isLineEnd {c : Char} (h : Script.isLineEnd c = true) : isBlank c = true := by
  simp only [Script.isLineEnd, Bool.or_eq_true, beq_iff_eq] at h
  rcases h with ((rfl | rfl) | rfl) | rfl
  · decide
  · decide
  · decide
  · decide

lemma LineEnds.ends_eq_false_of_isBlank {c : Char} (lines : LineEnds) (h : isBlank c = false) :
    lines.ends c = false := by
  apply lines.ends_eq_false
  by_contra hend
  rw [Bool.not_eq_false] at hend
  rw [isBlank_of_isLineEnd hend] at h
  cases h

lemma continues_namedIcon (hscan : entry.callee.scan = .unbroken) {source argument : List Char}
    (hcall : .call source argument ∈ entry.callee.segments given.toList) :
    Continues lines (namedIcon argument) := by
  rw [Callee.segments, hscan] at hcall
  apply continues_of_plain
  intro c hc
  exact lines.ends_eq_false_of_isBlank
    (isBlank_eq_false_of_mem_runsFrom entry.callee _ hcall c (namedIcon_subset argument hc))

lemma continues_literal (icon : IconCode) (hseparator : ¬HasSeparator lines icon.literal) :
    Continues lines (abbreviate icon.literal).toList := by
  obtain ⟨hfeed, hreturn⟩ := not_mem_literal icon
  apply continues_of_plain
  intro c hc
  rcases mem_or_eq_of_mem_abbreviate hc with hmem | rfl
  · by_contra hends
    rw [Bool.not_eq_false] at hends
    have hline := lines.only c hends
    simp only [Script.isLineEnd, Bool.or_eq_true, beq_iff_eq] at hline
    rcases hline with ((rfl | rfl) | rfl) | rfl
    · exact hfeed hmem
    · exact hreturn hmem
    · exact hseparator ⟨_, hmem, hends, Or.inl rfl⟩
    · exact hseparator ⟨_, hmem, hends, Or.inr rfl⟩
  · exact lines.ends_eq_false (by decide)

lemma continues_or_mayBreak_of_call (hmem : (entry, .ok icons) ∈ acquired)
    (hfinding : finding ∈ (entry.replaceCalls icons given).findings) (htext : text ∈ told finding) :
    Continues lines text.toList ∨ MayBreak lines acquired finding text := by
  rw [replaceCalls_eq] at hfinding
  obtain ⟨source, argument, hcall, hkind⟩ := exists_call_of_finding hfinding
  have hname : Continues lines (namedIcon argument) ∨ entry.callee.scan = .balanced := by
    cases hscan : entry.callee.scan with
    | balanced => exact Or.inr rfl
    | unbroken => exact Or.inl (continues_namedIcon hscan hcall)
  have hidentifier (hid : identifier? finding = some (String.ofList (namedIcon argument))) :
      Continues lines (String.ofList (namedIcon argument)).toList ∨
        MayBreak lines acquired finding (String.ofList (namedIcon argument)) := by
    rcases hname with hcontinues | hscan
    · rw [String.toList_ofList]
      exact Or.inl hcontinues
    · exact Or.inr (Or.inl ⟨hid, (entry, .ok icons), hmem, hscan⟩)
  rcases hkind with rfl | ⟨icon, -, rfl⟩
  · rw [told, List.mem_singleton] at htext
    subst htext
    exact hidentifier rfl
  · rw [told, List.mem_cons, List.mem_singleton] at htext
    rcases htext with rfl | rfl
    · exact hidentifier rfl
    · by_cases hseparator : HasSeparator lines icon.literal
      · exact Or.inr (Or.inr ⟨_, _, rfl, rfl, hseparator⟩)
      · exact Or.inl (continues_literal icon hseparator)

/-- Where all datasets were loaded, only names and literals may break a note. -/
lemma continues_or_mayBreak {e : Inliner} {id code : String}
    (hid : ∀ c ∈ id.toList, lines.ends c = false)
    (hloaded : ∀ a ∈ acquired, ∃ icons, a.2 = .ok icons)
    (hfinding : finding ∈ (e.report id code acquired).1.findings) (htext : text ∈ told finding) :
    Continues lines text.toList ∨ MayBreak lines acquired finding text := by
  obtain ⟨-, ⟨blocks, embedded, failed, hrewrites, -, hfindings, hfailed, -⟩, -⟩ :=
    report_tells e id code acquired
  rw [hfindings, List.mem_append] at hfinding
  rcases hfinding with hblock | hlast
  · rcases hrewrites.exists_of_mem hblock with
      ⟨entry, failure, hmem, -⟩ | ⟨entry, icons, given, hmem, hcall⟩
    · obtain ⟨icons, hicons⟩ := hloaded _ hmem
      cases hicons
    · exact continues_or_mayBreak_of_call hmem hcall htext
  · rcases hfailed with rfl | rfl
    · cases hlast
    · rw [List.mem_singleton] at hlast
      subst hlast
      rw [told, List.mem_singleton] at htext
      subst htext
      exact Or.inl (continues_of_plain hid)

end Told

/-- How the journal sets a header before a module's text, and which of its lines are comments. -/
structure Heads (lines : LineEnds) (acquired : List Acquired) (report : Report) (verbose : Bool) :
    Prop where
  entry_eq : report.journalEntry verbose = "\n" ++ header report verbose ++ report.text
  isComment_iff : (∀ line ∈ headerLines lines report verbose, IsComment line) ↔
    (verbose = true → ∀ finding ∈ report.findings, ∀ text ∈ told finding,
      Continues lines text.toList)
  breaks : ∀ finding ∈ report.findings, ∀ text ∈ told finding,
    ¬Continues lines text.toList → MayBreak lines acquired finding text
  unbroken : (∀ a ∈ acquired, a.1.callee.scan = .unbroken) →
    (∀ c, lines.ends c = true → c = '\n' ∨ c = '\r') →
      ∀ line ∈ headerLines lines report verbose, IsComment line

/-- Where all datasets are loaded and the path of the module is a single line, the journal keeps the
text of the module behind a header. The lines of the header are comments, unless the inliner is
verbose and a finding tells a text that does not go on as a comment behind a line end: the name of
an icon where parentheses delimit the calls, or a literal with a separator of lines or paragraphs.
-/
theorem report_heads (lines : LineEnds) (e : Inliner) (id code : String) (verbose : Bool)
    (hid : ∀ c ∈ id.toList, lines.ends c = false) {acquired : List Acquired}
    (hloaded : ∀ a ∈ acquired, ∃ icons, a.2 = .ok icons) :
    Heads lines acquired (e.report id code acquired).1 verbose := by
  have hmodule : ∀ c ∈ (e.report id code acquired).1.moduleId.toList, lines.ends c = false := by
    rwa [(report_tells e id code acquired).moduleId_eq]
  refine ⟨journalEntry_eq _ verbose, headerLines_isComment_iff hmodule, ?_, ?_⟩
  · intro finding hfinding text htext hbreaks
    exact (continues_or_mayBreak hid hloaded hfinding htext).resolve_left hbreaks
  · intro hscan hends
    rw [headerLines_isComment_iff hmodule]
    intro _ finding hfinding text htext
    refine (continues_or_mayBreak hid hloaded hfinding htext).resolve_right ?_
    rintro (⟨-, a, ha, hbalanced⟩ | ⟨_, _, -, -, c, -, hc, hseparator⟩)
    · rw [hscan a ha] at hbalanced
      cases hbalanced
    · rcases hends c hc with rfl | rfl
      · revert hseparator
        decide
      · revert hseparator
        decide

/-- An entry with one icon, whose calls are delimited by parentheses. -/
def pickedIcons : List Acquired :=
  [(⟨⟨"solid", "fas"⟩, "helper", .standard, iconCallee⟩, .ok [("faAt", .plain 1 1 "M0")])]

def pickingInliner : Inliner where
  options := { verbose := true, dropsImports := false }
  entries := pickedIcons.map Prod.fst
  filter := some ⟨[[.leadingDirs]]⟩
  setup := []

theorem header_not_comments :
    pickingInliner.admits "/icons.js" = true ∧ pickingInliner.options.verbose = true ∧
      (∀ c ∈ "/icons.js".toList, feedLines.ends c = false) ∧
      (∀ a ∈ pickedIcons, ∃ icons, a.2 = .ok icons) ∧
      headerLines feedLines
        (pickingInliner.report "/icons.js" "icon(pick(\n  faAt\n))" pickedIcons).1 true =
        ["// File: /icons.js".toList, "// > pick(".toList, "  faAt".toList,
          ") -> Not found, not replaced.".toList] ∧
      ¬IsComment "  faAt".toList :=
  ⟨by decide, rfl, by simp [feedLines], by simp [pickedIcons], by decide +kernel, by decide⟩

theorem report_heads_pick :
    (∀ c ∈ "/icons.js".toList, feedLines.ends c = false) ∧
      (∀ a ∈ pickedIcons, ∃ icons, a.2 = .ok icons) ∧
      Heads feedLines pickedIcons
        (pickingInliner.report "/icons.js" "icon(pick(\n  faAt\n))" pickedIcons).1 true := by
  have hid : ∀ c ∈ "/icons.js".toList, feedLines.ends c = false := by simp [feedLines]
  have hloaded : ∀ a ∈ pickedIcons, ∃ icons, a.2 = .ok icons := by simp [pickedIcons]
  exact ⟨hid, hloaded, report_heads feedLines pickingInliner "/icons.js" _ true hid hloaded⟩

end IconInline.Proofs
