import IconInline.Proofs.CommandRuns
import IconInline.Proofs.TreePlaces

/-!
# Delivering transformed modules

Modules are delivered one after the other, each by the names that it has below the input. The text
of a report ends up where these names lead from the target, and every other file is as before.
-/

namespace IconInline.Proofs
open Command

/-- What transformed modules go below, unless they are printed. -/
def targetOf (request : TransformRequest) : Option Path :=
  match request.destination with
  | .output => none
  | .inPlace => some (.ofString request.input)
  | .directory directory => some directory

variable {w after : Workspace} {request : TransformRequest} {input target : Path}
  {names : Location} {results : List Reported}

lemma change_eq_of_attempt {f : FileTree → Except FileFault FileTree}
    (h : (attempt (Workspace.change f)).run.run w = (.ok (), after)) :
    f w.tree = .ok after.tree := by
  have hrun : (attempt (Workspace.change f)).run.run w =
      ((Workspace.change f w).1.mapError ioError, (Workspace.change f w).2) := rfl
  rw [hrun, Workspace.change] at h
  cases hf : f w.tree with
  | ok tree =>
    rw [hf] at h
    cases h
    rfl
  | error fault =>
    rw [hf] at h
    cases h

lemma write_of_attempt {p : Path} {text : String}
    (h : (attempt (Workspace.terminal.files.write p text)).run.run w = (.ok (), after)) :
    w.tree.write p text = .ok after.tree :=
  change_eq_of_attempt (f := (·.write p text)) h

lemma createDirectories_of_attempt {p : Path}
    (h : (attempt (Workspace.terminal.files.createDirectories p)).run.run w = (.ok (), after)) :
    w.tree.createDirectories p = .ok after.tree :=
  change_eq_of_attempt (f := (·.createDirectories p)) h

lemma push_relativeTarget (hne : names ≠ []) (hnames : ∀ name ∈ names, IsName name) :
    target.push (relativeTarget input (under input names)).chars = under target names := by
  obtain ⟨first, rest, rfl⟩ := List.exists_cons_of_ne_nil hne
  have hrelative : relativeTarget input (under input (first :: rest)) =
      ⟨['/'].intercalate (first :: rest)⟩ := by
    rw [relativeTarget, below?_under hnames]
    exact ofComponents_names (first :: rest)
  rw [hrelative, push_intercalate hnames]

lemma puts_of_deliver {text : String} (htarget : targetOf request = some target)
    (hne : names ≠ []) (hnames : ∀ name ∈ names, IsName name)
    (h : (deliver Workspace.terminal request (under (.ofString request.input) names) text).run.run w
      = (.ok (), after)) :
    ∃ place, Puts (under target names) text place w.tree after.tree := by
  obtain ⟨hchars, hends⟩ := mustBeDirectory_under (p := target) hne hnames
  unfold deliver at h
  unfold targetOf at htarget
  cases hdestination : request.destination with
  | output =>
    rw [hdestination] at htarget
    cases htarget
  | inPlace =>
    rw [hdestination] at htarget h
    cases htarget
    dsimp only at h
    exact puts_of_write hchars hends (write_of_attempt h)
  | directory directory =>
    rw [hdestination] at htarget h
    cases htarget
    dsimp only at h
    rw [push_relativeTarget hne hnames] at h
    split at h
    · obtain ⟨⟨⟩, between, hparent, hwrite⟩ := exists_of_run_bind h
      obtain ⟨hgrown, hsame⟩ := extends_createDirectories (createDirectories_of_attempt hparent)
      obtain ⟨place, hputs⟩ := puts_of_write hchars hends (write_of_attempt hwrite)
      exact ⟨place, hgrown.puts hsame hputs⟩
    · exact puts_of_write hchars hends (write_of_attempt h)

/-- What is delivered by names from the target: the texts of reports on files below the input. -/
def Delivered (input : Path) (results : List Reported) (names : Location) (text : String) : Prop :=
  (∀ name ∈ names, IsName name) ∧ ∃ report, (under input names, some report) ∈ results ∧
    report.text = text

lemma delivered_cons {report : Report} (hnames : ∀ name ∈ names, IsName name) (n : Location)
    (text : String) :
    Delivered input ((under input names, some report) :: results) n text ↔
      n = names ∧ text = report.text ∨ Delivered input results n text := by
  constructor
  · rintro ⟨hn, found, hmem, rfl⟩
    rcases List.mem_cons.mp hmem with heq | hmem
    · obtain ⟨hunder, hfound⟩ := Prod.mk.inj heq
      exact Or.inl ⟨under_injective hn hnames hunder, congrArg _ (Option.some_inj.mp hfound)⟩
    · exact Or.inr ⟨hn, found, hmem, rfl⟩
  · rintro (⟨rfl, rfl⟩ | ⟨hn, found, hmem, rfl⟩)
    · exact ⟨hnames, report, List.mem_cons_self, rfl⟩
    · exact ⟨hn, found, List.mem_cons_of_mem _ hmem, rfl⟩

lemma putsAll_of_deliverAll (htarget : targetOf request = some target)
    (hnamed : ∀ done ∈ results, ∃ names, names ≠ [] ∧ (∀ name ∈ names, IsName name) ∧
      done.1 = under (.ofString request.input) names)
    (hsame : ∀ done ∈ results, ∀ other ∈ results, done.1 = other.1 → done.2 = other.2)
    (h : (deliverAll Workspace.terminal request results).run.run w = (.ok (), after)) :
    PutsAll target (Delivered (.ofString request.input) results) w.tree after.tree := by
  induction results generalizing w with
  | nil =>
    cases h
    refine ⟨.refl _, ?_, fun _ _ => rfl⟩
    rintro names text ⟨-, report, hmem, -⟩
    cases hmem
  | cons done rest ih =>
    obtain ⟨file, outcome⟩ := done
    obtain ⟨⟨names, hne, hnames, hfile⟩, hrest⟩ := List.forall_mem_cons.mp hnamed
    obtain rfl : file = under (.ofString request.input) names := hfile
    have hsame' : ∀ done ∈ rest, ∀ other ∈ rest, done.1 = other.1 → done.2 = other.2 :=
      fun done hdone other hother =>
        hsame done (List.mem_cons_of_mem _ hdone) other (List.mem_cons_of_mem _ hother)
    rw [deliverAll.eq_def] at h
    cases outcome with
    | none =>
      obtain ⟨⟨⟩, between, hlog, hmore⟩ := exists_of_run_bind h
      cases hlog
      refine (ih hrest hsame' hmore).congr fun n text => and_congr_right fun _ => ?_
      simp
    | some report =>
      obtain ⟨⟨⟩, between, hdeliver, hmore⟩ := exists_of_run_bind h
      obtain ⟨place, hputs⟩ := puts_of_deliver htarget hne hnames hdeliver
      have htwice : ∀ text, Delivered (.ofString request.input) rest names text →
          text = report.text := by
        rintro text ⟨-, again, hmem, rfl⟩
        have hreport := hsame _ List.mem_cons_self _ (List.mem_cons_of_mem _ hmem) rfl
        rw [Option.some_inj.mp hreport]
      have hall := hputs.putsAll hnames (fun _ _ hd => hd.1) htwice (ih hrest hsame' hmore)
      exact hall.congr (delivered_cons hnames)

end IconInline.Proofs
