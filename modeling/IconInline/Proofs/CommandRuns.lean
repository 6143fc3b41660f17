import IconInline.Command.Run
import IconInline.Command.Workspace
import IconInline.Proofs.SteadyLoads

/-!
# Commands on a workspace

Before a command prints or writes, it only reads files and adds to the log. So what it has read by
then is determined by the tree of files: its configuration, its modules, and its datasets, which
load the same every time.
-/

namespace IconInline.Proofs
open Command

/-- A workspace with this tree and this output; its log and its clock may be any. -/
def Untouched (tree : FileTree) (output : String) (w : Workspace) : Prop :=
  w.tree = tree ∧ w.output = output

/-- What loading a dataset from a tree comes to. -/
def datasetIn (tree : FileTree) (directory : Path) (key : DatasetRef) : Except Failure IconSet :=
  let file := Dataset.file directory key.package
  match tree.read file with
  | .ok content => Dataset.read content key
  | .error fault => .error (.fileNotFound (file.text ++ ": " ++ fault.message))

/-- What reading the configuration of this name from a tree comes to. -/
def configIn (tree : FileTree) : Option String → Except Failure Config
  | none => .ok {}
  | some name =>
    match tree.read (.ofString name) with
    | .ok content => Config.read name content
    | .error fault => .error (.fileNotFound ("Config file " ++ name ++ ": " ++ fault.message))

/-- On a tree, arguments ask a command for something, and these are the options for it. -/
inductive Asks (tree : FileTree) (arguments : List String) : Request → Options → Prop where
  | mk {invocation : Invocation} {request : Request} {overrides : Overrides} {config : Config}
    (reads : Invocation.ofArguments arguments = .ok invocation)
    (asked : invocation.request = some (request, overrides))
    (configured : configIn tree invocation.config = .ok config) :
    Asks tree arguments request (overrides.apply config.toOptions)

/-- Does what a command is asked for. -/
def serve {m : Type → Type} [Monad m] (t : Terminal m) (options : Options) :
    Request → ExceptT Failure m Unit
  | .transform request => transform t options request
  | .check request => check t options request
  | .encode request => encode t options request

/-- How a command ends that has done what it was asked for, or failed to. -/
def exitOf : Except Failure Unit → Exit
  | .ok () => .success
  | .error e => .failure e

section Reading

variable {tree : FileTree} {output : String} {w : Workspace}

lemma untouched_self (w : Workspace) : Untouched w.tree w.output w := ⟨rfl, rfl⟩

lemma keeps_log (record : LogRecord) :
    Keeps (Untouched tree output) (Workspace.console.log record) fun _ => True :=
  fun _ hcalm => ⟨trivial, hcalm⟩

lemma keeps_read (file : Path) :
    Keeps (Untouched tree output) (Workspace.files.read file) (· = tree.read file) :=
  fun _ hcalm => ⟨congrArg (·.read file) hcalm.1, hcalm⟩

lemma Keeps.attempt {α : Type} {calm : Workspace → Prop}
    {operation : StateM Workspace (Except FileFault α)} {outcome : Except FileFault α → Prop}
    (h : Keeps calm operation outcome) :
    Yields calm (Command.attempt operation) fun a => outcome (.ok a) := by
  refine Keeps.bind h ?_
  intro done hdone
  cases done with
  | ok a => exact Yields.pure hdone
  | error fault => exact Yields.throw _

/-- The datasets of a workspace that is left as it is load the same every time. -/
lemma steady_terminal (tree : FileTree) (output : String) (directory : Path) :
    Steady (Workspace.terminal.host directory) (datasetIn tree directory)
      (Untouched tree output) := by
  refine ⟨?_, keeps_log⟩
  intro key
  refine (keeps_read (Dataset.file directory key.package)).bind ?_
  rintro content rfl
  rw [datasetIn]
  cases tree.read (Dataset.file directory key.package) with
  | ok content => exact Keeps.pure rfl
  | error fault => exact Keeps.pure rfl

lemma keeps_readConfig (name : Option String) :
    Keeps (Untouched tree output) (readConfig Workspace.terminal name).run
      (· = configIn tree name) := by
  cases name with
  | none => exact Keeps.pure rfl
  | some name =>
    refine (keeps_log _).bind_lift fun _ _ => (keeps_read (.ofString name)).bind_lift ?_
    rintro content rfl
    rw [configIn]
    cases tree.read (.ofString name) with
    | ok content => exact Keeps.pure rfl
    | error fault => exact Keeps.pure rfl

/-- Asking for something comes down to doing it, on a workspace with the same tree and output. -/
lemma Asks.run_eq {arguments : List String} {request : Request} {options : Options}
    (h : Asks w.tree arguments request options) :
    ∃ w', Untouched w.tree w.output w' ∧
      (run Workspace.terminal arguments).run w =
        let result := (serve Workspace.terminal options request).run.run w'
        (exitOf result.1, result.2) := by
  obtain @⟨invocation, _, overrides, config, hreads, hasked, hconfigured⟩ := h
  obtain ⟨hconfig, hsame⟩ := keeps_readConfig invocation.config w (untouched_self w)
  rw [hconfigured] at hconfig
  rcases hread : (readConfig Workspace.terminal invocation.config).run.run w with ⟨outcome, w'⟩
  rw [hread] at hconfig hsame
  obtain rfl : outcome = .ok config := hconfig
  refine ⟨w', hsame, ?_⟩
  have hperform : (perform Workspace.terminal invocation).run.run w =
      (serve Workspace.terminal (overrides.apply config.toOptions) request).run.run w' := by
    rw [perform, run_bind_ok hread, hasked]
    cases request <;> rfl
  rw [run, hreads]
  dsimp only
  rw [StateT.run_bind, hperform]
  rcases (serve Workspace.terminal (overrides.apply config.toOptions) request).run.run w'
    with ⟨result, last⟩
  cases result <;> rfl

lemma Asks.patterns_ne_nil {arguments : List String} {request : Request} {options : Options}
    (h : Asks tree arguments request options) : options.patterns ≠ [] := by
  cases h with
  | @mk invocation request overrides config =>
    rw [Overrides.apply]
    dsimp only
    generalize (if overrides.patterns.isEmpty then config.toOptions.patterns
      else overrides.patterns) = patterns
    cases patterns with
    | nil => exact List.cons_ne_nil _ _
    | cons pattern rest => exact List.cons_ne_nil _ _

end Reading

end IconInline.Proofs
