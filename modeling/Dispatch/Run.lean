import Dispatch.CommandLine
import Dispatch.Markup.Compiler
import Dispatch.Personnel
import Dispatch.Renderer
import Dispatch.Settings

/-!
# A run

A run sets up everything first: the markup, the variables, the personnel and the directory for the
texts. If that fails nothing is rendered. Then each dispatch is rendered and written; one that
fails does not keep the others back. The engine for the templates and the readers of files are
given to the run.
-/

namespace Dispatch

open Markup (BuildError Passes SimpleFormatters Source)

/-! ## 1. Failures -/

/-- Why the markup or the variables could not be set up. -/
inductive SetupError where
  | build (error : BuildError)
  | render (error : RenderError)
  deriving DecidableEq, Repr

namespace SetupError

/-- The failure in one line. -/
def message : SetupError → String
  | .build error => error.message
  | .render error => error.message

/-- The failures behind this one. -/
def causes : SetupError → List String
  | .build error => error.causes
  | .render error => error.causes

/-- The failure with its structure written out. -/
def structured : SetupError → String
  | .build error => error.structured
  | .render error => error.structured

instance : Diagnostic SetupError := ⟨message, causes, structured⟩

end SetupError

/-- Why a run did not get to its dispatches. -/
inductive RunError where
  | markup (error : SetupError)
  | variables (error : SetupError)
  | personnel (error : SetupError)
  | directory (path : Path) (error : OsError)
  deriving DecidableEq, Repr

namespace RunError

/-- What the run was about, in one line. -/
def message : RunError → String
  | .markup _ => "failed to set up markup formatters"
  | .variables _ => "failed to load template variables"
  | .personnel _ => "failed to resolve personnel info"
  | .directory path _ => "failed to create output directory " ++ path.text

/-- What went wrong in the setup. -/
def setup? : RunError → Option SetupError
  | .markup error => some error
  | .variables error => some error
  | .personnel error => some error
  | .directory _ _ => none

/-- The failures behind this one. -/
def causes : RunError → List String
  | .markup error => error.message :: error.causes
  | .variables error => error.message :: error.causes
  | .personnel error => error.message :: error.causes
  | .directory _ error => [error.message]

/-- The failure with its structure written out. -/
def structured : RunError → String
  | .markup error => Diagnostic.wrapped "Markup" error.structured
  | .variables error => Diagnostic.wrapped "Variables" error.structured
  | .personnel error => Diagnostic.wrapped "Personnel" error.structured
  | .directory path error =>
    Diagnostic.record "Directory" [("path", path.quoted), ("source", error.structured)]

instance : Diagnostic RunError := ⟨message, causes, structured⟩

end RunError

/-- Why a dispatch was not rendered or written. -/
inductive DispatchError where
  | render (error : RenderError)
  | write (path : Path) (error : OsError)
  deriving DecidableEq, Repr

namespace DispatchError

/-- The failure in one line. -/
def message : DispatchError → String
  | .render error => error.message
  | .write path _ => "failed to write dispatch to " ++ path.text

/-- The failures behind this one. -/
def causes : DispatchError → List String
  | .render error => error.causes
  | .write _ error => [error.message]

/-- The failure with its structure written out. -/
def structured : DispatchError → String
  | .render error => error.structured
  | .write path error =>
    Diagnostic.record "Write" [("path", path.quoted), ("source", error.structured)]

instance : Diagnostic DispatchError := ⟨message, causes, structured⟩

end DispatchError

/-- What became of the dispatches of a run, each list in the order in which they were asked for. -/
structure Report where
  rendered : List String := []
  failed : List (String × DispatchError) := []
  deriving DecidableEq, Repr

/-- Whether no dispatch failed. -/
def Report.isSuccess (report : Report) : Bool := report.failed.isEmpty

/-! ## 2. Setup -/

/-- What a run is given to work with: how an engine for the templates of a source is made, and how
files are read. -/
structure Backend (ε : Type) where
  engineOver : TemplateSource → ε
  read : Readers

/-- Builds the markup that the arguments ask for. -/
def buildMarkup (read : Readers) (arguments : RenderArguments) (source : Source)
    (files : FileTree) : ExceptT SetupError Logged Passes := do
  let simple ← match arguments.formatters with
    | none => pure none
    | some path => some <$> (ExceptT.mk (loadSimpleFormatters files path read)).adapt .render
  let complex := arguments.complex.map fun path => (path, source)
  (Passes.build simple complex).adapt .build

/-- Loads the variables that the arguments name and resolves the personnel in them. -/
def loadContext (read : Readers) (arguments : RenderArguments) (files : FileTree) :
    ExceptT RunError Logged Context := do
  let vars ← (ExceptT.mk (loadVariables files arguments.vars read)).adapt fun error =>
    .variables (.render error)
  let (vars, resolved) ←
    (resolvePersonnel vars arguments.peopleInfoGroups arguments.personnelGroups : Logged _)
  match resolved with
  | .ok () => return vars
  | .error failure => throw (.personnel (.render failure))

variable {ε : Type}

/-- The renderer that the arguments ask for. -/
def setUp (backend : Backend ε) (arguments : RenderArguments) (source : Source)
    (files : FileTree) : ExceptT RunError Logged (Renderer ε) := do
  let markup ← (buildMarkup backend.read arguments source files).adapt .markup
  let vars ← loadContext backend.read arguments files
  return ⟨backend.engineOver (.directory arguments.templates), markup, vars⟩

/-! ## 3. Dispatches -/

/-- How far a run is: the files, what was printed, and what became of the dispatches so far. -/
structure RunState (ε : Type) where
  files : FileTree
  printed : Text := []
  report : Report := {}
  renderer : Renderer ε

namespace RunState

/-- The path where the text of a dispatch is written. -/
def target (out : Path) (name : String) : Path := out.join (name ++ ".txt")

/-- Writes the text of a dispatch to its file, or prints it with a newline behind it. -/
def emit (state : RunState ε) (out : Option Path) (name : String) (text : Text) :
    Logged (Except DispatchError (RunState ε)) := do
  match out with
  | none => return .ok { state with printed := state.printed ++ text ++ ['\n'] }
  | some directory =>
    let path := target directory name
    match state.files.writeFile path (String.ofList text).toUTF8 with
    | .error failure => return .error (.write path failure)
    | .ok files =>
      Dispatch.report (.wrote name path)
      return .ok { state with files := files }

variable [TemplateEngine ε]

/-- Renders and writes a dispatch. -/
def attempt (state : RunState ε) (out : Option Path) (name : String) :
    Logged (Except DispatchError (RunState ε) × RunState ε) := do
  let outcome ← state.renderer.render state.files name
  let state := { state with renderer := outcome.renderer }
  match outcome.result with
  | .error failure => return (.error (.render failure), state)
  | .ok text => return (← state.emit out name text, state)

/-- Renders and writes a dispatch and notes what became of it. -/
def step (out : Option Path) (state : RunState ε) (name : String) : Logged (RunState ε) := do
  match ← state.attempt out name with
  | (.ok state, _) =>
    let report := state.report
    return { state with report := { report with rendered := report.rendered ++ [name] } }
  | (.error failure, state) =>
    Dispatch.report (.failed name)
    let report := state.report
    return { state with report := { report with failed := report.failed ++ [(name, failure)] } }

/-- Renders and writes dispatches in order. -/
def steps (out : Option Path) : RunState ε → List String → Logged (RunState ε)
  | state, [] => return state
  | state, name :: names => do
    let state ← state.step out name
    state.steps out names

end RunState

/-! ## 4. Runs -/

/-- What a run comes to: a report or a failure of the setup, what was printed, and the files. -/
structure Outcome where
  result : Except RunError Report
  printed : Text
  files : FileTree

/-- Makes the directory for the texts if one is asked for. -/
def prepareDirectory (arguments : RenderArguments) (files : FileTree) :
    Except RunError FileTree :=
  match arguments.out with
  | none => .ok files
  | some out =>
    match files.makeDirectories out with
    | .ok files => .ok files
    | .error failure => .error (.directory out failure)

/-- Renders the dispatches that the arguments name. -/
def renderAll [TemplateEngine ε] (backend : Backend ε) (arguments : RenderArguments)
    (source : Source) (files : FileTree) : Logged Outcome := do
  match ← (setUp backend arguments source files).run with
  | .error failure => return ⟨.error failure, [], files⟩
  | .ok renderer =>
    match prepareDirectory arguments files with
    | .error failure => return ⟨.error failure, [], files⟩
    | .ok files =>
      let start : RunState ε := { files := files, renderer := renderer }
      let state ← start.steps arguments.out arguments.names
      return ⟨.ok state.report, state.printed, state.files⟩

/-- Carries out a command line with a backend. -/
def CommandLine.runWith [TemplateEngine ε] (line : CommandLine) (backend : Backend ε)
    (source : Source) (files : FileTree) : Logged Outcome :=
  match line.command with
  | .render arguments => renderAll backend arguments source files

end Dispatch
