import Dispatch.Run
import Dispatch.Text.Case

/-!
# The program

The program understands its arguments, carries them out with its own engine and readers and with no
formatters besides those in settings, and ends with a status. It prints the texts; failures go to
the other stream, a line each, and so do the events that are important enough: all of them if asked
for on the command line, else those that a setting of the environment lets through.
-/

namespace Dispatch

/-! ## 1. The engine and the readers -/

/-- What the program works with. -/
def Backend.standard : Backend Engine where
  engineOver := .ofSource
  read := FileFormat.read

/-- Carries out a command line. -/
def CommandLine.run (line : CommandLine) (source : Markup.Source) (files : FileTree) :
    Logged Outcome :=
  line.runWith .standard source files

/-! ## 2. Events that are shown -/

/-- Which events are shown. -/
inductive Threshold where
  | nothing
  | warnings
  | everything
  deriving DecidableEq, Repr

namespace Threshold

/-- The threshold that a setting of the environment names; without one, warnings are shown. A
setting that names no level shows nothing of this program. -/
def ofSetting : Option String → Threshold
  | none => .warnings
  | some setting =>
    match String.ofList (Text.lowerAscii setting.toList) with
    | "warn" => .warnings
    | "info" => .warnings
    | "debug" => .everything
    | "trace" => .everything
    | _ => .nothing

/-- Whether an event of a level is shown. -/
def shows : Threshold → Level → Bool
  | .nothing, _ => false
  | .warnings, level => level = .warn
  | .everything, _ => true

end Threshold

/-! ## 3. The end of the program -/

/-- How the program ends: its status, what it printed, the complaints and events on the other
stream, and the files. -/
structure Ending where
  exitCode : Nat
  printed : Text
  complaints : List String
  events : List Event
  files : FileTree

/-- The complaint about a dispatch. -/
def dispatchComplaint (name : String) (failure : DispatchError) : String :=
  "error: dispatch \"" ++ name ++ "\": " ++ Diagnostic.chain failure

/-- The complaint about a run that did not get to its dispatches. -/
def runComplaint (failure : RunError) : String := "error: " ++ Diagnostic.chain failure

/-- How the program ends after a command line was understood. -/
def Ending.ofLine (line : CommandLine) (setting : Option String) (files : FileTree) : Ending :=
  let (outcome, events) := (line.run ({} : Markup.ModuleTable).source files).run []
  let threshold := if line.verbose then .everything else Threshold.ofSetting setting
  let shown := events.filter fun event => threshold.shows event.level
  match outcome.result with
  | .error failure => ⟨1, outcome.printed, [runComplaint failure], shown, outcome.files⟩
  | .ok report =>
    let complaints := report.failed.map fun (name, failure) => dispatchComplaint name failure
    ⟨if report.isSuccess then 0 else 1, outcome.printed, complaints, shown, outcome.files⟩

/-- How the program ends, unless its arguments are not carried out. -/
def Ending.ofArguments (arguments : List String) (setting : Option String) (files : FileTree) :
    Except Usage Ending :=
  (CommandLine.parse arguments).map fun line => .ofLine line setting files

end Dispatch
