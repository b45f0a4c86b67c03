import Dispatch.Markup.Compiler
import Dispatch.Proofs.Reporting

/-!
# Builds in a row

One compiler may build for many sources, one after another. A build has four ways out: the source is
not found, it fails after it has declared something, a declared formatter cannot be made, or all is
well. On each of them the registry is empty afterwards, whatever it held before
(`Compiler.build_left`), and the events only grow (`Compiler.adds_build`). So no build of a row sees
anything of the builds before it: main statement `buildAll_alone`.
-/

namespace Dispatch

namespace Markup

/-! ## 1. One build -/

theorem adds_add (parser : TagParser) (tag : Text) (options : TagOptions) (formatter : Formatter) :
    Logged.Adds (parser.add tag options formatter) := by
  unfold TagParser.add
  by_cases htwice : parser.hasTag tag = true
  · rw [if_pos htwice]
    exact (Logged.adds_report _).bind fun _ => Logged.adds_pure _
  · rw [if_neg htwice]
    exact Logged.adds_pure _

theorem adds_addLoadedFormatters (parser : TagParser) (formatters : List LoadedFormatter) :
    Logged.Adds (addLoadedFormatters parser formatters) := by
  induction formatters generalizing parser with
  | nil => exact Logged.adds_pure parser
  | cons formatter formatters ih =>
    unfold addLoadedFormatters
    refine (adds_add parser _ _ _).bind fun parser => ?_
    exact (Logged.adds_report _).bind fun _ => ih parser

theorem adds_buildComplexParser (registry : Registry) :
    Logged.Adds (buildComplexParser registry) := by
  unfold buildComplexParser
  refine (Logged.adds_reportAll _).bind fun _ => ?_
  split
  · exact Logged.adds_pure _
  · exact (adds_addLoadedFormatters _ _).bind fun _ => Logged.adds_pure _

/-- A registry is empty once it has been drained, whether all formatters could be made or not. -/
theorem buildComplexParser_left (registry : Registry) :
    Logged.Returns (buildComplexParser registry) fun built => built.2 = {} := by
  unfold buildComplexParser
  refine (Logged.returns_any _).bind fun _ _ => ?_
  split
  · exact Logged.returns_pure rfl
  · exact (Logged.returns_any _).bind fun _ _ => Logged.returns_pure rfl

namespace Compiler

/-- A build adds events and does not look at the earlier ones. -/
theorem adds_build (compiler : Compiler) (path : Path) (source : Source) :
    Logged.Adds (compiler.build path source) := by
  unfold build
  obtain ⟨outcome, registry⟩ := source path compiler.registry
  cases outcome with
  | error failure => cases failure <;> exact Logged.adds_pure _
  | ok _ =>
    refine (adds_buildComplexParser registry).bind fun (result, registry) => ?_
    cases result with
    | error failure => exact Logged.adds_pure _
    | ok parser => exact (Logged.adds_report _).bind fun _ => Logged.adds_pure _

/-- **Every build leaves the registry empty**, however it ends and whatever was in it. -/
theorem build_left (compiler : Compiler) (path : Path) (source : Source) :
    Logged.Returns (compiler.build path source) fun built => built.2 = {} := by
  unfold build
  obtain ⟨outcome, registry⟩ := source path compiler.registry
  cases outcome with
  | error failure => cases failure <;> exact Logged.returns_pure rfl
  | ok _ =>
    refine (buildComplexParser_left registry).bind fun (result, registry) hleft => ?_
    obtain rfl : registry = {} := hleft
    cases result with
    | error failure => exact Logged.returns_pure rfl
    | ok parser => exact (Logged.returns_any _).bind fun _ _ => Logged.returns_pure rfl

end Compiler

/-! ## 2. A row of builds -/

/-- What a compiler is asked for: the formatters of the source at a path. -/
structure BuildRequest where
  path : Path
  source : Source

/-- One build of a row: the registry that the source was given, what the build gave, and the
registry that it left. -/
structure BuildStep where
  given : Registry
  result : Except BuildError TagParser
  left : Registry

namespace BuildRequest

/-- What a compiler of its own gives for the request. -/
def alone (request : BuildRequest) : Except BuildError TagParser :=
  ((Compiler.build {} request.path request.source).run []).1.1

/-- What a compiler of its own reports for the request. -/
def events (request : BuildRequest) : List Event :=
  ((Compiler.build {} request.path request.source).run []).2

end BuildRequest

namespace Compiler

/-- Builds for some requests, one after another, with one compiler. -/
def buildAll (compiler : Compiler) : List BuildRequest → Logged (List BuildStep × Compiler)
  | [] => return ([], compiler)
  | request :: requests => do
    let (result, after) ← compiler.build request.path request.source
    let (steps, last) ← buildAll after requests
    return (⟨compiler.registry, result, after.registry⟩ :: steps, last)

/-- The build of a compiler that is as new, after any events. -/
theorem build_new (request : BuildRequest) (events : List Event) :
    (Compiler.build {} request.path request.source).run events =
      ((request.alone, {}), events ++ request.events) := by
  have hleft := Compiler.build_left {} request.path request.source []
  have hadds := Compiler.adds_build {} request.path request.source events
  rw [hadds]
  exact congrArg (fun compiler => ((request.alone, compiler), events ++ request.events)) hleft

/-- **No build of a row sees anything of the builds before it.** Whatever the sources declare, drop
or drain, and however they end: each is given an empty registry and leaves one, its result is that
of a compiler of its own, and so are the events. -/
theorem buildAll_alone (requests : List BuildRequest) (events : List Event) :
    (buildAll {} requests).run events =
      ((requests.map fun request => ⟨{}, request.alone, {}⟩, {}),
        events ++ requests.flatMap BuildRequest.events) := by
  induction requests generalizing events with
  | nil =>
    rw [List.flatMap_nil, List.append_nil]
    rfl
  | cons request requests ih =>
    have hstep (start : List Event) : (buildAll {} (request :: requests)).run start =
        (let built := (Compiler.build {} request.path request.source).run start
         let later := (buildAll built.1.2 requests).run built.2
         ((⟨{}, built.1.1, built.1.2.registry⟩ :: later.1.1, later.1.2), later.2)) := rfl
    rw [hstep, build_new]
    simp only [ih, List.map_cons, List.flatMap_cons, List.append_assoc]

/-- A source that declares a formatter and ends as told. -/
def declaring (tag : String) (construct : Except HandlerError Handler)
    (outcome : Except SourceError Unit) : Source := fun _ registry =>
  (outcome, registry.declare ⟨tag, {}, "Formatter", construct⟩)

/-- Neither a source that fails nor a formatter that cannot be made leaves anything behind. -/
example :
    let echo : Handler := ⟨fun _ call => .ok call.value⟩
    let path : Path := ⟨"m"⟩
    let rows := ((buildAll {}
      [⟨path, declaring "stale" (.ok echo) (.error (.failed ⟨"broken"⟩))⟩,
       ⟨path, declaring "bad" (.error ⟨"no"⟩) (.ok ())⟩,
       ⟨path, declaring "Good" (.ok echo) (.ok ())⟩]).run []).1.1
    rows.map (fun step => step.result.toOption.map TagParser.tagNames) =
      [none, none, some ["good".toList]] := by
  decide +kernel

end Compiler

end Markup

end Dispatch
