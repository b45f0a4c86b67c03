import Dispatch.Program
import Dispatch.Proofs.Jinja.SelfContained
import Dispatch.Proofs.Run.Steps

/-!
# Isolated dispatches

A run is all or nothing in its setup and holds its dispatches apart afterwards. If the setup fails,
nothing is printed, written or read for a dispatch. Otherwise each dispatch comes to what it comes
to in a run of its own, with every engine that obeys the laws and any readers: main statement
`renderAll_isolates`.
-/

namespace Dispatch

open Markup (Source Passes)
open RunState (SameFailure fileOf leadsTo line target)

/-! ## 1. Setup -/

/-- The markup and the variables that the arguments ask for. -/
def loadSettings (read : Readers) (arguments : RenderArguments) (source : Source)
    (files : FileTree) : ExceptT RunError Logged (Passes × Context) := do
  let markup ← (buildMarkup read arguments source files).adapt .markup
  let vars ← loadContext read arguments files
  return (markup, vars)

theorem run_map {α β : Type} (f : α → β) (action : ExceptT RunError Logged α)
    (events : List Event) :
    (f <$> action).run.run events =
      ((action.run.run events).1.map f, (action.run.run events).2) := by
  have hrun : (f <$> action).run.run events =
      (match (action.run.run events).1 with
        | .ok a => (.ok (f a), (action.run.run events).2)
        | .error failure => (.error failure, (action.run.run events).2)) := by
    rw [ExceptT.run_map, StateT.run_map]
    rcases (action.run.run events) with ⟨failure | a, log⟩ <;> rfl
  rw [hrun]
  cases (action.run.run events).1 <;> rfl

section

variable {ε : Type} {backend : Backend ε}

theorem setUp_eq_map (arguments : RenderArguments) (source : Source) (files : FileTree) :
    setUp backend arguments source files =
      (fun (markup, vars) =>
          ⟨backend.engineOver (.directory arguments.templates), markup, vars⟩) <$>
        loadSettings backend.read arguments source files := by
  unfold setUp loadSettings
  simp only [map_bind, map_pure]

/-- The setup does not look at the templates, the directory for the texts or the names. -/
theorem setUp_run (arguments : RenderArguments) (source : Source) (files : FileTree)
    (events : List Event) (templates : Path) (out : Option Path) (names : List String) :
    (setUp backend { arguments with templates := templates, out := out, names := names } source
        files).run.run events =
      (((loadSettings backend.read arguments source files).run.run events).1.map
          fun (markup, vars) => ⟨backend.engineOver (.directory templates), markup, vars⟩,
        ((loadSettings backend.read arguments source files).run.run events).2) := by
  rw [setUp_eq_map, run_map]
  rfl

variable {arguments : RenderArguments} {source : Source} {files : FileTree}
  {events log : List Event}

theorem setUp_error {failure : RunError}
    (h : (setUp backend arguments source files).run.run events = (.error failure, log))
    (templates : Path) (out : Option Path) (names : List String) :
    (setUp backend { arguments with templates := templates, out := out, names := names } source
      files).run.run events = (.error failure, log) := by
  rw [setUp_eq_map, run_map] at h
  rw [setUp_run]
  generalize (loadSettings backend.read arguments source files).run.run events = found at *
  obtain ⟨failure' | settings, log'⟩ := found
  · cases h
    rfl
  · cases h

theorem setUp_ok {renderer : Renderer ε}
    (h : (setUp backend arguments source files).run.run events = (.ok renderer, log)) :
    renderer.engine = backend.engineOver (.directory arguments.templates) ∧
      ∀ templates out names, ∃ other : Renderer ε,
        (setUp backend { arguments with templates := templates, out := out, names := names } source
          files).run.run events = (.ok other, log) := by
  rw [setUp_eq_map, run_map] at h
  simp only [setUp_run]
  generalize (loadSettings backend.read arguments source files).run.run events = found at *
  obtain ⟨failure | settings, log'⟩ := found
  · cases h
  · cases h
    exact ⟨rfl, fun templates out names => ⟨_, rfl⟩⟩

end

/-! ## 2. Outcomes -/

/-- Whether a run got to its dispatches and none of them failed. -/
def Outcome.succeeds (outcome : Outcome) : Bool :=
  match outcome.result with
  | .ok report => report.isSuccess
  | .error _ => false

section

variable {ε : Type} [TemplateEngine ε]

/-- What a run of one dispatch alone comes to. -/
def soleOutcome (backend : Backend ε) (arguments : RenderArguments) (source : Source)
    (files : FileTree) (events : List Event) (name : String) : Outcome :=
  ((renderAll backend { arguments with names := [name] } source files).run events).1

/-- The dispatches of a run do not affect each other, given what each comes to alone. -/
structure Isolated (arguments : RenderArguments) (renderer : Renderer ε) (start : FileTree)
    (alone : String → Outcome) (outcome : Outcome) (report : Report) : Prop where
  result : outcome.result = .ok report
  /-- Rendered are the names that are rendered alone, in their order and as often as asked for. -/
  rendered : report.rendered = arguments.names.filter fun name => (alone name).succeeds
  /-- Failed are all the others. -/
  failed : report.failed.map Prod.fst = arguments.names.filter fun name => !(alone name).succeeds
  /-- A dispatch that is rendered has the text it has alone. -/
  rendered_alone : ∀ name ∈ report.rendered, ∃ text, renderer.textOf start name = .ok text ∧
    (alone name).result = .ok { rendered := [name] } ∧
    (alone name).printed = (if arguments.out = none then text ++ ['\n'] else []) ∧
    ∀ directory, arguments.out = some directory →
      (alone name).files.lookup (target directory name) =
        .ok (.file (String.ofList text).toUTF8)
  /-- A dispatch that fails fails for the reason for which it fails alone. -/
  failed_alone : ∀ name failure, (name, failure) ∈ report.failed →
    ∃ other, (alone name).result = .ok { failed := [(name, other)] } ∧
      SameFailure name failure other ∧ (alone name).printed = []
  /-- Printed is what each of them prints. -/
  printed : outcome.printed = arguments.names.flatMap fun name => (alone name).printed
  /-- At each place is the file of the last dispatch that is written there, if there is one. -/
  entries : ∀ place, outcome.files.entryAt? place =
    match report.rendered.reverse.find? (leadsTo arguments.out start place) with
    | some name => fileOf (renderer.textOf start name)
    | none => start.entryAt? place
  /-- Names without separators have files of their own. -/
  plain : ∀ directory, arguments.out = some directory →
    (∀ name ∈ arguments.names, '/' ∉ name.toList) →
    ∀ name ∈ report.rendered, outcome.files.lookup (target directory name) =
      (alone name).files.lookup (target directory name)

variable {backend : Backend ε} {GoesBy : TemplateSource → ε → FileTree → TemplateTexts → Prop}
  {arguments : RenderArguments} {source : Source} {files start : FileTree}
  {events log : List Event} {renderer : Renderer ε}

/-- A run whose setup succeeds is a row of dispatches. -/
theorem renderAll_fst
    (hsetUp : (setUp backend arguments source files).run.run events = (.ok renderer, log))
    (hprepare : prepareDirectory arguments files = .ok start) :
    ((renderAll backend arguments source files).run events).1 =
      (let state := ((RunState.steps arguments.out { files := start, renderer := renderer }
        arguments.names).run log).1
       ⟨.ok state.report, state.printed, state.files⟩) := by
  unfold renderAll
  rw [StateT.run_bind, hsetUp]
  simp only [hprepare]
  rfl

/-- What a dispatch does that is the first of its run. -/
theorem stepped_start (hready : Ready backend.engineOver GoesBy arguments renderer start)
    (log : List Event) (name : String) :
    ∃ rendered, rendered.result = renderer.textOf start name ∧
      RunState.Stepped arguments.out name { files := start, renderer := renderer } rendered
        ((RunState.step arguments.out { files := start, renderer := renderer } name).run
          log).1 := by
  refine ⟨_, ?_, RunState.step_stepped _ _ _ _⟩
  have hsteady := TemplateSource.steady_directory arguments.templates
  have hnew := Renderer.Since.new hready.lawful hsteady hready.engine start
  rw [hready.textOf_eq]
  exact (hnew.render hready.lawful hsteady hready.stateless name log).1

/-- **A run of one dispatch** comes to what is expected of it. -/
theorem soleOutcome_spec
    (hsetUp : (setUp backend arguments source files).run.run events = (.ok renderer, log))
    (hprepare : prepareDirectory arguments files = .ok start)
    (hready : Ready backend.engineOver GoesBy arguments renderer start) (name : String) :
    let sole := soleOutcome backend arguments source files events name
    let expected := RunState.expected arguments renderer start name
    (sole.result = match expected with
      | .ok _ => .ok { rendered := [name] }
      | .error failure => .ok { failed := [(name, failure)] }) ∧
    sole.printed = line arguments.out expected ∧
    ∀ directory text, arguments.out = some directory → expected = .ok text →
      sole.files.lookup (target directory name) = .ok (.file (String.ofList text).toUTF8) := by
  have hsole : soleOutcome backend arguments source files events name =
      (let state := ((RunState.step arguments.out { files := start, renderer := renderer }
        name).run log).1
       ⟨.ok state.report, state.printed, state.files⟩) := by
    exact renderAll_fst hsetUp hprepare
  obtain ⟨rendered, htext, hstepped⟩ := stepped_start hready log name
  rw [hsole]
  generalize ((RunState.step arguments.out { files := start, renderer := renderer } name).run
    log).1 = after at *
  dsimp only
  unfold RunState.expected
  rw [← htext]
  cases hstepped with
  | unrendered hresult =>
    rw [hresult]
    exact ⟨rfl, rfl, fun _ _ _ h => by cases h⟩
  | printed hresult hout =>
    rw [hresult, hout]
    exact ⟨rfl, rfl, fun _ _ h => by cases h⟩
  | @unwritten text directory failure hresult hout hwrite =>
    rw [hresult, hout]
    simp only [RunState.verdict, hwrite]
    exact ⟨rfl, rfl, fun _ _ _ h => by cases h⟩
  | @written text directory after hresult hout hwrite =>
    rw [hresult, hout]
    simp only [RunState.verdict, hwrite]
    refine ⟨rfl, rfl, fun directory' text' hdirectory htext' => ?_⟩
    obtain rfl := Option.some.inj hdirectory
    obtain rfl := Except.ok.inj htext'
    exact FileTree.lookup_of_writeFile hwrite

/-- **A run that is ready holds its dispatches apart.** -/
theorem isolated_of_ready
    (hsetUp : (setUp backend arguments source files).run.run events = (.ok renderer, log))
    (hprepare : prepareDirectory arguments files = .ok start)
    (hready : Ready backend.engineOver GoesBy arguments renderer start) :
    ∃ report, Isolated arguments renderer start
      (soleOutcome backend arguments source files events)
      ((renderAll backend arguments source files).run events).1 report := by
  have hran := RunState.ran_steps hready (fun _ h => h) (RunState.stillReady_start hready) log
  rw [renderAll_fst hsetUp hprepare]
  generalize ((RunState.steps arguments.out { files := start, renderer := renderer }
    arguments.names).run log).1 = last at hran ⊢
  have hsole := soleOutcome_spec hsetUp hprepare hready
  have hsucceeds (name : String) :
      (soleOutcome backend arguments source files events name).succeeds =
        (RunState.expected arguments renderer start name).isOk := by
    unfold Outcome.succeeds
    rw [(hsole name).1]
    cases RunState.expected arguments renderer start name <;> rfl
  obtain ⟨failures, hfailed, hnames, hsame⟩ := hran.failed
  have hrendered := hran.rendered
  rw [List.nil_append] at hfailed hrendered
  have hexpected (name : String) (hname : name ∈ last.report.rendered) :
      ∃ text, RunState.expected arguments renderer start name = .ok text := by
    rw [hrendered, List.mem_filter] at hname
    cases hexpected : RunState.expected arguments renderer start name with
    | ok text => exact ⟨text, rfl⟩
    | error failure =>
      rw [hexpected] at hname
      cases hname.2
  refine ⟨last.report, rfl, ?_, ?_, fun name hname => ?_, fun name failure hmem => ?_, ?_,
    fun place => ?_, fun directory hdirectory hplain name hname => ?_⟩
  · simp only [hsucceeds]
    exact hrendered
  · simp only [hsucceeds]
    rw [hfailed, hnames]
  · obtain ⟨text, htext⟩ := hexpected name hname
    obtain ⟨hresult, hprinted, hwritten⟩ := hsole name
    rw [htext] at hresult hprinted
    exact ⟨text, (RunState.expected_eq_ok htext).1, hresult, hprinted,
      fun directory hdirectory => hwritten directory text hdirectory htext⟩
  · rw [hfailed] at hmem
    obtain ⟨other, hother, hreason⟩ := hsame name failure hmem
    obtain ⟨hresult, hprinted, -⟩ := hsole name
    rw [hother] at hresult hprinted
    exact ⟨other, hresult, hreason, hprinted⟩
  · simp only [(hsole _).2.1]
    rw [hran.printed, List.nil_append]
  · rw [hrendered]
    exact hran.entries place
  · obtain ⟨text, htext⟩ := hexpected name hname
    have hmem := hname
    rw [hrendered, List.mem_filter] at hmem
    rw [(hsole name).2.2 directory text hdirectory htext]
    exact hran.lookup hplain hdirectory hmem.1 htext

/-- **All or nothing first, dispatch by dispatch afterwards.** If the markup, the variables or the
personnel cannot be set up, the run is that failure: it prints nothing, leaves the files as they
are and is the same whatever templates, directory and names it was given. Otherwise, if the engine
obeys the laws, handlers have no state and no dispatch is settled by what the run may write, each
dispatch comes to what it comes to in a run of its own. The readers may be any functions. -/
theorem renderAll_isolates (backend : Backend ε) (arguments : RenderArguments) (source : Source)
    (files : FileTree) (events : List Event) :
    (∀ failure log,
      (setUp backend arguments source files).run.run events = (.error failure, log) →
      ∀ templates out names,
        (renderAll backend { arguments with templates := templates, out := out, names := names }
          source files).run events = (⟨.error failure, [], files⟩, log)) ∧
    (∀ renderer log,
      (setUp backend arguments source files).run.run events = (.ok renderer, log) →
      (∀ failure, prepareDirectory arguments files = .error failure →
        ∀ templates names, ∃ left,
          (renderAll backend { arguments with templates := templates, names := names } source
            files).run events = (⟨.error failure, [], left⟩, log)) ∧
      ∀ GoesBy, TemplateEngine.Lawful backend.engineOver GoesBy →
        ∀ start, prepareDirectory arguments files = .ok start →
        files.isDirectoryAt files.workingDirectory = true →
        renderer.markup.Stateless →
        (∀ name ∈ arguments.names,
          renderer.ReadsOnly backend.engineOver (arguments.texts start) (arguments.Spares start)
            name) →
        ∃ report, Isolated arguments renderer start
          (soleOutcome backend arguments source files events)
          ((renderAll backend arguments source files).run events).1 report) := by
  refine ⟨fun failure log hsetUp templates out names => ?_, fun renderer log hsetUp =>
    ⟨fun failure hprepare templates names => ⟨files, ?_⟩,
      fun GoesBy hlawful start hprepare hhere hstateless hreads => ?_⟩⟩
  · unfold renderAll
    rw [StateT.run_bind, setUp_error hsetUp]
    rfl
  · obtain ⟨other, hother⟩ := (setUp_ok hsetUp).2 templates arguments.out names
    have hfails : prepareDirectory { arguments with templates := templates, names := names }
        files = .error failure := hprepare
    unfold renderAll
    rw [StateT.run_bind]
    change (StateT.run _ _ >>= _) = _
    rw [hother]
    simp only [hfails]
    rfl
  · obtain ⟨hengine, -⟩ := setUp_ok hsetUp
    refine isolated_of_ready hsetUp hprepare
      ⟨hlawful, hengine, hstateless, fun directory hout => ?_, hreads⟩
    unfold prepareDirectory at hprepare
    rw [hout] at hprepare
    dsimp only at hprepare
    split at hprepare
    · next made hmade =>
      obtain rfl := Except.ok.inj hprepare
      exact FileTree.opens_of_makeDirectories hhere hmade
    · cases hprepare

end

/-! ## 3. Runs with every outcome -/

/-- A row with a name that is asked for twice, one without a template and one with a separator. -/
def nestedArguments : RenderArguments where
  templates := ⟨"t"⟩
  out := some ⟨"o"⟩
  names := ["a", "gone", "a", "a.txt/b"]

/-- The templates of the row. -/
def nestedFiles : FileTree where
  entries :=
    [(["t".toList], .directory),
     (["t".toList, "a".toList], .file "A".toUTF8),
     (["t".toList, "a.txt".toList], .directory),
     (["t".toList, "a.txt".toList, "b".toList], .file "B".toUTF8)]
  workingDirectory := []

/-- The files of the row with the directory for its texts. -/
def nestedStart : FileTree := nestedFiles.put ["o".toList] .directory

/-- The renderer of the row. -/
def nestedRenderer : Renderer := ⟨.ofSource (.directory ⟨"t"⟩), {}, []⟩

/-- A source of no formatters. -/
def noFormatters : Source := fun _ registry => (.error .notFound, registry)

theorem setUp_nested : (setUp .standard nestedArguments noFormatters nestedFiles).run.run [] =
    (.ok nestedRenderer, [.loadedPeople 0]) := rfl

theorem prepareDirectory_nested :
    prepareDirectory nestedArguments nestedFiles = .ok nestedStart := rfl

theorem stateless_nested : nestedRenderer.markup.Stateless := by
  rintro parser (h | h) <;> cases h

theorem spares_nested : ∀ name ∈ nestedArguments.names,
    nestedArguments.Spares nestedStart name := by
  have hwritten : ∀ name ∈ nestedArguments.names,
      ∀ place ∈ (nestedStart.locate (target ⟨"o"⟩ name)).toOption, place.head? = some ['o'] := by
    decide +kernel
  have hread : ∀ name ∈ nestedArguments.names,
      ∀ path ∈ TemplateSource.candidates nestedArguments.templates name,
      ∀ place ∈ (nestedStart.locate path).toOption, place.head? = some ['t'] := by
    decide +kernel
  rintro name hname path hpath place hlocate ⟨directory, hout, other, hother, hplace⟩
  obtain rfl := Option.some.inj hout
  have ht := hread name hname path hpath place (by rw [hlocate]; rfl)
  have ho := hwritten other hother place (by rw [hplace]; rfl)
  rw [ho] at ht
  cases ht

theorem readsOnly_nested : ∀ name ∈ nestedArguments.names,
    nestedRenderer.ReadsOnly .ofSource (nestedArguments.texts nestedStart)
      (nestedArguments.Spares nestedStart) name := by
  have hself : ∀ name ∈ nestedArguments.names, ∀ found ∈ (Jinja.Evaluation.readTemplate
      (nestedArguments.texts nestedStart) name).toOption,
      Jinja.Statement.allSelfContained found.body = true := by
    decide +kernel
  refine fun name hname => Renderer.readsOnly_of_selfContained (spares_nested name hname) ?_
  exact fun found hfound => hself name hname found (by rw [hfound]; rfl)

/-- The row with variables that are not there. -/
def unknownVarsArguments : RenderArguments := { nestedArguments with vars := [⟨"v"⟩] }

/-- The row with a file where the directory for its texts is to be. -/
def blockedArguments : RenderArguments := { nestedArguments with out := some ⟨"t/a"⟩ }

theorem setUp_unknownVars :
    (setUp .standard unknownVarsArguments noFormatters nestedFiles).run.run [] =
      (.error (.variables (.render (.varsNotFound ⟨"v"⟩))), []) := rfl

theorem prepareDirectory_blocked : prepareDirectory blockedArguments nestedFiles =
    .error (.directory ⟨"t/a"⟩ .fileExists) := rfl

/-- What the row is reported to have come to. -/
def nestedReport : Report where
  rendered := ["a", "a"]
  failed :=
    [("gone", .render (.templateNotFound "gone" false)),
     ("a.txt/b", .write ⟨"o/a.txt/b.txt"⟩ .notDirectory)]

theorem result_nested :
    ((renderAll .standard nestedArguments noFormatters nestedFiles).run []).1.result =
      .ok nestedReport := by
  decide +kernel

/-- The row with its texts printed. -/
def printedArguments : RenderArguments := { nestedArguments with out := none }

/-- What the row is reported to have come to if its texts are printed. -/
def printedReport : Report where
  rendered := ["a", "a", "a.txt/b"]
  failed := [("gone", .render (.templateNotFound "gone" false))]

theorem result_printed :
    ((renderAll .standard printedArguments noFormatters nestedFiles).run []).1.result =
      .ok printedReport := by
  decide +kernel

/-- Without its variables, or without a directory, the row does nothing; otherwise every name of it
comes to what it comes to alone, whether its text is written or printed. -/
theorem isolated_nested :
    (∀ templates out names,
      (renderAll .standard
        { unknownVarsArguments with templates := templates, out := out, names := names }
        noFormatters nestedFiles).run [] =
          (⟨.error (.variables (.render (.varsNotFound ⟨"v"⟩))), [], nestedFiles⟩, [])) ∧
    (∀ templates names, ∃ left,
      (renderAll .standard { blockedArguments with templates := templates, names := names }
        noFormatters nestedFiles).run [] =
          (⟨.error (.directory ⟨"t/a"⟩ .fileExists), [], left⟩, [.loadedPeople 0])) ∧
    TemplateEngine.Lawful Backend.standard.engineOver Engine.GoesBy ∧
    nestedRenderer.markup.Stateless ∧
    (∀ name ∈ nestedArguments.names,
      nestedRenderer.ReadsOnly .ofSource (nestedArguments.texts nestedStart)
        (nestedArguments.Spares nestedStart) name) ∧
    Isolated nestedArguments nestedRenderer nestedStart
      (soleOutcome .standard nestedArguments noFormatters nestedFiles [])
      ((renderAll .standard nestedArguments noFormatters nestedFiles).run []).1 nestedReport ∧
    Isolated printedArguments nestedRenderer nestedFiles
      (soleOutcome .standard printedArguments noFormatters nestedFiles [])
      ((renderAll .standard printedArguments noFormatters nestedFiles).run []).1
      printedReport := by
  have hunknown := (renderAll_isolates .standard unknownVarsArguments noFormatters nestedFiles []).1
  have hblocked := (renderAll_isolates .standard blockedArguments noFormatters nestedFiles []).2
  have hnested := (renderAll_isolates .standard nestedArguments noFormatters nestedFiles []).2
  have hprinted := (renderAll_isolates .standard printedArguments noFormatters nestedFiles []).2
  refine ⟨hunknown _ _ setUp_unknownVars,
    (hblocked nestedRenderer [.loadedPeople 0] rfl).1 _ prepareDirectory_blocked, Engine.lawful,
    stateless_nested, readsOnly_nested, ?_, ?_⟩
  · obtain ⟨report, hisolated⟩ := (hnested nestedRenderer _ setUp_nested).2 _ Engine.lawful
      nestedStart prepareDirectory_nested rfl stateless_nested readsOnly_nested
    obtain rfl : report = nestedReport :=
      Except.ok.inj (hisolated.result.symm.trans result_nested)
    exact hisolated
  · -- what is printed settles no dispatch, whatever templates it includes
    have hspares :=
      RenderArguments.spares_of_out_none (rfl : printedArguments.out = none) nestedFiles
    obtain ⟨report, hisolated⟩ := (hprinted nestedRenderer [.loadedPeople 0] rfl).2 _ Engine.lawful
      nestedFiles rfl rfl stateless_nested
      fun name _ => nestedRenderer.readsOnly_of_spares hspares _ name
    obtain rfl : report = printedReport :=
      Except.ok.inj (hisolated.result.symm.trans result_printed)
    exact hisolated

/-- **Why a write fails may depend on the dispatches before it.** Alone, the way to the file of the
last name ends at nothing; after the others it ends at the file of the first one. -/
theorem not_failed_alone :
    ¬∀ (arguments : RenderArguments) (source : Source) (files start : FileTree)
      (renderer : Renderer) (log : List Event) (report : Report),
      (setUp .standard arguments source files).run.run [] = (.ok renderer, log) →
      prepareDirectory arguments files = .ok start →
      files.isDirectoryAt files.workingDirectory = true →
      renderer.markup.Stateless →
      (∀ name ∈ arguments.names,
        renderer.ReadsOnly .ofSource (arguments.texts start) (arguments.Spares start) name) →
      ((renderAll .standard arguments source files).run []).1.result = .ok report →
      ∀ name failure, (name, failure) ∈ report.failed →
        (soleOutcome .standard arguments source files [] name).result =
          .ok { failed := [(name, failure)] } := by
  intro hall
  have hsole : (soleOutcome .standard nestedArguments noFormatters nestedFiles []
      "a.txt/b").result =
      .ok { failed := [("a.txt/b", .write ⟨"o/a.txt/b.txt"⟩ .notFound)] } := by
    decide +kernel
  have hsame := hall nestedArguments noFormatters nestedFiles nestedStart nestedRenderer _ _
    setUp_nested prepareDirectory_nested rfl stateless_nested readsOnly_nested result_nested
    "a.txt/b" (.write ⟨"o/a.txt/b.txt"⟩ .notDirectory) (by simp [nestedReport])
  rw [hsole] at hsame
  simp at hsame

end Dispatch
