import Dispatch.Run
import Dispatch.Proofs.Files.Directory
import Dispatch.Proofs.Run.Rendering

/-!
# The dispatches of a run

A run renders its dispatches one after another, and each of them may fail, print or write. A step is
of one of four kinds (`RunState.Stepped`). What it leaves behind changes nothing for the next one
(`RunState.StillReady`), as long as the run does not write what its own templates are read from; so
each dispatch of a row does what it would do as the first one: main statements `RunState.ran_step`,
for one dispatch, and `RunState.ran_steps`, for a row of them.
-/

namespace Dispatch

/-! ## 1. One step -/

namespace Report

/-- The report with one more dispatch that was rendered. -/
def withRendered (report : Report) (name : String) : Report :=
  { report with rendered := report.rendered ++ [name] }

/-- The report with one more dispatch that failed. -/
def withFailed (report : Report) (name : String) (failure : DispatchError) : Report :=
  { report with failed := report.failed ++ [(name, failure)] }

end Report

namespace RunState

variable {ε : Type}

/-- What one dispatch does to a run, given what the renderer made of it. -/
inductive Stepped (out : Option Path) (name : String) (before : RunState ε)
    (rendered : Rendered ε) : RunState ε → Prop
  | unrendered {failure : RenderError} (hresult : rendered.result = .error failure) :
      Stepped out name before rendered
        { before with
          renderer := rendered.renderer
          report := before.report.withFailed name (.render failure) }
  | printed {text : Text} (hresult : rendered.result = .ok text) (hout : out = none) :
      Stepped out name before rendered
        { before with
          renderer := rendered.renderer
          printed := before.printed ++ text ++ ['\n']
          report := before.report.withRendered name }
  | unwritten {text : Text} {directory : Path} {failure : OsError}
      (hresult : rendered.result = .ok text) (hout : out = some directory)
      (hwrite : before.files.writeFile (target directory name) (String.ofList text).toUTF8 =
        .error failure) :
      Stepped out name before rendered
        { before with
          renderer := rendered.renderer
          report := before.report.withFailed name (.write (target directory name) failure) }
  | written {text : Text} {directory : Path} {files : FileTree}
      (hresult : rendered.result = .ok text) (hout : out = some directory)
      (hwrite : before.files.writeFile (target directory name) (String.ofList text).toUTF8 =
        .ok files) :
      Stepped out name before rendered
        { before with
          renderer := rendered.renderer
          files := files
          report := before.report.withRendered name }

/-- What a run is behind a text that was to be printed or written. -/
def emitted (state : RunState ε) (out : Option Path) (name : String) (text : Text) :
    Except DispatchError (RunState ε) :=
  match out with
  | none => .ok { state with printed := state.printed ++ text ++ ['\n'] }
  | some directory =>
    match state.files.writeFile (target directory name) (String.ofList text).toUTF8 with
    | .error failure => .error (.write (target directory name) failure)
    | .ok files => .ok { state with files := files }

theorem returns_emit (state : RunState ε) (out : Option Path) (name : String) (text : Text) :
    Logged.Returns (state.emit out name text) (· = state.emitted out name text) := by
  unfold emit emitted
  cases out with
  | none => exact Logged.returns_pure rfl
  | some directory =>
    dsimp only
    cases state.files.writeFile (target directory name) (String.ofList text).toUTF8 with
    | error failure => exact Logged.returns_pure rfl
    | ok files => exact (Logged.returns_any _).bind fun _ _ => Logged.returns_pure rfl

/-- Every step is one of these. -/
theorem step_stepped [TemplateEngine ε] (out : Option Path) (state : RunState ε) (name : String)
    (events : List Event) :
    Stepped out name state ((state.renderer.render state.files name).run events).1
      ((state.step out name).run events).1 := by
  unfold step attempt
  rw [bind_assoc]
  have hrun {β : Type} (next : Rendered ε → Logged β) :
      ((state.renderer.render state.files name >>= next).run events).1 =
        ((next ((state.renderer.render state.files name).run events).1).run
          ((state.renderer.render state.files name).run events).2).1 := rfl
  rw [hrun]
  generalize ((state.renderer.render state.files name).run events).2 = later
  generalize ((state.renderer.render state.files name).run events).1 = rendered
  cases hresult : rendered.result with
  | error failure => exact .unrendered hresult
  | ok text =>
    dsimp only
    rw [bind_assoc]
    refine (returns_emit _ out name text).bind (fun result hemitted => ?_) later
    rw [pure_bind, hemitted]
    unfold emitted
    cases out with
    | none => exact Logged.returns_pure (.printed hresult rfl)
    | some directory =>
      dsimp only
      cases hwrite : state.files.writeFile (target directory name) (String.ofList text).toUTF8 with
      | error failure =>
        exact (Logged.returns_any _).bind fun _ _ =>
          Logged.returns_pure (.unwritten hresult rfl hwrite)
      | ok files => exact Logged.returns_pure (.written hresult rfl hwrite)

/-! ## 2. What becomes of a dispatch -/

/-- What becomes of a dispatch with some files: what it came to, unless it cannot be written. -/
def verdict (out : Option Path) (files : FileTree) (name : String) :
    Except RenderError Text → Except DispatchError Text
  | .error failure => .error (.render failure)
  | .ok text =>
    match out with
    | none => .ok text
    | some directory =>
      match files.writeFile (target directory name) (String.ofList text).toUTF8 with
      | .error failure => .error (.write (target directory name) failure)
      | .ok _ => .ok text

/-- What is printed of a dispatch. -/
def line (out : Option Path) : Except DispatchError Text → Text
  | .error _ => []
  | .ok text => if out = none then text ++ ['\n'] else []

end RunState

/-- The places that a run may write to. -/
def RenderArguments.Writes (arguments : RenderArguments) (start : FileTree) (place : Place) :
    Prop :=
  ∃ directory, arguments.out = some directory ∧
    ∃ name ∈ arguments.names, start.locate (RunState.target directory name) = .ok place

/-- What there is to read for each template at the start of a run. -/
def RenderArguments.texts (arguments : RenderArguments) (start : FileTree) : TemplateTexts :=
  (TemplateSource.directory arguments.templates).texts start

/-- None of the files of a template may be written. -/
def RenderArguments.Spares (arguments : RenderArguments) (start : FileTree) (template : String) :
    Prop :=
  ∀ path ∈ TemplateSource.candidates arguments.templates template, ∀ place,
    start.locate path = .ok place → ¬arguments.Writes start place

/-- A run that prints its texts spares every template. -/
theorem RenderArguments.spares_of_out_none {arguments : RenderArguments}
    (h : arguments.out = none) (start : FileTree) (template : String) :
    arguments.Spares start template := by
  rintro path - place - ⟨directory, hout, -⟩
  cases h.symm.trans hout

section

variable {ε : Type} [TemplateEngine ε] {engineOver : TemplateSource → ε}
  {GoesBy : TemplateSource → ε → FileTree → TemplateTexts → Prop}

/-- If a run spares every template, it writes nothing that settles a dispatch. -/
theorem Renderer.readsOnly_of_spares {arguments : RenderArguments} {start : FileTree}
    (h : ∀ template, arguments.Spares start template) (renderer : Renderer ε)
    (texts : TemplateTexts) (name : String) :
    renderer.ReadsOnly engineOver texts (arguments.Spares start) name := by
  intro others hothers
  obtain rfl : others = texts := funext fun template => hothers template (h template)
  rfl

/-- A run can start: its engine is new and obeys the laws, its handlers have no state, its directory
is there, and what it may write settles no dispatch. -/
structure Ready (engineOver : TemplateSource → ε)
    (GoesBy : TemplateSource → ε → FileTree → TemplateTexts → Prop) (arguments : RenderArguments)
    (renderer : Renderer ε) (start : FileTree) : Prop where
  lawful : TemplateEngine.Lawful engineOver GoesBy
  engine : renderer.engine = engineOver (.directory arguments.templates)
  stateless : renderer.markup.Stateless
  opens : ∀ directory, arguments.out = some directory → start.Opens directory
  readsOnly : ∀ name ∈ arguments.names,
    renderer.ReadsOnly engineOver (arguments.texts start) (arguments.Spares start) name

/-- What a dispatch comes to as the first one is what the texts at the start make of it. -/
theorem Ready.textOf_eq {arguments : RenderArguments} {renderer : Renderer ε} {start : FileTree}
    (h : Ready engineOver GoesBy arguments renderer start) (name : String) :
    renderer.textOf start name = renderer.comesTo engineOver (arguments.texts start) name :=
  Renderer.textOf_eq_comesTo h.lawful (TemplateSource.steady_directory _) h.engine h.stateless
    start name

namespace RunState

variable {arguments : RenderArguments} {renderer : Renderer ε} {start : FileTree}

/-- A run is as ready as at its start: only files that it may write were written, and the templates
it spares have the texts they had. -/
structure StillReady (GoesBy : TemplateSource → ε → FileTree → TemplateTexts → Prop)
    (arguments : RenderArguments) (renderer : Renderer ε) (start : FileTree)
    (state : RunState ε) : Prop where
  written : FileTree.WrittenAt (arguments.Writes start) start state.files
  texts : ∃ texts : TemplateTexts,
    (∀ template, arguments.Spares start template →
      texts template = arguments.texts start template) ∧
    Renderer.Since GoesBy (.directory arguments.templates) renderer state.renderer state.files texts

theorem stillReady_start (h : Ready engineOver GoesBy arguments renderer start) :
    StillReady GoesBy arguments renderer start { files := start, renderer := renderer } where
  written := .refl _ start
  texts := ⟨_, fun _ _ => rfl,
    .new h.lawful (TemplateSource.steady_directory _) h.engine start⟩

/-- What a dispatch comes to at any time of a run is what it comes to at its start. -/
theorem StillReady.render {state : RunState ε}
    (h : StillReady GoesBy arguments renderer start state)
    (hready : Ready engineOver GoesBy arguments renderer start) {name : String}
    (hname : name ∈ arguments.names) (events : List Event) :
    let rendered := ((state.renderer.render state.files name).run events).1
    rendered.result = renderer.textOf start name ∧
      StillReady GoesBy arguments renderer start { state with renderer := rendered.renderer } := by
  obtain ⟨hwritten, texts, hagree, hsince⟩ := h
  obtain ⟨hresult, hafter⟩ := hsince.render hready.lawful (TemplateSource.steady_directory _)
    hready.stateless name events
  refine ⟨?_, hwritten, texts, hagree, hafter⟩
  rw [hresult, hready.textOf_eq]
  exact hready.readsOnly name hname texts hagree

/-- A file that the run may write takes nothing from its readiness. -/
theorem StillReady.write {state : RunState ε} (h : StillReady GoesBy arguments renderer start state)
    (hready : Ready engineOver GoesBy arguments renderer start) {place : Place}
    (hwrites : arguments.Writes start place) (hhold : start.canHold place = true)
    (bytes : ByteArray) :
    StillReady GoesBy arguments renderer start
      { state with files := state.files.put place (.file bytes) } := by
  obtain ⟨hwritten, texts, hagree, hsince⟩ := h
  have hput := hwritten.put hwrites hhold bytes
  obtain ⟨later, hlater, hsince'⟩ :=
    hsince.changed hready.lawful (state.files.put place (.file bytes))
  refine ⟨hput, later, fun template hspares => ?_, hsince'⟩
  rcases hlater template with hkept | hloaded
  · rw [hkept]
    exact hagree template hspares
  · rw [hloaded]
    exact TemplateSource.texts_eq_of_writtenAt hput hspares

end RunState

end

namespace RunState

/-! ## 3. A row of dispatches -/

/-- The file of a dispatch is an entry of a directory if the dispatch's name has no separator. -/
theorem isEntryName_fileName {name : String} (h : '/' ∉ name.toList) :
    FileTree.IsEntryName (name ++ ".txt") := by
  have hlength : 4 ≤ (name ++ ".txt").toList.length := by
    rw [String.toList_append, List.length_append]
    exact Nat.le_add_left 4 _
  refine ⟨by simpa using h, fun h => ?_, fun h => ?_, fun h => ?_⟩ <;> rw [h] at hlength <;>
    simp at hlength

/-- The failures are the same, or a write whose way ended at nothing now ends at a file; then the
name has a separator. -/
def SameFailure (name : String) (failure other : DispatchError) : Prop :=
  failure = other ∨ '/' ∈ name.toList ∧
    ∃ path, failure = .write path .notDirectory ∧ other = .write path .notFound

/-- Whether the text of a dispatch is written to a place. -/
def leadsTo (out : Option Path) (files : FileTree) (place : Place) (name : String) : Bool :=
  match out with
  | none => false
  | some directory =>
    match files.locate (target directory name) with
    | .ok other => other = place
    | .error _ => false

/-- The file of a text. -/
def fileOf : Except RenderError Text → Option Entry
  | .ok text => some (.file (String.ofList text).toUTF8)
  | .error _ => none

section

variable {ε : Type} [TemplateEngine ε]
  (GoesBy : TemplateSource → ε → FileTree → TemplateTexts → Prop) (arguments : RenderArguments)
  (renderer : Renderer ε) (start : FileTree)

/-- What becomes of a dispatch that is the first of a run. -/
def expected (name : String) : Except DispatchError Text :=
  verdict arguments.out start name (renderer.textOf start name)

/-- What a row of dispatches does to a run: each of them what it would do as the first one. -/
structure Ran (names : List String) (before after : RunState ε) : Prop where
  ready : StillReady GoesBy arguments renderer start after
  rendered : after.report.rendered = before.report.rendered ++
    names.filter fun name => (expected arguments renderer start name).isOk
  failed : ∃ failures, after.report.failed = before.report.failed ++ failures ∧
    failures.map Prod.fst =
      (names.filter fun name => !(expected arguments renderer start name).isOk) ∧
    ∀ name failure, (name, failure) ∈ failures →
      ∃ other, expected arguments renderer start name = .error other ∧
        SameFailure name failure other
  printed : after.printed = before.printed ++
    names.flatMap fun name => line arguments.out (expected arguments renderer start name)
  entries : ∀ place, after.files.entryAt? place =
    match (names.filter fun name => (expected arguments renderer start name).isOk).reverse.find?
      (leadsTo arguments.out start place) with
    | some name => fileOf (renderer.textOf start name)
    | none => before.files.entryAt? place

end

section

variable {ε : Type} [TemplateEngine ε] {engineOver : TemplateSource → ε}
  {GoesBy : TemplateSource → ε → FileTree → TemplateTexts → Prop} {arguments : RenderArguments}
  {renderer : Renderer ε} {start : FileTree} {before after : RunState ε}

/-- A dispatch is expected to be rendered only if it comes to a text that has a place to go. -/
theorem expected_eq_ok {name : String} {text : Text}
    (h : expected arguments renderer start name = .ok text) :
    renderer.textOf start name = .ok text ∧ ∀ directory, arguments.out = some directory →
      ∃ place, start.locate (target directory name) = .ok place := by
  unfold expected verdict at h
  cases htext : renderer.textOf start name with
  | error failure =>
    rw [htext] at h
    cases h
  | ok made =>
    rw [htext] at h
    dsimp only at h
    split at h
    · next hout =>
      obtain rfl := Except.ok.inj h
      exact ⟨rfl, fun directory hdirectory => by cases hout.symm.trans hdirectory⟩
    · next directory hout =>
      split at h
      · cases h
      · next after hwrite =>
        obtain rfl := Except.ok.inj h
        refine ⟨rfl, fun directory' hdirectory => ?_⟩
        obtain rfl := Option.some.inj (hout.symm.trans hdirectory)
        obtain ⟨place, hlocate, -, -⟩ := FileTree.writeFile_eq_ok hwrite
        exact ⟨place, hlocate⟩

theorem ran_nil (h : StillReady GoesBy arguments renderer start before) :
    Ran GoesBy arguments renderer start [] before before where
  ready := h
  rendered := by simp
  failed := ⟨[], by simp⟩
  printed := by simp
  entries place := by simp

theorem Ran.append {names others : List String} {last : RunState ε}
    (h : Ran GoesBy arguments renderer start names before after)
    (h' : Ran GoesBy arguments renderer start others after last) :
    Ran GoesBy arguments renderer start (names ++ others) before last where
  ready := h'.ready
  rendered := by rw [h'.rendered, h.rendered, List.filter_append, List.append_assoc]
  failed := by
    obtain ⟨failures, hfailed, hnames, hsame⟩ := h.failed
    obtain ⟨failures', hfailed', hnames', hsame'⟩ := h'.failed
    refine ⟨failures ++ failures', ?_, ?_, fun name failure hmem => ?_⟩
    · rw [hfailed', hfailed, List.append_assoc]
    · rw [List.map_append, hnames, hnames', List.filter_append]
    · rcases List.mem_append.1 hmem with hmem | hmem
      · exact hsame name failure hmem
      · exact hsame' name failure hmem
  printed := by rw [h'.printed, h.printed, List.flatMap_append, List.append_assoc]
  entries place := by
    rw [h'.entries, h.entries, List.filter_append, List.reverse_append, List.find?_append]
    cases List.find? _ (List.filter _ others).reverse <;> rfl

theorem ran_of_failed {name : String} {failure other : DispatchError}
    (hexpected : expected arguments renderer start name = .error other)
    (hsame : SameFailure name failure other)
    (hready : StillReady GoesBy arguments renderer start after)
    (hreport : after.report = before.report.withFailed name failure)
    (hprinted : after.printed = before.printed) (hfiles : after.files = before.files) :
    Ran GoesBy arguments renderer start [name] before after := by
  have hnone : [name].filter (fun name => (expected arguments renderer start name).isOk) = [] := by
    simp [hexpected, Except.isOk, Except.toBool]
  refine ⟨hready, ?_, ⟨[(name, failure)], ?_, ?_, fun name' failure' hmem => ?_⟩, ?_,
    fun place => ?_⟩
  · rw [hreport, hnone, List.append_nil]
    rfl
  · rw [hreport]
    rfl
  · simp [hexpected, Except.isOk, Except.toBool]
  · rw [List.mem_singleton, Prod.mk.injEq] at hmem
    obtain ⟨rfl, rfl⟩ := hmem
    exact ⟨other, hexpected, hsame⟩
  · rw [hprinted, List.flatMap_singleton, hexpected, line, List.append_nil]
  · rw [hfiles, hnone]
    rfl

theorem ran_of_rendered {name : String} {text : Text}
    (hexpected : expected arguments renderer start name = .ok text)
    (hready : StillReady GoesBy arguments renderer start after)
    (hreport : after.report = before.report.withRendered name)
    (hprinted : after.printed = before.printed ++ line arguments.out (.ok text))
    (hentries : ∀ place, after.files.entryAt? place =
      if leadsTo arguments.out start place name then fileOf (renderer.textOf start name)
      else before.files.entryAt? place) :
    Ran GoesBy arguments renderer start [name] before after := by
  have hone : [name].filter (fun name => (expected arguments renderer start name).isOk) =
      [name] := by
    simp [hexpected, Except.isOk, Except.toBool]
  refine ⟨hready, ?_, ⟨[], ?_, ?_, fun _ _ hmem => ?_⟩, ?_, fun place => ?_⟩
  · rw [hreport, hone]
    rfl
  · rw [hreport, List.append_nil]
    rfl
  · simp [hexpected, Except.isOk, Except.toBool]
  · cases hmem
  · rw [hprinted, List.flatMap_singleton, hexpected]
  · rw [hentries, hone, List.reverse_singleton, List.find?_singleton]
    cases leadsTo arguments.out start place name <;> rfl

/-- **One dispatch** does what it would do as the first one. -/
theorem ran_step (hready : Ready engineOver GoesBy arguments renderer start)
    (h : StillReady GoesBy arguments renderer start before) {name : String}
    (hname : name ∈ arguments.names) (events : List Event) :
    Ran GoesBy arguments renderer start [name] before
      ((before.step arguments.out name).run events).1 := by
  have hstep := step_stepped arguments.out before name events
  obtain ⟨htext, hafter⟩ := h.render hready hname events
  generalize ((before.renderer.render before.files name).run events).1 = rendered at *
  generalize ((before.step arguments.out name).run events).1 = after at *
  cases hstep with
  | @unrendered failure hresult =>
    have hexpected : expected arguments renderer start name = .error (.render failure) := by
      rw [expected, ← htext, hresult]
      rfl
    exact ran_of_failed hexpected (.inl rfl) ⟨hafter.written, hafter.texts⟩ rfl rfl rfl
  | @printed text hresult hout =>
    have hexpected : expected arguments renderer start name = .ok text := by
      rw [expected, ← htext, hresult, hout]
      rfl
    refine ran_of_rendered hexpected ⟨hafter.written, hafter.texts⟩ rfl ?_ fun place => ?_
    · rw [hout, List.append_assoc]
      rfl
    · rw [hout]
      rfl
  | @unwritten text directory failure hresult hout hwrite =>
    obtain ⟨other, hbefore, hreason⟩ := h.written.writeFile_eq_error hwrite
    have hexpected : expected arguments renderer start name =
        .error (.write (target directory name) other) := by
      rw [expected, ← htext, hresult, hout]
      simp only [verdict, hbefore]
    refine ran_of_failed hexpected ?_ ⟨hafter.written, hafter.texts⟩ rfl rfl rfl
    rcases hreason with rfl | ⟨hway, rfl, rfl⟩
    · exact .inl rfl
    · -- without a separator the way to the file is the one to the directory, which is there
      refine .inr ⟨?_, _, rfl, rfl⟩
      by_contra hplain
      exact hway (h.written.locate_join (hready.opens directory hout)
        (isEntryName_fileName hplain).separator)
  | @written text directory files hresult hout hwrite =>
    obtain ⟨place, hlocate, hhold, hbefore, rfl⟩ := h.written.writeFile_eq_ok hwrite
    have hexpected : expected arguments renderer start name = .ok text := by
      rw [expected, ← htext, hresult, hout]
      simp only [verdict, hbefore]
    have hwrites : arguments.Writes start place := ⟨directory, hout, name, hname, hlocate⟩
    have hput := hafter.write hready hwrites hhold (String.ofList text).toUTF8
    refine ran_of_rendered hexpected ⟨hput.written, hput.texts⟩ rfl ?_ fun other => ?_
    · rw [hout]
      exact (List.append_nil _).symm
    · rw [FileTree.entryAt?_put (FileTree.ne_nil_of_canHold hhold), hout, ← htext, hresult]
      simp only [leadsTo, hlocate, fileOf, decide_eq_true_eq]
      exact if_congr eq_comm rfl rfl

/-- **A row of dispatches**: each of them does what it would do as the first one. -/
theorem ran_steps (hready : Ready engineOver GoesBy arguments renderer start) {names : List String}
    (hnames : ∀ name ∈ names, name ∈ arguments.names)
    (h : StillReady GoesBy arguments renderer start before) (events : List Event) :
    Ran GoesBy arguments renderer start names before
      ((before.steps arguments.out names).run events).1 := by
  induction names generalizing before events with
  | nil => exact ran_nil h
  | cons name names ih =>
    have hfirst := ran_step hready h (hnames name List.mem_cons_self) events
    exact hfirst.append (ih (fun other hother => hnames other (List.mem_cons_of_mem _ hother))
      hfirst.ready _)

/-! ## 4. Names without separators -/

theorem leadsTo_eq_true {out : Option Path} {files : FileTree} {place : Place} {name : String} :
    leadsTo out files place name = true ↔
      ∃ directory, out = some directory ∧ files.locate (target directory name) = .ok place := by
  unfold leadsTo
  cases out with
  | none => simp
  | some directory => cases hlocate : files.locate (target directory name) <;> simp [hlocate]

/-- **Names without separators do not overwrite each other.** -/
theorem Ran.lookup {names : List String}
    (h : Ran GoesBy arguments renderer start names before after)
    (hplain : ∀ name ∈ names, '/' ∉ name.toList) {directory : Path}
    (hout : arguments.out = some directory) {name : String} (hname : name ∈ names) {text : Text}
    (hexpected : expected arguments renderer start name = .ok text) :
    after.files.lookup (target directory name) = .ok (.file (String.ofList text).toUTF8) := by
  obtain ⟨htext, hplaces⟩ := expected_eq_ok hexpected
  obtain ⟨place, hlocate⟩ := hplaces directory hout
  refine h.ready.written.lookup_eq_ok hlocate ?_
  have hmem : name ∈
      (names.filter fun name => (expected arguments renderer start name).isOk).reverse := by
    rw [List.mem_reverse, List.mem_filter, hexpected]
    exact ⟨hname, rfl⟩
  rw [h.entries]
  cases hfound : List.find? (leadsTo arguments.out start place)
      (names.filter fun name => (expected arguments renderer start name).isOk).reverse with
  | none =>
    have hleads : leadsTo arguments.out start place name = true :=
      leadsTo_eq_true.2 ⟨directory, hout, hlocate⟩
    exact absurd hleads (List.find?_eq_none.1 hfound name hmem)
  | some other =>
    have hother : other ∈ names :=
      (List.mem_filter.1 (List.mem_reverse.1 (List.mem_of_find?_eq_some hfound))).1
    obtain ⟨directory', hout', hlocate'⟩ := leadsTo_eq_true.1 (List.find?_some hfound)
    obtain rfl := Option.some.inj (hout.symm.trans hout')
    have hsame := FileTree.locate_join_inj (isEntryName_fileName (hplain name hname))
      (isEntryName_fileName (hplain other hother)) hlocate hlocate'
    obtain rfl : name = other := by simpa using hsame
    change fileOf (renderer.textOf start name) = _
    rw [htext]
    rfl

end

end RunState

end Dispatch
