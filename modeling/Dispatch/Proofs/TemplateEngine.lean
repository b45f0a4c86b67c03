import Dispatch.Proofs.Reporting
import Dispatch.TemplateEngine
import Dispatch.TemplateSource

/-!
# The laws of template engines

Of an engine that is made over a source of templates nothing is known but laws
(`TemplateEngine.Lawful`): it goes by one text for each name; what comes of a name is settled by
these texts, whatever was rendered before; and since it may keep what it has loaded, each name has
the text it had or the one that is there now when the files have changed.
-/

namespace Dispatch

/-! ## 1. The texts of a source -/

/-- What there is to read under each name. -/
abbrev TemplateTexts := String → Except Unreadable (Option String)

namespace TemplateSource

/-- What the source gives for each name, with some files. -/
def texts (source : TemplateSource) (files : FileTree) : TemplateTexts :=
  fun name => ((source.load files name).run []).1

/-- The source of some texts, which depends on no files. -/
def fixed (texts : TemplateTexts) : TemplateSource where
  load _ name := return texts name

/-- The source does not look at what was reported before. -/
def Steady (source : TemplateSource) : Prop := ∀ files name, Logged.Adds (source.load files name)

theorem Steady.load_fst {source : TemplateSource} (h : source.Steady) (files : FileTree)
    (name : String) (events : List Event) :
    ((source.load files name).run events).1 = source.texts files name := by
  rw [h files name events]
  rfl

theorem steady_fixed (texts : TemplateTexts) : (fixed texts).Steady :=
  fun _ _ => Logged.adds_pure _

theorem steady_directory (root : Path) : (directory root).Steady := by
  intro files name
  simp only [directory]
  split
  · exact (Logged.adds_report _).bind fun _ => Logged.adds_pure _
  · split
    · exact Logged.adds_pure _
    · exact (Logged.adds_report _).bind fun _ => Logged.adds_pure _

end TemplateSource

/-! ## 2. Engines over a source -/

namespace TemplateEngine

variable {ε : Type} [TemplateEngine ε]

/-- What a new engine makes of a name if the templates have some texts. -/
def comesTo (engineOver : TemplateSource → ε) (texts : TemplateTexts) (name : String)
    (context : Context) : Except RenderError Text :=
  ((renderNamed (engineOver (.fixed texts)) ⟨[], []⟩ name context).run []).1.1

/-- **The laws of an engine** that is made over a source. `GoesBy` tells by which texts it goes with
some files; it need not load them, as it may have kept them. Each law is about one request or one
change of the files; none is about a run. -/
structure Lawful (engineOver : TemplateSource → ε)
    (GoesBy : TemplateSource → ε → FileTree → TemplateTexts → Prop) : Prop where
  /-- A new engine goes by the texts of its source. -/
  new : ∀ {source : TemplateSource}, source.Steady → ∀ files,
    GoesBy source (engineOver source) files (source.texts files)
  /-- What comes of a name is what a new engine makes of it with the same texts, and these are the
  texts the engine goes by afterwards. -/
  rendered : ∀ {source : TemplateSource}, source.Steady → ∀ {engine files texts},
    GoesBy source engine files texts → ∀ name context,
      Logged.Returns (renderNamed engine files name context) fun answer =>
        answer.1 = comesTo engineOver texts name context ∧ GoesBy source answer.2 files texts
  /-- With other files, each name has the text it had or the one that is there now. -/
  changed : ∀ {source : TemplateSource} {engine files texts},
    GoesBy source engine files texts → ∀ others, ∃ now : TemplateTexts,
      (∀ name, now name = texts name ∨ now name = source.texts others name) ∧
        GoesBy source engine others now

end TemplateEngine

end Dispatch
