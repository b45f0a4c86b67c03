import Dispatch.Renderer
import Dispatch.Proofs.Markup.Stateless
import Dispatch.Proofs.TemplateEngine

/-!
# Rendering one dispatch after others

A renderer remembers what it has rendered: its engine may keep templates, its passes keep the calls
of their handlers. If the engine obeys its laws and no handler has state, nothing of that shows: a
dispatch comes to what the templates' texts and the variables make of it (`Renderer.comesTo`),
whatever was rendered before. Main statement: `Renderer.Since.render`.
-/

namespace Dispatch

open TemplateEngine (Lawful)

namespace Renderer

variable {ε : Type} [TemplateEngine ε]

/-- What a renderer makes of a dispatch. -/
def textOf (renderer : Renderer ε) (files : FileTree) (name : String) : Except RenderError Text :=
  ((renderer.render files name).run []).1.result

/-- What a dispatch comes to if the templates have some texts: what an engine over these texts makes
of it, in markup. -/
def comesTo (renderer : Renderer ε) (engineOver : TemplateSource → ε) (texts : TemplateTexts)
    (name : String) : Except RenderError Text :=
  match TemplateEngine.comesTo engineOver texts name (renderer.contextOf name) with
  | .error failure => .error failure
  | .ok text =>
    match (renderer.markup.format text (renderer.contextOf name)).result with
    | .error failure => .error (.markup failure)
    | .ok out => .ok out

/-- What a dispatch comes to is settled by the texts of some templates; it asks for no others, or
their texts make no difference. -/
def ReadsOnly (renderer : Renderer ε) (engineOver : TemplateSource → ε) (texts : TemplateTexts)
    (read : String → Prop) (name : String) : Prop :=
  ∀ others : TemplateTexts, (∀ template, read template → others template = texts template) →
    renderer.comesTo engineOver others name = renderer.comesTo engineOver texts name

/-- A renderer as it is when it has rendered some dispatches with some texts: its engine goes by
them, and its passes and its variables are those of the start. -/
structure Since (GoesBy : TemplateSource → ε → FileTree → TemplateTexts → Prop)
    (source : TemplateSource) (start now : Renderer ε) (files : FileTree) (texts : TemplateTexts) :
    Prop where
  goesBy : GoesBy source now.engine files texts
  rules : now.markup.rules = start.markup.rules
  vars : now.vars = start.vars

section

variable {engineOver : TemplateSource → ε}
  {GoesBy : TemplateSource → ε → FileTree → TemplateTexts → Prop} {source : TemplateSource}
  {start now : Renderer ε} {files : FileTree} {texts : TemplateTexts}

theorem Since.new (hlawful : Lawful engineOver GoesBy) (hsteady : source.Steady)
    (hengine : start.engine = engineOver source) (files : FileTree) :
    Since GoesBy source start start files (source.texts files) where
  goesBy := by
    rw [hengine]
    exact hlawful.new hsteady files
  rules := rfl
  vars := rfl

/-- **A dispatch comes to the same, whatever was rendered before**, and after it the next one does
as well. -/
theorem Since.render (h : Since GoesBy source start now files texts)
    (hlawful : Lawful engineOver GoesBy) (hsteady : source.Steady)
    (hstateless : start.markup.Stateless) (name : String) :
    Logged.Returns (now.render files name) fun rendered =>
      rendered.result = start.comesTo engineOver texts name ∧
        Since GoesBy source start rendered.renderer files texts := by
  have hcontext : now.contextOf name = start.contextOf name := by
    unfold contextOf
    rw [h.vars]
  unfold Renderer.render comesTo
  rw [hcontext]
  refine (hlawful.rendered hsteady h.goesBy name _).bind ?_
  rintro ⟨result, engine⟩ ⟨rfl, hgoesBy⟩
  cases TemplateEngine.comesTo engineOver texts name (start.contextOf name) with
  | error failure => exact Logged.returns_pure ⟨rfl, hgoesBy, h.rules, h.vars⟩
  | ok text =>
    have hrules := now.markup.rules_remember
    simp only [Markup.Passes.format_of_stateless h.rules.symm hstateless]
    cases (now.markup.format text (start.contextOf name)).result with
    | error failure =>
      exact Logged.returns_pure ⟨rfl, hgoesBy, (hrules _).trans h.rules, h.vars⟩
    | ok out =>
      exact (Logged.returns_any _).bind fun _ _ =>
        Logged.returns_pure ⟨rfl, hgoesBy, (hrules _).trans h.rules, h.vars⟩

/-- With other files, each template has the text it had or the one that is there now. -/
theorem Since.changed (h : Since GoesBy source start now files texts)
    (hlawful : Lawful engineOver GoesBy) (others : FileTree) :
    ∃ later : TemplateTexts,
      (∀ name, later name = texts name ∨ later name = source.texts others name) ∧
        Since GoesBy source start now others later := by
  obtain ⟨later, hlater, hgoesBy⟩ := hlawful.changed h.goesBy others
  exact ⟨later, hlater, hgoesBy, h.rules, h.vars⟩

/-- What a renderer makes of a dispatch first is what the texts of its source make of it. -/
theorem textOf_eq_comesTo (hlawful : Lawful engineOver GoesBy) (hsteady : source.Steady)
    (hengine : start.engine = engineOver source) (hstateless : start.markup.Stateless)
    (files : FileTree) (name : String) :
    start.textOf files name = start.comesTo engineOver (source.texts files) name :=
  ((Since.new hlawful hsteady hengine files).render hlawful hsteady hstateless name []).1

end

end Renderer

end Dispatch
