import Dispatch.Proofs.Jinja.KeptTemplates
import Dispatch.Proofs.Run.Rendering

/-!
# Templates that include no others

The statements of a template that includes no other do not look at the source
(`Jinja.eval_eq_of_selfContained`), so what such a template comes to is settled by its own text:
main statement `Engine.comesTo_congr`.
-/

namespace Dispatch

namespace Jinja

/-! ## 1. Statements -/

namespace Statement

mutual

/-- Whether a statement includes no template. -/
def selfContained : Statement → Bool
  | .loop _ _ _ body otherwise => allSelfContained body && allSelfContained otherwise
  | .condition _ yes no => allSelfContained yes && allSelfContained no
  | .capture _ body => allSelfContained body
  | .inclusion _ _ => false
  | _ => true

/-- Whether some statements include no template. -/
def allSelfContained : List Statement → Bool
  | [] => true
  | first :: rest => first.selfContained && allSelfContained rest

end

end Statement

open Evaluation Statement

section

variable {here there : Environment}

theorem value_congr (hfilters : here.filters = there.filters)
    (hcontext : here.context = there.context) (e : Expression) : value here e = value there e := by
  unfold value
  rw [hfilters, hcontext]

theorem select_congr (hfilters : here.filters = there.filters)
    (hcontext : here.context = there.context) (target : Target) (only : Expression)
    (items : List Datum) : select here target only items = select there target only items := by
  induction items with
  | nil => rfl
  | cons item items ih =>
    unfold select
    rw [value_congr hfilters hcontext, ih]

mutual

/-- **A statement that includes no template** does not look at the source. -/
theorem eval_eq_of_selfContained (hfilters : here.filters = there.filters)
    (hcontext : here.context = there.context) (run other : Template → Evaluation Unit)
    (statement : Statement) (h : statement.selfContained = true) :
    statement.eval here run = statement.eval there other := by
  have hvalue := value_congr hfilters hcontext
  cases statement with
  | text written => rw [Statement.eval, Statement.eval]
  | output e => rw [Statement.eval, Statement.eval, hvalue]
  | loop target items only body otherwise =>
    rw [selfContained, Bool.and_eq_true] at h
    rw [Statement.eval, Statement.eval, hvalue,
      evalAll_eq_of_selfContained hfilters hcontext run other body h.1,
      evalAll_eq_of_selfContained hfilters hcontext run other otherwise h.2]
    cases only with
    | none => rfl
    | some e => simp only [select_congr hfilters hcontext]
  | condition asked yes no =>
    rw [selfContained, Bool.and_eq_true] at h
    rw [Statement.eval, Statement.eval, hvalue,
      evalAll_eq_of_selfContained hfilters hcontext run other yes h.1,
      evalAll_eq_of_selfContained hfilters hcontext run other no h.2]
  | assign target e => rw [Statement.eval, Statement.eval, hvalue]
  | capture target body =>
    rw [selfContained] at h
    rw [Statement.eval, Statement.eval,
      evalAll_eq_of_selfContained hfilters hcontext run other body h]
  | inclusion name ignoreMissing => cases h

theorem evalAll_eq_of_selfContained (hfilters : here.filters = there.filters)
    (hcontext : here.context = there.context) (run other : Template → Evaluation Unit)
    (statements : List Statement) (h : allSelfContained statements = true) :
    evalAll here run statements = evalAll there other statements := by
  cases statements with
  | nil => rfl
  | cons first rest =>
    rw [allSelfContained, Bool.and_eq_true] at h
    rw [evalAll, evalAll, eval_eq_of_selfContained hfilters hcontext run other first h.1,
      evalAll_eq_of_selfContained hfilters hcontext run other rest h.2]

end

theorem evalTemplate_eq_of_selfContained (here there : Environment)
    (hfilters : here.filters = there.filters) (hcontext : here.context = there.context)
    {template : Template} (h : allSelfContained template.body = true) :
    template.eval here = template.eval there :=
  evalAll_eq_of_selfContained hfilters hcontext _ _ template.body h

end

end Jinja

/-! ## 2. Engines -/

namespace Engine

open Jinja Jinja.Evaluation

variable {texts others : TemplateTexts} {name : String}

theorem run_template_fixed (texts : TemplateTexts) (files : FileTree) (name : String)
    (events : List Event) :
    ((ofSource (.fixed texts)).run
      (Evaluation.template ((ofSource (.fixed texts)).environment files []) name)).run events =
      match readTemplate texts name with
      | .ok found => ((.ok found, { templates := [(name, found)] },
          { ofSource (.fixed texts) with templates := [(name, found)] }), events)
      | .error fault => ((.error fault, {}, ofSource (.fixed texts)), events) := by
  have hload : ((ofSource (.fixed texts)).source.load files name).run events =
    (texts name, events) := rfl
  rw [run_eq, template_outcome_of_new rfl hload]
  cases readTemplate texts name <;> rfl

/-- What a new engine over some texts finds under a name. -/
theorem template_fixed (texts : TemplateTexts) (files : FileTree) (name : String)
    (events : List Event) :
    ((ofSource (.fixed texts)).template files name).run events =
      match readTemplate texts name with
      | .ok found =>
        ((.ok found, { ofSource (.fixed texts) with templates := [(name, found)] }), events)
      | .error (.missing _) =>
        ((.error (.templateNotFound name false), ofSource (.fixed texts)), events)
      | .error fault => ((.error fault.toRenderError, ofSource (.fixed texts)), events) := by
  unfold Engine.template
  rw [StateT.run_bind, run_template_fixed]
  rcases readTemplate texts name with fault | found
  · cases fault <;> rfl
  · rfl

/-- Engines with the same filters that have kept the same make the same of a self-contained
template. -/
theorem render_congr (here there : Engine) (hfilters : here.filters = there.filters)
    (htemplates : here.templates = there.templates) {template : Template}
    (hself : Statement.allSelfContained template.body = true) (files : FileTree)
    (context : Context) (events : List Event) :
    ((here.render files template context).run events).1.1 =
      ((there.render files template context).run events).1.1 := by
  have heval := evalTemplate_eq_of_selfContained (here.environment files context)
    (there.environment files context) hfilters rfl hself
  unfold Engine.render
  rw [StateT.run_bind, StateT.run_bind, run_eq, run_eq, heval, htemplates]
  rcases (template.eval (there.environment files context)).outcome { templates := there.templates }
    events with ⟨⟨fault | _, after⟩, later⟩ <;> rfl

/-- **What a self-contained template comes to is settled by its own text.** -/
theorem comesTo_congr (hname : others name = texts name)
    (hself : ∀ found, readTemplate texts name = .ok found →
      Statement.allSelfContained found.body = true) (context : Context) :
    TemplateEngine.comesTo ofSource others name context =
      TemplateEngine.comesTo ofSource texts name context := by
  have hread : readTemplate others name = readTemplate texts name := by
    unfold readTemplate
    rw [hname]
  change (((ofSource (.fixed others)).renderNamed ⟨[], []⟩ name context).run []).1.1 =
    (((ofSource (.fixed texts)).renderNamed ⟨[], []⟩ name context).run []).1.1
  unfold renderNamed
  rw [StateT.run_bind, StateT.run_bind, template_fixed, template_fixed, hread]
  cases hfound : readTemplate texts name with
  | error fault => cases fault <;> rfl
  | ok found =>
    exact render_congr { ofSource (.fixed others) with templates := [(name, found)] }
      { ofSource (.fixed texts) with templates := [(name, found)] } rfl rfl
      (hself found hfound) ⟨[], []⟩ context
      ([] ++ (undefinedVariables found context).map (.undefinedVariable name))

end Engine

/-- **A dispatch whose template includes no others** reads only its own template. -/
theorem Renderer.readsOnly_of_selfContained {renderer : Renderer} {texts : TemplateTexts}
    {read : String → Prop} {name : String} (hread : read name)
    (hself : ∀ found, Jinja.Evaluation.readTemplate texts name = .ok found →
      Jinja.Statement.allSelfContained found.body = true) :
    renderer.ReadsOnly .ofSource texts read name := by
  intro others hothers
  unfold comesTo
  rw [Engine.comesTo_congr (hothers name hread) hself]

end Dispatch
