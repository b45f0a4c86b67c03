import Dispatch.Jinja.Evaluation
import Dispatch.TemplateEngine

/-!
# Rendering templates

An engine renders the templates of a source, with filters of its own besides those that every
template knows. It keeps the templates it has loaded. Before it renders a template by name it
reports the variables that the template reads but nobody has given. It is one of the engines that a
run may be given (`TemplateEngine`) and knows a part of Jinja: outputs, loops, conditions, `set` and
`include`, with the filters of `Filter.common`. It refuses macros, inheritance and other blocks.
-/

namespace Dispatch

open Jinja (Datum Environment Evaluation Fault Filter Progress Template)

/-- Renders the templates of a source. -/
structure Engine where
  source : TemplateSource
  filters : Dict String Filter := Filter.common
  templates : Dict String Template := []

namespace Engine

/-- A new engine over a source, with the filters that every template knows. -/
def ofSource (source : TemplateSource) : Engine := { source }

/-! ## 1. Filters -/

/-- The engine with a filter, which may take the place of another one. -/
def withFilter (name : String) (filter : Filter) (engine : Engine) : Engine :=
  { engine with filters := Dict.insert name filter engine.filters }

/-- The engine with a filter on a single value, which is reported. -/
def addFilter (name : String) (change : Datum → Except Fault Text) (engine : Engine) :
    Logged Engine := do
  report (.loadedFilter name)
  return engine.withFilter name fun d arguments =>
    match arguments with
    | [] => Datum.string <$> change d
    | _ :: _ => .error .arguments

/-! ## 2. Templates -/

/-- What an evaluation starts from. -/
def environment (engine : Engine) (files : FileTree) (context : Context) : Environment :=
  ⟨engine.source, files, engine.filters, context⟩

/-- Evaluates something; the templates that it loads are kept. -/
def run {α : Type} (engine : Engine) (evaluation : Evaluation α) :
    Logged (Except Fault α × Progress × Engine) := do
  let (result, progress) ← evaluation.run.run { templates := engine.templates }
  return (result, progress, { engine with templates := progress.templates })

/-- The template of a name. -/
def template (engine : Engine) (files : FileTree) (name : String) :
    Logged (Except RenderError Template × Engine) := do
  let (result, _, engine) ← engine.run (Evaluation.template (engine.environment files []) name)
  match result with
  | .ok template => return (.ok template, engine)
  | .error (.missing _) => return (.error (.templateNotFound name false), engine)
  | .error fault => return (.error fault.toRenderError, engine)

/-- Whether there is a template of a name that can be read. -/
def hasTemplate (engine : Engine) (files : FileTree) (name : String) : Logged (Bool × Engine) := do
  let (result, engine) ← engine.template files name
  return (result.isOk, engine)

/-! ## 3. Rendering -/

/-- The variables that a template reads but nobody has given, in order. -/
def undefinedVariables (template : Template) (context : Context) : List String :=
  let missing := template.unassignedNames.filter fun name =>
    !Dict.contains (String.ofList name) context && !Jinja.globalNames.contains name
  (Dict.ofList (missing.map fun name => (name, ()))).keys.map String.ofList

/-- Renders a template that was read. -/
def render (engine : Engine) (files : FileTree) (template : Template) (context : Context) :
    Logged (Except RenderError Text × Engine) := do
  let env := engine.environment files context
  let (result, progress, engine) ← engine.run (template.eval env)
  match result with
  | .ok () => return (.ok progress.printed.reverse.flatten, engine)
  | .error fault => return (.error fault.toRenderError, engine)

/-- Renders a template by its name. -/
def renderNamed (engine : Engine) (files : FileTree) (name : String) (context : Context) :
    Logged (Except RenderError Text × Engine) := do
  match ← engine.template files name with
  | (.error failure, engine) => return (.error failure, engine)
  | (.ok template, engine) =>
    reportAll ((undefinedVariables template context).map (.undefinedVariable name))
    engine.render files template context

/-- Renders a text as a template. -/
def renderText (engine : Engine) (files : FileTree) (source : String) (context : Context) :
    Logged (Except RenderError Text × Engine) :=
  match Template.parse? source with
  | none => return (.error (.template .syntaxError), engine)
  | some template => engine.render files template context

instance : TemplateEngine Engine := ⟨renderNamed, renderText, hasTemplate⟩

end Engine

end Dispatch
