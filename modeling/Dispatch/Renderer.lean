import Dispatch.Engine
import Dispatch.Markup.Passes

/-!
# Rendering dispatches

A dispatch is rendered in two steps: its template first, then the markup of what came out. Both see
the same variables: those of the renderer, and the name of the dispatch. The engine for the
templates may be of any kind.
-/

namespace Dispatch

open Markup (Call Passes)

/-- Renders dispatches with an engine for their templates. -/
structure Renderer (ε : Type := Engine) where
  engine : ε
  markup : Passes
  vars : Context

/-- What became of a dispatch: its text, the calls of handlers on the way, and the renderer that
remembers them. -/
structure Rendered (ε : Type := Engine) where
  result : Except RenderError Text
  calls : List Call
  renderer : Renderer ε

namespace Renderer

variable {ε : Type}

/-- The variable that holds the name of the dispatch. -/
def nameVariable : String := "current_dispatch_name"

/-- The variables of a dispatch. -/
def contextOf (renderer : Renderer ε) (name : String) : Context :=
  Dict.insert nameVariable (.string name) renderer.vars

/-- Renders a dispatch. -/
def render [TemplateEngine ε] (renderer : Renderer ε) (files : FileTree) (name : String) :
    Logged (Rendered ε) := do
  let context := renderer.contextOf name
  let (outcome, engine) ← TemplateEngine.renderNamed renderer.engine files name context
  let renderer := { renderer with engine := engine }
  match outcome with
  | .error failure => return ⟨.error failure, [], renderer⟩
  | .ok text =>
    let formatted := renderer.markup.format text context
    let calls := renderer.markup.handlerCalls formatted
    let renderer := { renderer with markup := renderer.markup.remember formatted }
    match formatted.result with
    | .error failure => return ⟨.error (.markup failure), calls, renderer⟩
    | .ok text =>
      report (.rendered name)
      return ⟨.ok text, calls, renderer⟩

end Renderer

end Dispatch
