import Dispatch.Error
import Dispatch.Event

/-!
# Template engines

What rendering dispatches needs of an engine for templates. An engine may keep what it has loaded,
so with its answer it gives the engine that goes on from there.
-/

namespace Dispatch

/-- Engines that render templates, loaded by their names or given as texts. -/
class TemplateEngine (ε : Type) where
  /-- Renders a template by its name. -/
  renderNamed : ε → FileTree → String → Context → Logged (Except RenderError Text × ε)
  /-- Renders a text as a template. -/
  renderText : ε → FileTree → String → Context → Logged (Except RenderError Text × ε)
  /-- Whether there is a template of a name that can be read. -/
  hasTemplate : ε → FileTree → String → Logged (Bool × ε)

end Dispatch
