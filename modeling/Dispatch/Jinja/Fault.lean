import Dispatch.Error

/-!
# What may be wrong with a template

A template fails when it is read, when another template or its file is missing, or when it is
evaluated. A template that was included and fails is a failure of its own kind.
-/

namespace Dispatch.Jinja

/-- Why a template gives no text. -/
inductive Fault where
  /-- The text is no template. -/
  | malformed
  /-- There is no template of this name. -/
  | missing (name : String)
  /-- The file of a template cannot be read. -/
  | unreadable (path : Path) (error : OsError)
  /-- Nobody knows the filter, test, function or method. -/
  | unknown (name : Text)
  /-- Something of a value that is not there is asked for. -/
  | undefined
  /-- A filter, test or function does not take these arguments. -/
  | arguments
  /-- The values do not allow the operation. -/
  | operation
  /-- A value does not have the parts that names are given to. -/
  | unpacking
  /-- Templates include each other, or loops lie in each other, too deeply. -/
  | depth
  /-- A template that was included failed. -/
  | included
  deriving DecidableEq, Repr

/-- The fault as a failure of the render. -/
def Fault.toRenderError : Fault → RenderError
  | .malformed => .template .syntaxError
  | .missing name => .templateNotFound name true
  | .unreadable path error => .template (.unreadable path error)
  | .unpacking => .operation
  | .included => .operation
  | _ => .template .evaluation

end Dispatch.Jinja
