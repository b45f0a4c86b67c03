import Dispatch.Diagnostic
import Dispatch.Text.Basic

/-!
# Failures while formatting

A handler fails with a text of its own; a template fails when a tag lacks an attribute that the
template names.
-/

namespace Dispatch.Markup

/-- The failure of a handler, in its own words. -/
structure HandlerError where
  message : String
  deriving DecidableEq, Repr, Inhabited

/-- Why a text could not be formatted. -/
inductive FormatError where
  /-- The handler of a tag failed. -/
  | handler (tag : Text) (cause : HandlerError)
  /-- The template of a tag names an attribute that the tag lacks. -/
  | missingKey (tag key : Text)
  deriving DecidableEq, Repr

namespace FormatError

/-- The failure in one line. -/
def message : FormatError → String
  | .handler tag cause =>
    "formatter for tag \"" ++ String.ofList tag ++ "\" failed: " ++ cause.message
  | .missingKey tag key =>
    "tag \"" ++ String.ofList tag ++ "\" has no attribute \"" ++ String.ofList key
      ++ "\" required by its format_string"

/-- The failures behind this one. -/
def causes : FormatError → List String
  | .handler _ cause => [cause.message]
  | .missingKey _ _ => []

open Diagnostic in
/-- The failure with its structure written out. -/
def structured : FormatError → String
  | .handler tag cause =>
    record "Handler" [("tag", quoted (String.ofList tag)), ("source", quoted cause.message)]
  | .missingKey tag key =>
    record "MissingTemplateKey"
      [("tag", quoted (String.ofList tag)), ("key", quoted (String.ofList key))]

instance : Diagnostic FormatError := ⟨message, causes, structured⟩

end FormatError

end Dispatch.Markup
