import Dispatch.Event
import Dispatch.Markup.BuildError
import Dispatch.Markup.Formatter

/-!
# Declared formatters

A registry collects declarations of handlers in order. Draining it makes every handler and leaves
the registry empty, also on failure. Of two declarations of one name the later takes the place of
the earlier one; both handlers are made.
-/

namespace Dispatch.Markup

/-- A declaration: the name of the tag as written, and how its handler is made. -/
structure Declaration where
  tag : String
  options : TagOptions
  /-- The name under which failures and events speak of the handler. -/
  typeName : String
  /-- What making the handler gives. -/
  construct : Except HandlerError Handler

/-- The name of a tag as a declaration or a setting means it. -/
def normalName (tag : String) : Text := Text.lower (Text.trim tag.toList)

/-- A handler that has been made. -/
structure LoadedFormatter where
  tag : Text
  options : TagOptions
  handler : Handler

namespace LoadedFormatter

/-- The formatter with its structure written out, as far as it can be shown. -/
def structured (formatter : LoadedFormatter) : String :=
  "LoadedFormatter \x7b tag_name: " ++ quoted (String.ofList formatter.tag) ++ ", options: "
    ++ formatter.options.structured ++ ", .. \x7d"

/-- Puts a formatter into a list: in the place of the one of its name, or at the end. -/
def place (formatter : LoadedFormatter) : List LoadedFormatter → List LoadedFormatter
  | [] => [formatter]
  | other :: rest =>
    if other.tag = formatter.tag then formatter :: rest else other :: place formatter rest

end LoadedFormatter

/-- What draining a registry gives: the formatters or the first failure, the declarations whose
handlers were made or failed to be made, and the events. -/
structure Drained where
  result : Except LoadError (List LoadedFormatter)
  constructed : List Declaration
  events : List Event

/-- Declarations that wait to be drained. -/
structure Registry where
  pending : List Declaration := []

namespace Registry

/-- The registry with one more declaration. -/
def declare (declaration : Declaration) (registry : Registry) : Registry :=
  ⟨registry.pending ++ [declaration]⟩

/-- The tags of the declarations, as written. -/
def tagNames (registry : Registry) : List String := registry.pending.map (·.tag)

/-- Makes the handlers of some declarations and puts them behind those made before. -/
def drainInto (loaded : List LoadedFormatter) : List Declaration → Drained
  | [] => ⟨.ok loaded, [], []⟩
  | declaration :: rest =>
    let tag := normalName declaration.tag
    if isValidName tag then
      match declaration.construct with
      | .error cause => ⟨.error (.construct tag declaration.typeName cause), [declaration], []⟩
      | .ok handler =>
        let twice := if loaded.any (·.tag = tag) then [Event.declaredTwice tag] else []
        let formatter : LoadedFormatter := ⟨tag, declaration.options, handler⟩
        let after := drainInto (formatter.place loaded) rest
        { after with
          constructed := declaration :: after.constructed
          events := .initializedFormatter tag declaration.typeName :: twice ++ after.events }
    else ⟨.error (.invalidTagName declaration.tag declaration.typeName), [], []⟩

/-- Makes every handler in the order of the declarations; nothing is pending afterwards. -/
def drain (registry : Registry) : Drained × Registry := (drainInto [] registry.pending, {})

/-- The registry with its structure written out. -/
def structured (registry : Registry) : String :=
  Diagnostic.record "FormatterRegistry"
    [("pending", Diagnostic.listed (registry.tagNames.map quoted))]

end Registry

end Dispatch.Markup
