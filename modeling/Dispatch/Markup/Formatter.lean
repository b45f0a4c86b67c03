import Dispatch.Markup.Options
import Dispatch.Markup.Template
import Dispatch.Value.Basic

/-!
# Formatters

A formatter turns one tag into text: a template by itself, a handler by code that may remember its
earlier calls. A handler is therefore a function of the calls it has had and of the present one;
whatever state a handler may keep is determined by those.
-/

namespace Dispatch.Markup

/-- The tag around the one that is being formatted. -/
structure ParentTag where
  name : Text
  options : TagOptions
  deriving DecidableEq, Repr

/-- The parent with its structure written out. -/
def ParentTag.structured (parent : ParentTag) : String :=
  Diagnostic.record "ParentTag"
    [("name", quoted (String.ofList parent.name)), ("options", parent.options.structured)]

/-- One call of a formatter. -/
structure Call where
  /-- The name of the tag. -/
  tag : Text
  /-- The body of the tag, already resolved if the tag resolves the tags inside it. -/
  value : Text
  /-- The attributes written in the tag. -/
  attributes : Attributes
  /-- The tag around it, at the top of the text none. -/
  parent : Option ParentTag
  /-- The variables of the text. -/
  context : Context
  deriving Repr

/-- Code that formats a tag: its answer to a call, after the earlier calls of this handler. -/
structure Handler where
  reply : (earlier : List Call) → (call : Call) → Except HandlerError Text

/-- What formats the tags of one name. -/
inductive Formatter where
  | template (template : Template)
  | handler (handler : Handler)

namespace Formatter

/-- Whether the formatter is a handler. -/
def isHandler : Formatter → Bool
  | .template _ => false
  | .handler _ => true

/-- The answer of a formatter to a call, after its earlier calls. -/
def answer (earlier : List Call) (call : Call) : Formatter → Except FormatError Text
  | .template t => t.render call.tag call.value call.attributes
  | .handler h =>
    match h.reply earlier call with
    | .ok text => .ok text
    | .error cause => .error (.handler call.tag cause)

end Formatter

/-- What is known about the tags of one name. -/
structure Rule where
  options : TagOptions
  formatter : Formatter

/-- The rules of a parser, by the lower-case name of the tag. -/
abbrev Rules := Dict Text Rule

end Dispatch.Markup
