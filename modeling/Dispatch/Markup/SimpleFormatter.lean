import Dispatch.Event
import Dispatch.Markup.BuildError
import Dispatch.Markup.Registry
import Dispatch.Markup.TagParser

/-!
# Simple formatters in settings

A setting gives a template and the flags of a tag. A parser is built from settings in the order of
their keys; the first bad one fails the build. Keys that mean one tag replace each other, the last
one stays.
-/

namespace Dispatch.Markup

/-- The setting of a simple formatter. The template is required, but missed only when a parser is
built. -/
structure SimpleFormatter where
  formatString : Option String := none
  options : TagOptions := {}
  deriving DecidableEq, Repr, Inhabited

/-- Settings of simple formatters, by the tag as written. -/
abbrev SimpleFormatters := Dict String SimpleFormatter

namespace SimpleFormatter

/-! ## 1. Settings as values -/

/-- The flags of a setting, in the order of a setting that is written as a list. -/
def flagOrder : List Flag :=
  [.newlineCloses, .sameTagCloses, .standalone, .renderEmbedded, .strip, .swallowTrailingNewline]

/-- A template that may be `null`. -/
def templateOf? : Value → Option (Option String)
  | .null => some none
  | .string s => some (some s)
  | _ => none

/-- A flag of a setting. -/
def flagOf? : Value → Option Bool
  | .bool b => some b
  | _ => none

/-- The setting that a list of values writes: the template, then the flags. -/
def ofItems? : List Value → Option SimpleFormatter
  | [] => some {}
  | template :: flags => do
    let template ← templateOf? template
    let options ← (flagOrder.zip flags).foldlM
      (fun (options : TagOptions) (flag, value) => (flagOf? value).map (options.set flag)) {}
    return ⟨template, options⟩

/-- The setting that the fields of a table write. A missing field has its default, an unknown one
says nothing. -/
def ofFields? (fields : List (String × Value)) : Option SimpleFormatter := do
  let template ← match Dict.get? "format_string" fields with
    | none => some none
    | some value => templateOf? value
  let options ← flagOrder.foldlM
    (fun (options : TagOptions) flag =>
      match Dict.get? flag.name fields with
      | none => some options
      | some value => (flagOf? value).map (options.set flag))
    {}
  return ⟨template, options⟩

/-- The setting that a value writes: a table, or a list of at most seven parts. -/
def ofValue? : Value → Option SimpleFormatter
  | .table fields => ofFields? fields
  | .list items => if items.length ≤ flagOrder.length + 1 then ofItems? items else none
  | _ => none

/-- The settings that a table of settings writes. -/
def allOfValue? : Value → Option SimpleFormatters
  | .table fields => fields.mapM fun (tag, value) => (ofValue? value).map fun entry => (tag, entry)
  | _ => none

/-- The setting as a table of all its fields. -/
def toValue (entry : SimpleFormatter) : Value :=
  let flags := flagOrder.map fun flag => (flag.name, Value.bool (entry.options.get flag))
  let template : Value := match entry.formatString with
    | some s => .string s
    | none => .null
  .table (Dict.ofList (("format_string", template) :: flags))

/-! ## 2. Building a parser -/

/-- The name, options and formatter of a setting. The name is looked at before the template. -/
def rule (tag : String) (entry : SimpleFormatter) : Except ConfigError (Text × Template) :=
  let name := normalName tag
  if isValidName name then
    match entry.formatString with
    | none => .error (.missingFormatString tag)
    | some text =>
      match Template.parse text.toList with
      | .ok template => .ok (name, template)
      | .error error => .error (.invalidTemplate tag error)
  else .error (.invalidTagName tag)

end SimpleFormatter

/-- Adds a formatter to a parser, and reports if it takes the place of another. -/
def TagParser.add (parser : TagParser) (tag : Text) (options : TagOptions) (formatter : Formatter) :
    Logged TagParser := do
  if parser.hasTag tag then report (.replacingFormatter (Text.lower tag))
  return parser.insert tag options formatter

/-- Adds simple formatters to a parser, in order. -/
def addSimpleFormatters (parser : TagParser) :
    List (String × SimpleFormatter) → ExceptT ConfigError Logged TagParser
  | [] => return parser
  | (tag, entry) :: rest => do
    match entry.rule tag with
    | .error error => throw error
    | .ok (name, template) =>
      let parser ← parser.add name entry.options (.template template)
      report (.loadedSimpleFormatter name)
      addSimpleFormatters parser rest

/-- The parser of some settings. -/
def buildSimpleParser (settings : SimpleFormatters) : ExceptT ConfigError Logged TagParser :=
  addSimpleFormatters {} settings

end Dispatch.Markup
