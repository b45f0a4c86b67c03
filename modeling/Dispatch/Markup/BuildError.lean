import Dispatch.Files.Path
import Dispatch.Markup.Template

/-!
# Failures while building a parser

A parser is built whole or not at all. What may be wrong is in the settings, which the user can
mend, or in a formatter that a source declares.
-/

namespace Dispatch.Markup

/-- What may be wrong in the settings. -/
inductive ConfigError where
  /-- No source of formatters has this path. -/
  | sourceNotFound (path : Path)
  /-- The source failed while it declared its formatters. -/
  | sourceFailed (path : Path) (cause : HandlerError)
  /-- A simple formatter has no template. -/
  | missingFormatString (tag : String)
  /-- A simple formatter is named so that no tag can call it. -/
  | invalidTagName (tag : String)
  /-- The template of a simple formatter cannot be read. -/
  | invalidTemplate (tag : String) (error : TemplateSyntaxError)
  deriving DecidableEq, Repr

/-- What may be wrong with a declared formatter. -/
inductive LoadError where
  /-- The formatter is named so that no tag can call it. -/
  | invalidTagName (tag typeName : String)
  /-- The formatter could not be made. -/
  | construct (tag : Text) (typeName : String) (cause : HandlerError)
  deriving DecidableEq, Repr

/-- Why a parser could not be built. -/
inductive BuildError where
  | config (error : ConfigError)
  | load (error : LoadError)
  deriving DecidableEq, Repr

namespace ConfigError

/-- The failure in one line. -/
def message : ConfigError → String
  | .sourceNotFound path => "complex formatter source file not found at \"" ++ path.text ++ "\""
  | .sourceFailed path cause =>
    "failed to load complex formatter source \"" ++ path.text ++ "\": " ++ cause.message
  | .missingFormatString tag => "simple formatter \"" ++ tag ++ "\" has no format_string"
  | .invalidTagName tag => "invalid tag name \"" ++ tag ++ "\" for simple formatter"
  | .invalidTemplate tag error =>
    "invalid format_string for simple formatter \"" ++ tag ++ "\": " ++ error.message

/-- The failures behind this one. -/
def causes : ConfigError → List String
  | .sourceFailed _ cause => [cause.message]
  | _ => []

open Diagnostic in
/-- The failure with its structure written out. -/
def structured : ConfigError → String
  | .sourceNotFound path => record "SourceNotFound" [("path", path.quoted)]
  | .sourceFailed path cause =>
    record "SourceFailed" [("path", path.quoted), ("source", quoted cause.message)]
  | .missingFormatString tag => record "MissingFormatString" [("tag", quoted tag)]
  | .invalidTagName tag => record "InvalidTagName" [("tag", quoted tag)]
  | .invalidTemplate tag error =>
    record "InvalidTemplate" [("tag", quoted tag), ("reason", quoted error.message)]

instance : Diagnostic ConfigError := ⟨message, causes, structured⟩

end ConfigError

namespace LoadError

/-- The failure in one line. -/
def message : LoadError → String
  | .invalidTagName tag typeName =>
    "formatter " ++ typeName ++ " was registered with invalid tag name \"" ++ tag ++ "\""
  | .construct tag typeName cause =>
    "failed to initialize formatter " ++ typeName ++ " for tag \"" ++ String.ofList tag ++ "\": "
      ++ cause.message

/-- The failures behind this one. -/
def causes : LoadError → List String
  | .invalidTagName _ _ => []
  | .construct _ _ cause => [cause.message]

open Diagnostic in
/-- The failure with its structure written out. -/
def structured : LoadError → String
  | .invalidTagName tag typeName =>
    record "InvalidTagName" [("tag", quoted tag), ("type_name", quoted typeName)]
  | .construct tag typeName cause =>
    record "Construct"
      [("tag", quoted (String.ofList tag)), ("type_name", quoted typeName),
       ("source", quoted cause.message)]

instance : Diagnostic LoadError := ⟨message, causes, structured⟩

end LoadError

namespace BuildError

/-- The failure in one line. -/
def message : BuildError → String
  | .config error => error.message
  | .load error => error.message

/-- The failures behind this one. -/
def causes : BuildError → List String
  | .config error => error.causes
  | .load error => error.causes

open Diagnostic in
/-- The failure with its structure written out. -/
def structured : BuildError → String
  | .config error => wrapped "Config" error.structured
  | .load error => wrapped "FormatterLoad" error.structured

instance : Diagnostic BuildError := ⟨message, causes, structured⟩

end BuildError

end Dispatch.Markup
