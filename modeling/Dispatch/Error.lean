import Dispatch.Files.Tree
import Dispatch.Markup.BuildError

/-!
# Failures of a render

Everything that may go wrong between reading the settings and the finished text of a dispatch.
-/

namespace Dispatch

open Markup (FormatError)

/-- Why a file of settings or variables could not be used. -/
inductive ParseFault where
  /-- The text is not of the format of the file, for the reason that its reader gives. -/
  | malformed (reason : String)
  /-- The text is of the format, but not what the file is for. -/
  | unexpectedShape
  /-- The file of variables holds something else than a table. -/
  | notTable
  deriving DecidableEq, Repr

/-- The fault in words. -/
def ParseFault.message : ParseFault → String
  | .malformed reason => reason
  | .unexpectedShape => "the text does not have the expected shape"
  | .notTable => "top level must be a table of variables"

/-- What is wrong with a group of variables. -/
inductive GroupFault where
  | peopleNotTable
  | personNotTable
  | personnelNotTable
  deriving DecidableEq, Repr

/-- The fault in words. -/
def GroupFault.message : GroupFault → String
  | .peopleNotTable => "people info group must be a table"
  | .personNotTable => "info for each person must be a table"
  | .personnelNotTable => "personnel group must be a table"

/-- Why the template of a dispatch could not be rendered. -/
inductive TemplateFault where
  /-- The template cannot be read as a template. -/
  | syntaxError
  /-- The template was read but its evaluation failed. -/
  | evaluation
  /-- The file of the template could not be read. -/
  | unreadable (path : Path) (error : OsError)
  deriving DecidableEq, Repr

/-- The fault in words. -/
def TemplateFault.message : TemplateFault → String
  | .syntaxError => "the template cannot be read"
  | .evaluation => "the template cannot be evaluated"
  | .unreadable path error =>
    "failed to load template: I/O error on \"" ++ path.text ++ "\": " ++ error.message

/-- Why something could not be rendered or prepared. -/
inductive RenderError where
  | template (fault : TemplateFault)
  /-- There is no template of this name; `included` when another template asked for it. -/
  | templateNotFound (name : String) (included : Bool)
  | markup (error : FormatError)
  | configNotFound (path : Path)
  | varsNotFound (path : Path)
  | parse (path : Path) (fault : ParseFault)
  | peopleInfoGroupNotFound (group : String)
  | personnelGroupNotFound (group : String)
  | personNotFound (name : String)
  | invalidVarGroup (group : String) (fault : GroupFault)
  | io (path : Path) (error : OsError)
  /-- The template asked for something that templates cannot do. -/
  | operation
  deriving DecidableEq, Repr

namespace RenderError

/-- The failure in one line. -/
def message : RenderError → String
  | .template fault => "template error: " ++ fault.message
  | .templateNotFound name _ => "template not found: " ++ name
  | .markup error => "markup error: " ++ error.message
  | .configNotFound path => "simple formatter config file not found at \"" ++ path.text ++ "\""
  | .varsNotFound path => "template variable file \"" ++ path.text ++ "\" not found"
  | .parse path fault => "failed to parse \"" ++ path.text ++ "\": " ++ fault.message
  | .peopleInfoGroupNotFound group => "people info variable group \"" ++ group ++ "\" not found"
  | .personnelGroupNotFound group => "personnel variable group \"" ++ group ++ "\" not found"
  | .personNotFound name => "info for person \"" ++ name ++ "\" not found"
  | .invalidVarGroup group fault =>
    "variable group \"" ++ group ++ "\" is invalid: " ++ fault.message
  | .io path error => "I/O error on \"" ++ path.text ++ "\": " ++ error.message
  | .operation => "the template asked for an operation that is not available"

/-- The failures behind this one. -/
def causes : RenderError → List String
  | .markup error => error.message :: error.causes
  | .io _ error => [error.message]
  | _ => []

open Diagnostic in
/-- The failure with its structure written out. -/
def structured : RenderError → String
  | .template fault => wrapped "Template" (quoted fault.message)
  | .templateNotFound name _ => wrapped "TemplateNotFound" (quoted name)
  | .markup error => wrapped "Markup" error.structured
  | .configNotFound path => record "ConfigNotFound" [("path", path.quoted)]
  | .varsNotFound path => record "VarsNotFound" [("path", path.quoted)]
  | .parse path fault =>
    record "Parse" [("path", path.quoted), ("reason", quoted fault.message)]
  | .peopleInfoGroupNotFound group => wrapped "PeopleInfoGroupNotFound" (quoted group)
  | .personnelGroupNotFound group => wrapped "PersonnelGroupNotFound" (quoted group)
  | .personNotFound name => wrapped "PersonNotFound" (quoted name)
  | .invalidVarGroup group fault =>
    record "InvalidVarGroup" [("group", quoted group), ("reason", quoted fault.message)]
  | .io path error => record "Io" [("path", path.quoted), ("source", error.structured)]
  | .operation => wrapped "Operation" (quoted (message .operation))

instance : Diagnostic RenderError := ⟨message, causes, structured⟩

end RenderError

end Dispatch
