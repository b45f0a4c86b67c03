import Dispatch.Error
import Dispatch.Event
import Dispatch.Json.Reading
import Dispatch.Markup.SimpleFormatter
import Dispatch.Text.Blank
import Dispatch.Text.Case
import Dispatch.Toml.Reading
import Dispatch.Yaml.Reading

/-!
# Files of settings and variables

Simple formatters are set in a file of TOML. Variables come from files whose formats their names
tell; later files replace the variables of earlier ones, and a file without contents adds nothing.
How a text of a format is read is left to readers, which may be any functions of the text.
-/

namespace Dispatch

open Markup (SimpleFormatter SimpleFormatters)

/-! ## 1. Formats -/

/-- The format of a file of variables. -/
inductive FileFormat where
  | toml
  | yaml
  | json
  deriving DecidableEq, Repr

namespace FileFormat

/-- The format that the name of a file tells by its extension, in either case. -/
def ofPath (path : Path) : FileFormat :=
  match path.extension?.map fun extension => String.ofList (Text.lowerAscii extension) with
  | some "yaml" => .yaml
  | some "yml" => .yaml
  | some "json" => .json
  | _ => .toml

/-- Reads a text of a format; of a text that is not of the format no more is said. -/
def read (format : FileFormat) (text : Text) : Except String Value :=
  let value? := match format with
    | .toml => Toml.read? text
    | .yaml => Yaml.read? text
    | .json => Json.read? text
  match value? with
  | some value => .ok value
  | none => .error "the text is malformed"

end FileFormat

/-- Read the texts of each format; a text that is not of its format is refused with a reason. -/
abbrev Readers := FileFormat → Text → Except String Value

/-- The text of a file that must be there. -/
def FileTree.require (tree : FileTree) (path : Path) (missing : RenderError) :
    Except RenderError String :=
  match tree.readText path with
  | .ok text => .ok text
  | .error .notFound => .error missing
  | .error failure => .error (.io path failure)

/-! ## 2. Simple formatters -/

/-- The setting that a value of TOML writes; a list may have more parts than a setting has. -/
def Markup.SimpleFormatter.ofSetting? : Value → Option SimpleFormatter
  | .table fields => SimpleFormatter.ofFields? fields
  | .list items => SimpleFormatter.ofItems? items
  | _ => none

/-- The settings that a table writes. -/
def Markup.SimpleFormatter.allOfSettings? : Value → Option SimpleFormatters
  | .table fields =>
    fields.mapM fun (tag, value) => (SimpleFormatter.ofSetting? value).map fun entry => (tag, entry)
  | _ => none

/-- Loads the settings of simple formatters from a file. -/
def loadSimpleFormatters (tree : FileTree) (path : Path) (read : Readers := FileFormat.read) :
    Logged (Except RenderError SimpleFormatters) := do
  match tree.require path (.configNotFound path) with
  | .error failure => return .error failure
  | .ok text =>
    match read .toml text.toList with
    | .error reason => return .error (.parse path (.malformed reason))
    | .ok settings =>
      match SimpleFormatter.allOfSettings? settings with
      | none => return .error (.parse path .unexpectedShape)
      | some formatters =>
        report (.loadedSimpleConfig path formatters.length)
        return .ok formatters

/-! ## 3. Variables -/

/-- Loads the variables of one file over those of earlier files. -/
def loadVariableFile (tree : FileTree) (path : Path) (vars : Context) (read : Readers) :
    Logged (Except RenderError Context) := do
  match tree.require path (.varsNotFound path) with
  | .error failure => return .error failure
  | .ok text =>
    if Text.isBlankText text.toList then
      report (.emptyVariableFile path)
      return .ok vars
    else match read (FileFormat.ofPath path) text.toList with
      | .error reason => return .error (.parse path (.malformed reason))
      | .ok (.table fields) =>
        report (.loadedVariableFile path)
        return .ok (Dict.override vars fields)
      | .ok .null =>
        report (.emptyVariableFile path)
        report (.loadedVariableFile path)
        return .ok vars
      | .ok _ => return .error (.parse path .notTable)

/-- Loads the variables of some files in order, up to the first failure. -/
def loadVariablesOver (tree : FileTree) (vars : Context) (paths : List Path) (read : Readers) :
    Logged (Except RenderError Context) :=
  match paths with
  | [] => return .ok vars
  | path :: paths => do
    match ← loadVariableFile tree path vars read with
    | .error failure => return .error failure
    | .ok vars => loadVariablesOver tree vars paths read

/-- Loads the variables of some files. -/
def loadVariables (tree : FileTree) (paths : List Path) (read : Readers := FileFormat.read) :
    Logged (Except RenderError Context) :=
  loadVariablesOver tree [] paths read

end Dispatch
