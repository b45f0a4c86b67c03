import Dispatch.Event
import Dispatch.Files.Tree

/-!
# Where templates come from

A source gives the text of the template that belongs to a dispatch. A directory holds one file for
each template, under the name of the dispatch or that name with an ending; templates may also be
given outright.
-/

namespace Dispatch

/-- A file that cannot be read. -/
structure Unreadable where
  path : Path
  error : OsError
  deriving DecidableEq, Repr

/-- Gives the text of a template by its name; there may be none, or its file may be unreadable. -/
structure TemplateSource where
  load : FileTree → String → Logged (Except Unreadable (Option String))

namespace TemplateSource

/-- The paths where the template of a name may be, the preferred one first. -/
def candidates (root : Path) (name : String) : List Path :=
  [root.join name, root.join (name ++ ".txt")]

/-- The templates in the files of a directory. -/
def directory (root : Path) : TemplateSource where
  load tree name := do
    match (candidates root name).find? tree.isFile with
    | none =>
      report (.noTemplateFile name root)
      return .ok none
    | some path =>
      match tree.readText path with
      | .error failure => return .error ⟨path, failure⟩
      | .ok text =>
        report (.loadedTemplate name path)
        return .ok (some text)

/-- The templates of a dictionary. -/
def memory (templates : Dict String String) : TemplateSource where
  load _ name := return .ok (Dict.get? name templates)

end TemplateSource

end Dispatch
