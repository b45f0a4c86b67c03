import Dispatch.Markup.Registry

/-!
# Sources of formatters

A source declares formatters into a registry when it is asked for a path. The source at hand is a
table of modules; two ways of writing one path lead to the same module.
-/

namespace Dispatch.Markup

/-- Why a source declares nothing, or not all. -/
inductive SourceError where
  | notFound
  | failed (cause : HandlerError)
  deriving DecidableEq, Repr

namespace SourceError

/-- The failure in one line. -/
def message : SourceError → String
  | .notFound => "source not found"
  | .failed cause => cause.message

/-- The failure with its structure written out. -/
def structured : SourceError → String
  | .notFound => "NotFound"
  | .failed cause => Diagnostic.wrapped "Failed" (quoted cause.message)

instance : Diagnostic SourceError := ⟨message, fun _ => [], structured⟩

end SourceError

/-- What declares formatters for a path, into a registry it is given. -/
def Source := Path → Registry → Except SourceError Unit × Registry

/-- A module: it declares formatters, and may fail afterwards. -/
structure Module where
  declarations : List Declaration
  failure : Option HandlerError := none

/-- Modules by path. -/
structure ModuleTable where
  modules : List (Path × Module) := []

namespace ModuleTable

/-- Puts a module at a path in place of the one that is there; the path stays as it was written
first. -/
def insertInto (path : Path) (module : Module) : List (Path × Module) → List (Path × Module)
  | [] => [(path, module)]
  | (other, present) :: rest =>
    if other.same path then (other, module) :: rest
    else (other, present) :: insertInto path module rest

/-- The table with a module at a path. -/
def insert (path : Path) (module : Module) (table : ModuleTable) : ModuleTable :=
  ⟨insertInto path module table.modules⟩

/-- The module at a path. -/
def module? (path : Path) (table : ModuleTable) : Option Module :=
  (table.modules.find? fun (other, _) => other.same path).map (·.2)

/-- Whether there is a module at a path. -/
def contains (path : Path) (table : ModuleTable) : Bool := (table.module? path).isSome

/-- Whether there are no modules. -/
def isEmpty (table : ModuleTable) : Bool := table.modules.isEmpty

/-- The table as a source. -/
def source (table : ModuleTable) : Source := fun path registry =>
  match table.module? path with
  | none => (.error .notFound, registry)
  | some module =>
    let registry : Registry := ⟨registry.pending ++ module.declarations⟩
    match module.failure with
    | none => (.ok (), registry)
    | some cause => (.error (.failed cause), registry)

/-- Puts a path into a list of paths in order. -/
def insertPath (path : Path) : List Path → List Path
  | [] => [path]
  | other :: rest =>
    if other.before path then other :: insertPath path rest else path :: other :: rest

/-- The table with its structure written out: the paths, component by component in order. -/
def structured (table : ModuleTable) : String :=
  let paths := table.modules.foldr (fun (path, _) paths => insertPath path paths) []
  Diagnostic.record "ModuleTable" [("modules", Diagnostic.listed (paths.map (·.quoted)))]

end ModuleTable

end Dispatch.Markup
