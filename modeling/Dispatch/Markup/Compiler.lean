import Dispatch.Markup.Passes
import Dispatch.Markup.SimpleFormatter
import Dispatch.Markup.Source

/-!
# Building the two passes

A compiler owns the registry that sources declare into. Every build drains it, so a build leaves
nothing for the next one, whether it succeeds or not. The passes are built whole: the simple one
first, and any failure fails both.
-/

namespace Dispatch.Markup

/-- Adds made handlers to a parser, in order. -/
def addLoadedFormatters (parser : TagParser) : List LoadedFormatter → Logged TagParser
  | [] => return parser
  | formatter :: rest => do
    let parser ← parser.add formatter.tag formatter.options (.handler formatter.handler)
    report (.loadedComplexFormatter formatter.tag)
    addLoadedFormatters parser rest

/-- Drains a registry into a parser. The registry is empty afterwards. -/
def buildComplexParser (registry : Registry) : Logged (Except LoadError TagParser × Registry) := do
  let (drained, registry) := registry.drain
  reportAll drained.events
  match drained.result with
  | .error failure => return (.error failure, registry)
  | .ok formatters =>
    let parser ← addLoadedFormatters {} formatters
    return (.ok parser, registry)

/-- A compiler of complex formatters. -/
structure Compiler where
  registry : Registry := {}

namespace Compiler

/-- Loads the source at a path and makes its formatters. -/
def build (compiler : Compiler) (path : Path) (source : Source) :
    Logged (Except BuildError TagParser × Compiler) := do
  let (outcome, registry) := source path compiler.registry
  match outcome with
  | .error .notFound => return (.error (.config (.sourceNotFound path)), {})
  | .error (.failed cause) => return (.error (.config (.sourceFailed path cause)), {})
  | .ok () =>
    let (result, registry) ← buildComplexParser registry
    match result with
    | .error failure => return (.error (.load failure), ⟨registry⟩)
    | .ok parser =>
      report (.loadedSource path)
      return (.ok parser, ⟨registry⟩)

/-- The compiler with its structure written out. -/
def structured (compiler : Compiler) : String :=
  Diagnostic.record "ComplexCompiler" [("registry", compiler.registry.structured)]

end Compiler

/-- Builds the passes that are asked for. -/
def Passes.build (simple : Option SimpleFormatters) (complex : Option (Path × Source)) :
    ExceptT BuildError Logged Passes := do
  let simpleParser ← match simple with
    | none => pure none
    | some settings => some <$> (buildSimpleParser settings).adapt .config
  let complexParser ← match complex with
    | none => pure none
    | some (path, source) =>
      let (result, _) ← (Compiler.build {} path source : Logged _)
      some <$> ExceptT.mk (pure result)
  return { complex := complexParser, simple := simpleParser }

end Dispatch.Markup
