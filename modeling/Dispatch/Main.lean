import Dispatch.Program

/-!
# The program outside

The program works on a picture of the files it needs. The picture starts with the paths that the
arguments name; when the program has looked for a template that the picture lacks, the picture is
completed and the program starts again. What it writes goes to the disk at the end.
-/

namespace Dispatch.Outside

/-- The variable of the environment that tells which events are shown. -/
def logVariable : String := "RUST_LOG"

/-- How often the picture of the files is completed at most. -/
def maxRounds : Nat := 1000

/-- What is at a path on the disk. -/
def entry (path : String) : IO (Option Entry) := do
  try
    return some (.file (← IO.FS.readBinFile path))
  catch
    | .noFileOrDirectory .. => return none
    | _ => return some .directory

/-- The picture of the files with what is on the way to a path. -/
def observe (files : FileTree) (path : Path) : IO FileTree := do
  let mut files := files
  for count in [1 : path.pieces.length + 1] do
    let part := String.ofList (Text.joinWith ['/'] (path.pieces.take count))
    match files.locate ⟨part⟩ with
    | .error _ => return files
    | .ok place =>
      if (files.entryAt? place).isNone then
        match ← entry part with
        | some found => files := files.put place found
        | none => return files
  return files

/-- The picture with what is on the way to some paths. -/
def observeAll (files : FileTree) (paths : List Path) : IO FileTree := paths.foldlM observe files

/-- The picture that has the working directory only. -/
def emptyPicture : IO FileTree := do
  let here := (Text.splitOn '/' (toString (← IO.currentDir)).toList).filter (· ≠ [])
  let above := (List.range (here.length + 1)).map fun count => here.take count
  return above.foldl (fun files place => files.put place .directory) ⟨[], here⟩

/-- The paths that the arguments of a render name. -/
def namedPaths (arguments : RenderArguments) : List Path :=
  let written := match arguments.out with
    | none => []
    | some out => out :: arguments.names.map (RunState.target out)
  arguments.templates :: arguments.formatters.toList ++ arguments.vars ++ written

/-- The paths where templates were looked for and not found. -/
def missedPaths (events : List Event) : List Path :=
  events.flatMap fun event =>
    match event with
    | .noTemplateFile name root => TemplateSource.candidates root name
    | _ => []

/-- Writes what is in the second picture but not in the first. -/
def writeBack (before after : FileTree) : IO Unit :=
  after.entries.forM fun (place, found) => do
    let path := String.ofList ('/' :: Text.joinWith ['/'] place)
    match found, before.entryAt? place with
    | .directory, none => IO.FS.createDirAll path
    | .file bytes, some (.file old) => if bytes != old then IO.FS.writeBinFile path bytes
    | .file bytes, none => IO.FS.writeBinFile path bytes
    | _, _ => return

/-- An event in one line. -/
def eventLine (event : Event) : String :=
  let fields := event.fields.map fun (name, value) => " " ++ name ++ "=" ++ value.asText
  event.level.name ++ ": " ++ event.message ++ String.join fields

/-- Carries out a command line and ends with its status. -/
def carryOut (line : CommandLine) : IO UInt32 := do
  let setting ← IO.getEnv logVariable
  let .render arguments := line.command
  let mut files ← observeAll (← emptyPicture) (namedPaths arguments)
  for _ in [0 : maxRounds] do
    let (_, events) := (line.run ({} : Markup.ModuleTable).source files).run []
    let completed ← observeAll files (missedPaths events)
    if completed.entries.length = files.entries.length then break
    files := completed
  let ending := Ending.ofLine line setting files
  writeBack files ending.files
  IO.print (String.ofList ending.printed)
  ending.events.forM fun event => IO.eprintln (eventLine event)
  ending.complaints.forM fun complaint => IO.eprintln complaint
  return ending.exitCode.toUInt32

end Dispatch.Outside

open Dispatch in
/-- Runs the program on its arguments. -/
def main (arguments : List String) : IO UInt32 := do
  match CommandLine.parse arguments with
  | .ok line => Outside.carryOut line
  | .error refusal =>
    if refusal.exitCode = 0 then IO.println refusal.message else IO.eprintln refusal.message
    return refusal.exitCode.toUInt32
