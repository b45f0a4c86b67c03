import Dispatch.Diagnostic
import Dispatch.Files.Path

/-!
# The command line

A command line names a command, its options and the dispatches. An option takes one value, behind
an equals sign or as the next argument; all options but those that collect values are given once.
Arguments are looked at from left to right, and an option is settled when the next one, a dispatch
or the end comes. Behind a double hyphen everything is a dispatch.
-/

namespace Dispatch

/-! ## 1. Commands -/

/-- What a render is asked for. -/
structure RenderArguments where
  templates : Path
  formatters : Option Path := none
  complex : Option Path := none
  vars : List Path := []
  peopleInfoGroups : List String := []
  personnelGroups : List String := []
  out : Option Path := none
  names : List String
  deriving DecidableEq, Repr

/-- A command. -/
inductive Command where
  | render (arguments : RenderArguments)
  deriving DecidableEq, Repr

/-- A command line that was understood. -/
structure CommandLine where
  verbose : Bool
  command : Command
  deriving DecidableEq, Repr

namespace CommandLine

open Diagnostic in
/-- The arguments of a render with their structure written out. -/
def structuredArguments (arguments : RenderArguments) : String :=
  let paths (l : List Path) : String := listed (l.map Path.quoted)
  let texts (l : List String) : String := listed (l.map quoted)
  record "RenderArgs"
    [("templates", arguments.templates.quoted),
     ("formatters", optional (arguments.formatters.map Path.quoted)),
     ("complex", optional (arguments.complex.map Path.quoted)),
     ("vars", paths arguments.vars),
     ("people_info_groups", texts arguments.peopleInfoGroups),
     ("personnel_groups", texts arguments.personnelGroups),
     ("out", optional (arguments.out.map Path.quoted)),
     ("names", texts arguments.names)]

open Diagnostic in
/-- The command line with its structure written out. -/
def structured (line : CommandLine) : String :=
  let command := match line.command with
    | .render arguments => wrapped "Render" (structuredArguments arguments)
  record "Cli" [("verbose", flag line.verbose), ("command", command)]

end CommandLine

/-! ## 2. Refusals -/

/-- Why a command line is not carried out. -/
inductive Usage where
  /-- Help was asked for. -/
  | help
  /-- The version was asked for. -/
  | version
  /-- There are no arguments at all. -/
  | noArguments
  | missingCommand
  | unknownCommand
  | unknownOption
  /-- A flag was given a value. -/
  | valueForFlag
  /-- An option has no value, or a path is empty. -/
  | missingValue
  /-- Something was given twice that can be given once. -/
  | repeated
  | missingRequired
  deriving DecidableEq, Repr

namespace Usage

/-- The status that the program ends with. -/
def exitCode : Usage → Nat
  | .help => 0
  | .version => 0
  | _ => 2

/-- The refusal in words. -/
def message : Usage → String
  | .help =>
    "usage: dispatch [-v] render --templates DIR [--formatters FILE] [--complex PATH] "
      ++ "[--vars FILE]... [--people-info-group GROUP]... [--personnel-group GROUP]... "
      ++ "[--out DIR] NAME..."
  | .version => "dispatch 0.1.0"
  | .noArguments => "a command is required"
  | .missingCommand => "a command is required"
  | .unknownCommand => "there is no such command"
  | .unknownOption => "there is no such option"
  | .valueForFlag => "a flag takes no value"
  | .missingValue => "an option needs a value"
  | .repeated => "an option was given twice"
  | .missingRequired => "the directory of the templates and the name of a dispatch are required"

end Usage

/-! ## 3. Arguments -/

/-- What an argument looks like. -/
inductive Shape where
  /-- A double hyphen. -/
  | separator
  /-- A word behind a double hyphen, perhaps with a value. -/
  | long (name : Text) (value : Option Text)
  /-- Letters behind a hyphen. -/
  | short (letters : Text)
  | plain
  deriving DecidableEq, Repr

/-- The shape of an argument. -/
def Shape.of (argument : Text) : Shape :=
  match argument with
  | ['-', '-'] => .separator
  | '-' :: '-' :: word =>
    match word.dropWhile (· ≠ '=') with
    | _ :: value => .long (word.takeWhile (· ≠ '=')) (some value)
    | [] => .long word none
  | '-' :: c :: letters => .short (c :: letters)
  | _ => .plain

/-- An option of a render. -/
inductive Setting where
  | templates
  | formatters
  | complex
  | vars
  | peopleInfoGroup
  | personnelGroup
  | out
  deriving DecidableEq, Repr

namespace Setting

/-- All options. -/
def all : List Setting :=
  [.templates, .formatters, .complex, .vars, .peopleInfoGroup, .personnelGroup, .out]

/-- The word of an option. -/
def word : Setting → String
  | .templates => "templates"
  | .formatters => "formatters"
  | .complex => "complex"
  | .vars => "vars"
  | .peopleInfoGroup => "people-info-group"
  | .personnelGroup => "personnel-group"
  | .out => "out"

/-- The option of a word. -/
def ofWord? (word : Text) : Option Setting := all.find? fun setting => setting.word.toList = word

/-- Whether an option collects values. -/
def collects : Setting → Bool
  | .vars => true
  | .peopleInfoGroup => true
  | .personnelGroup => true
  | _ => false

/-- Whether the value of an option is a path. -/
def isPath : Setting → Bool
  | .peopleInfoGroup => false
  | .personnelGroup => false
  | _ => true

end Setting

/-- A render whose arguments are being looked at. The last option may not be settled yet, or may
even lack its value. -/
structure Draft where
  verbose : Bool := false
  given : List (Setting × Text) := []
  unsettled : Option (Setting × Option Text) := none
  names : List Text := []

namespace Draft

/-! ## 4. Options of a render -/

/-- Gives a value to an option. -/
def accept (draft : Draft) (setting : Setting) (value : Text) : Except Usage Draft :=
  if !setting.collects && draft.given.any (·.1 = setting) then .error .repeated
  else if setting.isPath && value.isEmpty then .error .missingValue
  else .ok { draft with given := draft.given ++ [(setting, value)] }

/-- Settles the last option. -/
def settle (draft : Draft) : Except Usage Draft :=
  match draft.unsettled with
  | none => .ok draft
  | some (_, none) => .error .missingValue
  | some (setting, some value) => { draft with unsettled := none }.accept setting value

/-- Asks for more events, once. -/
def setVerbose (draft : Draft) : Except Usage Draft := do
  let draft ← draft.settle
  if draft.verbose then throw .repeated else return { draft with verbose := true }

/-- Takes the letters behind a hyphen. -/
def takeLetters (draft : Draft) : Text → Except Usage Draft
  | [] => .ok draft
  | 'v' :: letters => do (← draft.setVerbose).takeLetters letters
  | 'h' :: _ => do
    let _ ← draft.settle
    throw .help
  | _ :: _ => .error .unknownOption

/-- Takes a word behind a double hyphen. -/
def takeWord (draft : Draft) (word : Text) (value : Option Text) : Except Usage Draft :=
  match Setting.ofWord? word, value with
  | some setting, some value => do (← draft.settle).accept setting value
  | some setting, none => do
    let draft ← draft.settle
    return { draft with unsettled := some (setting, none) }
  | none, value =>
    let flags := ["verbose", "help"].map String.toList
    if !flags.contains word then .error .unknownOption
    else if value.isSome then .error .valueForFlag
    else if word = "verbose".toList then draft.setVerbose
    else do
      let _ ← draft.settle
      throw .help

/-- Takes the name of a dispatch. -/
def takeName (draft : Draft) (name : Text) : Except Usage Draft := do
  let draft ← draft.settle
  return { draft with names := draft.names ++ [name] }

/-- Takes an argument of no special shape: the value that an option waits for, or a name. -/
def takePlain (draft : Draft) (argument : Text) : Except Usage Draft :=
  match draft.unsettled with
  | some (setting, none) => .ok { draft with unsettled := some (setting, some argument) }
  | _ => draft.takeName argument

/-- Takes all arguments; `onlyNames` behind a double hyphen. -/
def takeAll (draft : Draft) (onlyNames : Bool) : List Text → Except Usage Draft
  | [] => draft.settle
  | argument :: rest => do
    if onlyNames then (← draft.takeName argument).takeAll true rest
    else
      match Shape.of argument with
      | .separator => draft.takeAll true rest
      | .long word value => (← draft.takeWord word value).takeAll false rest
      | .short letters => (← draft.takeLetters letters).takeAll false rest
      | .plain => (← draft.takePlain argument).takeAll false rest

/-- The values of an option. -/
def values (draft : Draft) (setting : Setting) : List String :=
  (draft.given.filter (·.1 = setting)).map fun (_, value) => String.ofList value

/-- The path of an option. -/
def path? (draft : Draft) (setting : Setting) : Option Path :=
  (draft.values setting).head?.map Path.mk

/-- The arguments of a render; the directory of the templates and a name are required. -/
def finish (draft : Draft) : Except Usage RenderArguments :=
  match draft.path? .templates, draft.names with
  | some templates, _ :: _ =>
    .ok
      { templates := templates
        formatters := draft.path? .formatters
        complex := draft.path? .complex
        vars := (draft.values .vars).map Path.mk
        peopleInfoGroups := draft.values .peopleInfoGroup
        personnelGroups := draft.values .personnelGroup
        out := draft.path? .out
        names := draft.names.map String.ofList }
  | _, _ => .error .missingRequired

end Draft

namespace CommandLine

/-! ## 5. Command lines -/

/-- The words of commands. -/
def commandWords : List Text := ["render", "help"].map String.toList

/-- What a request for help on some words comes to. -/
def helpOn : List Text → Usage
  | [] => .help
  | [word] => if commandWords.contains word then .help else .unknownCommand
  | _ => .unknownCommand

/-- Takes the letters behind a hyphen in front of the command. -/
def takeLetters (verbose : Bool) : Text → Except Usage Bool
  | [] => .ok verbose
  | 'v' :: letters => if verbose then .error .repeated else takeLetters true letters
  | 'h' :: _ => .error .help
  | 'V' :: _ => .error .version
  | _ :: _ => .error .unknownOption

/-- Takes a word behind a double hyphen in front of the command. -/
def takeWord (verbose : Bool) (word : Text) (value : Option Text) : Except Usage Bool :=
  let flags := ["verbose", "help", "version"].map String.toList
  if !flags.contains word then .error .unknownOption
  else if value.isSome then .error .valueForFlag
  else if word = "help".toList then .error .help
  else if word = "version".toList then .error .version
  else if verbose then .error .repeated
  else .ok true

/-- Takes all arguments from the first on. No command comes behind a double hyphen. -/
def takeAll (verbose : Bool) : List Text → Except Usage CommandLine
  | [] => .error (if verbose then .missingCommand else .noArguments)
  | argument :: rest =>
    if argument = "render".toList then do
      let draft ← Draft.takeAll {} false rest
      return ⟨verbose || draft.verbose, .render (← draft.finish)⟩
    else if argument = "help".toList then .error (helpOn rest)
    else match Shape.of argument with
      | .separator =>
        match rest with
        | [] => .error (if verbose then .missingCommand else .noArguments)
        | word :: _ =>
          .error (if commandWords.contains word then .unknownOption else .unknownCommand)
      | .long word value => do takeAll (← takeWord verbose word value) rest
      | .short letters => do takeAll (← takeLetters verbose letters) rest
      | .plain => .error .unknownCommand

/-- Understands a command line. -/
def parse (arguments : List String) : Except Usage CommandLine :=
  takeAll false (arguments.map String.toList)

end CommandLine

end Dispatch
