import Dispatch.Files.Path
import Dispatch.Value.Basic

/-!
# Events

What the library reports while it works: each step of setting up, loading and rendering is one
event, of a level, with a message and named fields. Functions that report are written in the
effect `Logged`, which keeps the events in order.
-/

namespace Dispatch

/-- How important an event is. -/
inductive Level where
  | debug
  | warn
  deriving DecidableEq, Repr

/-- The name of a level. -/
def Level.name : Level → String
  | .debug => "debug"
  | .warn => "warn"

/-- Something worth reporting. -/
inductive Event where
  | replacingFormatter (tag : Text)
  | loadedSimpleFormatter (tag : Text)
  | initializedFormatter (tag : Text) (typeName : String)
  | declaredTwice (tag : Text)
  | loadedComplexFormatter (tag : Text)
  | loadedSource (path : Path)
  | loadedSimpleConfig (path : Path) (count : Nat)
  | emptyVariableFile (path : Path)
  | loadedVariableFile (path : Path)
  | loadedPeople (count : Nat)
  | replacedNames (group : String)
  | noTemplateFile (dispatch : String) (root : Path)
  | loadedTemplate (dispatch : String) (path : Path)
  | loadedFilter (name : String)
  | undefinedVariable (template name : String)
  | rendered (dispatch : String)
  | wrote (dispatch : String) (path : Path)
  | failed (dispatch : String)
  deriving DecidableEq, Repr

namespace Event

/-- The level of an event: what a reader should look at is a warning. -/
def level : Event → Level
  | .declaredTwice _ => .warn
  | .emptyVariableFile _ => .warn
  | _ => .debug

/-- The message of an event. -/
def message : Event → String
  | .replacingFormatter _ => "replacing formatter"
  | .loadedSimpleFormatter _ => "loaded simple formatter"
  | .initializedFormatter _ _ => "initialized complex formatter"
  | .declaredTwice _ => "complex formatter declared twice, keeping the last"
  | .loadedComplexFormatter _ => "loaded complex formatter"
  | .loadedSource _ => "loaded complex formatter source"
  | .loadedSimpleConfig _ _ => "loaded simple formatter config"
  | .emptyVariableFile _ => "template variable file is empty"
  | .loadedVariableFile _ => "loaded template variable file"
  | .loadedPeople _ => "loaded people info"
  | .replacedNames _ => "replaced personnel names with info"
  | .noTemplateFile _ _ => "no template file"
  | .loadedTemplate _ _ => "loaded template"
  | .loadedFilter _ => "loaded template filter"
  | .undefinedVariable _ _ => "undefined template variable"
  | .rendered _ => "rendered dispatch"
  | .wrote _ _ => "wrote dispatch"
  | .failed _ => "dispatch failed"

/-- The fields of an event. -/
def fields : Event → List (String × Value)
  | .replacingFormatter tag => [("tag", .string (String.ofList tag))]
  | .loadedSimpleFormatter tag => [("tag", .string (String.ofList tag))]
  | .initializedFormatter tag typeName =>
    [("tag", .string (String.ofList tag)), ("formatter", .string typeName)]
  | .declaredTwice tag => [("tag", .string (String.ofList tag))]
  | .loadedComplexFormatter tag => [("tag", .string (String.ofList tag))]
  | .loadedSource path => [("path", .string path.text)]
  | .loadedSimpleConfig path count => [("path", .string path.text), ("count", .int count)]
  | .emptyVariableFile path => [("path", .string path.text)]
  | .loadedVariableFile path => [("path", .string path.text)]
  | .loadedPeople count => [("count", .int count)]
  | .replacedNames group => [("group", .string group)]
  | .noTemplateFile dispatch root => [("dispatch", .string dispatch), ("root", .string root.text)]
  | .loadedTemplate dispatch path => [("dispatch", .string dispatch), ("path", .string path.text)]
  | .loadedFilter name => [("filter", .string name)]
  | .undefinedVariable template name => [("template", .string template), ("variable", .string name)]
  | .rendered dispatch => [("dispatch", .string dispatch)]
  | .wrote dispatch path => [("dispatch", .string dispatch), ("path", .string path.text)]
  | .failed dispatch => [("dispatch", .string dispatch)]

end Event

/-- The effect of reporting: the events so far, in order. -/
abbrev Logged := StateM (List Event)

/-- Reports an event. -/
def report (event : Event) : Logged Unit := modify fun events => events ++ [event]

/-- Reports some events. -/
def reportAll (more : List Event) : Logged Unit := modify fun events => events ++ more

end Dispatch
