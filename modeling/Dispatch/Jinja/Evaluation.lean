import Dispatch.Jinja.Filter
import Dispatch.Jinja.Statement
import Dispatch.TemplateSource

/-!
# Evaluation of a template

Expressions are evaluated in a scope: the variables of the render, and over them the names that the
template gives values to. A loop has names of its own, which live as long as the loop; everything
else gives values to the names around it, also a template that is included. A template that was
loaded is kept, one that could not be loaded is asked for again.
-/

namespace Dispatch.Jinja

/-! ## 1. Scopes -/

/-- The names of a loop, or of the whole template. -/
structure Frame where
  locals : Dict Text Datum := []
  /-- The state of the loop. -/
  round : Option Datum := none

/-- The frames around a place, the innermost first, and the variables of the render. -/
structure Scope where
  frames : List Frame
  context : Context

namespace Scope

/-- What a frame knows under a name. -/
def inFrame? (name : Text) (frame : Frame) : Option Datum :=
  match Dict.get? name frame.locals with
  | some d => some d
  | none => if name = "loop".toList then frame.round else none

/-- The value of a name. -/
def get (scope : Scope) (name : Text) : Datum :=
  match scope.frames.findSome? (inFrame? name) with
  | some d => d
  | none =>
    match Dict.get? (String.ofList name) scope.context with
    | some v => Datum.ofValue v
    | none => if globalNames.contains name then .function name else .undefined

end Scope

/-! ## 2. Expressions -/

/-- The result of an operator on two values. -/
def Operator.apply (operator : Operator) (a b : Datum) : Except Fault Datum :=
  match operator with
  | .or => .ok (if a.isTrue then a else b)
  | .and => .ok (if a.isTrue then b else a)
  | .equal => .ok (.bool (a.same b))
  | .unequal => .ok (.bool (!a.same b))
  | .less => .ok (.bool (a.order b == .lt))
  | .lessEqual => .ok (.bool (a.order b != .gt))
  | .greater => .ok (.bool (a.order b == .gt))
  | .greaterEqual => .ok (.bool (a.order b != .lt))
  | .within => Datum.bool <$> b.contains a
  | .add => a.add b
  | .subtract => a.subtract b
  | .concatenate => .ok (a.concatenate b)
  | .multiply => a.multiply b
  | .divide => a.divide b
  | .floorDivide => a.floorDivide b
  | .remainder => a.remainder b

namespace Expression

mutual

/-- The value of an expression. What a choice, `and` or `or` does not need is not evaluated. -/
def eval (filters : Dict String Filter) (scope : Scope) : Expression → Except Fault Datum
  | .constant d => .ok d
  | .variable name => .ok (scope.get name)
  | .not e => do return .bool !(← e.eval filters scope).isTrue
  | .negate e => do (← e.eval filters scope).negate
  | .binary operator a b => do
    let left ← a.eval filters scope
    match operator, left.isTrue with
    | .or, true => return left
    | .and, false => return left
    | _, _ => operator.apply left (← b.eval filters scope)
  | .choice asked yes no => do
    if (← asked.eval filters scope).isTrue then yes.eval filters scope
    else evalOptional filters scope no
  | .filter name e arguments => do
    let d ← e.eval filters scope
    let given ← evalArguments filters scope arguments
    match Dict.get? (String.ofList name) filters with
    | some apply => apply d given
    | none => throw (.unknown name)
  | .test name e arguments => do
    let d ← e.eval filters scope
    let given ← evalArguments filters scope arguments
    match test? name d, given with
    | some result, [] => return .bool result
    | some _, _ :: _ => throw .arguments
    | none, _ => throw (.unknown name)
  | .attribute e name => do
    let d ← e.eval filters scope
    d.part (d.attribute? name)
  | .item e key => do
    let d ← e.eval filters scope
    let k ← key.eval filters scope
    d.part (d.item? k)
  | .call callee arguments => do
    let given ← evalArguments filters scope arguments
    match callee with
    | .variable name =>
      match scope.get name with
      | .function known => callGlobal known given
      | .undefined => throw (.unknown name)
      | _ => throw .operation
    | .attribute _ name => throw (.unknown name)
    | _ => throw .operation
  | .list items => Datum.list <$> evalItems filters scope items
  | .map entries => Datum.ofEntries <$> evalEntries filters scope entries

/-- The value of an expression that may be missing. -/
def evalOptional (filters : Dict String Filter) (scope : Scope) :
    Option Expression → Except Fault Datum
  | none => .ok .undefined
  | some e => e.eval filters scope

/-- The values of the arguments of a call; nothing here takes an argument with a name. -/
def evalArguments (filters : Dict String Filter) (scope : Scope) :
    List (Option Text × Expression) → Except Fault (List Datum)
  | [] => .ok []
  | (none, e) :: rest => do
    let d ← e.eval filters scope
    return d :: (← evalArguments filters scope rest)
  | (some _, _) :: _ => .error .arguments

/-- The values of the items of a list. -/
def evalItems (filters : Dict String Filter) (scope : Scope) :
    List Expression → Except Fault (List Datum)
  | [] => .ok []
  | e :: rest => do
    let d ← e.eval filters scope
    return d :: (← evalItems filters scope rest)

/-- The values of the entries of a map. -/
def evalEntries (filters : Dict String Filter) (scope : Scope) :
    List (Expression × Expression) → Except Fault (List (Datum × Datum))
  | [] => .ok []
  | (key, e) :: rest => do
    let k ← key.eval filters scope
    let d ← e.eval filters scope
    return (k, d) :: (← evalEntries filters scope rest)

end

end Expression

/-! ## 3. Statements -/

/-- What a render starts from. -/
structure Environment where
  source : TemplateSource
  files : FileTree
  filters : Dict String Filter
  context : Context

/-- How far a render is: the names that have values, the printed texts, the last one first, the
templates that were loaded, and how deep loops and included templates go. -/
structure Progress where
  frames : List Frame := [{}]
  printed : List Text := []
  templates : Dict String Template := []
  depth : Nat := 1

/-- Evaluates statements: may fail, prints, loads templates and reports. -/
abbrev Evaluation := ExceptT Fault (StateT Progress Logged)

namespace Evaluation

/-- The value of an expression where the render is. -/
def value (env : Environment) (e : Expression) : Evaluation Datum := do
  match e.eval env.filters ⟨(← get).frames, env.context⟩ with
  | .ok d => return d
  | .error fault => throw fault

/-- Prints a text. -/
def print (text : Text) : Evaluation Unit :=
  modify fun progress => { progress with printed := text :: progress.printed }

/-- Changes the innermost frame. -/
def changeFrame (change : Frame → Frame) : Evaluation Unit :=
  modify fun progress =>
    match progress.frames with
    | [] => { progress with frames := [change {}] }
    | frame :: outer => { progress with frames := change frame :: outer }

mutual

/-- Gives a value to a target. -/
def give : Target → Datum → Evaluation Unit
  | .name name, d =>
    changeFrame fun frame => { frame with locals := Dict.insert name d frame.locals }
  | .several targets, .list items => giveAll targets items
  | .several targets, .map entries => giveAll targets (entries.map (·.1))
  | .several _, _ => throw .unpacking

/-- Gives values to targets, of which there must be as many. -/
def giveAll : List Target → List Datum → Evaluation Unit
  | [], [] => return
  | target :: targets, d :: ds => do
    give target d
    giveAll targets ds
  | _, _ => throw .unpacking

end

/-- The greatest depth. -/
def maxDepth : Nat := 500

/-- By how much an included template is deeper. -/
def includeDepth : Nat := 10

/-- Refuses to go too deep. -/
def checkDepth : Evaluation Unit := do
  if (← get).depth > maxDepth then throw .depth

/-- Does something in a frame of its own. -/
def inFrame {α : Type} (action : Evaluation α) : Evaluation α := do
  checkDepth
  modify fun progress =>
    { progress with frames := {} :: progress.frames, depth := progress.depth + 1 }
  let result ← action
  modify fun progress =>
    { progress with frames := progress.frames.tail, depth := progress.depth - 1 }
  return result

/-- The states of a loop over some items, each with its item. -/
def rounds (size past : Nat) (before : Datum) : List Datum → List (Datum × Datum)
  | [] => []
  | item :: rest =>
    (.loop past size before (rest.head?.getD .undefined), item) :: rounds size (past + 1) item rest

/-- The items for which an expression is true. -/
def select (env : Environment) (target : Target) (only : Expression) :
    List Datum → Evaluation (List Datum)
  | [] => return []
  | item :: rest => do
    give target item
    let chosen := (← value env only).isTrue
    let more ← select env target only rest
    return if chosen then item :: more else more

/-- The template of a name; it is loaded if it was not yet. -/
def template (env : Environment) (name : String) : Evaluation Template := do
  match Dict.get? name (← get).templates with
  | some template => return template
  | none =>
    match ← (env.source.load env.files name : Logged _) with
    | .error failure => throw (.unreadable failure.path failure.error)
    | .ok none => throw (.missing name)
    | .ok (some source) =>
      match Template.parse? source with
      | none => throw .malformed
      | some template =>
        modify fun progress =>
          { progress with templates := Dict.insert name template progress.templates }
        return template

/-- The first template of some names that there is. -/
def firstTemplate (env : Environment) : List Datum → Evaluation (Option Template)
  | [] => return none
  | .string name :: rest => do
    let found ← tryCatch (some <$> template env (String.ofList name)) fun fault =>
      match fault with
      | .missing _ => return none
      | fault => throw fault
    match found with
    | some template => return some template
    | none => firstTemplate env rest
  | _ :: _ => throw .operation

/-- Does what an include asks for, with the templates of some names. -/
def includeFirst (env : Environment) (run : Template → Evaluation Unit) (ignoreMissing : Bool)
    (names : Datum) : Evaluation Unit := do
  let choices := match names with
    | .list items => items
    | d => [d]
  match ← firstTemplate env choices with
  | some template => run template
  | none =>
    if ignoreMissing || choices.isEmpty then return
    else throw (.missing (String.ofList (names.printed)))

end Evaluation

open Evaluation

namespace Statement

mutual

/-- Evaluates a statement; `run` evaluates an included template. -/
def eval (env : Environment) (run : Template → Evaluation Unit) : Statement → Evaluation Unit
  | .text written => print written
  | .output e => do print (← value env e).printed
  | .loop target items only body otherwise => do
    match (← value env items).items? with
    | none => throw .operation
    | some all =>
      let chosen ← match only with
        | none => pure all
        | some e => inFrame (select env target e all)
      inFrame do
        (rounds chosen.length 0 .undefined chosen).forM fun (round, item) => do
          changeFrame fun frame => { frame with round := some round }
          give target item
          evalAll env run body
      if chosen.isEmpty then evalAll env run otherwise
  | .condition asked yes no => do
    if (← value env asked).isTrue then evalAll env run yes else evalAll env run no
  | .assign target e => do give target (← value env e)
  | .capture target body => do
    let before := (← get).printed
    modify fun progress => { progress with printed := [] }
    evalAll env run body
    let inside := (← get).printed
    modify fun progress => { progress with printed := before }
    give target (.string inside.reverse.flatten)
  | .inclusion name ignoreMissing => do
    includeFirst env run ignoreMissing (← value env name)

/-- Evaluates statements in order. -/
def evalAll (env : Environment) (run : Template → Evaluation Unit) :
    List Statement → Evaluation Unit
  | [] => return
  | first :: rest => do
    first.eval env run
    evalAll env run rest

end

end Statement

/-! ## 4. Templates -/

/-- Evaluates an included template, in which others may be included so many levels deep. -/
def Template.evalIncluded (env : Environment) : Nat → Template → Evaluation Unit
  | 0, _ => throw .depth
  | levels + 1, template => do
    modify fun progress => { progress with depth := progress.depth + includeDepth }
    checkDepth
    tryCatch (Statement.evalAll env (evalIncluded env levels) template.body) fun _ =>
      throw .included
    modify fun progress => { progress with depth := progress.depth - includeDepth }

/-- Evaluates a template. The levels suffice for every depth that is allowed. -/
def Template.eval (env : Environment) (template : Template) : Evaluation Unit :=
  Statement.evalAll env (evalIncluded env (maxDepth / includeDepth + 1)) template.body

end Dispatch.Jinja
