import Dispatch.Jinja.Operation
import Dispatch.Text.Case

/-!
# Filters, tests and functions

What templates can do with values by name. A filter is given the value and the arguments behind its
name; one that takes no such arguments refuses a template that gives it some.
-/

namespace Dispatch.Jinja

/-- Makes a value of a value and some arguments. -/
abbrev Filter := Datum → List Datum → Except Fault Datum

namespace Filter

/-! ## 1. Filters -/

/-- A filter on the text of a value, without arguments. -/
def onText (change : Text → Text) : Filter
  | d, [] => .ok (.string (change d.printed))
  | _, _ :: _ => .error .arguments

/-- The number of items of a value. -/
def length : Filter
  | d, [] =>
    match d.size? with
    | some n => .ok (.int n)
    | none => .error .operation
  | _, _ :: _ => .error .arguments

/-- The items in print behind each other. The separator is left out as long as there is no text. -/
def joined (separator : Text) (items : List Datum) : Text :=
  items.foldl
    (fun text item => if text.isEmpty then item.printed else text ++ separator ++ item.printed) []

/-- The items of a value in print, with a separator if one is given. -/
def join (d : Datum) (arguments : List Datum) : Except Fault Datum :=
  let withSeparator (separator : Text) : Except Fault Datum :=
    if d.isAbsent then .ok (.string [])
    else match d.items? with
      | some items => .ok (.string (joined separator items))
      | none => .error .operation
  match arguments with
  | [] => withSeparator []
  | [separator] => withSeparator (if separator.isAbsent then [] else separator.printed)
  | _ => .error .arguments

/-- The value itself, or another one for a value that is not there; if asked for, also for a value
that does not count as true. -/
def default (d : Datum) (arguments : List Datum) : Except Fault Datum :=
  let other (given : Datum) : Datum := if given.isAbsent then .string [] else given
  let choose (given : Datum) (lax : Bool) : Datum :=
    if d.isUndefined || (lax && !d.isTrue) then other given else d
  match arguments with
  | [] => .ok (choose .undefined false)
  | [given] => .ok (choose given false)
  | [given, .bool lax] => .ok (choose given lax)
  | [given, lax] => if lax.isAbsent then .ok (choose given false) else .error .arguments
  | _ => .error .arguments

/-- The filters that every template knows. -/
def common : Dict String Filter :=
  Dict.ofList
    [("upper", onText Text.upper), ("lower", onText Text.lower), ("length", length),
     ("count", length), ("join", join), ("default", default), ("d", default)]

end Filter

/-! ## 2. Tests -/

/-- What a test says of a value; nothing if there is no such test. -/
def test? (name : Text) (d : Datum) : Option Bool :=
  match String.ofList name with
  | "defined" => some (!d.isUndefined)
  | "undefined" => some d.isUndefined
  | "none" => some (match d with
      | .none => true
      | _ => false)
  | _ => none

/-! ## 3. Functions -/

/-- The names that have a value in every template. -/
def globalNames : List Text := ["range", "dict", "namespace", "debug"].map String.toList

/-- The longest row of numbers. -/
def maxRange : Nat := 100000

/-- A value as a bound of a row of numbers. -/
def bound (d : Datum) : Except Fault Nat :=
  match d.int? with
  | some n => if 0 ≤ n ∧ n < Nat.pow 2 32 then .ok n.toNat else .error .operation
  | none => .error .operation

/-- A bound that may be left out. -/
def optionalBound (d : Datum) : Except Fault (Option Nat) :=
  if d.isAbsent then .ok none else some <$> bound d

/-- The numbers from one bound to below another, in steps. -/
def numbers (low high step : Nat) : Except Fault Datum :=
  if step = 0 then .error .operation
  else
    let size := (high - low + step - 1) / step
    if size > maxRange then .error .operation
    else .ok (.list ((List.range size).map fun i => .int (low + i * step : Nat)))

/-- A row of numbers: below one bound, or between two, or in steps. -/
def range : List Datum → Except Fault Datum
  | [high] => do numbers 0 (← bound high) 1
  | low :: high :: more => do
    let low ← bound low
    let high ← optionalBound high
    let step ← match more with
      | [] => pure 1
      | [step] => do pure ((← optionalBound step).getD 1)
      | _ => throw .arguments
    match high with
    | some high => numbers low high step
    | none => numbers 0 low step
  | [] => .error .arguments

/-- Calls a function that every template knows; only `range` can be called. -/
def callGlobal (name : Text) (arguments : List Datum) : Except Fault Datum :=
  if name = "range".toList then range arguments else .error .arguments

end Dispatch.Jinja
