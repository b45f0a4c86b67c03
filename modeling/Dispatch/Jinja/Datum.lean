import Dispatch.Number.Notation
import Dispatch.Text.Quoted
import Dispatch.Value.Basic

/-!
# Values of a template

What expressions evaluate to: the variables of a render, and what is made of them. A value that is
not there is a value too, which prints as nothing.
-/

namespace Dispatch.Jinja

/-- A value of a template. The entries of a map are in ascending order of their keys. -/
inductive Datum where
  | undefined
  | none
  | bool (b : Bool)
  | int (n : Int)
  | float (x : Float)
  | string (text : Text)
  | list (items : List Datum)
  | map (entries : List (Datum × Datum))
  /-- The state of a loop: how many rounds are over, how many there are, and the items before and
  after. -/
  | loop (past size : Nat) (before after : Datum)
  /-- A function that every template knows. -/
  | function (name : Text)
  deriving Inhabited, Repr

namespace Datum

/-! ## 1. Variables -/

mutual

/-- The value of a variable. -/
def ofValue : Value → Datum
  | .null => .none
  | .bool b => .bool b
  | .int n => .int n
  | .float x => .float x
  | .string s => .string s.toList
  | .list items => .list (ofValues items)
  | .table fields => .map (ofFields fields)

/-- The values of the items of a variable. -/
def ofValues : List Value → List Datum
  | [] => []
  | value :: values => ofValue value :: ofValues values

/-- The entries that the fields of a variable are. -/
def ofFields : List (String × Value) → List (Datum × Datum)
  | [] => []
  | (name, value) :: fields => (.string name.toList, ofValue value) :: ofFields fields

end

/-! ## 2. Printing -/

/-- A truth value in print. -/
def printedBool (b : Bool) : Text := (if b then "True" else "False").toList

mutual

/-- A value inside a list or a map in print. -/
def nested : Datum → Text
  | .undefined => "undefined".toList
  | .none => "None".toList
  | .bool b => printedBool b
  | .int n => Text.ofInt n
  | .float x => FloatStyle.nested.write x
  | .string text => Text.quoted text
  | .list items => '[' :: nestedItems items ++ [']']
  | .map entries => '{' :: nestedEntries entries ++ ['}']
  | .loop past size _ _ => "<loop ".toList ++ Text.ofNat past ++ '/' :: Text.ofNat size ++ ['>']
  | .function name => "<function ".toList ++ name ++ ['>']

/-- The items of a list in print. -/
def nestedItems : List Datum → Text
  | [] => []
  | [item] => nested item
  | item :: items => nested item ++ ',' :: ' ' :: nestedItems items

/-- The entries of a map in print. -/
def nestedEntries : List (Datum × Datum) → Text
  | [] => []
  | [(key, value)] => nested key ++ ':' :: ' ' :: nested value
  | (key, value) :: entries =>
    nested key ++ ':' :: ' ' :: nested value ++ ',' :: ' ' :: nestedEntries entries

end

/-- A value in print: a text as it is, and nothing for a value that is not there. -/
def printed : Datum → Text
  | .undefined => []
  | .string text => text
  | .float x => FloatStyle.printed.write x
  | d => d.nested

/-! ## 3. Truth, kinds and parts -/

/-- Whether a value counts as true: nothing, zero and what is empty do not. -/
def isTrue : Datum → Bool
  | .undefined => false
  | .none => false
  | .bool b => b
  | .int n => n ≠ 0
  | .float x => x != 0.0
  | .string text => !text.isEmpty
  | .list items => !items.isEmpty
  | .map entries => !entries.isEmpty
  | _ => true

/-- Whether a value is not there. -/
def isUndefined : Datum → Bool
  | .undefined => true
  | _ => false

/-- Whether a value is nothing or not there. -/
def isAbsent : Datum → Bool
  | .undefined => true
  | .none => true
  | _ => false

/-- The items that a loop goes over: those of a list, the characters of a text, the keys of a
map. -/
def items? : Datum → Option (List Datum)
  | .undefined => some []
  | .none => some []
  | .string text => some (text.map fun c => .string [c])
  | .list items => some items
  | .map entries => some (entries.map (·.1))
  | _ => Option.none

/-- The number of items of a value. -/
def size? : Datum → Option Nat
  | .string text => some text.length
  | .list items => some items.length
  | .map entries => some entries.length
  | _ => Option.none

end Datum

end Dispatch.Jinja
