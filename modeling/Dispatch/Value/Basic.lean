import Dispatch.Dict
import Dispatch.Number.Notation

/-!
# Values

What a template variable, a setting or a handler's context can hold, and the compact text of such a
value: no spaces, the fields of a table in the order of their keys.
-/

namespace Dispatch

/-- A value of a template variable. The fields of a table are in ascending order of their names. -/
inductive Value where
  | null
  | bool (b : Bool)
  | int (n : Int)
  | float (x : Float)
  | string (s : String)
  | list (items : List Value)
  | table (fields : List (String × Value))
  deriving Inhabited, Repr

/-- The variables a render starts from, by name. -/
abbrev Context := Dict String Value

namespace Value

/-- A character of a compact string: quotes, backslashes and control characters are escaped. -/
def compactChar (c : Char) : Text :=
  if c = '"' then ['\\', '"']
  else if c = '\\' then ['\\', '\\']
  else if c = '\n' then ['\\', 'n']
  else if c = '\r' then ['\\', 'r']
  else if c = '\t' then ['\\', 't']
  else if c = '\x08' then ['\\', 'b']
  else if c = '\x0c' then ['\\', 'f']
  else if c.toNat < 0x20 then
    let digits := Nat.toDigits 16 c.toNat
    ['\\', 'u'] ++ List.replicate (4 - digits.length) '0' ++ digits
  else [c]

/-- A string of compact text. -/
def compactString (s : String) : Text := '"' :: s.toList.flatMap compactChar ++ ['"']

mutual

/-- The compact text of a value. -/
def compact : Value → Text
  | .null => "null".toList
  | .bool b => (if b then "true" else "false").toList
  | .int n => Text.ofInt n
  | .float x => FloatStyle.compact.write x
  | .string s => compactString s
  | .list items => '[' :: compactItems items ++ [']']
  | .table fields => '{' :: compactFields fields ++ ['}']

/-- The items of a list, separated by commas. -/
def compactItems : List Value → Text
  | [] => []
  | [item] => compact item
  | item :: items => compact item ++ ',' :: compactItems items

/-- The fields of a table, separated by commas. -/
def compactFields : List (String × Value) → Text
  | [] => []
  | [(name, value)] => compactString name ++ ':' :: compact value
  | (name, value) :: fields =>
    compactString name ++ ':' :: compact value ++ ',' :: compactFields fields

end

/-- The compact text of a value, as a string. -/
def compactText (v : Value) : String := String.ofList v.compact

/-- A value as plain text: a string as it is, any other value in compact text. -/
def asText : Value → String
  | .string s => s
  | v => v.compactText

/-- The field of a table under a name. -/
def field? (name : String) : Value → Option Value
  | .table fields => Dict.get? name fields
  | _ => none

end Value

end Dispatch
