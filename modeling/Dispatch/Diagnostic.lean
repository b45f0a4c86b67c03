import Dispatch.Text.Quoted

/-!
# Diagnostics

What every failure of the library can say about itself: one line for the reader, the lines of the
failures it came from, and its structure written out. The structured form names a case, its fields
in the order of their declaration, and quotes texts.
-/

namespace Dispatch

/-- What a failure says about itself. -/
class Diagnostic (ε : Type) where
  /-- The failure in one line. -/
  message : ε → String
  /-- The lines of the failures behind it, the nearest first. -/
  causes : ε → List String
  /-- The failure with its structure written out. -/
  structured : ε → String

namespace Diagnostic

/-- A failure and all failures behind it, in one line. -/
def chain {ε : Type} [Diagnostic ε] (failure : ε) : String :=
  String.intercalate ": " (message failure :: causes failure)

/-- A case with named fields. -/
def record (name : String) (fields : List (String × String)) : String :=
  let shown := fields.map fun (field, value) => field ++ ": " ++ value
  name ++ " \x7b " ++ String.intercalate ", " shown ++ " \x7d"

/-- A case with one unnamed field. -/
def wrapped (name value : String) : String := name ++ "(" ++ value ++ ")"

/-- A list between brackets. -/
def listed (items : List String) : String := "[" ++ String.intercalate ", " items ++ "]"

/-- An optional part. -/
def optional : Option String → String
  | none => "None"
  | some value => wrapped "Some" value

/-- A truth value. -/
def flag (b : Bool) : String := if b then "true" else "false"

end Diagnostic

end Dispatch
