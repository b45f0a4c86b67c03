import Dispatch.Number.Reading
import Dispatch.Value.Basic
import Dispatch.Yaml.Node

/-!
# Reading YAML

A plain scalar is `null`, a truth value or a number if it is written like one, else a string; a
quoted scalar is a string. Keys are scalars and keep the text they are written with; the last entry
of a key wins. Numbers that are not finite have no value.
-/

namespace Dispatch.Yaml

/-! ## 1. Scalars -/

/-- Whether a text writes `null`. -/
def isNull (text : Text) : Bool :=
  ["null".toList, "Null".toList, "NULL".toList, ['~']].contains text

/-- The truth value that a text writes. -/
def bool? (text : Text) : Option Bool :=
  if ["true".toList, "True".toList, "TRUE".toList].contains text then some true
  else if ["false".toList, "False".toList, "FALSE".toList].contains text then some false
  else none

/-- Whether digits start with a zero that says nothing; such digits are no number. -/
def hasIdleZero (text : Text) : Bool :=
  match (DecimalText.takeSign text).2 with
  | '0' :: d :: rest => (d :: rest).all Text.isDigit
  | _ => false

/-- The number that digits of a base write; at least one digit. -/
def natOf? (base : Nat) (digits : Text) : Option Nat :=
  if digits.isEmpty then none else Text.natOf? base digits

/-- The number that digits write, with a mark of their base in front or in base ten. -/
def markedNat? : Text → Option Nat
  | '0' :: 'x' :: digits => natOf? 16 digits
  | '0' :: 'o' :: digits => natOf? 8 digits
  | '0' :: 'b' :: digits => natOf? 2 digits
  | digits => natOf? 10 digits

/-- The integer that a text writes. -/
def int? (text : Text) : Option Int :=
  if hasIdleZero text then none
  else
    let (negative, digits) := DecimalText.takeSign text
    (markedNat? digits).map fun n => if negative then -(n : Int) else n

/-- What a number is read as. -/
inductive ScalarNumber where
  | int (n : Int)
  | float (x : Float)
  /-- Not a finite number. -/
  | unbounded
  /-- An integer that is too large for its kind but not for a wider kind. -/
  | tooLarge

/-- The number that is not finite that a text writes. -/
def isUnbounded (text : Text) : Bool :=
  let infinite := [".inf".toList, ".Inf".toList, ".INF".toList]
  infinite.contains text || (infinite.map ('+' :: ·)).contains text
    || (infinite.map ('-' :: ·)).contains text
    || [".nan".toList, ".NaN".toList, ".NAN".toList].contains text

/-- The floating-point number that a text writes. -/
def float? (text : Text) : Option ScalarNumber :=
  if isUnbounded text then some .unbounded
  else do
    let x := (← DecimalText.parse? text).toFloat
    if x.isFinite then return .float x else none

/-- The integer that a text writes, of one of the kinds there are: a natural number below `2 ^ 64`
or a negative one from `-2 ^ 63`. Integers of twice the width are known but have no value, and a
number in base ten beyond those is no integer. -/
def boundedInt? (text : Text) : Option ScalarNumber := do
  let n ← int? text
  if -(Nat.pow 2 63) ≤ n ∧ n < Nat.pow 2 64 then return .int n
  else if -(Nat.pow 2 127) ≤ n ∧ n < Nat.pow 2 128 then return .tooLarge
  else none

/-- The number that a text writes. -/
def number? (text : Text) : Option ScalarNumber :=
  match boundedInt? text with
  | some n => some n
  | none => if hasIdleZero text then none else float? text

/-- The value of a number; a number without one is refused. -/
def ScalarNumber.value? : ScalarNumber → Option Value
  | .int n => some (.int n)
  | .float x => some (.float x)
  | .unbounded => some .null
  | .tooLarge => none

/-- The value of a plain scalar. -/
def plainValue? (text : Text) : Option Value :=
  if text.isEmpty || isNull text then some .null
  else match bool? text with
    | some b => some (.bool b)
    | none => match number? text with
      | some n => n.value?
      | none => some (.string (String.ofList text))

/-- The name of a tag that every text of YAML knows. -/
def commonTag (name : String) : Text := "tag:yaml.org,2002:".toList ++ name.toList

/-- Whether a tag is known to its own text only. -/
def isLocal (tag : Option Text) : Bool := (tag.bind List.head?) = some '!'

/-- The value of a scalar. A tag may ask for a kind of value, which the text must write. -/
def scalarValue? (tag : Option Text) (text : Text) (plain : Bool) : Option Value :=
  match tag with
  | none => if plain then plainValue? text else some (.string (String.ofList text))
  | some tag =>
    if isLocal (some tag) then none
    else if tag = commonTag "bool" then (bool? text).map .bool
    else if tag = commonTag "int" then (boundedInt? text).bind (·.value?)
    else if tag = commonTag "float" then (float? text).bind (·.value?)
    else if tag = commonTag "null" then (if isNull text then some .null else none)
    else some (.string (String.ofList text))

/-! ## 2. Nodes -/

/-- The greatest depth of sequences and mappings. -/
def maxDepth : Nat := 128

namespace Node

mutual

/-- The number of marks that a node is made of. -/
def size : Node → Nat
  | .scalar _ _ _ => 1
  | .same _ => 1
  | .sequence _ items => 2 + sizeOfItems items
  | .mapping _ entries => 2 + sizeOfEntries entries

/-- The number of marks that some items are made of. -/
def sizeOfItems : List Node → Nat
  | [] => 0
  | item :: items => item.size + sizeOfItems items

/-- The number of marks that some entries are made of. -/
def sizeOfEntries : List (Node × Node) → Nat
  | [] => 0
  | (key, value) :: entries => key.size + value.size + sizeOfEntries entries

end

/-- Reads values of nodes; the state is the number of aliases that may still be followed. -/
abbrev Evaluation := StateT Nat Option

/-- Follows an alias, unless too many have been followed. -/
def follow : Evaluation Unit := fun left =>
  match left with
  | 0 => none
  | left + 1 => some ((), left)

/-- The text of a node as a key. -/
def keyText : Node → Evaluation String
  | .scalar _ text _ => return String.ofList text
  | .same node => do
    follow
    node.keyText
  | _ => failure

mutual

/-- The value of a node inside sequences and mappings that may go so much deeper. -/
def value (depth : Nat) : Node → Evaluation Value
  | .scalar tag text plain => (scalarValue? tag text plain : Option Value)
  | .same node => do
    follow
    node.value depth
  | .sequence tag items => do
    if depth = 0 ∨ isLocal tag then failure
    return .list (← valuesOfItems (depth - 1) items)
  | .mapping tag entries => do
    if depth = 0 ∨ isLocal tag then failure
    return .table (Dict.ofList (← valuesOfEntries (depth - 1) entries))

/-- The values of some items. -/
def valuesOfItems (depth : Nat) : List Node → Evaluation (List Value)
  | [] => return []
  | item :: items => do
    let value ← item.value depth
    return value :: (← valuesOfItems depth items)

/-- The values of some entries, with the texts of their keys. -/
def valuesOfEntries (depth : Nat) : List (Node × Node) → Evaluation (List (String × Value))
  | [] => return []
  | (key, node) :: entries => do
    let name ← key.keyText
    let value ← node.value depth
    return (name, value) :: (← valuesOfEntries depth entries)

end

/-- How many aliases may be followed for each mark of a document. -/
def aliasesPerMark : Nat := 100

/-- The value of a document. -/
def documentValue? (node : Node) : Option Value :=
  ((node.value maxDepth).run (node.size * aliasesPerMark)).map (·.1)

end Node

/-- Reads a text of YAML. A text without a document is `null`. -/
def read? (text : Text) : Option Value := do
  match ← Node.ofTokens? (← tokens? text) with
  | none => return .null
  | some node => node.documentValue?

end Dispatch.Yaml
