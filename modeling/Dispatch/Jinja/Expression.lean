import Dispatch.Jinja.Operation
import Dispatch.Jinja.Token

/-!
# Expressions of a template

An expression names a variable, writes a value, or takes parts of, compares, computes with, filters
or tests values. Operators bind in this order, the loosest first: a choice with `if`, `or`, `and`,
`not`, comparisons, sums, `~`, products, signs, and what follows a value.
-/

namespace Dispatch.Jinja

/-- An operator between two expressions. -/
inductive Operator where
  | or
  | and
  | equal
  | unequal
  | less
  | lessEqual
  | greater
  | greaterEqual
  | within
  | add
  | subtract
  | concatenate
  | multiply
  | divide
  | floorDivide
  | remainder
  deriving DecidableEq, Repr

/-- An expression. An argument may have a name. -/
inductive Expression where
  | constant (d : Datum)
  | variable (name : Text)
  | not (e : Expression)
  | negate (e : Expression)
  | binary (operator : Operator) (a b : Expression)
  | choice (test yes : Expression) (no : Option Expression)
  | filter (name : Text) (e : Expression) (arguments : List (Option Text × Expression))
  | test (name : Text) (e : Expression) (arguments : List (Option Text × Expression))
  | attribute (e : Expression) (name : Text)
  | item (e key : Expression)
  | call (callee : Expression) (arguments : List (Option Text × Expression))
  | list (items : List Expression)
  | map (entries : List (Expression × Expression))
  deriving Inhabited

/-! ## 1. Reading tokens -/

/-- Takes something off a list of tokens, or refuses them. -/
abbrev Parser := StateT (List Token) Option

namespace Parser

variable {α : Type}

/-- The next token; it stays. -/
def next? : Parser (Option Token) := fun tokens => some (tokens.head?, tokens)

/-- Drops a token. -/
def drop : Parser Unit := fun tokens => some ((), tokens.tail)

/-- Takes a given token if it is next, and tells whether it was. -/
def optional (token : Token) : Parser Bool := fun tokens =>
  match tokens with
  | [] => some (false, [])
  | t :: rest => if t = token then some (true, rest) else some (false, t :: rest)

/-- Takes a given token. -/
def expect (token : Token) : Parser Unit := fun tokens =>
  match tokens with
  | [] => none
  | t :: rest => if t = token then some ((), rest) else none

/-- The token of a word. -/
def wordToken (word : String) : Token := .name word.toList

/-- Takes a name. -/
def anyName : Parser Text := fun tokens =>
  match tokens with
  | .name name :: rest => some (name, rest)
  | _ => none

/-- Reads the items up to a closing sign, each behind a comma; one more comma may follow them. -/
def itemsBehind (closing : Symbol) (item : Parser α) : Nat → Parser (List α)
  | 0 => failure
  | bound + 1 => do
    if ← optional (.symbol closing) then return []
    else
      expect (.symbol .comma)
      if ← optional (.symbol closing) then return []
      else
        let first ← item
        return first :: (← itemsBehind closing item bound)

/-- Reads items with commas between them up to a closing sign. -/
def items (closing : Symbol) (item : Parser α) : Parser (List α) := do
  if ← optional (.symbol closing) then return []
  else
    let first ← item
    return first :: (← itemsBehind closing item ((← get).length + 1))

/-- Reads operators of one strength, from left to right. -/
def operators (operator? : Token → Option Operator) (operand : Parser Expression) :
    Nat → Expression → Parser Expression
  | 0, e => return e
  | bound + 1, e => do
    match (← next?).bind operator? with
    | none => return e
    | some operator =>
      drop
      let right ← operand
      operators operator? operand bound (.binary operator e right)

/-- Reads operands with operators of one strength between them. -/
def chain (operator? : Token → Option Operator) (operand : Parser Expression) :
    Parser Expression := do
  let first ← operand
  operators operator? operand (← get).length first

/-! ## 2. Values and what follows them -/

/-- Reads an argument of a call: an expression, or a name, a sign and an expression. -/
def argument (inner : Parser Expression) : Parser (Option Text × Expression) := do
  let e ← inner
  match e with
  | .variable name =>
    if ← optional (.symbol .assign) then return (some name, ← inner) else return (none, e)
  | _ => return (none, e)

/-- Whether no argument without a name follows one with a name. -/
def namesLast : List (Option Text × Expression) → Bool
  | [] => true
  | (none, _) :: rest => namesLast rest
  | (some _, _) :: rest => rest.all fun argument => argument.1.isSome

/-- Reads the arguments of a call behind the opening bracket. -/
def arguments (inner : Parser Expression) : Parser (List (Option Text × Expression)) := do
  let arguments ← items .roundClose (argument inner)
  if namesLast arguments then return arguments else failure

/-- Reads the arguments of a call if there are any. -/
def optionalArguments (inner : Parser Expression) :
    Parser (List (Option Text × Expression)) := do
  if ← optional (.symbol .roundOpen) then arguments inner else return []

/-- The value that a name writes, or its variable. -/
def named (name : Text) : Expression :=
  let is (words : List String) : Bool := words.any fun word => word.toList = name
  if is ["true", "True"] then .constant (.bool true)
  else if is ["false", "False"] then .constant (.bool false)
  else if is ["none", "None"] then .constant .none
  else .variable name

/-- Reads a value, a variable, or an expression, a list or a map in brackets. -/
def primary (inner : Parser Expression) : Parser Expression := do
  let token ← next?
  drop
  match token with
  | some (.name name) => return named name
  | some (.string text) => return .constant (.string text)
  | some (.int n) => return .constant (.int n)
  | some (.float number) => return .constant (.float number.toFloat)
  | some (.symbol .roundOpen) =>
    if ← optional (.symbol .roundClose) then return .list []
    else
      let e ← inner
      if ← optional (.symbol .roundClose) then return e
      else return .list (e :: (← itemsBehind .roundClose inner ((← get).length + 1)))
  | some (.symbol .squareOpen) => return .list (← items .squareClose inner)
  | some (.symbol .curlyOpen) =>
    let entry : Parser (Expression × Expression) := do
      let key ← inner
      expect (.symbol .colon)
      return (key, ← inner)
    return .map (← items .curlyClose entry)
  | _ => failure

/-- Reads what follows a value: attributes, indexes and calls. -/
def parts (inner : Parser Expression) : Nat → Expression → Parser Expression
  | 0, e => return e
  | bound + 1, e => do
    match ← next? with
    | some (.symbol .dot) =>
      drop
      let name ← anyName
      parts inner bound (.attribute e name)
    | some (.symbol .squareOpen) =>
      drop
      let key ← inner
      expect (.symbol .squareClose)
      parts inner bound (.item e key)
    | some (.symbol .roundOpen) =>
      drop
      let arguments ← arguments inner
      parts inner bound (.call e arguments)
    | _ => return e

/-- Reads signs and the value behind them. -/
def signed (inner : Parser Expression) : Nat → Parser Expression
  | 0 => failure
  | bound + 1 => do
    if ← optional (.symbol .minus) then return .negate (← signed inner bound) else primary inner

/-- Reads a value with its signs and what follows it. -/
def valueWithParts (inner : Parser Expression) : Parser Expression := do
  let e ← signed inner ((← get).length + 1)
  parts inner (← get).length e

/-- The words that do not start the argument of a test without brackets. -/
def linkingWords : List Text :=
  ["and", "or", "not", "in", "is", "if", "else"].map String.toList

/-- Whether a token starts the argument of a test without brackets. -/
def startsArgument : Token → Bool
  | .name name => !linkingWords.contains name
  | .string _ => true
  | .int _ => true
  | .float _ => true
  | .symbol .squareOpen => true
  | .symbol .curlyOpen => true
  | _ => false

/-- Reads the arguments of a test: in brackets, or one without. -/
def testArguments (inner : Parser Expression) : Parser (List (Option Text × Expression)) := do
  if ← optional (.symbol .roundOpen) then arguments inner
  else match ← next? with
    | some token =>
      if startsArgument token then return [(none, ← valueWithParts inner)] else return []
    | none => return []

/-- Reads the filters and tests of a value. -/
def filters (inner : Parser Expression) : Nat → Expression → Parser Expression
  | 0, e => return e
  | bound + 1, e => do
    match ← next? with
    | some (.symbol .bar) =>
      drop
      let name ← anyName
      let arguments ← optionalArguments inner
      filters inner bound (.filter name e arguments)
    | some token =>
      if token = wordToken "is" then
        drop
        let negated ← optional (wordToken "not")
        let name ← anyName
        let arguments ← testArguments inner
        let tested : Expression := .test name e arguments
        filters inner bound (if negated then .not tested else tested)
      else return e
    | none => return e

/-- Reads a value with its parts, filters and tests. -/
def operand (inner : Parser Expression) : Parser Expression := do
  let e ← valueWithParts inner
  filters inner (← get).length e

/-! ## 3. Operators -/

/-- The operators between factors. -/
def productOperator? : Token → Option Operator
  | .symbol .times => some .multiply
  | .symbol .slash => some .divide
  | .symbol .doubleSlash => some .floorDivide
  | .symbol .percent => some .remainder
  | _ => none

/-- The operator between texts. -/
def textOperator? : Token → Option Operator
  | .symbol .tilde => some .concatenate
  | _ => none

/-- The operators between summands. -/
def sumOperator? : Token → Option Operator
  | .symbol .plus => some .add
  | .symbol .minus => some .subtract
  | _ => none

/-- The operators of comparisons. -/
def comparison? : Token → Option Operator
  | .symbol .equal => some .equal
  | .symbol .unequal => some .unequal
  | .symbol .less => some .less
  | .symbol .lessEqual => some .lessEqual
  | .symbol .greater => some .greater
  | .symbol .greaterEqual => some .greaterEqual
  | .name ['i', 'n'] => some .within
  | _ => none

/-- Reads a sum. -/
def sum (inner : Parser Expression) : Parser Expression :=
  chain sumOperator? (chain textOperator? (chain productOperator? (operand inner)))

/-- Reads comparisons, from left to right. -/
def comparisons (inner : Parser Expression) : Nat → Expression → Parser Expression
  | 0, e => return e
  | bound + 1, e => do
    if ← optional (wordToken "not") then
      expect (wordToken "in")
      let right ← sum inner
      comparisons inner bound (.not (.binary .within e right))
    else match (← next?).bind comparison? with
      | none => return e
      | some operator =>
        drop
        let right ← sum inner
        comparisons inner bound (.binary operator e right)

/-- Reads negations and the comparison behind them. -/
def negation (inner : Parser Expression) : Nat → Parser Expression
  | 0 => failure
  | bound + 1 => do
    if ← optional (wordToken "not") then return .not (← negation inner bound)
    else
      let first ← sum inner
      comparisons inner (← get).length first

/-- Reads an expression without a choice. -/
def alternative (inner : Parser Expression) : Parser Expression :=
  let word (name : String) (operator : Operator) : Token → Option Operator := fun token =>
    if token = wordToken name then some operator else none
  chain (word "or" .or) (chain (word "and" .and) do negation inner ((← get).length + 1))

/-- Reads the choices behind an expression. -/
def choices (inner : Parser Expression) : Nat → Expression → Parser Expression
  | 0, e => return e
  | bound + 1, e => do
    if ← optional (wordToken "if") then
      let test ← alternative inner
      let no ← if ← optional (wordToken "else") then some <$> inner else pure none
      choices inner bound (.choice test e no)
    else return e

/-- Reads an expression that goes at most so deep. -/
def expressionWithin : Nat → Parser Expression
  | 0 => failure
  | bound + 1 => do
    let e ← alternative (expressionWithin bound)
    choices (expressionWithin bound) (← get).length e

/-- Reads an expression. -/
def expression : Parser Expression := do expressionWithin ((← get).length + 1)

/-- Reads an expression without a choice at its outside. -/
def plainExpression : Parser Expression := do alternative (expressionWithin (← get).length)

end Parser

end Dispatch.Jinja
