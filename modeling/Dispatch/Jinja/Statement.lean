import Dispatch.Jinja.Expression

/-!
# Statements of a template

A template is a row of statements: text, outputs and blocks. Loops, conditions and captured texts
hold statements of their own, up to the block that ends them.
-/

namespace Dispatch.Jinja

/-- What a value is given to: a name, or several that share its items. -/
inductive Target where
  | name (name : Text)
  | several (targets : List Target)
  deriving Inhabited

/-- A statement. -/
inductive Statement where
  | text (text : Text)
  | output (e : Expression)
  | loop (target : Target) (items : Expression) (only : Option Expression)
      (body otherwise : List Statement)
  | condition (test : Expression) (yes no : List Statement)
  | assign (target : Target) (e : Expression)
  | capture (target : Target) (body : List Statement)
  /-- Another template in this place; one that is missing may be ignored. -/
  | inclusion (name : Expression) (ignoreMissing : Bool)
  deriving Inhabited

/-- A template: its text as written and its statements. -/
structure Template where
  source : String
  body : List Statement

namespace Parser

/-! ## 1. Targets -/

/-- The names that no value can be given to. -/
def reservedNames : List Text :=
  ["true", "True", "false", "False", "none", "None", "loop", "self"].map String.toList

/-- Takes a name that a value can be given to. -/
def targetName : Parser Target := do
  let name ← anyName
  if reservedNames.contains name then failure else return .name name

/-- Whether a target ends before a token. -/
def endsTarget (token : Option Token) : Bool :=
  [some (.symbol .roundClose), some .outputEnd, some .blockEnd, some (wordToken "in")].contains token

mutual

/-- Reads a target, or several with commas between them. -/
def target : Nat → Parser Target
  | 0 => failure
  | bound + 1 => do
    if endsTarget (← next?) then return .several []
    else
      let first ← singleTarget bound
      if ← optional (.symbol .comma) then return .several (first :: (← moreTargets bound))
      else return first

/-- Reads one target: a name, or targets in brackets. -/
def singleTarget : Nat → Parser Target
  | 0 => failure
  | bound + 1 => do
    if ← optional (.symbol .roundOpen) then
      let inner ← target bound
      expect (.symbol .roundClose)
      return inner
    else targetName

/-- Reads the targets behind a comma. -/
def moreTargets : Nat → Parser (List Target)
  | 0 => failure
  | bound + 1 => do
    if endsTarget (← next?) then return []
    else
      let first ← singleTarget bound
      if ← optional (.symbol .comma) then return first :: (← moreTargets bound)
      else return [first]

end

/-! ## 2. Statements -/

/-- Takes a given word. -/
def word (name : String) : Parser Unit := expect (wordToken name)

/-- Reads the include of a template behind its word. -/
def includeStatement : Parser Statement := do
  let name ← expression
  let ignoreMissing ← optional (wordToken "ignore")
  if ignoreMissing then word "missing"
  return .inclusion name ignoreMissing

/-- Whether one of some words comes next. -/
def comes (words : List String) : Parser Bool := do
  match ← next? with
  | some (.name name) => return words.any fun word => word.toList = name
  | _ => return false

mutual

/-- Reads statements up to a block that starts with one of some words, whose opening is taken, or to
the end. -/
def statements (ends : List String) : Nat → Parser (List Statement)
  | 0 => failure
  | bound + 1 => do
    match ← next? with
    | none => return []
    | some (.text text) =>
      drop
      return .text text :: (← statements ends bound)
    | some .outputStart =>
      drop
      let e ← expression
      expect .outputEnd
      return .output e :: (← statements ends bound)
    | some .blockStart =>
      drop
      if ← comes ends then return []
      else
        let first ← statement bound
        expect .blockEnd
        return first :: (← statements ends bound)
    | some _ => failure

/-- Reads a block up to its last closing sign. -/
def statement : Nat → Parser Statement
  | 0 => failure
  | bound + 1 => do
    let keyword ← anyName
    match String.ofList keyword with
    | "for" => loopStatement bound
    | "if" => conditionStatement bound
    | "set" => assignStatement bound
    | "include" => includeStatement
    | _ => failure

/-- Reads a loop behind its word. -/
def loopStatement : Nat → Parser Statement
  | 0 => failure
  | bound + 1 => do
    let goal ← target ((← get).length + 1)
    word "in"
    let items ← plainExpression
    let only ← if ← optional (wordToken "if") then some <$> expression else pure none
    expect .blockEnd
    let body ← statements ["endfor", "else"] bound
    let otherwise ← if ← optional (wordToken "else") then do
        expect .blockEnd
        statements ["endfor"] bound
      else pure []
    word "endfor"
    return .loop goal items only body otherwise

/-- Reads a condition behind its word. -/
def conditionStatement : Nat → Parser Statement
  | 0 => failure
  | bound + 1 => do
    let test ← expression
    expect .blockEnd
    let yes ← statements ["endif", "else", "elif"] bound
    if ← optional (wordToken "elif") then
      return .condition test yes [← conditionStatement bound]
    else if ← optional (wordToken "else") then
      expect .blockEnd
      let no ← statements ["endif"] bound
      word "endif"
      return .condition test yes no
    else
      word "endif"
      return .condition test yes []

/-- Reads an assignment behind its word: of a value, or of the text up to the end of the block. -/
def assignStatement : Nat → Parser Statement
  | 0 => failure
  | bound + 1 => do
    let bracketed := (← next?) = some (.symbol .roundOpen)
    let goal ← singleTarget ((← get).length + 2)
    if !bracketed && (← next?) = some .blockEnd then
      drop
      let body ← statements ["endset"] bound
      word "endset"
      return .capture goal body
    else
      expect (.symbol .assign)
      return .assign goal (← expression)

end

end Parser

/-- Reads a template. -/
def Template.parse? (source : String) : Option Template := do
  let tokens ← tokens? source.toList
  let (body, _) ← (Parser.statements [] (2 * tokens.length + 2)).run tokens
  return ⟨source, body⟩

/-! ## 3. Names that a template reads -/

namespace Expression

mutual

/-- The names of the variables that an expression reads. -/
def names : Expression → List Text
  | .constant _ => []
  | .variable name => [name]
  | .not e => e.names
  | .negate e => e.names
  | .binary _ a b => a.names ++ b.names
  | .choice asked yes no => asked.names ++ yes.names ++ namesOfOptional no
  | .filter _ e arguments => e.names ++ namesOfArguments arguments
  | .test _ e arguments => e.names ++ namesOfArguments arguments
  | .attribute e _ => e.names
  | .item e key => e.names ++ key.names
  | .call callee arguments => callee.names ++ namesOfArguments arguments
  | .list items => namesOfItems items
  | .map entries => namesOfEntries entries

/-- The names in an expression that may be missing. -/
def namesOfOptional : Option Expression → List Text
  | none => []
  | some e => e.names

/-- The names in the arguments of a call. -/
def namesOfArguments : List (Option Text × Expression) → List Text
  | [] => []
  | (_, e) :: rest => e.names ++ namesOfArguments rest

/-- The names in the items of a list. -/
def namesOfItems : List Expression → List Text
  | [] => []
  | e :: rest => e.names ++ namesOfItems rest

/-- The names in the entries of a map. -/
def namesOfEntries : List (Expression × Expression) → List Text
  | [] => []
  | (key, e) :: rest => key.names ++ e.names ++ namesOfEntries rest

end

/-- The names in an expression that no value was given to. -/
def unassigned (assigned : List Text) (e : Expression) : List Text :=
  e.names.filter fun name => !assigned.contains name

end Expression

mutual

/-- The names in a target. -/
def Target.names : Target → List Text
  | .name single => [single]
  | .several targets => Target.namesOf targets

/-- The names in some targets. -/
def Target.namesOf : List Target → List Text
  | [] => []
  | target :: targets => target.names ++ Target.namesOf targets

end

namespace Statement

mutual

/-- The names that a statement reads although no value was given to them, and the names that have a
value behind it. A loop and each side of a condition give values for themselves only. -/
def unassigned (assigned : List Text) : Statement → List Text × List Text
  | .text _ => ([], assigned)
  | .output e => (e.unassigned assigned, assigned)
  | .loop target items only body otherwise =>
    let inside := "loop".toList :: assigned
    let each := target.names ++ inside
    let filtered := match only with
      | some e => e.unassigned each
      | none => []
    (items.unassigned inside ++ filtered ++ (unassignedIn each body).1
      ++ (unassignedIn assigned otherwise).1, assigned)
  | .condition asked yes no =>
    (asked.unassigned assigned ++ (unassignedIn assigned yes).1 ++ (unassignedIn assigned no).1,
      assigned)
  | .assign target e =>
    let assigned := target.names ++ assigned
    (e.unassigned assigned, assigned)
  | .capture target body =>
    ((unassignedIn assigned body).1, target.names ++ assigned)
  | .inclusion template _ => (template.unassigned assigned, assigned)

/-- The names that some statements read although no value was given to them, and the names that have
a value behind them. -/
def unassignedIn (assigned : List Text) : List Statement → List Text × List Text
  | [] => ([], assigned)
  | first :: rest =>
    let (names, assigned) := first.unassigned assigned
    let (more, assigned) := unassignedIn assigned rest
    (names ++ more, assigned)

end

end Statement

/-- The names that a template reads although it gives no value to them. -/
def Template.unassignedNames (template : Template) : List Text :=
  (Statement.unassignedIn ["self".toList] template.body).1

end Dispatch.Jinja
