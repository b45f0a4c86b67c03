import Dispatch.Json.Number

/-!
# Reading JSON

A text is cut into tokens, and the tokens build a value on a stack of unfinished lists and tables.
Of two fields of one name the later stays. Fewer than 128 lists and tables may be open at once.
-/

namespace Dispatch.Json

/-! ## 1. Tokens -/

/-- A token of JSON; a scalar is a value already. -/
inductive Token where
  | openList
  | closeList
  | openTable
  | closeTable
  | comma
  | colon
  | string (s : String)
  | scalar (v : Value)
  deriving Repr

/-- The code unit of four hexadecimal digits. -/
def codeUnit? (digits : Text) : Option Nat := Text.natOf? 16 digits

/-- The character that an escape of one letter stands for. -/
def escaped? (c : Char) : Option Char :=
  match c with
  | '"' => some '"'
  | '\\' => some '\\'
  | '/' => some '/'
  | 'b' => some '\x08'
  | 'f' => some '\x0c'
  | 'n' => some '\n'
  | 'r' => some '\r'
  | 't' => some '\t'
  | _ => none

/-- Whether a code unit is the first, or the second, of a pair. -/
def isLead (n : Nat) : Bool := 0xD800 ≤ n && n ≤ 0xDBFF
def isTrail (n : Nat) : Bool := 0xDC00 ≤ n && n ≤ 0xDFFF

/-- Reads the characters of a string up to its closing quote. The characters so far come in reverse.
Half a pair of code units is refused, and so is a control character. -/
def readString? (soFar : Text) : Text → Option (Text × Text)
  | '"' :: rest => some (soFar.reverse, rest)
  | '\\' :: 'u' :: a :: b :: c :: d :: rest => do
    let unit ← codeUnit? [a, b, c, d]
    if isTrail unit then none
    else if isLead unit then
      match rest with
      | '\\' :: 'u' :: e :: f :: g :: h :: rest => do
        let second ← codeUnit? [e, f, g, h]
        if isTrail second then
          let code := 0x10000 + (unit - 0xD800) * 0x400 + (second - 0xDC00)
          readString? (Char.ofNat code :: soFar) rest
        else none
      | _ => none
    else readString? (Char.ofNat unit :: soFar) rest
  | '\\' :: c :: rest => do
    let c ← escaped? c
    readString? (c :: soFar) rest
  | c :: rest => if c.toNat < 0x20 ∨ c = '\\' then none else readString? (c :: soFar) rest
  | [] => none
termination_by text => text.length

/-- Whether a character stands between tokens. -/
def isSpace (c : Char) : Bool := c = ' ' || c = '\n' || c = '\t' || c = '\r'

/-- Reads the token at the start of a text. -/
def readToken? : Text → Option (Token × Text)
  | '[' :: rest => some (.openList, rest)
  | ']' :: rest => some (.closeList, rest)
  | '{' :: rest => some (.openTable, rest)
  | '}' :: rest => some (.closeTable, rest)
  | ',' :: rest => some (.comma, rest)
  | ':' :: rest => some (.colon, rest)
  | '"' :: rest => (readString? [] rest).map fun (s, rest) => (.string (String.ofList s), rest)
  | 'n' :: 'u' :: 'l' :: 'l' :: rest => some (.scalar .null, rest)
  | 't' :: 'r' :: 'u' :: 'e' :: rest => some (.scalar (.bool true), rest)
  | 'f' :: 'a' :: 'l' :: 's' :: 'e' :: rest => some (.scalar (.bool false), rest)
  | text => (readNumber? text).map fun (v, rest) => (.scalar v, rest)

/-- The tokens of a text, which holds fewer tokens than the bound. -/
def tokensWithin : Nat → Text → Option (List Token)
  | 0, _ => none
  | bound + 1, text =>
    match text.dropWhile isSpace with
    | [] => some []
    | text => do
      let (token, rest) ← readToken? text
      let tokens ← tokensWithin bound rest
      return token :: tokens

/-- The tokens of a text. -/
def tokens? (text : Text) : Option (List Token) := tokensWithin (text.length + 1) text

/-! ## 2. Values -/

/-- A list or table that is not closed yet: the items in reverse, or the fields and the name of the
one that is being read. -/
inductive Frame where
  | list (reversed : List Value)
  | table (fields : Dict String Value) (name : String)

/-- What may come next. -/
inductive Expected where
  | value
  | valueOrClose
  | name
  | nameOrClose
  | colon
  | commaOrClose
  | nothing
  deriving DecidableEq

/-- The unfinished lists and tables, the innermost first, and the value once it is whole. -/
structure Builder where
  frames : List Frame := []
  expected : Expected := .value
  value : Value := .null

namespace Builder

/-- The greatest number of lists and tables that may be open. -/
def maxDepth : Nat := 127

/-- Puts a whole value where it belongs. -/
def put (v : Value) (builder : Builder) : Builder :=
  match builder.frames with
  | [] => { builder with value := v, expected := .nothing }
  | .list items :: frames =>
    { builder with frames := .list (v :: items) :: frames, expected := .commaOrClose }
  | .table fields name :: frames =>
    { builder with
      frames := .table (Dict.insert name v fields) name :: frames, expected := .commaOrClose }

/-- Whether a value may come next. -/
def takesValue (builder : Builder) : Bool :=
  builder.expected = .value || builder.expected = .valueOrClose

/-- Opens a list or table. -/
def push? (frame : Frame) (expected : Expected) (builder : Builder) : Option Builder :=
  if builder.takesValue ∧ builder.frames.length < maxDepth then
    some { builder with frames := frame :: builder.frames, expected := expected }
  else none

/-- Takes the next token. -/
def step? (builder : Builder) (token : Token) : Option Builder :=
  match token, builder.frames with
  | .openList, _ => builder.push? (.list []) .valueOrClose
  | .openTable, _ => builder.push? (.table [] "") .nameOrClose
  | .closeList, .list items :: frames =>
    if builder.expected = .valueOrClose ∨ builder.expected = .commaOrClose then
      some (put (.list items.reverse) { builder with frames := frames })
    else none
  | .closeTable, .table fields _ :: frames =>
    if builder.expected = .nameOrClose ∨ builder.expected = .commaOrClose then
      some (put (.table fields) { builder with frames := frames })
    else none
  | .comma, frame :: _ =>
    if builder.expected = .commaOrClose then
      match frame with
      | .list _ => some { builder with expected := .value }
      | .table _ _ => some { builder with expected := .name }
    else none
  | .colon, _ =>
    if builder.expected = .colon then some { builder with expected := .value } else none
  | .string s, frames =>
    match builder.expected, frames with
    | .name, .table fields _ :: frames =>
      some { builder with frames := .table fields s :: frames, expected := .colon }
    | .nameOrClose, .table fields _ :: frames =>
      some { builder with frames := .table fields s :: frames, expected := .colon }
    | _, _ => if builder.takesValue then some (builder.put (.string s)) else none
  | .scalar v, _ => if builder.takesValue then some (builder.put v) else none
  | _, _ => none

end Builder

/-- The value of a text of JSON. -/
def read? (text : Text) : Option Value := do
  let tokens ← tokens? text
  let builder ← tokens.foldlM Builder.step? {}
  if builder.expected = .nothing then return builder.value else none

end Dispatch.Json
