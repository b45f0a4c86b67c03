import Dispatch.Toml.Quoted
import Dispatch.Toml.Scalar
import Dispatch.Toml.Table

/-!
# Reading TOML

A document is a row of lines: key and value, the header of a table, the header of a table in an
array, or nothing, each with a comment at its end or without. Arrays and inline tables may run over
several lines and may end with a comma.
-/

namespace Dispatch.Toml

open Reader

/-! ## 1. Blanks and keys -/

/-- Drops the blanks of a line. -/
def spaces : Reader Unit := skipWhile isSpace

/-- Takes a comment, which holds no control characters, if there is one. -/
def comment : Reader Unit := do
  if ← optional '#' then
    let text ← takeWhile fun c => c ≠ '\n' ∧ c ≠ '\r'
    if text.any isControl then refuse

/-- Takes the end of a line. -/
def lineEnd : Reader Unit := do
  spaces
  comment
  unless ← atEnd do taking fun text => (newline? text).map fun rest => ((), rest)

/-- Drops blanks, newlines and comments, at most so many lines of them. -/
def emptyLines : Nat → Reader Unit
  | 0 => return ()
  | bound + 1 => do
    spaces
    comment
    let text ← get
    match newline? text with
    | some rest => do
      set rest
      emptyLines bound
    | none => return ()

/-- Drops all blanks, newlines and comments. -/
def gap : Reader Unit := do emptyLines ((← get).length + 1)

/-- Whether a character may stand in a key without quotes. -/
def isKeyChar (c : Char) : Bool := c.isAlphanum || c = '_' || c = '-'

/-- Reads one part of a key. -/
def keyPart : Reader String := do
  match ← peek? with
  | none => refuse
  | some c =>
    if c = '"' ∨ c = '\'' then
      let text ← taking (quotedText? false)
      return String.ofList text
    else
      let text ← takeWhile isKeyChar
      if text.isEmpty then refuse
      return String.ofList text

/-- Reads the parts of a key behind the first, at most so many. -/
def keyParts : Nat → Reader (List String)
  | 0 => refuse
  | bound + 1 => do
    let part ← keyPart
    spaces
    if ← optional '.' then
      spaces
      let parts ← keyParts bound
      return part :: parts
    else return [part]

/-- Reads a key and the blanks behind it. -/
def key : Reader (List String) := do keyParts ((← get).length + 1)

/-! ## 2. Values -/

/-- Whether a character ends an unquoted word. -/
def endsWord (c : Char) : Bool :=
  isSpace c || c = '\n' || c = '\r' || c = ',' || c = ']' || c = '}' || c = '#' || c = '['
    || c = '{' || c = '=' || c = '"' || c = '\''

/-- Reads an unquoted value. A space may stand between a date and a time. -/
def unquoted : Reader Value := do
  let word ← takeWhile fun c => !endsWord c
  let text ← get
  let word ← match date? word, text with
    | some (_, []), ' ' :: c :: _ =>
      if Text.isDigit c then do
        char ' '
        let time ← takeWhile fun c => !endsWord c
        pure (word ++ ' ' :: time)
      else pure word
    | _, _ => pure word
  match wordValue? word with
  | some v => return v
  | none => refuse

/-- The greatest depth of arrays and inline tables. -/
def maxDepth : Nat := 80

mutual

/-- Reads a value inside so many arrays and inline tables. -/
def value (depth : Nat) : Nat → Reader Value
  | 0 => refuse
  | fuel + 1 => do
    match ← peek? with
    | none => refuse
    | some '"' => (.string ∘ String.ofList) <$> taking (quotedText? true)
    | some '\'' => (.string ∘ String.ofList) <$> taking (quotedText? true)
    | some '[' =>
      if depth ≥ maxDepth then refuse
      char '['
      gap
      let items ← arrayItems (depth + 1) fuel
      return .list items
    | some '{' =>
      if depth ≥ maxDepth then refuse
      char '{'
      gap
      let entries ← inlineEntries (depth + 1) [] fuel
      return .table (finishEntries entries)
    | some _ => unquoted

/-- Reads the items of an array up to its closing bracket. -/
def arrayItems (depth : Nat) : Nat → Reader (List Value)
  | 0 => refuse
  | fuel + 1 => do
    if ← optional ']' then return []
    let item ← value depth fuel
    gap
    if ← optional ',' then
      gap
      let items ← arrayItems depth fuel
      return item :: items
    else
      char ']'
      return [item]

/-- Reads the fields of an inline table up to its closing brace. -/
def inlineEntries (depth : Nat) (entries : Entries) : Nat → Reader Entries
  | 0 => refuse
  | fuel + 1 => do
    if ← optional '}' then return entries
    let keys ← key
    char '='
    spaces
    let v ← value depth fuel
    match putDotted (.value v) keys entries with
    | none => refuse
    | some entries =>
      gap
      if ← optional ',' then
        gap
        inlineEntries depth entries fuel
      else
        char '}'
        return entries

end

/-! ## 3. Documents -/

/-- The tables that were read, and the keys of the header whose table is being filled. -/
structure Document where
  root : Entries := []
  header : List String := []

namespace Document

/-- The document of changed tables, unless the change is refused. -/
def ofChange (header : List String) : Option Entries → Reader Document
  | some root => return ⟨root, header⟩
  | none => refuse

/-- Reads a header behind its opening bracket. -/
def readHeader (document : Document) : Reader Document := do
  let isArray ← optional '['
  spaces
  let keys ← key
  char ']'
  if isArray then char ']'
  lineEnd
  match keys.getLast? with
  | none => refuse
  | some last =>
    let opening := if isArray then openArrayTable last else openTable last
    ofChange keys (alongHeader opening keys.dropLast document.root)

/-- Reads a line with a key and a value. -/
def readEntry (document : Document) : Reader Document := do
  let keys ← key
  char '='
  spaces
  let v ← value 0 (2 * (← get).length + 2)
  lineEnd
  ofChange document.header
    (alongHeader (putDotted (.value v) keys) document.header document.root)

/-- Reads the lines of a document, at most so many. -/
def readLines (document : Document) : Nat → Reader Document
  | 0 => refuse
  | bound + 1 => do
    gap
    if ← atEnd then return document
    if ← optional '[' then
      let document ← document.readHeader
      document.readLines bound
    else
      let document ← document.readEntry
      document.readLines bound

end Document

/-- The table of a document; a byte order mark at its start is dropped. -/
def read? (text : Text) : Option Value := do
  let text := match text with
    | '\ufeff' :: rest => rest
    | text => text
  let (document, _) ← (Document.readLines {} (text.length + 1)).run text
  return .table (finishEntries document.root)

end Dispatch.Toml
