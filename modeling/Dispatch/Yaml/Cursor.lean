import Dispatch.Text.Basic

/-!
# Places in a text of YAML

A cursor is the rest of a text with its line and column. Besides the usual line breaks a text of
YAML knows three more, of which one is read as a newline and two stay as they are.
-/

namespace Dispatch.Yaml

/-- Whether a character is a blank within a line. -/
def isBlank (c : Char) : Bool := c = ' ' || c = '\t'

/-- Whether a character breaks a line. -/
def isBreak (c : Char) : Bool :=
  c = '\r' || c = '\n' || c = '\u0085' || c = '\u2028' || c = '\u2029'

/-- A place in a text. -/
structure Cursor where
  rest : Text
  line : Nat := 0
  column : Nat := 0
  index : Nat := 0
  deriving Repr

namespace Cursor

/-- The character at a distance, if there is one. -/
def ahead? (cursor : Cursor) (distance : Nat) : Option Char := cursor.rest[distance]?

/-- Whether nothing is left. -/
def atEnd (cursor : Cursor) : Bool := cursor.rest.isEmpty

/-- Whether a character stands at the cursor. -/
def isAt (cursor : Cursor) (c : Char) : Bool := cursor.rest.head? = some c

/-- Whether a character with a property stands at a distance. -/
def aheadIs (cursor : Cursor) (distance : Nat) (p : Char → Bool) : Bool :=
  match cursor.ahead? distance with
  | some c => p c
  | none => false

/-- Whether a blank, a line break or the end is at a distance. -/
def gapAt (cursor : Cursor) (distance : Nat) : Bool :=
  match cursor.ahead? distance with
  | some c => isBlank c || isBreak c
  | none => true

/-- The place behind the character at the cursor, which breaks no line. -/
def skip (cursor : Cursor) : Cursor :=
  match cursor.rest with
  | [] => cursor
  | _ :: rest =>
    { cursor with rest := rest, column := cursor.column + 1, index := cursor.index + 1 }

/-- The place behind some characters that break no line. -/
def skipMany : Nat → Cursor → Cursor
  | 0, cursor => cursor
  | n + 1, cursor => skipMany n cursor.skip

/-- The line break at the cursor as it is read, and the place behind it. -/
def readBreak (cursor : Cursor) : Text × Cursor :=
  let behind (rest : Text) (width : Nat) : Cursor :=
    ⟨rest, cursor.line + 1, 0, cursor.index + width⟩
  match cursor.rest with
  | '\r' :: '\n' :: rest => (['\n'], behind rest 2)
  | c :: rest => (if c = '\u2028' ∨ c = '\u2029' then [c] else ['\n'], behind rest 1)
  | [] => ([], cursor)

/-- The place behind the characters with a property. -/
def skipWhile (cursor : Cursor) (p : Char → Bool) : Cursor :=
  cursor.skipMany (cursor.rest.takeWhile p).length

/-- Whether a line starts here that separates documents. -/
def atDocumentMark (cursor : Cursor) : Bool :=
  cursor.column = 0 && cursor.gapAt 3
    && (['-', '-', '-'].isPrefixOf cursor.rest || ['.', '.', '.'].isPrefixOf cursor.rest)

end Cursor

end Dispatch.Yaml
