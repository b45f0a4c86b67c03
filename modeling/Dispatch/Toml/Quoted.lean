import Dispatch.Text.Reader

/-!
# Quoted texts of TOML

Basic strings have escapes, literal strings have none; both come on one line or between triple
quotes. A text between triple quotes loses the newline right behind the opening quotes, and a
backslash at the end of a line joins it with the next text that is no blank.
-/

namespace Dispatch.Toml

/-- Whether a control character that may stand nowhere but in an escape. -/
def isControl (c : Char) : Bool := (c.toNat < 0x20 && c ≠ '\t') || c = '\x7f'

/-- Whether a character is a blank within a line. -/
def isSpace (c : Char) : Bool := c = ' ' || c = '\t'

/-- The character of a number, unless it is half of a pair or too large. -/
def scalar? (n : Nat) : Option Char :=
  if n < 0xD800 ∨ (0xE000 ≤ n ∧ n < 0x110000) then some (Char.ofNat n) else none

/-- The character of an escape with a number, given how many digits it has. -/
def numbered? (count : Nat) (text : Text) : Option (Char × Text) := do
  let digits := text.take count
  if digits.length = count then
    let c ← scalar? (← Text.natOf? 16 digits)
    some (c, text.drop count)
  else none

/-- Reads an escape behind its backslash. -/
def escape? : Text → Option (Char × Text)
  | 'b' :: rest => some ('\x08', rest)
  | 't' :: rest => some ('\t', rest)
  | 'n' :: rest => some ('\n', rest)
  | 'f' :: rest => some ('\x0c', rest)
  | 'r' :: rest => some ('\r', rest)
  | 'e' :: rest => some ('\x1b', rest)
  | '"' :: rest => some ('"', rest)
  | '\\' :: rest => some ('\\', rest)
  | 'x' :: rest => numbered? 2 rest
  | 'u' :: rest => numbered? 4 rest
  | 'U' :: rest => numbered? 8 rest
  | _ => none

/-- Takes a newline off the start of a text. -/
def newline? : Text → Option Text
  | '\n' :: rest => some rest
  | '\r' :: '\n' :: rest => some rest
  | _ => none

/-- The text behind a backslash that ends its line: all blanks and newlines are dropped. Nothing if
the backslash does not end its line. -/
def joinedLine? (text : Text) : Option Text :=
  match newline? (text.dropWhile isSpace) with
  | some rest => some (rest.dropWhile fun c => isSpace c || c = '\n' || c = '\r')
  | none => none

/-- Reads a string of one line up to its closing quote. The bound is a number of characters. -/
def oneLine (quote : Char) (escapes : Bool) : Nat → Text → Text → Option (Text × Text)
  | 0, _, _ => none
  | _ + 1, _, [] => none
  | bound + 1, soFar, c :: rest =>
    if c = quote then some (soFar.reverse, rest)
    else if c = '\\' ∧ escapes then
      match escape? rest with
      | some (c, rest) => oneLine quote escapes bound (c :: soFar) rest
      | none => none
    else if isControl c then none
    else oneLine quote escapes bound (c :: soFar) rest

/-- Reads a string of several lines up to its closing quotes. Up to two quotes may stand before
those. -/
def manyLines (quote : Char) (escapes : Bool) : Nat → Text → Text → Option (Text × Text)
  | 0, _, _ => none
  | _ + 1, _, [] => none
  | bound + 1, soFar, c :: rest =>
    if c = quote then
      let (more, behind) := rest.span (· = quote)
      if more.length < 2 then manyLines quote escapes bound (c :: soFar) rest
      else
        let inside := min (more.length - 2) 2
        let back := List.replicate (more.length - 2 - inside) quote
        some ((List.replicate inside quote ++ soFar).reverse, back ++ behind)
    else if c = '\\' ∧ escapes then
      match joinedLine? rest with
      | some rest => manyLines quote escapes bound soFar rest
      | none =>
        match escape? rest with
        | some (c, rest) => manyLines quote escapes bound (c :: soFar) rest
        | none => none
    else match newline? (c :: rest) with
      | some rest => manyLines quote escapes bound ('\n' :: soFar) rest
      | none => if isControl c then none else manyLines quote escapes bound (c :: soFar) rest

/-- Reads a quoted text, which starts with its quote. Triple quotes are read only where several
lines may stand. -/
def quotedText? (allowLines : Bool) : Text → Option (Text × Text)
  | [] => none
  | quote :: rest =>
    if quote ≠ '"' ∧ quote ≠ '\'' then none
    else
      let escapes : Bool := quote = '"'
      match allowLines, Text.after? [quote, quote] rest with
      | true, some rest =>
        let rest := (newline? rest).getD rest
        manyLines quote escapes (rest.length + 1) [] rest
      | _, _ => oneLine quote escapes (rest.length + 1) [] rest

end Dispatch.Toml
