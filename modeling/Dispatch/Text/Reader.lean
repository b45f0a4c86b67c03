import Dispatch.Text.Basic

/-!
# Readers

A reader takes something off the start of a text or refuses it. Readers of nested formats are
written in this effect.
-/

namespace Dispatch

/-- Takes something off the start of a text, or refuses the text. -/
abbrev Reader := StateT Text Option

namespace Reader

variable {α : Type}

/-- Refuses the text. -/
def refuse : Reader α := fun _ => none

/-- The character at the start of the text; it stays there. -/
def peek? : Reader (Option Char) := fun text => some (text.head?, text)

/-- Whether nothing is left. -/
def atEnd : Reader Bool := fun text => some (text.isEmpty, text)

/-- Takes the character at the start. -/
def next : Reader Char
  | [] => none
  | c :: rest => some (c, rest)

/-- Takes a given character. -/
def char (c : Char) : Reader Unit
  | [] => none
  | d :: rest => if c = d then some ((), rest) else none

/-- Takes a given character if it is at the start, and tells whether it was. -/
def optional (c : Char) : Reader Bool
  | [] => some (false, [])
  | d :: rest => if c = d then some (true, rest) else some (false, d :: rest)

/-- Takes the characters at the start that have a property. -/
def takeWhile (p : Char → Bool) : Reader Text := fun text => some (text.span p)

/-- Drops the characters at the start that have a property. -/
def skipWhile (p : Char → Bool) : Reader Unit := fun text => some ((), text.dropWhile p)

/-- Whether the text starts with a given one. -/
def looksAt (start : Text) : Reader Bool := fun text => some (start.isPrefixOf text, text)

/-- Takes a given text. -/
def literal (start : Text) : Reader Unit := fun text =>
  (Text.after? start text).map fun rest => ((), rest)

/-- Reads with a function that takes something off a text. -/
def taking (read : Text → Option (α × Text)) : Reader α := read

end Reader

end Dispatch
