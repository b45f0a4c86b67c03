import Dispatch.Text.Printable

/-!
# Quoted texts

How a text is shown in a diagnostic: between double quotes, with the quote, the backslash and
every character that cannot be shown as itself escaped. A path is shown the same way and has its
single quotes escaped as well.
-/

namespace Dispatch.Text

/-- The hexadecimal digits of a code point, in lower case. -/
def hexDigits (n : Nat) : Text := Nat.toDigits 16 n

/-- A character as it stands between double quotes. -/
def quotedChar (c : Char) : Text :=
  if c = '"' then ['\\', '"']
  else if c = '\\' then ['\\', '\\']
  else if c = '\n' then ['\\', 'n']
  else if c = '\r' then ['\\', 'r']
  else if c = '\t' then ['\\', 't']
  else if c = Char.ofNat 0 then ['\\', '0']
  else if isPrintable c then [c]
  else ['\\', 'u', '{'] ++ hexDigits c.toNat ++ ['}']

/-- A text between double quotes. -/
def quoted (text : Text) : Text := '"' :: text.flatMap quotedChar ++ ['"']

/-- A path between double quotes: as a text, and a single quote is escaped too. -/
def quotedPath (text : Text) : Text :=
  '"' :: text.flatMap (fun c => if c = '\'' then ['\\', '\''] else quotedChar c) ++ ['"']

end Dispatch.Text

namespace Dispatch

/-- A string between double quotes, as diagnostics show it. -/
def quoted (s : String) : String := String.ofList (Text.quoted s.toList)

end Dispatch
