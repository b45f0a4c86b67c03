import Dispatch.Markup.Tag

/-!
# Tokens

A text as a row of tokens: pieces of one line, newlines, and the tags whose names are known. A
bracketed span that is no tag, or a tag of an unknown name, is plain text.
-/

namespace Dispatch.Markup

/-- A token of a text. A tag keeps the characters that wrote it. -/
inductive Token where
  | data (text : Text)
  | newline
  | opening (name : Text) (attributes : Attributes) (raw : Text)
  | closing (name : Text) (raw : Text)
  deriving DecidableEq, Repr

namespace Token

/-- The characters that a token was read from. -/
def raw : Token → Text
  | .data text => text
  | .newline => ['\n']
  | .opening _ _ raw => raw
  | .closing _ raw => raw

/-- The characters of a row of tokens. -/
def rawText (tokens : List Token) : Text := tokens.flatMap raw

/-- A piece of a line as a token; nothing for the empty piece. -/
def ofPiece (piece : Text) : List Token := if piece.isEmpty then [] else [.data piece]

/-- The tokens of plain text that follows the piece of a line. -/
def ofTextBehind (piece : Text) : Text → List Token
  | [] => ofPiece piece
  | c :: rest =>
    if c = '\n' then ofPiece piece ++ .newline :: ofTextBehind [] rest
    else ofTextBehind (piece ++ [c]) rest

/-- The tokens of plain text. -/
def ofText (text : Text) : List Token := ofTextBehind [] text

/-- The tokens of a bracketed span, of which the closing bracket was found or not. -/
def ofSpan (known : Text → Bool) (raw : Text) (closed : Bool) : List Token :=
  match (if closed then Tag.ofSpan? raw else none) with
  | some (.opening name attributes) =>
    if known name then [.opening name attributes raw] else ofText raw
  | some (.closing name) => if known name then [.closing name raw] else ofText raw
  | none => ofText raw

end Token

/-- The text from the first opening bracket on is shorter than a text it is a proper end of. -/
theorem length_lt_of_dropWhile_eq {p : Char → Bool} {text rest : Text} {c : Char}
    (h : text.dropWhile p = c :: rest) : rest.length < text.length := by
  have hle : (text.dropWhile p).length ≤ text.length := (List.dropWhile_sublist p).length_le
  rw [h, List.length_cons] at hle
  exact hle

/-- The tokens of a text, in which exactly the tags of known names are tags. -/
def tokenize (known : Text → Bool) (text : Text) : List Token :=
  let before := text.takeWhile (· ≠ '[')
  match h : text.dropWhile (· ≠ '[') with
  | [] => Token.ofText before
  | bracket :: behind =>
    let span := Bracket.scan .plain behind
    have : span.rest.length < text.length :=
      Nat.lt_of_le_of_lt (Bracket.scan_rest_length_le .plain behind) (length_lt_of_dropWhile_eq h)
    Token.ofText before ++ Token.ofSpan known (bracket :: span.inner) span.closed
      ++ tokenize known span.rest
termination_by text.length

end Dispatch.Markup
