import Dispatch.Text.Basic

/-!
# Bracketed spans

Where a span that starts with an opening bracket ends. Behind an equals sign a quote opens a
quoted region, in which brackets do not count; the region ends at the same quote. Outside such a
region a closing bracket ends the span, and an opening bracket breaks it off. Main statements: the
span and the rest make up the text (`scan_append`), so the rest is never longer.
-/

namespace Dispatch.Markup

/-- How the next character of a span is read. -/
inductive Quoting where
  /-- No equals sign since the start or the last quoted region. -/
  | plain
  /-- A quote would open a quoted region. -/
  | allowed
  /-- Inside a region opened by this quote. -/
  | inside (quote : Char)
  deriving DecidableEq, Repr

/-- Whether a character may open a quoted region. -/
def isQuote (c : Char) : Bool := c = '"' || c = '\''

namespace Quoting

/-- The reading of the character behind `c`. -/
def next (state : Quoting) (c : Char) : Quoting :=
  match state with
  | .plain => if c = '=' then .allowed else .plain
  | .allowed => if isQuote c then .inside c else .allowed
  | .inside quote => if c = quote then .plain else .inside quote

/-- Whether brackets count. -/
def outside : Quoting → Bool
  | .inside _ => false
  | _ => true

end Quoting

/-- A span behind its opening bracket: the characters that belong to it, the closing bracket
included, the rest of the text, and whether the closing bracket was found. -/
structure Bracket where
  inner : Text
  rest : Text
  closed : Bool
  deriving DecidableEq, Repr

namespace Bracket

/-- The same span with one more character in front. -/
def cons (c : Char) (span : Bracket) : Bracket := { span with inner := c :: span.inner }

/-- Reads a span from the characters behind its opening bracket. -/
def scan (state : Quoting) : Text → Bracket
  | [] => ⟨[], [], false⟩
  | c :: rest =>
    if state.outside && c = '[' then ⟨[], c :: rest, false⟩
    else if state.outside && c = ']' then ⟨[c], rest, true⟩
    else cons c (scan (state.next c) rest)

/-- A span and the rest behind it are the text that was scanned. -/
theorem scan_append (state : Quoting) (text : Text) :
    (scan state text).inner ++ (scan state text).rest = text := by
  induction text generalizing state with
  | nil => rfl
  | cons c rest ih =>
    simp only [scan]
    split
    · rfl
    · split
      · rfl
      · simp [cons, ih]

theorem scan_rest_length_le (state : Quoting) (text : Text) :
    (scan state text).rest.length ≤ text.length := by
  have h := congrArg List.length (scan_append state text)
  simp only [List.length_append] at h
  omega

end Bracket

end Dispatch.Markup
