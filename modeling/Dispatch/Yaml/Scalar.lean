import Dispatch.Yaml.Cursor

/-!
# Scalars of YAML

A scalar is written plain, between quotes, or as a block. Within plain and quoted scalars a single
line break is read as a space and further ones as newlines; a block keeps its lines, or folds those
that start with no blank.
-/

namespace Dispatch.Yaml

/-! ## 1. Gaps between words -/

/-- Blanks and line breaks between words: the blanks before the first break, and the breaks. -/
structure Gap where
  blanks : Text := []
  breaks : List Text := []
  deriving Repr

/-- The text that a gap is read as. -/
def Gap.folded (gap : Gap) : Text :=
  match gap.breaks with
  | [] => gap.blanks
  | [['\n']] => [' ']
  | ['\n'] :: more => more.flatten
  | first :: more => first ++ more.flatten

/-- Reads a gap. Where an indent is required, no tab may stand in front of it on a new line. -/
def readGap (indent : Option Int) (gap : Gap) : Nat → Cursor → Option (Gap × Cursor)
  | 0, cursor => some (gap, cursor)
  | bound + 1, cursor =>
    match cursor.rest with
    | [] => some (gap, cursor)
    | c :: _ =>
      if isBlank c then
        let abuses := match indent with
          | some indent => !gap.breaks.isEmpty && (cursor.column : Int) < indent && c = '\t'
          | none => false
        if abuses then none
        else
          let gap := if gap.breaks.isEmpty then { gap with blanks := gap.blanks ++ [c] } else gap
          readGap indent gap bound cursor.skip
      else if isBreak c then
        let (broken, cursor) := cursor.readBreak
        readGap indent ⟨[], gap.breaks ++ [broken]⟩ bound cursor
      else some (gap, cursor)

/-! ## 2. Plain scalars -/

/-- Whether a character separates values inside brackets or braces. -/
def isFlowIndicator (c : Char) : Bool := c ∈ [',', '[', ']', '{', '}']

/-- Reads a word of a plain scalar. Inside brackets a colon right before an indicator is refused. -/
def plainWord (inFlow : Bool) (soFar : Text) : Nat → Cursor → Option (Text × Cursor)
  | 0, cursor => some (soFar.reverse, cursor)
  | bound + 1, cursor =>
    match cursor.rest with
    | [] => some (soFar.reverse, cursor)
    | c :: _ =>
      if isBlank c || isBreak c then some (soFar.reverse, cursor)
      else if inFlow && c = ':' && cursor.aheadIs 1 (fun d => isFlowIndicator d || d = '?') then none
      else if (c = ':' && cursor.gapAt 1) || (inFlow && isFlowIndicator c) then
        some (soFar.reverse, cursor)
      else plainWord inFlow (c :: soFar) bound cursor.skip

/-- Reads a plain scalar that is indented at least so far, behind the text so far and the gap behind
it. Also tells whether lines were broken behind the last word. -/
def plain (inFlow : Bool) (indent : Int) (soFar : Text) (gap : Gap) :
    Nat → Cursor → Option (Text × Bool × Cursor)
  | 0, _ => none
  | bound + 1, cursor => do
    let stop := (soFar, !gap.breaks.isEmpty, cursor)
    if cursor.atDocumentMark || cursor.isAt '#' then return stop
    let (word, behind) ← plainWord inFlow [] (cursor.rest.length + 1) cursor
    if word.isEmpty then return stop
    let soFar := soFar ++ gap.folded ++ word
    if !behind.aheadIs 0 (fun c => isBlank c || isBreak c) then return (soFar, false, behind)
    let (gap, next) ← readGap (some indent) {} (behind.rest.length + 1) behind
    if !inFlow && (next.column : Int) < indent then return (soFar, !gap.breaks.isEmpty, next)
    plain inFlow indent soFar gap bound next

/-! ## 3. Quoted scalars -/

/-- The character of a number, unless it is half of a pair or too large. -/
def numberedChar? (n : Nat) : Option Char :=
  if n < 0xD800 ∨ (0xE000 ≤ n ∧ n < 0x110000) then some (Char.ofNat n) else none

/-- The character that an escape stands for, and how many characters the escape has. -/
def escapedChar? (text : Text) : Option (Char × Nat) :=
  let numbered (count : Nat) (digits : Text) : Option (Char × Nat) := do
    let digits := digits.take count
    if digits.length = count then
      let c ← numberedChar? (← Text.natOf? 16 digits)
      return (c, count + 1)
    else none
  match text with
  | [] => none
  | c :: rest =>
    match c with
    | '0' => some ('\x00', 1)
    | 'a' => some ('\x07', 1)
    | 'b' => some ('\x08', 1)
    | 't' => some ('\t', 1)
    | '\t' => some ('\t', 1)
    | 'n' => some ('\n', 1)
    | 'v' => some ('\x0b', 1)
    | 'f' => some ('\x0c', 1)
    | 'r' => some ('\r', 1)
    | 'e' => some ('\x1b', 1)
    | ' ' => some (' ', 1)
    | '"' => some ('"', 1)
    | '/' => some ('/', 1)
    | '\\' => some ('\\', 1)
    | 'N' => some ('\u0085', 1)
    | '_' => some ('\u00a0', 1)
    | 'L' => some ('\u2028', 1)
    | 'P' => some ('\u2029', 1)
    | 'x' => numbered 2 rest
    | 'u' => numbered 4 rest
    | 'U' => numbered 8 rest
    | _ => none

/-- How a word inside quotes ended. -/
inductive WordEnd where
  | quote
  | gap
  /-- A backslash before a line break, which joins the lines. -/
  | joined
  deriving DecidableEq

/-- Reads a word between single or double quotes. -/
def quotedWord (single : Bool) (soFar : Text) : Nat → Cursor → Option (Text × WordEnd × Cursor)
  | 0, _ => none
  | bound + 1, cursor =>
    match cursor.rest with
    | [] => some (soFar.reverse, .gap, cursor)
    | c :: rest =>
      if isBlank c || isBreak c then some (soFar.reverse, .gap, cursor)
      else if single && c = '\'' && rest.head? = some '\'' then
        quotedWord single ('\'' :: soFar) bound (cursor.skipMany 2)
      else if c = (if single then '\'' else '"') then some (soFar.reverse, .quote, cursor.skip)
      else if !single && c = '\\' then
        if cursor.aheadIs 1 isBreak then some (soFar.reverse, .joined, cursor.skip.readBreak.2)
        else match escapedChar? rest with
          | some (d, width) => quotedWord single (d :: soFar) bound (cursor.skipMany (width + 1))
          | none => none
      else quotedWord single (c :: soFar) bound cursor.skip

/-- Reads a quoted scalar behind its opening quote and the text so far. -/
def quoted (single : Bool) (soFar : Text) : Nat → Cursor → Option (Text × Cursor)
  | 0, _ => none
  | bound + 1, cursor => do
    if cursor.atDocumentMark || cursor.atEnd then none
    let (word, ending, behind) ← quotedWord single [] (cursor.rest.length + 1) cursor
    let soFar := soFar ++ word
    match ending with
    | .quote => return (soFar, behind)
    | .gap =>
      let (gap, next) ← readGap none {} (behind.rest.length + 1) behind
      quoted single (soFar ++ gap.folded) bound next
    | .joined =>
      let (gap, next) ← readGap none ⟨[], [[]]⟩ (behind.rest.length + 1) behind
      quoted single (soFar ++ gap.folded) bound next

/-! ## 4. Blocks -/

/-- What happens to the line breaks at the end of a block. -/
inductive Chomping where
  | strip
  | clip
  | keep
  deriving DecidableEq

/-- Reads the marks behind the indicator of a block: how it ends, and its indent beyond the one
around it if that is given. -/
def blockMarks? (cursor : Cursor) : Option (Chomping × Option Nat × Cursor) :=
  let chomping? : Char → Option Chomping := fun c =>
    if c = '+' then some .keep else if c = '-' then some .strip else none
  let digit? : Char → Option Nat := fun c => if Text.isDigit c then some (c.toNat - 0x30) else none
  match cursor.rest with
  | [] => some (.clip, none, cursor)
  | c :: rest =>
    match chomping? c, digit? c with
    | some chomping, _ =>
      match rest.head?.bind digit? with
      | some 0 => none
      | some n => some (chomping, some n, cursor.skipMany 2)
      | none => some (chomping, none, cursor.skip)
    | none, some 0 => none
    | none, some n =>
      match rest.head?.bind chomping? with
      | some chomping => some (chomping, some n, cursor.skipMany 2)
      | none => some (.clip, some n, cursor.skip)
    | none, none => some (.clip, none, cursor)

/-- Reads blank lines before a line of a block, and its indent. An indent that is not known yet is
taken from the most indented of these lines. -/
def blockBreaks (indent : Option Nat) (widest : Nat) (breaks : List Text) :
    Nat → Cursor → Option (List Text × Nat × Cursor)
  | 0, _ => none
  | bound + 1, cursor =>
    let inside := match indent with
      | some indent => min (cursor.rest.takeWhile (· = ' ')).length (indent - cursor.column)
      | none => (cursor.rest.takeWhile (· = ' ')).length
    let cursor := cursor.skipMany inside
    let widest := max widest cursor.column
    let unindented := match indent with
      | some indent => cursor.column < indent
      | none => true
    if unindented && cursor.isAt '\t' then none
    else if cursor.aheadIs 0 isBreak then
      let (broken, cursor) := cursor.readBreak
      blockBreaks indent widest (breaks ++ [broken]) bound cursor
    else some (breaks, widest, cursor)

/-- Reads the lines of a block of a known indent: the text so far, the break at the end of the last
line, the blank lines behind it, and whether the last line started with a blank. -/
def blockLines (literal : Bool) (indent : Nat) (text : Text) (lastBreak : Text) (blankLines : List Text)
    (leadingBlank : Bool) : Nat → Cursor → Option (Text × Text × List Text × Cursor)
  | 0, _ => none
  | bound + 1, cursor => do
    if cursor.column ≠ indent ∨ cursor.atEnd then return (text, lastBreak, blankLines, cursor)
    let startsBlank := cursor.aheadIs 0 isBlank
    let folds := !literal && lastBreak = ['\n'] && !leadingBlank && !startsBlank
    let joint := if folds then (if blankLines.isEmpty then [' '] else []) else lastBreak
    let line := cursor.rest.takeWhile fun c => !isBreak c
    let text := text ++ joint ++ blankLines.flatten ++ line
    let (lastBreak, cursor) := (cursor.skipMany line.length).readBreak
    let (blankLines, _, cursor) ← blockBreaks (some indent) 0 [] (cursor.rest.length + 1) cursor
    blockLines literal indent text lastBreak blankLines startsBlank bound cursor

/-- Reads a block behind its indicator, inside a context of some indent. -/
def block (literal : Bool) (outer : Int) (cursor : Cursor) : Option (Text × Cursor) := do
  let (chomping, increment, cursor) ← blockMarks? cursor
  let cursor := cursor.skipWhile isBlank
  let cursor := if cursor.isAt '#' then cursor.skipWhile fun c => !isBreak c else cursor
  if !cursor.atEnd && !cursor.aheadIs 0 isBreak then none
  let (_, cursor) := cursor.readBreak
  let given := increment.map fun n => (if 0 ≤ outer then outer + n else n).toNat
  let (blankLines, widest, cursor) ← blockBreaks given 0 [] (cursor.rest.length + 1) cursor
  let indent := given.getD (max widest (max (outer + 1).toNat 1))
  let (text, lastBreak, blankLines, cursor) ←
    blockLines literal indent [] [] blankLines false (cursor.rest.length + 1) cursor
  let ending := match chomping with
    | .strip => []
    | .clip => lastBreak
    | .keep => lastBreak ++ blankLines.flatten
  return (text ++ ending, cursor)

end Dispatch.Yaml
