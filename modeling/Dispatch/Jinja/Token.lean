import Dispatch.Number.Reading
import Dispatch.Text.Blank

/-!
# Tokens of a template

A template is text with marks in it: outputs between double braces, blocks between braces with
percent signs, comments between braces with hashes. A hyphen inside a mark trims the text on that
side. Behind a block or a comment one line break is dropped, and so is one at the end of the
template. What stands between `raw` and `endraw` is text.
-/

namespace Dispatch.Jinja

/-- A sign inside a mark. -/
inductive Symbol where
  | plus
  | minus
  | times
  | slash
  | doubleSlash
  | percent
  | tilde
  | assign
  | equal
  | unequal
  | less
  | lessEqual
  | greater
  | greaterEqual
  | dot
  | comma
  | colon
  | bar
  | roundOpen
  | roundClose
  | squareOpen
  | squareClose
  | curlyOpen
  | curlyClose
  deriving DecidableEq, Repr

/-- A token of a template. -/
inductive Token where
  | text (text : Text)
  | outputStart
  | outputEnd
  | blockStart
  | blockEnd
  | name (name : Text)
  | string (text : Text)
  | int (n : Nat)
  | float (number : DecimalText)
  | symbol (symbol : Symbol)
  deriving DecidableEq, Repr

/-! ## 1. Inside a mark -/

/-- Whether a character is blank inside a mark. -/
def isCodeBlank (c : Char) : Bool :=
  c = ' ' || c = '\t' || c = '\n' || c = '\r' || c = '\x0c'

/-- The sign at the start of a text. -/
def symbol? : Text → Option (Symbol × Text)
  | '/' :: '/' :: rest => some (.doubleSlash, rest)
  | '=' :: '=' :: rest => some (.equal, rest)
  | '!' :: '=' :: rest => some (.unequal, rest)
  | '>' :: '=' :: rest => some (.greaterEqual, rest)
  | '<' :: '=' :: rest => some (.lessEqual, rest)
  | '+' :: rest => some (.plus, rest)
  | '-' :: rest => some (.minus, rest)
  | '*' :: rest => some (.times, rest)
  | '/' :: rest => some (.slash, rest)
  | '%' :: rest => some (.percent, rest)
  | '~' :: rest => some (.tilde, rest)
  | '=' :: rest => some (.assign, rest)
  | '<' :: rest => some (.less, rest)
  | '>' :: rest => some (.greater, rest)
  | '.' :: rest => some (.dot, rest)
  | ',' :: rest => some (.comma, rest)
  | ':' :: rest => some (.colon, rest)
  | '|' :: rest => some (.bar, rest)
  | '(' :: rest => some (.roundOpen, rest)
  | ')' :: rest => some (.roundClose, rest)
  | '[' :: rest => some (.squareOpen, rest)
  | ']' :: rest => some (.squareClose, rest)
  | '{' :: rest => some (.curlyOpen, rest)
  | '}' :: rest => some (.curlyClose, rest)
  | _ => none

/-- By how much a sign changes the number of open brackets. -/
def Symbol.opens : Symbol → Int
  | .roundOpen => 1
  | .squareOpen => 1
  | .curlyOpen => 1
  | .roundClose => -1
  | .squareClose => -1
  | .curlyClose => -1
  | _ => 0

/-- Whether a character may start a name. -/
def startsName (c : Char) : Bool := c.isAlpha || c = '_'

/-- Whether a character may stand in a name. -/
def isNameChar (c : Char) : Bool := startsName c || Text.isDigit c

/-- The number of four digits of base sixteen at the start of a text. -/
def unit? : Text → Option (Nat × Text)
  | a :: b :: c :: d :: rest => (Text.natOf? 16 [a, b, c, d]).map fun n => (n, rest)
  | _ => none

/-- The character of an escape behind its `u`; two halves of a pair are one character. -/
def escapedUnit? (text : Text) : Option (Char × Text) := do
  let (n, rest) ← unit? text
  if n < 0xD800 ∨ 0xDFFF < n then return (Char.ofNat n, rest)
  else if n < 0xDC00 then
    let (m, rest) ← unit? (← Text.after? ['\\', 'u'] rest)
    if 0xDC00 ≤ m ∧ m ≤ 0xDFFF then
      return (Char.ofNat (0x10000 + (n - 0xD800) * 0x400 + (m - 0xDC00)), rest)
    else none
  else none

/-- Reads a string behind its opening quote. -/
def stringText? (quote : Char) (soFar : Text) : Nat → Text → Option (Text × Text)
  | 0, _ => none
  | _ + 1, [] => none
  | bound + 1, c :: rest =>
    if c = quote then some (soFar.reverse, rest)
    else if c = '\\' then
      match rest with
      | [] => none
      | d :: rest =>
        match d with
        | '"' => stringText? quote ('"' :: soFar) bound rest
        | '\\' => stringText? quote ('\\' :: soFar) bound rest
        | '/' => stringText? quote ('/' :: soFar) bound rest
        | '\'' => stringText? quote ('\'' :: soFar) bound rest
        | 'b' => stringText? quote ('\x08' :: soFar) bound rest
        | 'f' => stringText? quote ('\x0c' :: soFar) bound rest
        | 'n' => stringText? quote ('\n' :: soFar) bound rest
        | 'r' => stringText? quote ('\r' :: soFar) bound rest
        | 't' => stringText? quote ('\t' :: soFar) bound rest
        | 'u' =>
          match escapedUnit? rest with
          | some (e, rest) => stringText? quote (e :: soFar) bound rest
          | none => none
        | _ => none
    else stringText? quote (c :: soFar) bound rest

/-- The fraction at the start of a text, with its point. -/
def fractionPart : Text → Text × Text
  | '.' :: rest => ('.' :: rest.takeWhile Text.isDigit, rest.dropWhile Text.isDigit)
  | text => ([], text)

/-- The exponent at the start of a text, with its mark. -/
def exponentPart : Text → Text × Text
  | c :: rest =>
    if c = 'e' ∨ c = 'E' then
      let (mark, rest) := match rest with
        | '+' :: rest => ([c, '+'], rest)
        | '-' :: rest => ([c, '-'], rest)
        | rest => ([c], rest)
      (mark ++ rest.takeWhile Text.isDigit, rest.dropWhile Text.isDigit)
    else ([], c :: rest)
  | [] => ([], [])

/-- Reads a number that starts with a digit. -/
def number? (text : Text) : Option (Token × Text) := do
  let (whole, rest) := text.span Text.isDigit
  let (fraction, rest) := fractionPart rest
  let (exponent, rest) := exponentPart rest
  if fraction.isEmpty && exponent.isEmpty then
    let n ← Text.natOf? 10 whole
    if n < Nat.pow 2 128 then return (.int n, rest) else none
  else return (.float (← DecimalText.parse? (whole ++ fraction ++ exponent)), rest)

/-- Reads a token inside a mark, at the start of a text that starts with no blank. -/
def codeToken? (text : Text) : Option (Token × Text) :=
  match text with
  | [] => none
  | c :: rest =>
    if c = '"' ∨ c = '\'' then
      (stringText? c [] (rest.length + 1) rest).map fun (text, rest) => (.string text, rest)
    else if Text.isDigit c then number? text
    else if startsName c then
      some (.name (text.takeWhile isNameChar), text.dropWhile isNameChar)
    else (symbol? text).map fun (symbol, rest) => (.symbol symbol, rest)

/-- What happens to the text behind a mark. -/
inductive Behind where
  /-- It stays. -/
  | keep
  /-- A line break at its start is dropped. -/
  | dropBreak
  /-- Blanks at its start are dropped. -/
  | trim
  deriving DecidableEq, Repr

/-- The end of an output, or of a block, at the start of a text. -/
def markEnd? (isBlock : Bool) (text : Text) : Option (Behind × Text) :=
  match isBlock, text with
  | false, '}' :: '}' :: rest => some (.keep, rest)
  | false, '-' :: '}' :: '}' :: rest => some (.trim, rest)
  | true, '%' :: '}' :: rest => some (.dropBreak, rest)
  | true, '-' :: '%' :: '}' :: rest => some (.trim, rest)
  | true, '+' :: '%' :: '}' :: rest => some (.keep, rest)
  | _, _ => none

/-- Reads the tokens of an output or a block to its end, which does not come while a bracket is
open. -/
def codeTokens? (isBlock : Bool) (opened : Int) (soFar : List Token) :
    Nat → Text → Option (List Token × Behind × Text)
  | 0, _ => none
  | bound + 1, text =>
    let text := text.dropWhile isCodeBlank
    match if opened = 0 then markEnd? isBlock text else none with
    | some (behind, rest) => some (soFar.reverse, behind, rest)
    | none =>
      match codeToken? text with
      | none => none
      | some (token, rest) =>
        let opened := match token with
          | .symbol symbol => opened + symbol.opens
          | _ => opened
        codeTokens? isBlock opened (token :: soFar) bound rest

/-! ## 2. Texts and marks -/

/-- The text without a line break at its start. -/
def withoutBreak : Text → Text
  | '\r' :: '\n' :: rest => rest
  | '\r' :: rest => rest
  | '\n' :: rest => rest
  | text => text

/-- The text behind a mark. -/
def Behind.apply : Behind → Text → Text
  | .keep, text => text
  | .dropBreak, text => withoutBreak text
  | .trim, text => Text.trimStart text

/-- The sign for trimming at the start of a text, and what it says about the text on its side. -/
def trimSign : Text → Behind × Text
  | '-' :: rest => (.trim, rest)
  | '+' :: rest => (.keep, rest)
  | text => (.dropBreak, text)

/-- A kind of mark. -/
inductive Mark where
  | output
  | block
  | comment
  deriving DecidableEq

/-- The mark that starts a text. -/
def mark? : Text → Option (Mark × Text)
  | '{' :: '{' :: rest => some (.output, rest)
  | '{' :: '%' :: rest => some (.block, rest)
  | '{' :: '#' :: rest => some (.comment, rest)
  | _ => none

/-- The text before the next mark, and the rest. -/
def beforeMark : Text → Text × Text
  | [] => ([], [])
  | c :: rest =>
    if (mark? (c :: rest)).isSome then ([], c :: rest)
    else
      let (before, rest) := beforeMark rest
      (c :: before, rest)

/-- The end of a block of one given word, behind its opening. -/
def wordBlock? (word : Text) (text : Text) : Option (Behind × Text) := do
  let rest ← Text.after? word (text.dropWhile isCodeBlank)
  let (behind, rest) := trimSign (rest.dropWhile isCodeBlank)
  return (behind, ← Text.after? ['%', '}'] rest)

/-- Reads raw text to the block that ends it: the text, how its end is trimmed, and the rest. -/
def rawText? (soFar : Text) : Text → Option (Text × Behind × Behind × Text)
  | [] => none
  | c :: rest =>
    let ending : Option (Text × Behind × Behind × Text) := do
      let (before, behind) := trimSign (← Text.after? ['{', '%'] (c :: rest))
      let (after, behind) ← wordBlock? "endraw".toList behind
      return (soFar.reverse, before, after, behind)
    match ending with
    | some found => some found
    | none => rawText? (c :: soFar) rest

/-- Reads a comment behind its opening to its end. -/
def comment? : Text → Option (Behind × Text)
  | '-' :: '#' :: '}' :: rest => some (.trim, rest)
  | '+' :: '#' :: '}' :: rest => some (.keep, rest)
  | '#' :: '}' :: rest => some (.dropBreak, rest)
  | _ :: rest => comment? rest
  | [] => none

/-- A text token, unless the text is empty. -/
def textToken (text : Text) : List Token := if text.isEmpty then [] else [.text text]

/-- Reads the tokens of a template, whose text so far asks something of the text at its start. -/
def templateTokens? (behind : Behind) : Nat → Text → Option (List Token)
  | 0, _ => none
  | bound + 1, text =>
    match behind.apply text with
    | [] => some []
    | text =>
      match mark? text with
      | some (.output, rest) => do
        let (tokens, behind, rest) ←
          codeTokens? false 0 [] (rest.length + 1) (trimSign rest).2
        return .outputStart :: tokens ++ .outputEnd :: (← templateTokens? behind bound rest)
      | some (.comment, rest) => do
        let (behind, rest) ← comment? (trimSign rest).2
        templateTokens? behind bound rest
      | some (.block, rest) =>
        let rest := (trimSign rest).2
        match wordBlock? "raw".toList rest with
        | some (start, rest) => do
          let (raw, before, after, rest) ← rawText? [] rest
          let raw := start.apply raw
          let raw := if before = .trim then Text.trimEnd raw else raw
          return textToken raw ++ (← templateTokens? after bound rest)
        | none => do
          let (tokens, behind, rest) ← codeTokens? true 0 [] (rest.length + 1) rest
          return .blockStart :: tokens ++ .blockEnd :: (← templateTokens? behind bound rest)
      | none => do
        let (lead, rest) := beforeMark text
        let trims := match mark? rest with
          | some (_, '-' :: _) => true
          | _ => false
        let lead := if trims then Text.trimEnd lead else lead
        return textToken lead ++ (← templateTokens? .keep bound rest)

/-- The text without the line break at its end. -/
def dropLastBreak (text : Text) : Text :=
  let dropped (c : Char) (text : Text) : Text :=
    if text.getLast? = some c then text.dropLast else text
  dropped '\r' (dropped '\n' text)

/-- The tokens of a template. -/
def tokens? (text : Text) : Option (List Token) :=
  templateTokens? .keep (text.length + 1) (dropLastBreak text)

end Dispatch.Jinja
