import Dispatch.Yaml.Scalar

/-!
# Tokens of YAML

The indentation of a text becomes tokens that open and close sequences and mappings, so that
nothing behind needs to look at columns. A key without a mark of its own is found when the colon
behind it comes: where it might have started is remembered until then, for one line and a limited
length.
-/

namespace Dispatch.Yaml

/-- A token. -/
inductive Token where
  | versionDirective (major minor : Nat)
  | tagDirective (handle expansion : Text)
  | documentStart
  | documentEnd
  | blockSequence
  | blockMapping
  | blockEnd
  | flowSequence
  | flowSequenceEnd
  | flowMapping
  | flowMappingEnd
  | blockEntry
  | flowEntry
  | key
  | value
  | alias (name : Text)
  | anchor (name : Text)
  | tag (handle suffix : Text)
  | scalar (text : Text) (plain : Bool)
  deriving DecidableEq, Repr

/-- Where a key may have started: the number of tokens before it, its place, and whether it must be
a key because it stands where one is due. -/
structure KeyStart where
  before : Nat
  line : Nat
  column : Nat
  index : Nat
  required : Bool

/-- The state of cutting a text into tokens. The possible keys are those of the brackets that are
open, the innermost first, and of the block around them. -/
structure Scan where
  cursor : Cursor
  tokens : Array Token := #[]
  indent : Int := -1
  indents : List Int := []
  keys : List (Option KeyStart) := [none]
  keyAllowed : Bool := true

namespace Scan

/-! ## 1. Indentation and keys -/

/-- Whether brackets or braces are open. -/
def inFlow (scan : Scan) : Bool := scan.keys.length > 1

/-- One more token. -/
def emit (token : Token) (scan : Scan) : Scan := { scan with tokens := scan.tokens.push token }

/-- One more token, before the last ones. -/
def emitAt (place : Nat) (token : Token) (scan : Scan) : Scan :=
  { scan with
    tokens := (scan.tokens.extract 0 place).push token
      ++ scan.tokens.extract place scan.tokens.size }

/-- The column as a number that may be compared with an indent. -/
def column (scan : Scan) : Int := scan.cursor.column

/-- Opens a sequence or mapping if the column is further right than the present one. -/
def openBlock (column : Int) (place : Nat) (token : Token) (scan : Scan) : Scan :=
  if !scan.inFlow && scan.indent < column then
    { scan with indents := scan.indent :: scan.indents, indent := column }.emitAt place token
  else scan

/-- Closes the sequences and mappings that are further right than a column. -/
def closeBlocks (column : Int) (scan : Scan) : Scan :=
  if scan.inFlow then scan else go scan.indents scan
where
  /-- Closes those of some indents that are further right. -/
  go : List Int → Scan → Scan
    | [], scan => scan
    | outer :: more, scan =>
      if column < scan.indent then
        go more ({ scan with indent := outer, indents := more }.emit .blockEnd)
      else scan

/-- The longest key that needs no mark. -/
def maxKeyLength : Nat := 1024

/-- Whether a key that may have started somewhere can no longer be one. -/
def isStale (scan : Scan) (key : KeyStart) : Bool :=
  key.line < scan.cursor.line || key.index + maxKeyLength < scan.cursor.index

/-- Forgets the keys that can no longer be keys; refused if one of them must be one. -/
def forgetStale (scan : Scan) : Option Scan := do
  let keys ← scan.keys.mapM fun key => match key with
    | none => some none
    | some start =>
      if scan.isStale start then (if start.required then none else some none) else some (some start)
  return { scan with keys := keys }

/-- Forgets the innermost possible key; refused if it must be one. -/
def forgetKey (scan : Scan) : Option Scan :=
  match scan.keys with
  | some start :: more => if start.required then none else some { scan with keys := none :: more }
  | _ => some scan

/-- Remembers that a key may start here. -/
def rememberKey (scan : Scan) : Option Scan := do
  if scan.keyAllowed then
    let start : KeyStart :=
      { before := scan.tokens.size, line := scan.cursor.line, column := scan.cursor.column
        index := scan.cursor.index, required := !scan.inFlow && scan.indent = scan.column }
    let scan ← scan.forgetKey
    return { scan with keys := some start :: scan.keys.tail }
  else return scan

/-- The state with the cursor somewhere else. -/
def moveTo (cursor : Cursor) (scan : Scan) : Scan := { scan with cursor := cursor }

/-- The state in which a key may or may not start next. -/
def allowKey (allowed : Bool) (scan : Scan) : Scan := { scan with keyAllowed := allowed }

/-! ## 2. Between tokens -/

/-- Goes to the next token: over blanks, comments and line breaks, at most so many. A mark of the
byte order at the start of the text takes a column. -/
def toNext : Nat → Scan → Scan
  | 0, scan => scan
  | bound + 1, scan =>
    let cursor := if scan.cursor.index = 0 ∧ scan.cursor.isAt '\ufeff' then scan.cursor.skip
      else scan.cursor
    let cursor := cursor.skipWhile fun c =>
      c = ' ' || (c = '\t' && (scan.inFlow || !scan.keyAllowed))
    let cursor := if cursor.isAt '#' then cursor.skipWhile fun c => !isBreak c else cursor
    if cursor.aheadIs 0 isBreak then
      toNext bound ((scan.moveTo cursor.readBreak.2).allowKey (scan.keyAllowed || !scan.inFlow))
    else scan.moveTo cursor

/-! ## 3. Directives, anchors and tags -/

/-- Whether a character may stand in a handle or an anchor. -/
def isWordChar (c : Char) : Bool := c.isAlphanum || c = '_' || c = '-'

/-- The decimal number at the cursor. -/
def number? (cursor : Cursor) : Option (Nat × Cursor) := do
  let digits := cursor.rest.takeWhile Text.isDigit
  if digits.isEmpty ∨ digits.length > 9 then none
  let n ← Text.natOf? 10 digits
  return (n, cursor.skipMany digits.length)

/-- Whether a character may stand in the suffix of a tag. -/
def isUriChar (c : Char) : Bool :=
  isWordChar c || c ∈ [';', '/', '?', ':', '@', '&', '=', '+', '$', '.', '%', '!', '~', '*', '\'', '(',
    ')']

/-- Whether a character may stand only in a suffix between angle brackets or in a directive. -/
def isWideUriChar (c : Char) : Bool := isUriChar c || c ∈ [',', '[', ']']

/-- Reads the bytes that escapes at the start of a suffix of a tag write. -/
def uriBytes? : Text → Option (List UInt8 × Text)
  | '%' :: a :: b :: rest => do
    let n ← Text.natOf? 16 [a, b]
    let (bytes, rest) ← uriBytes? rest
    return (n.toUInt8 :: bytes, rest)
  | '%' :: _ => none
  | rest => some ([], rest)

/-- The suffix of a tag with its escapes read. -/
def decodedUri? : Nat → Text → Option Text
  | 0, _ => none
  | _ + 1, [] => some []
  | bound + 1, c :: rest =>
    if c = '%' then do
      let (bytes, rest) ← uriBytes? (c :: rest)
      let text ← String.fromUTF8? ⟨bytes.toArray⟩
      return text.toList ++ (← decodedUri? bound rest)
    else (decodedUri? bound rest).map (c :: ·)

/-- Reads the suffix of a tag. -/
def uri? (wide : Bool) (cursor : Cursor) : Option (Text × Cursor) := do
  let raw := cursor.rest.takeWhile (if wide then isWideUriChar else isUriChar)
  let text ← decodedUri? (raw.length + 1) raw
  return (text, cursor.skipMany raw.length)

/-- Reads the handle of a tag: an exclamation mark, or a word between two. -/
def handle? (cursor : Cursor) : Option (Text × Cursor) :=
  if cursor.isAt '!' then
    let word := cursor.skip.rest.takeWhile isWordChar
    let behind := cursor.skip.skipMany word.length
    if behind.isAt '!' then some ('!' :: word ++ ['!'], behind.skip) else some ('!' :: word, behind)
  else none

/-- Reads a tag. -/
def tag? (inFlow : Bool) (cursor : Cursor) : Option (Token × Cursor) := do
  let (token, cursor) ←
    if cursor.ahead? 1 = some '<' then do
      let (suffix, cursor) ← uri? true (cursor.skipMany 2)
      if suffix.isEmpty ∨ !cursor.isAt '>' then none
      some (Token.tag [] suffix, cursor.skip)
    else do
      let (handle, behind) ← handle? cursor
      if handle.length ≥ 2 ∧ handle.getLast? = some '!' then
        let (suffix, cursor) ← uri? false behind
        if suffix.isEmpty then none
        some (Token.tag handle suffix, cursor)
      else
        let (suffix, cursor) ← uri? false behind
        let suffix := handle.drop 1 ++ suffix
        if suffix.isEmpty then some (Token.tag [] ['!'], cursor)
        else some (Token.tag ['!'] suffix, cursor)
  if cursor.gapAt 0 || (inFlow && cursor.isAt ',') then return (token, cursor) else none

/-- Reads an anchor or alias behind its mark. -/
def anchorName? (cursor : Cursor) : Option (Text × Cursor) :=
  let name := cursor.rest.takeWhile isWordChar
  let cursor := cursor.skipMany name.length
  let ends := cursor.gapAt 0
    || cursor.aheadIs 0 fun c => c ∈ ['?', ':', ',', ']', '}', '%', '@', '\x60']
  if name.isEmpty || !ends then none else some (name, cursor)

/-- Reads the end of a directive's line. -/
def directiveEnd? (cursor : Cursor) : Option Cursor :=
  let cursor := cursor.skipWhile isBlank
  let cursor := if cursor.isAt '#' then cursor.skipWhile fun c => !isBreak c else cursor
  if cursor.atEnd then some cursor
  else if cursor.aheadIs 0 isBreak then some cursor.readBreak.2
  else none

/-- Reads a directive behind its mark; an unknown one has no token. -/
def directive? (cursor : Cursor) : Option (Option Token × Cursor) := do
  let name := cursor.rest.takeWhile isWordChar
  let cursor := cursor.skipMany name.length
  if name.isEmpty ∨ !cursor.gapAt 0 then none
  if name = "YAML".toList then
    let (major, cursor) ← number? (cursor.skipWhile isBlank)
    if !cursor.isAt '.' then none
    let (minor, cursor) ← number? cursor.skip
    return (some (.versionDirective major minor), ← directiveEnd? cursor)
  else if name = "TAG".toList then
    let (handle, cursor) ← handle? (cursor.skipWhile isBlank)
    if handle ≠ ['!'] ∧ handle.getLast? ≠ some '!' then none
    if !cursor.aheadIs 0 isBlank then none
    let (expansion, cursor) ← uri? true (cursor.skipWhile isBlank)
    if expansion.isEmpty ∨ !cursor.gapAt 0 then none
    return (some (.tagDirective handle expansion), ← directiveEnd? cursor)
  else return (none, ← directiveEnd? (cursor.skipWhile fun c => !isBreak c))

/-! ## 4. Tokens -/

/-- Ends the block level: closes all blocks and forgets the possible key. -/
def leaveBlocks (scan : Scan) : Option Scan := do
  let scan ← (scan.closeBlocks (-1)).forgetKey
  return scan.allowKey false

/-- Takes a token of one character. -/
def mark (token : Token) (scan : Scan) : Scan := (scan.moveTo scan.cursor.skip).emit token

/-- Takes an opening bracket or brace. -/
def openFlow (token : Token) (scan : Scan) : Option Scan := do
  let scan ← scan.rememberKey
  return ({ scan with keys := none :: scan.keys }.allowKey true).mark token

/-- Takes a closing bracket or brace. -/
def closeFlow (token : Token) (scan : Scan) : Option Scan := do
  let scan ← scan.forgetKey
  let keys := if scan.inFlow then scan.keys.tail else scan.keys
  return ({ scan with keys := keys }.allowKey false).mark token

/-- Takes the mark of an entry of a sequence. -/
def takeEntry (scan : Scan) : Option Scan := do
  if !scan.inFlow && !scan.keyAllowed then none
  let scan ← (scan.openBlock scan.column scan.tokens.size .blockSequence).forgetKey
  return (scan.allowKey true).mark .blockEntry

/-- Takes the mark of a key. -/
def takeKey (scan : Scan) : Option Scan := do
  if !scan.inFlow && !scan.keyAllowed then none
  let scan ← (scan.openBlock scan.column scan.tokens.size .blockMapping).forgetKey
  return (scan.allowKey !scan.inFlow).mark .key

/-- Takes a colon: what may have been a key before it is one. -/
def takeValue (scan : Scan) : Option Scan :=
  match scan.keys with
  | some start :: more =>
    let scan := { scan with keys := none :: more }.emitAt start.before .key
    let scan := scan.openBlock start.column start.before .blockMapping
    some ((scan.allowKey false).mark .value)
  | _ =>
    if !scan.inFlow && !scan.keyAllowed then none
    else
      let scan := scan.openBlock scan.column scan.tokens.size .blockMapping
      some ((scan.allowKey !scan.inFlow).mark .value)

/-- Takes a scalar that may be a key. -/
def takeScalar (read : Cursor → Option (Text × Bool × Cursor)) (isPlain : Bool) (scan : Scan) :
    Option Scan := do
  let scan ← scan.rememberKey
  let (text, broken, cursor) ← read scan.cursor
  return ((scan.allowKey broken).moveTo cursor).emit (.scalar text isPlain)

/-- Takes an anchor, an alias or a tag. -/
def takeProperty (read : Cursor → Option (Token × Cursor)) (scan : Scan) : Option Scan := do
  let scan ← scan.rememberKey
  let (token, cursor) ← read scan.cursor
  return ((scan.allowKey false).moveTo cursor).emit token

/-- Whether a plain scalar can start here. -/
def startsPlain (scan : Scan) (c : Char) : Bool :=
  let indicators := ['-', '?', ':', ',', '[', ']', '{', '}', '#', '&', '*', '!', '|', '>', '\'', '"',
    '%', '@', '\x60']
  (!indicators.contains c && !isBlank c)
    || (c = '-' && !scan.cursor.aheadIs 1 isBlank)
    || (!scan.inFlow && (c = '?' || c = ':') && !scan.cursor.gapAt 1)

/-- Takes the token that starts with a character. -/
def take (c : Char) (scan : Scan) : Option Scan :=
  let length := scan.cursor.rest.length + 1
  let quotedScalar (single : Bool) (cursor : Cursor) : Option (Text × Bool × Cursor) :=
    (quoted single [] length cursor.skip).map fun (text, cursor) => (text, false, cursor)
  if scan.cursor.column = 0 && c = '%' then do
    let scan ← scan.leaveBlocks
    let (token, cursor) ← directive? scan.cursor.skip
    let scan := scan.moveTo cursor
    return match token with
      | some token => scan.emit token
      | none => scan
  else if scan.cursor.atDocumentMark then do
    let scan ← scan.leaveBlocks
    return (scan.moveTo (scan.cursor.skipMany 3)).emit
      (if c = '-' then .documentStart else .documentEnd)
  else if c = '[' then scan.openFlow .flowSequence
  else if c = '{' then scan.openFlow .flowMapping
  else if c = ']' then scan.closeFlow .flowSequenceEnd
  else if c = '}' then scan.closeFlow .flowMappingEnd
  else if c = ',' then do return ((← scan.forgetKey).allowKey true).mark .flowEntry
  else if c = '-' && scan.cursor.gapAt 1 then scan.takeEntry
  else if c = '?' && (scan.inFlow || scan.cursor.gapAt 1) then scan.takeKey
  else if c = ':' && (scan.inFlow || scan.cursor.gapAt 1) then scan.takeValue
  else if c = '*' then
    scan.takeProperty fun cursor => (anchorName? cursor.skip).map fun (n, k) => (.alias n, k)
  else if c = '&' then
    scan.takeProperty fun cursor => (anchorName? cursor.skip).map fun (n, k) => (.anchor n, k)
  else if c = '!' then scan.takeProperty (tag? scan.inFlow)
  else if (c = '|' || c = '>') && !scan.inFlow then do
    let scan ← scan.forgetKey
    let (text, cursor) ← block (c = '|') scan.indent scan.cursor.skip
    return ((scan.allowKey true).moveTo cursor).emit (.scalar text false)
  else if c = '\'' then scan.takeScalar (quotedScalar true) false
  else if c = '"' then scan.takeScalar (quotedScalar false) false
  else if scan.startsPlain c then
    scan.takeScalar (fun cursor => plain scan.inFlow (scan.indent + 1) [] {} length cursor) true
  else none

/-- Takes all tokens, at most so many. -/
def all : Nat → Scan → Option Scan
  | 0, _ => none
  | bound + 1, scan => do
    let scan ← (toNext (scan.cursor.rest.length + 1) scan).forgetStale
    let scan := scan.closeBlocks scan.column
    match scan.cursor.rest with
    | [] => scan.leaveBlocks
    | c :: _ => all bound (← scan.take c)

end Scan

/-- Whether a character may stand in a text of YAML. -/
def isAllowed (c : Char) : Bool :=
  let n := c.toNat
  n = 0x09 || n = 0x0A || n = 0x0D || (0x20 ≤ n && n ≤ 0x7E) || n = 0x85
    || (0xA0 ≤ n && n ≤ 0xD7FF) || (0xE000 ≤ n && n ≤ 0xFFFD) || 0x10000 ≤ n

/-- The tokens of a text. -/
def tokens? (text : Text) : Option (List Token) := do
  if !text.all isAllowed then none
  let scan ← Scan.all (text.length + 2) { cursor := ⟨text, 0, 0, 0⟩ }
  return scan.tokens.toList

end Dispatch.Yaml
