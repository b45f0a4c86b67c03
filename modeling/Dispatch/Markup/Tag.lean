import Dispatch.Dict
import Dispatch.Markup.Bracket
import Dispatch.Text.Case

/-!
# Tags

How a bracketed span on one line reads as a tag. A slash makes it a closing tag; otherwise the
first word is the name, and `key=value` pairs and bare words behind it are attributes. The value in
`[name=value]` is kept under the name itself. Names and keys are lowered, values are trimmed.
-/

namespace Dispatch.Markup

/-- The attributes of a tag, by key. -/
abbrev Attributes := Dict Text Text

/-- What a bracketed span says. -/
inductive Tag where
  | opening (name : Text) (attributes : Attributes)
  | closing (name : Text)
  deriving DecidableEq, Repr

/-! ## 1. Names -/

/-- Whether a character may stand in the name of a tag. -/
def isNameChar (c : Char) : Bool :=
  !Text.isBlank c && !(c = '[' || c = ']' || c = '=' || c = '/' || c = '"' || c = '\'')

/-- Whether a tag of this name can be written: the name is not empty, holds no blank, bracket,
quote, equals sign or slash, and is in lower case. -/
def isValidName (name : Text) : Bool :=
  !name.isEmpty && name.all isNameChar && Text.lower name = name

/-! ## 2. Attributes -/

/-- The word or value that is being read. -/
inductive AttributeState where
  /-- A word; `ended` when a space stands behind it. -/
  | word (word : Text) (ended : Bool)
  /-- A value without quotes, so far. -/
  | bare (key value : Text)
  /-- A value inside quotes. -/
  | quoted (key value : Text) (quote : Char)
  deriving DecidableEq, Repr

/-- The name and the attributes that have been read. -/
structure TagBody where
  name : Option Text
  attributes : Attributes
  deriving DecidableEq, Repr

namespace TagBody

/-- The body with the name set, unless it has one. -/
def withName (word : Text) (body : TagBody) : TagBody :=
  { body with name := some (body.name.getD word) }

/-- The body with an attribute. -/
def put (key value : Text) (body : TagBody) : TagBody :=
  { body with attributes := Dict.insert (Text.lower key) (Text.trim value) body.attributes }

/-- The body with an attribute, if there is a key for it. -/
def putKeyed (key value : Text) (body : TagBody) : TagBody :=
  if key.isEmpty then body else body.put key value

/-- The body behind a word that another word follows: the first such word is the name, a later one
an attribute without a value. -/
def endWord (word : Text) (body : TagBody) : TagBody :=
  if word.isEmpty then body
  else if body.name.isNone then body.withName word
  else body.put word []

/-- The body at the end of the tag. -/
def finish (body : TagBody) : AttributeState → TagBody
  | .word word _ => if word.isEmpty then body else (body.withName word).put word []
  | .bare key value => body.putKeyed key value
  | .quoted key value _ => body.putKeyed key value

/-- Reads the rest of a tag. Without a later equals sign a value without quotes may hold spaces;
inside quotes a backslash takes the meaning off a quote or another backslash. -/
def scan (body : TagBody) : AttributeState → Text → TagBody
  | state, [] => body.finish state
  | .word word ended, c :: rest =>
    if c = '=' then scan (body.withName word) (.bare word []) rest
    else if c = ' ' then scan body (.word word true) rest
    else if ended then scan (body.endWord word) (.word [c] false) rest
    else scan body (.word (word ++ [c]) false) rest
  | .bare key value, c :: rest =>
    if isQuote c then scan body (.quoted key value c) rest
    else if c = ' ' ∧ '=' ∈ rest then scan (body.put key value) (.word [] false) rest
    else scan body (.bare key (value ++ [c])) rest
  | .quoted key value quote, '\\' :: c :: rest =>
    if c = '\\' ∨ isQuote c then scan body (.quoted key (value ++ [c]) quote) rest
    else scan body (.quoted key (value ++ ['\\']) quote) (c :: rest)
  | .quoted key value quote, c :: rest =>
    if c = quote then scan (body.putKeyed key value) (.word [] false) rest
    else scan body (.quoted key (value ++ [c]) quote) rest
termination_by _ text => text.length

end TagBody

/-! ## 3. Tags -/

namespace Tag

/-- The name that a tag opens or closes. -/
def name : Tag → Text
  | .opening name _ => name
  | .closing name => name

/-- Whether a character ends a line. -/
def isLineEnd (c : Char) : Bool := c = '\n' || c = '\r'

/-- The tag of a trimmed text between brackets. -/
def ofInner? : Text → Option Tag
  | [] => none
  | '/' :: name => some (.closing (Text.lower (Text.trim name)))
  | inner =>
    if inner.any fun c => c = '=' || c = ' ' then
      let body := TagBody.scan ⟨none, []⟩ (.word [] false) inner
      some (.opening (Text.lower (Text.trim (body.name.getD []))) body.attributes)
    else some (.opening (Text.lower inner) [])

/-- The tag that a whole bracketed span writes, if it writes one. -/
def ofSpan? (raw : Text) : Option Tag :=
  if raw.any isLineEnd then none
  else match raw with
    | '[' :: body => if body.getLast? = some ']' then ofInner? (Text.trim body.dropLast) else none
    | _ => none

end Tag

end Dispatch.Markup
