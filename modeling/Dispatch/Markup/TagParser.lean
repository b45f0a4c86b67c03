import Dispatch.Markup.Closing
import Dispatch.Markup.Formatter

/-!
# Formatting a text

A parser formats a text depth-first: the tags inside a body come before the tag around it, unless
that tag takes its body raw. The calls of formatters are kept in order, also when one of them
fails; together they are all that a handler may remember.
-/

namespace Dispatch.Markup

/-! ## 1. One call -/

/-- The effect of formatting: it may fail, and it keeps the calls that were made. -/
abbrev Formatting := ExceptT FormatError (StateM (List Call))

/-- Calls a formatter. It is told its own earlier calls. -/
def invoke (formatter : Formatter) (call : Call) : Formatting Text := do
  let made ← get
  set (made ++ [call])
  match formatter.answer (made.filter fun earlier => earlier.tag = call.tag) call with
  | .ok text => return text
  | .error failure => throw failure

/-! ## 2. Tokens -/

/-- Formats the tokens of a body, or of a whole text if there is no parent. A closing tag that
closes nothing is dropped. -/
def formatTokens (rules : Rules) (context : Context) (parent : Option ParentTag)
    (tokens : List Token) : Formatting Text :=
  match tokens with
  | [] => return []
  | .data text :: rest => do
    let behind ← formatTokens rules context parent rest
    return text ++ behind
  | .newline :: rest => do
    let behind ← formatTokens rules context parent rest
    return '\n' :: behind
  | .closing _ _ :: rest => formatTokens rules context parent rest
  | .opening name attributes raw :: rest =>
    match Dict.get? name rules with
    | none => do
      let behind ← formatTokens rules context parent rest
      return raw ++ behind
    | some rule =>
      if rule.options.standalone then do
        let text ← invoke rule.formatter ⟨name, [], attributes, parent, context⟩
        let behind ← formatTokens rules context parent rest
        return text ++ behind
      else do
        have := bodyTokens_length_le name rule.options rest
        have := tokensBehind_length_le name rule.options rest
        let body := bodyTokens name rule.options rest
        let inner ←
          if rule.options.renderEmbedded then
            formatTokens rules context (some ⟨name, rule.options⟩) body
          else pure (Token.rawText body)
        let value := if rule.options.strip then Text.trim inner else inner
        let text ← invoke rule.formatter ⟨name, value, attributes, parent, context⟩
        let behind ← formatTokens rules context parent (tokensBehind name rule.options rest)
        return text ++ behind
termination_by tokens.length
decreasing_by all_goals simp only [List.length_cons]; omega

/-! ## 3. Parsers -/

/-- The outcome of formatting a text: the text or the first failure, and the calls in order. -/
structure Formatted where
  result : Except FormatError Text
  calls : List Call

/-- A set of rules and the calls that its formatters have had. -/
structure TagParser where
  rules : Rules := []
  history : List Call := []

namespace TagParser

/-- The parser with a formatter for a tag, in place of the one it had; a new formatter remembers
no calls. -/
def insert (tag : Text) (options : TagOptions) (formatter : Formatter) (parser : TagParser) :
    TagParser :=
  let name := Text.lower tag
  { rules := Dict.insert name ⟨options, formatter⟩ parser.rules
    history := parser.history.filter fun call => call.tag ≠ name }

/-- Whether there is a formatter for a tag, in whatever case it is written. -/
def hasTag (tag : Text) (parser : TagParser) : Bool := Dict.contains (Text.lower tag) parser.rules

/-- The names of the tags, in ascending order. -/
def tagNames (parser : TagParser) : List Text := Dict.keys parser.rules

/-- Whether there are no formatters. -/
def isEmpty (parser : TagParser) : Bool := parser.rules.isEmpty

/-- The tokens of a text, as this parser reads it. -/
def tokens (parser : TagParser) (text : Text) : List Token :=
  tokenize (fun name => Dict.contains name parser.rules) text

/-- Formats a text. -/
def format (parser : TagParser) (text : Text) (context : Context) : Formatted :=
  if parser.rules.isEmpty then ⟨.ok text, []⟩
  else
    let (result, made) :=
      (formatTokens parser.rules context none (parser.tokens text)).run.run parser.history
    ⟨result, made.drop parser.history.length⟩

/-- The parser after some more calls. -/
def remember (parser : TagParser) (calls : List Call) : TagParser :=
  { parser with history := parser.history ++ calls }

/-- Those of some calls that went to handlers. -/
def handlerCalls (parser : TagParser) (calls : List Call) : List Call :=
  calls.filter fun call =>
    match Dict.get? call.tag parser.rules with
    | some rule => rule.formatter.isHandler
    | none => false

/-- The parser with its structure written out. -/
def structured (parser : TagParser) : String :=
  Diagnostic.record "TagParser"
    [("tags", Diagnostic.listed (parser.tagNames.map fun name => quoted (String.ofList name)))]

end TagParser

end Dispatch.Markup
