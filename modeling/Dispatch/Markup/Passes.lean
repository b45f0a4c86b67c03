import Dispatch.Markup.TagParser

/-!
# Two passes

A text is formatted twice: first by the complex formatters, then by the simple ones. The second
pass reads the result of the first as a text of its own, so the tags that only it knows survive the
first pass, and what a handler writes is read again.
-/

namespace Dispatch.Markup

/-- The parsers of the two passes; a pass may be missing. -/
structure Passes where
  complex : Option TagParser := none
  simple : Option TagParser := none

/-- The outcome of both passes, and the calls of each. -/
structure PassesFormatted where
  result : Except FormatError Text
  complexCalls : List Call
  simpleCalls : List Call

namespace Passes

/-- Formats a text in one pass; a missing pass leaves it. -/
def formatPass (pass : Option TagParser) (text : Text) (context : Context) : Formatted :=
  match pass with
  | some parser => parser.format text context
  | none => ⟨.ok text, []⟩

/-- Formats a text in both passes. The second does not start if the first fails. -/
def format (passes : Passes) (text : Text) (context : Context) : PassesFormatted :=
  let first := formatPass passes.complex text context
  match first.result with
  | .error failure => ⟨.error failure, first.calls, []⟩
  | .ok between =>
    let second := formatPass passes.simple between context
    ⟨second.result, first.calls, second.calls⟩

/-- The passes after the calls of a text. -/
def remember (passes : Passes) (formatted : PassesFormatted) : Passes :=
  { complex := passes.complex.map (·.remember formatted.complexCalls)
    simple := passes.simple.map (·.remember formatted.simpleCalls) }

/-- The calls of handlers in both passes, in order. -/
def handlerCalls (passes : Passes) (formatted : PassesFormatted) : List Call :=
  let ofPass (pass : Option TagParser) (calls : List Call) : List Call :=
    match pass with
    | some parser => parser.handlerCalls calls
    | none => []
  ofPass passes.complex formatted.complexCalls ++ ofPass passes.simple formatted.simpleCalls

open Diagnostic in
/-- The passes with their structure written out. -/
def structured (passes : Passes) : String :=
  record "BBParser"
    [("complex", optional (passes.complex.map (·.structured))),
     ("simple", optional (passes.simple.map (·.structured)))]

end Passes

end Dispatch.Markup
