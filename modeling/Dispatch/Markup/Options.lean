import Dispatch.Diagnostic

/-!
# Options of a tag

Six flags say how a tag is matched in a text and how its body reaches its formatter.
-/

namespace Dispatch.Markup

/-- One of the flags of a tag. -/
inductive Flag where
  | newlineCloses
  | renderEmbedded
  | sameTagCloses
  | standalone
  | strip
  | swallowTrailingNewline
  deriving DecidableEq, Repr

namespace Flag

/-- Every flag, in the order of their names. -/
def all : List Flag :=
  [.newlineCloses, .renderEmbedded, .sameTagCloses, .standalone, .strip, .swallowTrailingNewline]

/-- The name of a flag in settings. -/
def name : Flag → String
  | .newlineCloses => "newline_closes"
  | .renderEmbedded => "render_embedded"
  | .sameTagCloses => "same_tag_closes"
  | .standalone => "standalone"
  | .strip => "strip"
  | .swallowTrailingNewline => "swallow_trailing_newline"

/-- The flag of a name. -/
def ofName? (name : String) : Option Flag := all.find? (·.name = name)

end Flag

/-- The options of a tag. All flags are off but `renderEmbedded`. -/
structure TagOptions where
  /-- A newline in the body closes the tag. -/
  newlineCloses : Bool := false
  /-- An opening tag of the same name closes the tag. -/
  sameTagCloses : Bool := false
  /-- The tag has no body and no closing tag. -/
  standalone : Bool := false
  /-- Tags in the body are resolved before the tag itself. -/
  renderEmbedded : Bool := true
  /-- Blanks around the body are dropped. -/
  strip : Bool := false
  /-- One newline behind the tag is dropped. -/
  swallowTrailingNewline : Bool := false
  deriving DecidableEq, Repr, Inhabited

namespace TagOptions

/-- Whether a flag is on. -/
def get (options : TagOptions) : Flag → Bool
  | .newlineCloses => options.newlineCloses
  | .renderEmbedded => options.renderEmbedded
  | .sameTagCloses => options.sameTagCloses
  | .standalone => options.standalone
  | .strip => options.strip
  | .swallowTrailingNewline => options.swallowTrailingNewline

/-- The options with one flag turned on or off. -/
def set (options : TagOptions) (flag : Flag) (value : Bool) : TagOptions :=
  match flag with
  | .newlineCloses => { options with newlineCloses := value }
  | .renderEmbedded => { options with renderEmbedded := value }
  | .sameTagCloses => { options with sameTagCloses := value }
  | .standalone => { options with standalone := value }
  | .strip => { options with strip := value }
  | .swallowTrailingNewline => { options with swallowTrailingNewline := value }

@[simp] theorem get_set (options : TagOptions) (flag other : Flag) (value : Bool) :
    (options.set flag value).get other = if other = flag then value else options.get other := by
  cases flag <;> cases other <;> rfl

/-- The flags that are on, in the order of their names. -/
def flagsOn (options : TagOptions) : List Flag := Flag.all.filter options.get

open Diagnostic in
/-- The options with their structure written out. -/
def structured (options : TagOptions) : String :=
  record "TagOptions"
    [("newline_closes", flag options.newlineCloses),
     ("same_tag_closes", flag options.sameTagCloses),
     ("standalone", flag options.standalone),
     ("render_embedded", flag options.renderEmbedded),
     ("strip", flag options.strip),
     ("swallow_trailing_newline", flag options.swallowTrailingNewline)]

end TagOptions

end Dispatch.Markup
