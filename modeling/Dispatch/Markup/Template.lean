import Dispatch.Markup.Error
import Dispatch.Markup.Tag

/-!
# Templates of simple formatters

A template is a row of segments: literal text, the body of the tag, and attributes of the tag. In
its text `%s` and `%(value)s` stand for the body, `%(key)s` for the attribute `key`, and `%%` for a
percent sign; nothing else may follow a percent sign. What is put in is not read again.
-/

namespace Dispatch.Markup

/-- A part of a template. -/
inductive Segment where
  | literal (text : Text)
  | body
  | attribute (key : Text)
  deriving DecidableEq, Repr

/-- What is wrong behind a percent sign. -/
inductive TemplateFault where
  | unterminatedName
  | missingSuffix
  | unsupported
  | incomplete
  deriving DecidableEq, Repr

/-- The fault in words. -/
def TemplateFault.message : TemplateFault → String
  | .unterminatedName => "unterminated placeholder name"
  | .missingSuffix => "named placeholder must end with 's'"
  | .unsupported => "unsupported placeholder"
  | .incomplete => "incomplete placeholder"

/-- A fault of a template and the place, in bytes, of the percent sign before it. -/
structure TemplateSyntaxError where
  offset : Nat
  fault : TemplateFault
  deriving DecidableEq, Repr

namespace TemplateSyntaxError

/-- The error in one line. -/
def message (error : TemplateSyntaxError) : String :=
  error.fault.message ++ " at byte " ++ toString error.offset

open Diagnostic in
/-- The error with its structure written out. -/
def structured (error : TemplateSyntaxError) : String :=
  record "TemplateSyntaxError"
    [("offset", toString error.offset), ("message", quoted error.fault.message)]

instance : Diagnostic TemplateSyntaxError := ⟨message, fun _ => [], structured⟩

end TemplateSyntaxError

/-- A template that has been read. -/
structure Template where
  /-- The text as written. -/
  source : Text
  segments : List Segment
  deriving DecidableEq, Repr

namespace Template

/-! ## 1. Reading -/

/-- The segment of a named placeholder: the name `value` means the body. -/
def named (key : Text) : Segment := if key = "value".toList then .body else .attribute key

/-- The key of a named placeholder and the text behind its closing parenthesis. -/
def splitKey? : Text → Option (Text × Text)
  | [] => none
  | c :: rest =>
    if c = ')' then some ([], rest)
    else (splitKey? rest).map fun (key, behind) => (c :: key, behind)

theorem splitKey?_length {text key behind : Text} (h : splitKey? text = some (key, behind)) :
    behind.length < text.length := by
  induction text generalizing key behind with
  | nil => simp [splitKey?] at h
  | cons c rest ih =>
    simp only [splitKey?] at h
    split at h
    · simp_all
    · obtain ⟨⟨k, b⟩, hk, he⟩ := Option.map_eq_some_iff.1 h
      simp only [Prod.mk.injEq] at he
      have := ih hk
      simp only [List.length_cons, ← he.2]
      omega

/-- A literal in front of the segments behind it; nothing for the empty literal. -/
def literalThen (text : Text) (segments : List Segment) : List Segment :=
  if text.isEmpty then segments else .literal text :: segments

/-- Reads the segments of a text that starts at a byte, behind the literal read so far. -/
def segmentsFrom (offset : Nat) (literal : Text) (text : Text) :
    Except TemplateSyntaxError (List Segment) :=
  match text with
  | [] => .ok (literalThen literal [])
  | '%' :: '%' :: rest => segmentsFrom (offset + 2) (literal ++ ['%']) rest
  | '%' :: 's' :: rest => do
    let behind ← segmentsFrom (offset + 2) [] rest
    return literalThen literal (.body :: behind)
  | '%' :: '(' :: rest =>
    match h : splitKey? rest with
    | none => .error ⟨offset, .unterminatedName⟩
    | some (key, 's' :: behind) => do
      have : behind.length + 1 < rest.length := splitKey?_length h
      let behind ← segmentsFrom (offset + 4 + Text.byteLength key) [] behind
      return literalThen literal (named key :: behind)
    | some _ => .error ⟨offset, .missingSuffix⟩
  | ['%'] => .error ⟨offset, .incomplete⟩
  | '%' :: _ => .error ⟨offset, .unsupported⟩
  | c :: rest => segmentsFrom (offset + c.utf8Size) (literal ++ [c]) rest
termination_by text.length

/-- Reads a template. -/
def parse (source : Text) : Except TemplateSyntaxError Template :=
  (segmentsFrom 0 [] source).map fun segments => ⟨source, segments⟩

/-! ## 2. Rendering -/

/-- The text of a segment for one tag. -/
def renderSegment (tag value : Text) (attributes : Attributes) :
    Segment → Except FormatError Text
  | .literal text => .ok text
  | .body => .ok value
  | .attribute key =>
    match Dict.get? key attributes with
    | some text => .ok text
    | none => .error (.missingKey tag key)

/-- The texts of some segments for one tag, joined. The first missing attribute is reported. -/
def renderSegments (tag value : Text) (attributes : Attributes) :
    List Segment → Except FormatError Text
  | [] => .ok []
  | segment :: segments => do
    let text ← renderSegment tag value attributes segment
    let rest ← renderSegments tag value attributes segments
    return text ++ rest

/-- The text of a template for one tag. -/
def render (template : Template) (tag value : Text) (attributes : Attributes) :
    Except FormatError Text :=
  renderSegments tag value attributes template.segments

/-! ## 3. Writing -/

/-- A literal with its percent signs doubled. -/
def escapeLiteral (text : Text) : Text := text.flatMap fun c => if c = '%' then ['%', '%'] else [c]

/-- The text of a segment as a template writes it. -/
def writeSegment : Segment → Text
  | .literal text => escapeLiteral text
  | .body => ['%', 's']
  | .attribute key => ['%', '('] ++ key ++ [')', 's']

/-- The text of a row of segments. -/
def write (segments : List Segment) : Text := segments.flatMap writeSegment

end Template

end Dispatch.Markup
