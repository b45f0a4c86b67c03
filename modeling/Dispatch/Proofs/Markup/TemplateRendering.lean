import Dispatch.Proofs.Markup.TemplateGrammar

/-!
# Templates one behind the other

A template is rendered from left to right, and what a segment says does not depend on the segments
around it. So nothing changes for a reader when literals are joined at the seam of two templates:

* segments that are pushed in front of others render as they do in a row
  (`renderSegments_foldr_push`, `renderSegments_append`);
* pieces render to what stands in their places, and fail with the first attribute that is missing
  (`renderSegments_pieces`); what is put in a place is not read again.

Main statement: `parse_append`.
-/

namespace Dispatch.Markup.Template

/-! ## 1. Rows of segments -/

section

variable (tag value : Text) (attributes : Attributes)

theorem renderSegments_cons (segment : Segment) (segments : List Segment) :
    renderSegments tag value attributes (segment :: segments) = do
      let text ← renderSegment tag value attributes segment
      let rest ← renderSegments tag value attributes segments
      return text ++ rest := rfl

/-- **A segment says the same** whether it is joined with the literal behind it or not. -/
theorem renderSegments_push (segment : Segment) (segments : List Segment) :
    renderSegments tag value attributes (push segment segments) =
      renderSegments tag value attributes (segment :: segments) := by
  cases hkind : segment.isLiteral with
  | false => rw [push_of_placeholder hkind]
  | true =>
    cases segment with
    | literal text =>
      rcases literal_or_not segments with ⟨other, rest, rfl⟩ | hfirst
      · simp only [push, renderSegments_cons, renderSegment]
        cases renderSegments tag value attributes rest with
        | ok behind => exact congrArg Except.ok (List.append_assoc text other behind)
        | error error => rfl
      · rw [push_literal hfirst, literalThen]
        split
        · next hempty =>
          rw [List.isEmpty_iff.mp hempty, renderSegments_cons]
          cases renderSegments tag value attributes segments <;> rfl
        · rfl
    | body => cases hkind
    | «attribute» key => cases hkind

theorem renderSegments_foldr_push (front behind : List Segment) :
    renderSegments tag value attributes (front.foldr push behind) =
      renderSegments tag value attributes (front ++ behind) := by
  induction front with
  | nil => rfl
  | cons segment front ih =>
    rw [List.foldr_cons, renderSegments_push, List.cons_append, renderSegments_cons,
      renderSegments_cons, ih]

theorem renderSegments_append (front behind : List Segment) :
    renderSegments tag value attributes (front ++ behind) = do
      let start ← renderSegments tag value attributes front
      let rest ← renderSegments tag value attributes behind
      return start ++ rest := by
  induction front with
  | nil => cases h : renderSegments tag value attributes behind <;> exact h
  | cons segment front ih =>
    rw [List.cons_append, renderSegments_cons, renderSegments_cons, ih]
    cases renderSegment tag value attributes segment with
    | error error => rfl
    | ok text =>
      cases renderSegments tag value attributes front with
      | error error => rfl
      | ok start =>
        cases renderSegments tag value attributes behind with
        | error error => rfl
        | ok rest => exact congrArg Except.ok (List.append_assoc text start rest).symm

end

/-! ## 2. Pieces -/

/-- The attribute that a piece asks for. -/
def Piece.key? : Piece → Option Text
  | .named key _ => if key = "value".toList then none else some key
  | _ => none

/-- What stands in the place of a piece. -/
def Piece.inserted (value : Text) (attributes : Attributes) : Piece → Text
  | .char c _ => [c]
  | .percent => ['%']
  | .body => value
  | .named key _ =>
    if key = "value".toList then value else (Dict.get? key attributes).getD []

/-- The first attribute that pieces ask for and that is missing. -/
def missing? (attributes : Attributes) (pieces : List Piece) : Option Text :=
  (pieces.filterMap Piece.key?).find? fun key => !Dict.contains key attributes

/-- A piece says what stands in its place, unless the attribute that it asks for is missing. -/
theorem renderSegment_piece (tag value : Text) (attributes : Attributes) (piece : Piece) :
    (renderSegment tag value attributes piece.segment = .ok (piece.inserted value attributes) ∧
      ∀ key, piece.key? = some key → Dict.contains key attributes = true) ∨
    ∃ key, renderSegment tag value attributes piece.segment = .error (.missingKey tag key) ∧
      piece.key? = some key ∧ Dict.contains key attributes = false := by
  cases piece with
  | char c plain => exact Or.inl ⟨rfl, fun key hkey => nomatch hkey⟩
  | percent => exact Or.inl ⟨rfl, fun key hkey => nomatch hkey⟩
  | body => exact Or.inl ⟨rfl, fun key hkey => nomatch hkey⟩
  | named key whole =>
    by_cases hvalue : key = "value".toList
    · have hsegment : (Piece.named key whole).segment = .body := if_pos hvalue
      have hinserted : (Piece.named key whole).inserted value attributes = value := if_pos hvalue
      have hkey : (Piece.named key whole).key? = none := if_pos hvalue
      rw [hsegment, hinserted, hkey]
      exact Or.inl ⟨rfl, fun asked hasked => nomatch hasked⟩
    · have hsegment : (Piece.named key whole).segment = .attribute key := if_neg hvalue
      have hinserted : (Piece.named key whole).inserted value attributes =
          (Dict.get? key attributes).getD [] := if_neg hvalue
      have hkey : (Piece.named key whole).key? = some key := if_neg hvalue
      rw [hsegment, hinserted, hkey, renderSegment]
      cases hfound : Dict.get? key attributes with
      | some text =>
        refine Or.inl ⟨rfl, fun asked hasked => ?_⟩
        rw [← Option.some.inj hasked, Dict.contains, hfound]
        rfl
      | none => exact Or.inr ⟨key, rfl, rfl, by rw [Dict.contains, hfound]; rfl⟩

/-- **Pieces render** to what stands in their places, or fail with the first attribute that is
missing. -/
theorem renderSegments_pieces (tag value : Text) (attributes : Attributes) (pieces : List Piece) :
    renderSegments tag value attributes (pieces.map Piece.segment) =
      match missing? attributes pieces with
      | some key => .error (.missingKey tag key)
      | none => .ok (pieces.flatMap (Piece.inserted value attributes)) := by
  induction pieces with
  | nil => rfl
  | cons piece pieces ih =>
    rw [List.map_cons, renderSegments_cons, ih]
    rcases renderSegment_piece tag value attributes piece with
      ⟨hpiece, hpresent⟩ | ⟨key, hpiece, hkey, hmissing⟩
    · have hskip : missing? attributes (piece :: pieces) = missing? attributes pieces := by
        cases hkey : piece.key? with
        | none => rw [missing?, List.filterMap_cons_none hkey, missing?]
        | some key =>
          have hthere := hpresent key hkey
          rw [missing?, List.filterMap_cons_some hkey, List.find?_cons_of_neg (by simp [hthere]),
            missing?]
      rw [hskip, hpiece]
      cases missing? attributes pieces <;> rfl
    · have hfirst : missing? attributes (piece :: pieces) = some key := by
        rw [missing?, List.filterMap_cons_some hkey, List.find?_cons_of_pos (by simp [hmissing])]
      rw [hfirst, hpiece]
      rfl

theorem missing?_eq_none {attributes : Attributes} {pieces : List Piece} :
    missing? attributes pieces = none ↔
      ∀ key ∈ pieces.filterMap Piece.key?, Dict.contains key attributes = true := by
  rw [missing?, List.find?_eq_none]
  simp only [Bool.not_eq_true', Bool.not_eq_false]

/-! ## 3. Two templates -/

/-- What a template is rendered to, from the pieces of its text. -/
theorem render_of_parse {pieces : List Piece} {template : Template}
    (h : parse (Piece.textOf pieces) = .ok template) (tag value : Text) (attributes : Attributes) :
    template.render tag value attributes =
      match missing? attributes pieces with
      | some key => .error (.missingKey tag key)
      | none => .ok (pieces.flatMap (Piece.inserted value attributes)) := by
  rw [parse_textOf] at h
  obtain rfl := Except.ok.inj h
  rw [render, renderSegments_foldr_push, List.append_nil, renderSegments_pieces]

theorem parse_textOf_append (pieces : List Piece) (second : Text) :
    parse (Piece.textOf pieces ++ second) =
      match parse second with
      | .ok behind => .ok ⟨Piece.textOf pieces ++ second,
          (pieces.map Piece.segment).foldr push behind.segments⟩
      | .error error =>
        .error { error with offset := Text.byteLength (Piece.textOf pieces) + error.offset } := by
  have hread := read_textOf_append pieces second
  unfold read at hread
  rw [parse, parse, hread]
  cases segmentsFrom 0 [] second <;> rfl

/-- **Templates are composed**: behind a template a text is read as it is read alone, with its
faults moved on by the bytes of the template, and both are rendered one behind the other, so that
the first missing attribute is reported. A template is rendered exactly if the attributes that its
pieces ask for are there, and it puts in the places of its pieces what they stand for, once. -/
theorem parse_append (first second : Text) {front : Template} (h : parse first = .ok front) :
    ((∃ whole, parse (first ++ second) = .ok whole) ↔ ∃ behind, parse second = .ok behind) ∧
      (∀ error, parse second = .error error →
        parse (first ++ second) =
          .error { error with offset := Text.byteLength first + error.offset }) ∧
      (∀ whole behind, parse (first ++ second) = .ok whole → parse second = .ok behind →
        ∀ tag value attributes, whole.render tag value attributes = do
          let start ← front.render tag value attributes
          let rest ← behind.render tag value attributes
          return start ++ rest) ∧
      (∃ pieces, Piece.textOf pieces = first) ∧
      ∀ pieces, Piece.textOf pieces = first → ∀ tag value attributes,
        ((∃ text, front.render tag value attributes = .ok text) ↔
          ∀ key ∈ pieces.filterMap Piece.key?, Dict.contains key attributes = true) ∧
        (∀ text, front.render tag value attributes = .ok text →
          text = pieces.flatMap (Piece.inserted value attributes)) ∧
        ∀ error, front.render tag value attributes = .error error →
          ∃ key, error = .missingKey tag key ∧ (pieces.filterMap Piece.key?).find?
            (fun asked => !Dict.contains asked attributes) = some key := by
  obtain ⟨row, rfl, hfront⟩ := exists_pieces_of_parse h
  have hwhole := parse_textOf_append row second
  refine ⟨?_, fun error herror => ?_, ?_, ⟨row, rfl⟩, ?_⟩
  · cases hsecond : parse second with
    | ok behind =>
      rw [hsecond] at hwhole
      exact ⟨fun _ => ⟨behind, rfl⟩, fun _ => ⟨_, hwhole⟩⟩
    | error error =>
      rw [hsecond] at hwhole
      rw [hwhole]
      exact ⟨fun ⟨_, hok⟩ => (nomatch hok), fun ⟨_, hok⟩ => (nomatch hok)⟩
  · rw [hwhole, herror]
  · intro whole behind hok hbehind tag value attributes
    rw [hwhole, hbehind] at hok
    obtain rfl := Except.ok.inj hok
    rw [hfront, render, render, renderSegments_foldr_push, renderSegments_foldr_push,
      renderSegments_append, List.append_nil]
    rfl
  · intro pieces hpieces tag value attributes
    rw [← hpieces] at h
    have hrender := render_of_parse h tag value attributes
    rw [← missing?_eq_none]
    cases hmissing : missing? attributes pieces with
    | none =>
      rw [hmissing] at hrender
      rw [hrender]
      exact ⟨⟨fun _ => rfl, fun _ => ⟨_, rfl⟩⟩, fun text htext => (Except.ok.inj htext).symm,
        fun error herror => nomatch herror⟩
    | some key =>
      rw [hmissing] at hrender
      rw [hrender]
      exact ⟨⟨fun ⟨_, hok⟩ => (nomatch hok), fun hnone => (nomatch hnone)⟩,
        fun text htext => (nomatch htext),
        fun error herror => ⟨key, (Except.error.inj herror).symm, hmissing⟩⟩

/-- A literal that goes on behind the seam, and texts with percent signs that are put in as they
are. -/
theorem parse_append_percent :
    ∃ whole, parse ("%(k)sé".toList ++ "%%%s".toList) = .ok whole ∧
      whole.render "b".toList "%(x)s".toList [("k".toList, "%d".toList)] =
        .ok "%dé%%(x)s".toList := by
  have hfront : parse "%(k)sé".toList =
      .ok ⟨"%(k)sé".toList, [.attribute "k".toList, .literal "é".toList]⟩ := by decide +kernel
  have hbehind : parse "%%%s".toList = .ok ⟨"%%%s".toList, [.literal "%".toList, .body]⟩ := by
    decide +kernel
  obtain ⟨hparses, -, hrenders, -⟩ := parse_append "%(k)sé".toList "%%%s".toList hfront
  obtain ⟨whole, hwhole⟩ := hparses.mpr ⟨_, hbehind⟩
  refine ⟨whole, hwhole, ?_⟩
  rw [hrenders whole _ hwhole hbehind]
  decide +kernel

end Dispatch.Markup.Template
