import Mathlib.Control.Monad.Basic
import Dispatch.Markup.Template

/-!
# The text of a template

The text of a template is a row of pieces: characters, doubled percent signs, and placeholders for
the body and for attributes. Reading goes from piece to piece:

* a text is made of pieces up to its end or up to a percent sign that begins no piece
  (`pieceInduction`, `Faulty`);
* behind a piece the rest is read as it is read alone, with the segment of the piece put in front
  of its segments and with its faults moved on by the bytes of the piece (`read_textOf_append`);
* a segment that is put in front of others joins a literal there (`push`), so what is read is in
  normal form (`Normal`), and a normal form is known from its letters (`Normal.foldr_push_letters`).

Main statement: `parse_grammar`.
-/

namespace Dispatch.Markup

/-- A literal as literals of one character each. -/
def Segment.letters : Segment → List Segment
  | .literal text => text.map fun c => .literal [c]
  | segment => [segment]

/-- Whether a segment is a literal. -/
def Segment.isLiteral : Segment → Bool
  | .literal _ => true
  | _ => false

namespace Template

/-! ## 1. Pieces and faults -/

/-- A piece of the text of a template. -/
inductive Piece where
  | char (c : Char) (plain : c ≠ '%')
  | percent
  | body
  | named (key : Text) (whole : ')' ∉ key)

namespace Piece

/-- The piece as it is written. -/
def text : Piece → Text
  | .char c _ => [c]
  | .percent => ['%', '%']
  | .body => ['%', 's']
  | .named key _ => '%' :: '(' :: (key ++ [')', 's'])

/-- The segment that the piece stands for; a character is a literal of its own. -/
def segment : Piece → Segment
  | .char c _ => .literal [c]
  | .percent => .literal ['%']
  | .body => .body
  | .named key _ => Template.named key

/-- The text of a row of pieces. -/
def textOf (pieces : List Piece) : Text := pieces.flatMap text

theorem text_ne_nil (piece : Piece) : piece.text ≠ [] := by
  cases piece <;> exact List.cons_ne_nil _ _

end Piece

/-- A text that begins with a percent sign and with no piece, and what is wrong there. -/
inductive Faulty : TemplateFault → Text → Prop
  | incomplete : Faulty .incomplete ['%']
  | unsupported {c : Char} {rest : Text} (percent : c ≠ '%') (body : c ≠ 's') (named : c ≠ '(') :
      Faulty .unsupported ('%' :: c :: rest)
  | unterminatedName {rest : Text} (unclosed : ')' ∉ rest) :
      Faulty .unterminatedName ('%' :: '(' :: rest)
  | missingSuffix {key rest : Text} (whole : ')' ∉ key) (suffix : rest.head? ≠ some 's') :
      Faulty .missingSuffix ('%' :: '(' :: (key ++ ')' :: rest))

theorem Faulty.exists_cons {fault : TemplateFault} {text : Text} (h : Faulty fault text) :
    ∃ rest, text = '%' :: rest := by
  cases h <;> exact ⟨_, rfl⟩

/-- **A text begins with a piece or with a fault.** -/
theorem piece_or_faulty {text : Text} (h : text ≠ []) :
    (∃ (piece : Piece) (rest : Text), text = piece.text ++ rest) ∨ ∃ fault, Faulty fault text := by
  obtain ⟨c, rest, rfl⟩ := List.exists_cons_of_ne_nil h
  by_cases hplain : c = '%'
  · subst hplain
    cases rest with
    | nil => exact Or.inr ⟨_, .incomplete⟩
    | cons d rest =>
      by_cases hpercent : d = '%'
      · exact Or.inl ⟨.percent, rest, by rw [hpercent]; rfl⟩
      by_cases hbody : d = 's'
      · exact Or.inl ⟨.body, rest, by rw [hbody]; rfl⟩
      by_cases hnamed : d = '('
      · subst hnamed
        by_cases hclosed : ')' ∈ rest
        · obtain ⟨key, behind, rfl, hkey⟩ := List.eq_append_cons_of_mem hclosed
          by_cases hsuffix : behind.head? = some 's'
          · obtain ⟨behind, rfl⟩ := List.head?_eq_some_iff.mp hsuffix
            exact Or.inl ⟨.named key hkey, behind, by simp [Piece.text]⟩
          · exact Or.inr ⟨_, .missingSuffix hkey hsuffix⟩
        · exact Or.inr ⟨_, .unterminatedName hclosed⟩
      · exact Or.inr ⟨_, .unsupported hpercent hbody hnamed⟩
  · exact Or.inl ⟨.char c hplain, rest, rfl⟩

/-- An induction along a text: piece by piece, up to the end or up to a fault. -/
@[elab_as_elim]
theorem pieceInduction {motive : Text → Prop} (nil : motive [])
    (piece : ∀ (piece : Piece) rest, motive rest → motive (piece.text ++ rest))
    (fault : ∀ fault text, Faulty fault text → motive text) (text : Text) : motive text := by
  induction hlength : text.length using Nat.strongRecOn generalizing text with
  | ind n ih =>
    by_cases hnil : text = []
    · rw [hnil]
      exact nil
    · rcases piece_or_faulty hnil with ⟨first, rest, rfl⟩ | ⟨what, hfault⟩
      · have hfirst := List.length_pos_iff.mpr first.text_ne_nil
        rw [List.length_append] at hlength
        exact piece first rest (ih _ (by omega) rest rfl)
      · exact fault what text hfault

theorem splitKey?_append {key : Text} (h : ')' ∉ key) (behind : Text) :
    splitKey? (key ++ ')' :: behind) = some (key, behind) := by
  induction key with
  | nil => rfl
  | cons c key ih =>
    have hc : c ≠ ')' := fun he => h (he ▸ List.mem_cons_self)
    have hkey : ')' ∉ key := fun hmem => h (List.mem_cons_of_mem c hmem)
    rw [List.cons_append, splitKey?, if_neg hc, ih hkey]
    rfl

theorem splitKey?_eq_none {text : Text} (h : ')' ∉ text) : splitKey? text = none := by
  induction text with
  | nil => rfl
  | cons c text ih =>
    have hc : c ≠ ')' := fun he => h (he ▸ List.mem_cons_self)
    have htext : ')' ∉ text := fun hmem => h (List.mem_cons_of_mem c hmem)
    rw [splitKey?, if_neg hc, ih htext]
    rfl

/-- No piece begins where a fault is. -/
theorem Faulty.ne_piece {fault : TemplateFault} {text : Text} (h : Faulty fault text)
    (piece : Piece) (rest : Text) : text ≠ piece.text ++ rest := by
  intro htext
  cases piece with
  | char c plain =>
    have hhead : text.head? = some c := by rw [htext]; rfl
    cases h <;> exact plain (Option.some.inj hhead).symm
  | percent => cases h <;> simp_all [Piece.text]
  | body => cases h <;> simp_all [Piece.text]
  | named key whole =>
    have hwritten : text = '%' :: '(' :: (key ++ ')' :: 's' :: rest) := by simp [htext, Piece.text]
    clear htext
    cases h with
    | incomplete => cases hwritten
    | unsupported _ _ named => exact named (List.cons.inj (List.cons.inj hwritten).2).1
    | unterminatedName unclosed =>
      have hbehind := (List.cons.inj (List.cons.inj hwritten).2).2
      exact unclosed (hbehind ▸ List.mem_append_right key List.mem_cons_self)
    | missingSuffix hwhole suffix =>
      -- both texts give the same key, so the same rest stands behind it
      have hsame := congrArg splitKey? (List.cons.inj (List.cons.inj hwritten).2).2
      rw [splitKey?_append hwhole, splitKey?_append whole] at hsame
      have hrest := (Prod.mk.inj (Option.some.inj hsame)).2
      exact suffix (by rw [hrest]; rfl)

/-! ## 2. Segments in front of segments -/

/-- A segment in front of others; a literal is joined with a literal there, and the empty literal is
left out. -/
def push : Segment → List Segment → List Segment
  | .literal text, .literal other :: rest => .literal (text ++ other) :: rest
  | .literal text, segments => literalThen text segments
  | segment, segments => segment :: segments

theorem push_of_placeholder {segment : Segment} (h : segment.isLiteral = false)
    (segments : List Segment) : push segment segments = segment :: segments := by
  cases segment with
  | literal text => cases h
  | body => rfl
  | «attribute» key => rfl

/-- A literal in front of a segment that is no literal, or of none. -/
theorem push_literal {segments : List Segment}
    (h : ∀ segment, segments.head? = some segment → segment.isLiteral = false) (text : Text) :
    push (.literal text) segments = literalThen text segments := by
  cases segments with
  | nil => rfl
  | cons segment segments =>
    have hfirst := h segment rfl
    cases segment with
    | literal other => cases hfirst
    | body => rfl
    | «attribute» key => rfl

theorem push_literal_nil (segments : List Segment) : push (.literal []) segments = segments := by
  cases segments with
  | nil => rfl
  | cons segment segments => cases segment <;> rfl

/-- Segments begin with a literal or not. -/
theorem literal_or_not (segments : List Segment) :
    (∃ text rest, segments = .literal text :: rest) ∨
      ∀ segment, segments.head? = some segment → segment.isLiteral = false := by
  cases segments with
  | nil => exact Or.inr fun segment h => nomatch h
  | cons first rest =>
    cases hfirst : first.isLiteral with
    | true =>
      cases first with
      | literal text => exact Or.inl ⟨text, rest, rfl⟩
      | body => cases hfirst
      | «attribute» key => cases hfirst
    | false => exact Or.inr fun segment h => Option.some.inj h ▸ hfirst

theorem push_literal_append (first second : Text) (segments : List Segment) :
    push (.literal (first ++ second)) segments =
      push (.literal first) (push (.literal second) segments) := by
  rcases literal_or_not segments with ⟨other, rest, rfl⟩ | h
  · simp only [push, List.append_assoc]
  · rw [push_literal h, push_literal h]
    cases second with
    | nil => rw [List.append_nil, ← push_literal h]; rfl
    | cons c second =>
      have hne : ¬(first ++ c :: second).isEmpty = true := by simp
      rw [literalThen, if_neg hne]
      rfl

/-- What is made of the segments that are read behind some bytes and some segments. -/
def placed (offset : Nat) (front : List Segment) :
    Except TemplateSyntaxError (List Segment) → Except TemplateSyntaxError (List Segment)
  | .ok segments => .ok (front.foldr push segments)
  | .error error => .error { error with offset := offset + error.offset }

theorem placed_placed (first second : Nat) (front behind : List Segment)
    (outcome : Except TemplateSyntaxError (List Segment)) :
    placed first front (placed second behind outcome) =
      placed (first + second) (front ++ behind) outcome := by
  cases outcome with
  | ok segments => simp only [placed, List.foldr_append]
  | error error => simp only [placed, Nat.add_assoc]

theorem placed_nothing (outcome : Except TemplateSyntaxError (List Segment)) :
    placed 0 [] outcome = outcome := by
  cases outcome with
  | ok segments => rfl
  | error error => simp only [placed, Nat.zero_add]

/-! ## 3. Reading a piece -/

theorem segmentsFrom_faulty {fault : TemplateFault} {text : Text} (h : Faulty fault text)
    (offset : Nat) (literal : Text) :
    segmentsFrom offset literal text = .error ⟨offset, fault⟩ := by
  cases h with
  | incomplete => rw [segmentsFrom]
  | unsupported percent body named => rw [segmentsFrom] <;> simp_all
  | unterminatedName unclosed =>
    rw [segmentsFrom]
    split
    · rfl
    · next heq => rw [splitKey?_eq_none unclosed] at heq; cases heq
    · next heq => rw [splitKey?_eq_none unclosed] at heq; cases heq
  | missingSuffix whole suffix =>
    rw [segmentsFrom]
    split
    · next heq => rw [splitKey?_append whole] at heq; cases heq
    · next heq =>
      rw [splitKey?_append whole] at heq
      obtain ⟨-, rfl⟩ := Prod.mk.inj (Option.some.inj heq)
      exact absurd rfl suffix
    · rfl

theorem segmentsFrom_char (offset : Nat) (literal : Text) {c : Char} (h : c ≠ '%') (rest : Text) :
    segmentsFrom offset literal (c :: rest) =
      segmentsFrom (offset + c.utf8Size) (literal ++ [c]) rest := by
  rw [segmentsFrom] <;> simp_all

theorem segmentsFrom_named (offset : Nat) (literal : Text) {key : Text} (h : ')' ∉ key)
    (rest : Text) :
    segmentsFrom offset literal ('%' :: '(' :: (key ++ ')' :: 's' :: rest)) = do
      let behind ← segmentsFrom (offset + 4 + Text.byteLength key) [] rest
      return literalThen literal (named key :: behind) := by
  rw [segmentsFrom]
  split
  · next heq => rw [splitKey?_append h] at heq; cases heq
  · next heq =>
    rw [splitKey?_append h] at heq
    obtain ⟨rfl, hrest⟩ := Prod.mk.inj (Option.some.inj heq)
    obtain rfl := (List.cons.inj hrest).2
    rfl
  · next hno heq =>
    rw [splitKey?_append h] at heq
    exact absurd (Option.some.inj heq).symm (hno key rest)

/-- **A piece is read** as one more character of the literal in front of it, or as a segment of its
own behind that literal. -/
theorem segmentsFrom_piece (piece : Piece) :
    (∃ c, piece.segment = .literal [c] ∧ ∀ offset literal rest,
      segmentsFrom offset literal (piece.text ++ rest) =
        segmentsFrom (offset + Text.byteLength piece.text) (literal ++ [c]) rest) ∨
    (piece.segment.isLiteral = false ∧ ∀ offset literal rest,
      segmentsFrom offset literal (piece.text ++ rest) = do
        let behind ← segmentsFrom (offset + Text.byteLength piece.text) [] rest
        return literalThen literal (piece.segment :: behind)) := by
  cases piece with
  | char c plain =>
    exact Or.inl ⟨c, rfl, fun offset literal rest => segmentsFrom_char offset literal plain rest⟩
  | percent =>
    refine Or.inl ⟨'%', rfl, fun offset literal rest => ?_⟩
    change segmentsFrom offset literal ('%' :: '%' :: rest) = _
    rw [segmentsFrom]
    rfl
  | body =>
    refine Or.inr ⟨rfl, fun offset literal rest => ?_⟩
    change segmentsFrom offset literal ('%' :: 's' :: rest) = _
    rw [segmentsFrom]
    rfl
  | named key whole =>
    refine Or.inr ⟨?_, fun offset literal rest => ?_⟩
    · simp only [Piece.segment, named]
      split <;> rfl
    · have htext : (Piece.named key whole).text ++ rest =
          '%' :: '(' :: (key ++ ')' :: 's' :: rest) := by simp [Piece.text]
      have hbytes : Text.byteLength (Piece.named key whole).text =
          1 + (1 + (Text.byteLength key + (1 + (1 + 0)))) := by
        rw [Piece.text, Text.byteLength, Text.byteLength, Text.byteLength_append]
        rfl
      have hplace : offset + Text.byteLength (Piece.named key whole).text =
          offset + 4 + Text.byteLength key := by omega
      rw [htext, segmentsFrom_named offset literal whole, hplace]
      rfl

/-! ## 4. Reading pieces in a row -/

/-- The segments of a text by itself. -/
def read (text : Text) : Except TemplateSyntaxError (List Segment) := segmentsFrom 0 [] text

/-- **What is read at a place is what is read of the text by itself**, moved to that place. -/
theorem segmentsFrom_eq (offset : Nat) (literal text : Text) :
    segmentsFrom offset literal text = placed offset [.literal literal] (read text) := by
  unfold read
  induction text using pieceInduction generalizing offset literal with
  | nil =>
    rw [segmentsFrom, segmentsFrom]
    rfl
  | piece piece rest ih =>
    rcases segmentsFrom_piece piece with ⟨c, -, hread⟩ | ⟨hplaceholder, hread⟩
    · rw [hread, hread, ih, ih (0 + _), placed_placed, Nat.zero_add, List.nil_append]
      cases segmentsFrom 0 [] rest with
      | ok segments => exact congrArg Except.ok (push_literal_append literal [c] segments)
      | error error => rfl
    · rw [hread, hread, ih, ih (0 + _), Nat.zero_add]
      cases segmentsFrom 0 [] rest with
      | ok segments =>
        have hfirst : ∀ first, (piece.segment :: push (.literal []) segments).head? = some first →
            first.isLiteral = false := fun first h => Option.some.inj h ▸ hplaceholder
        exact congrArg Except.ok (push_literal hfirst literal).symm
      | error error =>
        have hplace := Nat.add_assoc offset (Text.byteLength piece.text) error.offset
        exact congrArg (fun place => Except.error (TemplateSyntaxError.mk place error.fault)) hplace
  | fault fault text hfault =>
    rw [segmentsFrom_faulty hfault, segmentsFrom_faulty hfault]
    rfl

/-- Reading a piece puts its segment in front of what is read behind it. -/
theorem read_piece_append (piece : Piece) (rest : Text) :
    read (piece.text ++ rest) =
      placed (Text.byteLength piece.text) [piece.segment] (read rest) := by
  rcases segmentsFrom_piece piece with ⟨c, hsegment, hread⟩ | ⟨hplaceholder, hread⟩
  · rw [read, hread, segmentsFrom_eq, hsegment, Nat.zero_add, List.nil_append]
  · rw [read, hread, segmentsFrom_eq, Nat.zero_add]
    cases read rest with
    | ok segments =>
      have hnone : [Segment.literal []].foldr push segments = segments := push_literal_nil segments
      have hfront := (push_of_placeholder hplaceholder segments).symm
      rw [placed, hnone]
      exact congrArg Except.ok hfront
    | error error => rfl

/-- **Reading pieces** puts their segments in front of what is read behind them, and moves a fault
behind them on by their bytes. -/
theorem read_textOf_append (pieces : List Piece) (rest : Text) :
    read (Piece.textOf pieces ++ rest) =
      placed (Text.byteLength (Piece.textOf pieces)) (pieces.map Piece.segment) (read rest) := by
  induction pieces with
  | nil => exact (placed_nothing (read rest)).symm
  | cons piece pieces ih =>
    have htext : Piece.textOf (piece :: pieces) = piece.text ++ Piece.textOf pieces := rfl
    rw [htext, List.append_assoc, read_piece_append, ih, placed_placed, Text.byteLength_append]
    rfl

theorem read_textOf (pieces : List Piece) :
    read (Piece.textOf pieces) = .ok ((pieces.map Piece.segment).foldr push []) := by
  have hread := read_textOf_append pieces []
  have hend : read [] = .ok [] := by
    rw [read, segmentsFrom]
    rfl
  rw [List.append_nil, hend] at hread
  exact hread

theorem read_textOf_faulty (pieces : List Piece) {fault : TemplateFault} {rest : Text}
    (h : Faulty fault rest) :
    read (Piece.textOf pieces ++ rest) = .error ⟨Text.byteLength (Piece.textOf pieces), fault⟩ := by
  have hhere : read rest = .error ⟨0, fault⟩ := segmentsFrom_faulty h 0 []
  rw [read_textOf_append, hhere]
  rfl

/-- **A text is made of pieces, or a fault is behind some pieces.** -/
theorem pieces_or_faulty (text : Text) :
    (∃ pieces, Piece.textOf pieces = text) ∨
      ∃ pieces fault rest, Piece.textOf pieces ++ rest = text ∧ Faulty fault rest := by
  induction text using pieceInduction with
  | nil => exact Or.inl ⟨[], rfl⟩
  | piece piece rest ih =>
    rcases ih with ⟨pieces, rfl⟩ | ⟨pieces, fault, faulty, rfl, hfault⟩
    · exact Or.inl ⟨piece :: pieces, rfl⟩
    · exact Or.inr ⟨piece :: pieces, fault, faulty, List.append_assoc _ _ _, hfault⟩
  | fault fault text hfault => exact Or.inr ⟨[], fault, text, rfl, hfault⟩

/-! ## 5. Normal forms -/

/-- Segments as a template writes them: no two literals are neighbours, no literal is empty, and no
key ends a placeholder or names the body. -/
def Normal : List Segment → Prop
  | [] => True
  | .literal text :: rest => text ≠ [] ∧ (∀ next ∈ rest.head?, next.isLiteral = false) ∧ Normal rest
  | .body :: rest => Normal rest
  | .attribute key :: rest => (')' ∉ key ∧ key ≠ "value".toList) ∧ Normal rest

/-- **The segments that are read are in normal form.** -/
theorem normal_push {piece : Piece} {segments : List Segment} (h : Normal segments) :
    Normal (push piece.segment segments) := by
  have hletter (c : Char) : Normal (push (.literal [c]) segments) := by
    rcases literal_or_not segments with ⟨text, rest, rfl⟩ | hfirst
    · exact ⟨List.cons_ne_nil c text, h.2⟩
    · rw [push_literal hfirst]
      exact ⟨List.cons_ne_nil c [], fun next hnext => hfirst next hnext, h⟩
  cases piece with
  | char c plain => exact hletter c
  | percent => exact hletter '%'
  | body => exact h
  | named key whole =>
    rw [Piece.segment, named]
    split
    · exact h
    · next hkey => exact ⟨⟨whole, hkey⟩, h⟩

theorem letters_push (segment : Segment) (segments : List Segment) :
    (push segment segments).flatMap Segment.letters =
      segment.letters ++ segments.flatMap Segment.letters := by
  cases segment with
  | literal text =>
    rcases literal_or_not segments with ⟨other, rest, rfl⟩ | hfirst
    · simp only [push, List.flatMap_cons, Segment.letters, List.map_append, List.append_assoc]
    · rw [push_literal hfirst, literalThen]
      split
      · next hempty => rw [List.isEmpty_iff.mp hempty]; rfl
      · rfl
  | body => rfl
  | «attribute» key => rfl

theorem foldr_push_literal (text : Text) (segments : List Segment) :
    (Segment.literal text).letters.foldr push segments = push (.literal text) segments := by
  rw [Segment.letters]
  induction text with
  | nil => exact (push_literal_nil segments).symm
  | cons c text ih =>
    rw [List.map_cons, List.foldr_cons, ih, ← push_literal_append]
    rfl

/-- **A normal form is known from its letters.** -/
theorem Normal.foldr_push_letters {segments : List Segment} (h : Normal segments) :
    (segments.flatMap Segment.letters).foldr push [] = segments := by
  induction segments with
  | nil => rfl
  | cons segment segments ih =>
    rw [List.flatMap_cons, List.foldr_append]
    cases segment with
    | literal text =>
      obtain ⟨hne, hfirst, hrest⟩ := h
      have hempty : ¬text.isEmpty = true := by simpa using hne
      rw [ih hrest, foldr_push_literal, push_literal fun next hnext => hfirst next hnext,
        literalThen, if_neg hempty]
    | body => exact congrArg (Segment.body :: ·) (ih h)
    | «attribute» key => exact congrArg (Segment.attribute key :: ·) (ih h.2)

theorem letters_segment (piece : Piece) : piece.segment.letters = [piece.segment] := by
  cases piece with
  | char c plain => rfl
  | percent => rfl
  | body => rfl
  | named key whole =>
    rw [Piece.segment, named]
    split <;> rfl

/-- The segments that pieces are read as are in normal form and have the letters of the pieces. -/
theorem normal_of_pieces (pieces : List Piece) :
    Normal ((pieces.map Piece.segment).foldr push []) ∧
      ((pieces.map Piece.segment).foldr push []).flatMap Segment.letters =
        pieces.map Piece.segment := by
  induction pieces with
  | nil => exact ⟨trivial, rfl⟩
  | cons piece pieces ih =>
    rw [List.map_cons, List.foldr_cons]
    refine ⟨normal_push ih.1, ?_⟩
    rw [letters_push, ih.2, letters_segment]
    rfl

/-- A literal is written in pieces that stand for its letters. -/
theorem exists_pieces_of_literal (text : Text) :
    ∃ pieces, Piece.textOf pieces = escapeLiteral text ∧
      pieces.map Piece.segment = (Segment.literal text).letters := by
  induction text with
  | nil => exact ⟨[], rfl, rfl⟩
  | cons c text ih =>
    obtain ⟨pieces, htext, hsegments⟩ := ih
    have hwritten : escapeLiteral (c :: text) =
        (if c = '%' then ['%', '%'] else [c]) ++ escapeLiteral text := rfl
    have hletters : (Segment.literal (c :: text)).letters =
        .literal [c] :: (Segment.literal text).letters := rfl
    rw [hwritten, hletters, ← htext, ← hsegments]
    by_cases hc : c = '%'
    · exact ⟨.percent :: pieces, by rw [if_pos hc]; rfl, by rw [hc]; rfl⟩
    · exact ⟨.char c hc :: pieces, by rw [if_neg hc]; rfl, rfl⟩

/-- A normal form is written in pieces that stand for its letters. -/
theorem Normal.exists_pieces {segments : List Segment} (h : Normal segments) :
    ∃ pieces, Piece.textOf pieces = write segments ∧
      pieces.map Piece.segment = segments.flatMap Segment.letters := by
  induction segments with
  | nil => exact ⟨[], rfl, rfl⟩
  | cons segment segments ih =>
    have hfirst : Normal segments ∧ ∃ pieces, Piece.textOf pieces = writeSegment segment ∧
        pieces.map Piece.segment = segment.letters := by
      cases segment with
      | literal text => exact ⟨h.2.2, exists_pieces_of_literal text⟩
      | body => exact ⟨h, [.body], rfl, rfl⟩
      | «attribute» key =>
        obtain ⟨⟨hwhole, hkey⟩, hrest⟩ := h
        refine ⟨hrest, [.named key hwhole], ?_, ?_⟩
        · simp [Piece.textOf, Piece.text, writeSegment]
        · rw [List.map_singleton, Piece.segment, named, if_neg hkey]
          rfl
    obtain ⟨hrest, first, hwritten, hletters⟩ := hfirst
    obtain ⟨pieces, htext, hsegments⟩ := ih hrest
    refine ⟨first ++ pieces, ?_, ?_⟩
    · rw [Piece.textOf, List.flatMap_append, write, List.flatMap_cons]
      exact congr (congrArg (· ++ ·) hwritten) htext
    · rw [List.map_append, hletters, hsegments, List.flatMap_cons]

/-! ## 6. Templates -/

theorem parse_textOf (pieces : List Piece) :
    parse (Piece.textOf pieces) =
      .ok ⟨Piece.textOf pieces, (pieces.map Piece.segment).foldr push []⟩ := by
  change (read (Piece.textOf pieces)).map _ = _
  rw [read_textOf]
  rfl

theorem parse_textOf_faulty (pieces : List Piece) {fault : TemplateFault} {rest : Text}
    (h : Faulty fault rest) :
    parse (Piece.textOf pieces ++ rest) =
      .error ⟨Text.byteLength (Piece.textOf pieces), fault⟩ := by
  change (read (Piece.textOf pieces ++ rest)).map _ = _
  rw [read_textOf_faulty pieces h]
  rfl

/-- What is a template is made of pieces. -/
theorem exists_pieces_of_parse {source : Text} {template : Template}
    (h : parse source = .ok template) :
    ∃ pieces, Piece.textOf pieces = source ∧
      template = ⟨source, (pieces.map Piece.segment).foldr push []⟩ := by
  rcases pieces_or_faulty source with ⟨pieces, rfl⟩ | ⟨pieces, fault, rest, rfl, hfault⟩
  · rw [parse_textOf] at h
    exact ⟨pieces, rfl, (Except.ok.inj h).symm⟩
  · rw [parse_textOf_faulty pieces hfault] at h
    cases h

/-- **A normal form is read back from the text that it is written as.** -/
theorem parse_write {segments : List Segment} (h : Normal segments) :
    parse (write segments) = .ok ⟨write segments, segments⟩ := by
  obtain ⟨pieces, htext, hsegments⟩ := h.exists_pieces
  rw [← htext, parse_textOf, hsegments, h.foldr_push_letters]

/-- **The grammar of templates.** A text is a template exactly if it is made of pieces. Its segments
then are in normal form and say what the pieces say, letter by letter; and every normal form is read
back from the text that it is written as. A text that is no template is one up to a percent sign
where a fault is and no piece begins, and the error tells that fault and the bytes before it. -/
theorem parse_grammar (source : Text) :
    ((∃ template, parse source = .ok template) ↔ ∃ pieces, Piece.textOf pieces = source) ∧
      (∀ template, parse source = .ok template →
        template.source = source ∧ Normal template.segments ∧
          ∀ pieces, Piece.textOf pieces = source →
            template.segments.flatMap Segment.letters = pieces.map Piece.segment) ∧
      (∀ segments, Normal segments → write segments = source →
        parse source = .ok ⟨source, segments⟩) ∧
      ∀ error, parse source = .error error →
        ∃ front behind, front ++ '%' :: behind = source ∧
          error.offset = Text.byteLength front ∧ (∃ template, parse front = .ok template) ∧
          Faulty error.fault ('%' :: behind) ∧
          ∀ (piece : Piece) (rest : Text), '%' :: behind ≠ piece.text ++ rest := by
  refine ⟨⟨?_, ?_⟩, fun template htemplate => ?_, ?_, fun error herror => ?_⟩
  · rintro ⟨template, htemplate⟩
    obtain ⟨pieces, htext, -⟩ := exists_pieces_of_parse htemplate
    exact ⟨pieces, htext⟩
  · rintro ⟨pieces, rfl⟩
    exact ⟨_, parse_textOf pieces⟩
  · obtain ⟨pieces, -, rfl⟩ := exists_pieces_of_parse htemplate
    refine ⟨rfl, (normal_of_pieces pieces).1, ?_⟩
    rintro others rfl
    rw [parse_textOf] at htemplate
    have hsegments := congrArg Template.segments (Except.ok.inj htemplate)
    rw [← hsegments]
    exact (normal_of_pieces others).2
  · rintro segments hnormal rfl
    exact parse_write hnormal
  · rcases pieces_or_faulty source with ⟨pieces, rfl⟩ | ⟨pieces, fault, rest, rfl, hfault⟩
    · rw [parse_textOf] at herror
      cases herror
    · rw [parse_textOf_faulty pieces hfault] at herror
      obtain rfl := Except.error.inj herror
      obtain ⟨behind, rfl⟩ := hfault.exists_cons
      exact ⟨_, behind, rfl, rfl, ⟨_, parse_textOf pieces⟩, hfault, hfault.ne_piece⟩

/-- Placeholders of every kind, a doubled percent sign, and a character of two bytes before a key
that is not followed as it should be. -/
example :
    parse "é%%%(value)s%(k)s".toList =
        .ok ⟨"é%%%(value)s%(k)s".toList, [.literal "é%".toList, .body, .attribute "k".toList]⟩ ∧
      parse "é%%%(k)d".toList = .error ⟨4, .missingSuffix⟩ := by
  decide +kernel

end Template

end Dispatch.Markup
