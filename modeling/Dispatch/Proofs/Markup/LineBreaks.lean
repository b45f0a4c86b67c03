import Dispatch.Proofs.Markup.Extension
import Dispatch.Proofs.Markup.QuotedAttributes

/-!
# Line breaks

No tag reaches over a line break, but the search for the end of a bracketed span does: it goes on in
the next lines until the bracket is closed, another one opens, or the text ends. So the lines of a
text are read each by itself as long as no bracket is left open at the end of a line (`openEnd`).
If one is, it takes a piece of what is behind the line break, which is plain text then, and the text
behind that piece is read by itself. This changes nothing unless the bracket opens quotes, for only
between quotes it takes further brackets with it. Main statement: `tokenize_lines`.
-/

namespace Dispatch.Markup

/-! ## 1. Brackets that are left open -/

/-- How the characters behind a text are read if its last bracket is still open at its end. -/
def openEnd (text : Text) : Option Quoting :=
  match (spansOf text).getLast? with
  | some ⟨inner, [], false⟩ => some (inner.foldl Quoting.next .plain)
  | _ => none

theorem spansOf_of_plain {text : Text} (h : '[' ∉ text) : spansOf text = [] := by
  have hdrop := dropWhile_of_plain h []
  rw [List.append_nil] at hdrop
  rw [spansOf]
  split
  · rfl
  · next heq =>
    rw [hdrop] at heq
    cases heq

theorem openEnd_of_plain {text : Text} (h : '[' ∉ text) : openEnd text = none := by
  rw [openEnd, spansOf_of_plain h]
  rfl

section Spans

variable {start behind : Text}

/-- A bracket that is still open at the end of the text. -/
theorem openEnd_of_open (hstart : '[' ∉ start)
    (hspan : Bracket.scan .plain behind = ⟨behind, [], false⟩) :
    openEnd (start ++ '[' :: behind) = some (behind.foldl Quoting.next .plain) := by
  rw [openEnd, spansOf_bracket hstart, hspan, spansOf_of_plain List.not_mem_nil]
  rfl

/-- Behind a bracket that was closed or broken off, the end of the text is that of the rest. -/
theorem openEnd_of_ended (hstart : '[' ∉ start)
    (hended : (Bracket.scan .plain behind).closed = true ∨ (Bracket.scan .plain behind).rest ≠ []) :
    openEnd (start ++ '[' :: behind) = openEnd (Bracket.scan .plain behind).rest := by
  rw [openEnd, openEnd, spansOf_bracket hstart, List.getLast?_cons]
  cases hlast : (spansOf (Bracket.scan .plain behind).rest).getLast? with
  | some span => rfl
  | none =>
    rw [Option.getD_none]
    split
    · next inner hopen =>
      obtain hopen := Option.some.inj hopen
      rw [hopen] at hended
      rcases hended with hclosed | hrest
      · cases hclosed
      · exact absurd rfl hrest
    · rfl

end Spans

/-- A scan that comes to the end of a text has taken all of it. -/
theorem scan_eq_of_open {state : Quoting} {text : Text}
    (hopen : (Bracket.scan state text).closed = false)
    (hend : (Bracket.scan state text).rest = []) :
    Bracket.scan state text = ⟨text, [], false⟩ := by
  have hwhole := Bracket.scan_append state text
  generalize Bracket.scan state text = span at hwhole hopen hend ⊢
  obtain ⟨inner, rest, closed⟩ := span
  obtain rfl : rest = [] := hend
  obtain rfl : closed = false := hopen
  obtain rfl : inner = text := (List.append_nil inner).symm.trans hwhole
  rfl

/-- A bracket is closed, or it is broken off by another one, whatever is behind the text, or it is
open at the end of the text. -/
theorem scan_ends (text : Text) :
    (Bracket.scan .plain text).closed = true ∨
      ((Bracket.scan .plain text).closed = false ∧ (Bracket.scan .plain text).rest ≠ [] ∧
        ∀ behind, Bracket.scan .plain (text ++ behind) =
          ⟨(Bracket.scan .plain text).inner, (Bracket.scan .plain text).rest ++ behind, false⟩) ∨
      Bracket.scan .plain text = ⟨text, [], false⟩ := by
  cases hclosed : (Bracket.scan .plain text).closed with
  | true => exact Or.inl rfl
  | false =>
    rcases Bracket.scan_of_not_closed hclosed with hend | ⟨tail, htail, hbreak⟩
    · exact Or.inr (Or.inr (scan_eq_of_open hclosed hend))
    · have hrest : (Bracket.scan .plain text).rest ≠ [] := by
        rw [htail]
        exact List.cons_ne_nil _ _
      refine Or.inr (Or.inl ⟨rfl, hrest, fun behind => ?_⟩)
      have hwhole := Bracket.scan_append .plain text
      rw [htail, List.cons_append, ← hbreak, ← List.cons_append, ← htail, ← List.append_assoc,
        hwhole]

/-! ## 2. What is behind a text -/

/-- **A text without an open end is read by itself**, whatever is behind it. -/
theorem spelled_append_of_ended (known : Text → Bool) {text : Text} (h : openEnd text = none)
    (behind : Text) :
    spelled known (text ++ behind) = spelled known text ++ spelled known behind := by
  induction text using bracketInduction with
  | plain text hplain => rw [spelled_append_of_plain known hplain, spelled_of_plain known hplain]
  | span start inner hstart ih =>
    rw [List.append_assoc, List.cons_append, spelled_append_of_plain known hstart,
      spelled_append_of_plain known hstart, List.append_assoc]
    congr 1
    rcases scan_ends inner with hclosed | ⟨hbroken, hrest, hlonger⟩ | hopen
    · rw [openEnd_of_ended hstart (Or.inl hclosed)] at h
      rw [spelled_bracket, spelled_bracket, Bracket.scan_append_of_closed hclosed, hclosed, ih h,
        List.append_assoc]
    · rw [openEnd_of_ended hstart (Or.inr hrest)] at h
      rw [spelled_bracket, spelled_bracket, hlonger, hbroken, ih h, List.append_assoc]
    · rw [openEnd_of_open hstart hopen] at h
      cases h

/-- A scan that comes to the end of a text goes on behind it. -/
theorem crosses_of_open {state : Quoting} {text : Text}
    (h : Bracket.scan state text = ⟨text, [], false⟩) :
    state.Crosses text (text.foldl Quoting.next state) := by
  induction text generalizing state with
  | nil => exact fun _ => rfl
  | cons c rest ih =>
    have hbracket : state.outside = true → c ≠ '[' ∧ c ≠ ']' := by
      refine fun houtside => ⟨?_, ?_⟩
      · rintro rfl
        rw [Bracket.scan_break (by rw [houtside]; rfl)] at h
        cases h
      · rintro rfl
        rw [Bracket.scan_close (by rw [houtside]; decide) (by rw [houtside]; rfl)] at h
        cases h
    have hstep : Bracket.scan state (c :: rest) =
        Bracket.cons c (Bracket.scan (state.next c) rest) := Quoting.crosses_char hbracket rest
    rw [hstep] at h
    have hopen : (Bracket.scan (state.next c) rest).closed = false := congrArg Bracket.closed h
    have hend : (Bracket.scan (state.next c) rest).rest = [] := congrArg Bracket.rest h
    exact (Quoting.crosses_char hbracket).append (ih (scan_eq_of_open hopen hend))

/-- A span with a line break is plain text. -/
theorem ofSpan_of_newline (known : Text → Bool) {raw : Text} (h : '\n' ∈ raw) (closed : Bool) :
    Token.ofSpan known raw closed = Token.ofText raw := by
  have hline : raw.any Tag.isLineEnd = true := List.any_eq_true.mpr ⟨'\n', h, rfl⟩
  have hnone : Tag.ofSpan? raw = none := by
    unfold Tag.ofSpan?
    rw [if_pos hline]
  cases closed with
  | false => rfl
  | true => simp only [Token.ofSpan, ↓reduceIte, hnone]

/-- A line break does not end a span. -/
theorem scan_newline (state : Quoting) (behind : Text) :
    Bracket.scan state ('\n' :: behind) =
      Bracket.cons '\n' (Bracket.scan (state.next '\n') behind) :=
  Bracket.scan_step (by simp) (by simp) behind

/-- **A bracket that is left open goes on behind the text**: the tokens before it stay, and its span
is read together with what it takes. -/
theorem tokenize_append_of_open (known : Text → Bool) {text : Text} {state : Quoting}
    (h : openEnd text = some state) :
    ∃ front inner, tokenize known text = front ++ Token.ofText ('[' :: inner) ∧
      ∀ behind, tokenize known (text ++ behind) =
        front ++ Token.ofSpan known ('[' :: (inner ++ (Bracket.scan state behind).inner))
            (Bracket.scan state behind).closed
          ++ tokenize known (Bracket.scan state behind).rest := by
  induction text using bracketInduction with
  | plain text hplain =>
    rw [openEnd_of_plain hplain] at h
    cases h
  | span start inner hstart ih =>
    rcases scan_ends inner with hclosed | ⟨hbroken, hrest, hlonger⟩ | hopen
    · rw [openEnd_of_ended hstart (Or.inl hclosed)] at h
      obtain ⟨front, last, htext, hbehind⟩ := ih h
      refine ⟨Token.ofText start ++ Token.ofSpan known ('[' :: (Bracket.scan .plain inner).inner) true
        ++ front, last, ?_, fun behind => ?_⟩
      · rw [tokenize_bracket known hstart, hclosed, htext]
        simp only [List.append_assoc]
      · rw [List.append_assoc, List.cons_append, tokenize_bracket known hstart,
          Bracket.scan_append_of_closed hclosed, hbehind]
        simp only [List.append_assoc]
    · rw [openEnd_of_ended hstart (Or.inr hrest)] at h
      obtain ⟨front, last, htext, hbehind⟩ := ih h
      refine ⟨Token.ofText start ++ Token.ofSpan known ('[' :: (Bracket.scan .plain inner).inner) false
        ++ front, last, ?_, fun behind => ?_⟩
      · rw [tokenize_bracket known hstart, hbroken, htext]
        simp only [List.append_assoc]
      · rw [List.append_assoc, List.cons_append, tokenize_bracket known hstart, hlonger, hbehind]
        simp only [List.append_assoc]
    · rw [openEnd_of_open hstart hopen] at h
      obtain rfl := Option.some.inj h
      have hempty : tokenize known [] = [] := tokenize_of_plain known List.not_mem_nil
      refine ⟨Token.ofText start, inner, ?_, fun behind => ?_⟩
      · rw [tokenize_bracket known hstart, hopen, hempty, List.append_nil]
        rfl
      · rw [List.append_assoc, List.cons_append, tokenize_bracket known hstart,
          crosses_of_open hopen]

/-- **What an open bracket takes from the next line** is plain text, and what is behind that is read
by itself. -/
theorem spelled_append_of_open (known : Text → Bool) {text : Text} {state : Quoting}
    (h : openEnd text = some state) (behind : Text) :
    spelled known (text ++ '\n' :: behind) =
      spelled known text ++ (Bracket.scan state ('\n' :: behind)).inner.map Token.ofChar
        ++ spelled known (Bracket.scan state ('\n' :: behind)).rest := by
  obtain ⟨front, inner, htext, hbehind⟩ := tokenize_append_of_open known h
  have hnewline : '\n' ∈ '[' :: (inner ++ (Bracket.scan state ('\n' :: behind)).inner) := by
    rw [scan_newline]
    simp [Bracket.cons]
  rw [spelled, spelled, hbehind, htext, ofSpan_of_newline known hnewline]
  simp only [Token.spell_append, Token.spell_ofText, ← List.cons_append, List.map_append,
    List.append_assoc]
  rfl

/-! ## 3. Lines -/

/-- The two sides of a line break are read each by itself, but for how plain text is cut. -/
def LinesApart (known : Text → Bool) (line behind : Text) : Prop :=
  Token.spell (tokenize known (line ++ '\n' :: behind)) =
    Token.spell (tokenize known line ++ .newline :: tokenize known behind)

section Apart

variable {known : Text → Bool} {line behind : Text}

theorem linesApart_iff : LinesApart known line behind ↔
    spelled known (line ++ '\n' :: behind) =
      spelled known line ++ spelled known ('\n' :: behind) := by
  have hnewline : spelled known ('\n' :: behind) = .newline :: spelled known behind :=
    spelled_cons known (by decide) behind
  rw [LinesApart, Token.spell_append, Token.spell_newline, hnewline]
  exact Iff.rfl

/-- An open bracket that takes no other bracket with it leaves the lines apart. -/
theorem linesApart_of_open {state : Quoting} (h : openEnd line = some state)
    (htaken : '[' ∉ (Bracket.scan state ('\n' :: behind)).inner) :
    LinesApart known line behind := by
  rw [linesApart_iff, spelled_append_of_open known h, List.append_assoc,
    ← spelled_append_of_plain known htaken, Bracket.scan_append]

/-- Only a quote opens quotes. -/
theorem isQuote_of_inside {state : Quoting} (hstate : ∀ q, state = .inside q → isQuote q = true)
    {text : Text} {quote : Char} (h : text.foldl Quoting.next state = .inside quote) :
    isQuote quote = true := by
  induction text generalizing state with
  | nil => exact hstate quote h
  | cons c rest ih => exact ih (Quoting.isQuote_of_next hstate c) h

theorem openEnd_isQuote {quote : Char} (h : openEnd line = some (.inside quote)) :
    isQuote quote = true := by
  unfold openEnd at h
  split at h
  · exact isQuote_of_inside Quoting.isQuote_of_plain (Option.some.inj h)
  · cases h

/-- A tag of a valid name without attributes. -/
def plainTag (name : Text) (h : isValidName name = true) : QuotedTag := ⟨name, [], h⟩

theorem spelled_plainTag {name : Text} (h : isValidName name = true) (hknown : known name = true) :
    spelled known (plainTag name h).text = [(plainTag name h).token] := by
  have hspan : IsSpan (plainTag name h).text :=
    (plainTag name h).isSpan_text fun entry hentry => absurd hentry List.not_mem_nil
  have hread := (@tokenize_eq_tag_iff known _ (.opening name (plainTag name h).values)).mpr
    ⟨hspan, (plainTag name h).ofSpan?_text, hknown⟩
  rw [spelled, hread, Token.spell_cons, Tag.letters_token]
  rfl

theorem quote_notMem_plainTag {name : Text} (h : isValidName name = true) {quote : Char}
    (hquote : isQuote quote = true) : quote ∉ (plainTag name h).text := by
  have hchar := not_isNameChar_of_isQuote hquote
  have hbracket : quote ≠ '[' ∧ quote ≠ ']' := by
    constructor <;> rintro rfl <;> exact absurd hquote (by decide)
  intro hmem
  have hname : quote ∈ name := by
    simpa [plainTag, QuotedTag.text, QuotedTag.inner, hbracket.1, hbracket.2] using hmem
  exact ne_of_isNameChar (isNameChar_of_mem h hname) hchar rfl

/-- An open bracket can take a tag of the next line with it: if it is not quoting, it begins to
behind an equals sign. -/
theorem exists_taken_tag (state : Quoting) (hquote : ∀ q, state = .inside q → isQuote q = true)
    {name : Text} (h : isValidName name = true) :
    ∃ front, '[' ∉ front ∧
      Bracket.scan state ('\n' :: (front ++ (plainTag name h).text)) =
        ⟨'\n' :: (front ++ (plainTag name h).text), [], false⟩ := by
  have htag {quote : Char} (hq : isQuote quote = true) :
      (Quoting.inside quote).Crosses (plainTag name h).text (.inside quote) :=
    Quoting.crosses_inside (quote_notMem_plainTag h hq)
  have hnewline {state : Quoting} : state.Crosses ['\n'] (state.next '\n') :=
    Quoting.crosses_char fun _ => by decide
  have hopens {state : Quoting} (hnext : state.next '=' = .allowed) :
      state.Crosses "=\"".toList (.inside '"') := by
    have hequals : state.Crosses ['='] .allowed := by
      rw [← hnext]
      exact Quoting.crosses_char fun _ => by decide
    exact hequals.append (Quoting.crosses_char fun _ => by decide)
  have htaken {front : Text} {quote : Char}
      (hall : state.Crosses (['\n'] ++ (front ++ (plainTag name h).text)) (.inside quote)) :
      Bracket.scan state ('\n' :: (front ++ (plainTag name h).text)) =
        ⟨'\n' :: (front ++ (plainTag name h).text), [], false⟩ := by
    have hscan := hall []
    rw [List.append_nil] at hscan
    rw [← List.singleton_append, hscan]
    simp [Bracket.scan]
  cases state with
  | plain =>
    exact ⟨"=\"".toList, by decide,
      htaken (hnewline.append ((hopens rfl).append (htag (by decide))))⟩
  | allowed =>
    exact ⟨"=\"".toList, by decide,
      htaken (hnewline.append ((hopens rfl).append (htag (by decide))))⟩
  | inside quote =>
    have hq := hquote quote rfl
    have hne : '\n' ≠ quote := by
      rintro rfl
      exact absurd hq (by decide)
    have hstays : (Quoting.inside quote).Crosses ['\n'] (.inside quote) :=
      Quoting.crosses_inside fun hmem => hne (List.mem_singleton.mp hmem).symm
    exact ⟨[], List.not_mem_nil, htaken (hstays.append (htag hq))⟩

/-- **Behind an open bracket there is a line that is not read by itself**, if any name is known. -/
theorem exists_not_linesApart {state : Quoting} (hopen : openEnd line = some state) {name : Text}
    (h : isValidName name = true) (hknown : known name = true) :
    ∃ behind, ¬LinesApart known line behind := by
  obtain ⟨front, hfront, htaken⟩ := exists_taken_tag state
    (fun q hq => openEnd_isQuote (hq ▸ hopen)) h
  refine ⟨front ++ (plainTag name h).text, fun hapart => ?_⟩
  rw [linesApart_iff, spelled_append_of_open known hopen, htaken, spelled_nil, List.append_nil,
    List.append_cancel_left_eq, spelled_cons known (by decide),
    spelled_append_of_plain known hfront, spelled_plainTag h hknown] at hapart
  -- the tag is a token of the line alone, but the bracket has only characters
  have hmem : (plainTag name h).token ∈
      ('\n' :: (front ++ (plainTag name h).text)).map Token.ofChar := by
    rw [hapart]
    simp
  exact Tag.token_notMem_plain _ (.opening name (plainTag name h).values) _ hmem

end Apart

/-- **When lines are read each by itself.** They are if no bracket is left open at the line break.
Otherwise the bracket takes what the search for its end passes over, as plain text, and the rest is
read by itself; this makes no difference if no other bracket is taken with it. But behind every line
with an open bracket some line is not read by itself, unless no tag is known at all. -/
theorem tokenize_lines (known : Text → Bool) (line : Text) :
    (openEnd line = none → ∀ behind, LinesApart known line behind) ∧
    (∀ state, openEnd line = some state → ∀ behind,
      Token.spell (tokenize known (line ++ '\n' :: behind)) =
          Token.spell (tokenize known line)
            ++ (Bracket.scan state ('\n' :: behind)).inner.map Token.ofChar
            ++ Token.spell (tokenize known (Bracket.scan state ('\n' :: behind)).rest) ∧
        ('[' ∉ (Bracket.scan state ('\n' :: behind)).inner → LinesApart known line behind)) ∧
    (∀ name, isValidName name = true → known name = true →
      (∀ behind, LinesApart known line behind) → openEnd line = none) := by
  refine ⟨fun h behind => ?_, fun state h behind => ⟨?_, linesApart_of_open h⟩, ?_⟩
  · exact linesApart_iff.mpr (spelled_append_of_ended known h _)
  · exact spelled_append_of_open known h behind
  · intro name hvalid hknown hall
    cases hopen : openEnd line with
    | none => rfl
    | some state =>
      obtain ⟨behind, hnot⟩ := exists_not_linesApart hopen hvalid hknown
      exact absurd (hall behind) hnot

/-- The name of bold text is known. -/
def boldKnown (name : Text) : Bool := name = "b".toList

/-- A line whose quote keeps its bracket open, one whose bracket is closed in the next line, and one
without an open bracket. -/
theorem linesApart_boldLines :
    openEnd "[b]x [=\"]".toList = some (.inside '"') ∧
      openEnd "[b]x [y".toList = some .plain ∧
      LinesApart boldKnown "[b]x]".toList "[b".toList ∧
      LinesApart boldKnown "[b]x [y".toList "z][/b]".toList := by
  have hopen : openEnd "[b]x [y".toList = some .plain := by decide +kernel
  obtain ⟨hended, -, -⟩ := tokenize_lines boldKnown "[b]x]".toList
  obtain ⟨-, htaken, -⟩ := tokenize_lines boldKnown "[b]x [y".toList
  obtain ⟨-, hapart⟩ := htaken .plain hopen "z][/b]".toList
  exact ⟨by decide +kernel, hopen, hended (by decide +kernel) _, hapart (by decide +kernel)⟩

/-- A quote that is left open takes the tags of the next line with it. -/
theorem not_linesApart_openQuote :
    tokenize boldKnown "[q who=\"x\n[b]y[/b]".toList =
        [.data "[q who=\"x".toList, .newline, .data "[b]y[/b]".toList] ∧
      tokenize boldKnown "[b]y[/b]".toList =
        [.opening "b".toList [] "[b]".toList, .data "y".toList, .closing "b".toList "[/b]".toList] ∧
      ¬LinesApart boldKnown "[q who=\"x".toList "[b]y[/b]".toList := by
  refine ⟨by decide +kernel, by decide +kernel, ?_⟩
  unfold LinesApart
  decide +kernel

end Dispatch.Markup
