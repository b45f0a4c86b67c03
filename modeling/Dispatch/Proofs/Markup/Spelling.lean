import Dispatch.Markup.Token

/-!
# Tokens, spelled out

How a piece of plain text is cut into tokens never matters: what matters are its characters. With
every piece spelled out, one character to a token, the tokens of a text follow the text from left to
right:

* a character outside brackets is a token of its own (`spelled_cons`);
* a bracketed span is a tag, or it is its characters (`spelled_bracket`);
* so the tokens behind plain text, or behind a span that was closed, are those that the rest has
  alone (`spelled_append_of_plain`, `IsSpan.spelled_append`).

`spanInduction` is the induction that follows this reading. Main statements: tokens lose no
character (`rawText_tokenize`), and the known names choose among the tags of a text but do not
change where they are (`tag_mem_spelled_iff`).
-/

namespace Dispatch.Markup

/-! ## 1. Spans -/

namespace Bracket

theorem scan_break {state : Quoting} {c : Char} (h : (state.outside && decide (c = '[')) = true)
    (rest : Text) : scan state (c :: rest) = ⟨[], c :: rest, false⟩ := by
  rw [scan, if_pos h]

theorem scan_close {state : Quoting} {c : Char}
    (hopen : ¬(state.outside && decide (c = '[')) = true)
    (hclose : (state.outside && decide (c = ']')) = true) (rest : Text) :
    scan state (c :: rest) = ⟨[c], rest, true⟩ := by
  rw [scan, if_neg hopen, if_pos hclose]

theorem scan_step {state : Quoting} {c : Char} (hopen : ¬(state.outside && decide (c = '[')) = true)
    (hclose : ¬(state.outside && decide (c = ']')) = true) (rest : Text) :
    scan state (c :: rest) = cons c (scan (state.next c) rest) := by
  rw [scan, if_neg hopen, if_neg hclose]

/-- What stands behind a span that is closed does not change it. -/
theorem scan_append_of_closed {state : Quoting} {text : Text} (h : (scan state text).closed = true)
    (behind : Text) :
    scan state (text ++ behind) =
      ⟨(scan state text).inner, (scan state text).rest ++ behind, true⟩ := by
  induction text generalizing state with
  | nil => simp [scan] at h
  | cons c rest ih =>
    rw [List.cons_append]
    by_cases hopen : (state.outside && decide (c = '[')) = true
    · rw [scan_break hopen] at h
      cases h
    · by_cases hclose : (state.outside && decide (c = ']')) = true
      · simp only [scan_close hopen hclose]
      · rw [scan_step hopen hclose] at h
        simp only [scan_step hopen hclose, ih h, cons]

/-- A span that is closed is a span by itself. -/
theorem scan_inner_of_closed {state : Quoting} {text : Text}
    (h : (scan state text).closed = true) :
    scan state (scan state text).inner = ⟨(scan state text).inner, [], true⟩ := by
  induction text generalizing state with
  | nil => simp [scan] at h
  | cons c rest ih =>
    by_cases hopen : (state.outside && decide (c = '[')) = true
    · rw [scan_break hopen] at h
      cases h
    · by_cases hclose : (state.outside && decide (c = ']')) = true
      · simp only [scan_close hopen hclose]
      · rw [scan_step hopen hclose] at h
        rw [scan_step hopen hclose]
        simp only [cons, scan_step hopen hclose, ih h]

/-- A span is broken off by the end of the text or by an opening bracket, and every text with a
bracket there breaks it off at the same place. -/
theorem scan_of_not_closed {state : Quoting} {text : Text} (h : (scan state text).closed = false) :
    (scan state text).rest = [] ∨
      ∃ rest, (scan state text).rest = '[' :: rest ∧
        ∀ other, scan state ((scan state text).inner ++ '[' :: other) =
          ⟨(scan state text).inner, '[' :: other, false⟩ := by
  induction text generalizing state with
  | nil => exact Or.inl rfl
  | cons c rest ih =>
    by_cases hopen : (state.outside && decide (c = '[')) = true
    · rw [scan_break hopen]
      obtain ⟨hout, hc⟩ := Bool.and_eq_true_iff.mp hopen
      have hc : c = '[' := of_decide_eq_true hc
      subst hc
      exact Or.inr ⟨rest, rfl, fun other => scan_break hopen other⟩
    · by_cases hclose : (state.outside && decide (c = ']')) = true
      · rw [scan_close hopen hclose] at h
        cases h
      · rw [scan_step hopen hclose] at h ⊢
        rcases ih h with hend | ⟨tail, htail, hbreak⟩
        · exact Or.inl hend
        · refine Or.inr ⟨tail, htail, fun other => ?_⟩
          simp only [cons, List.cons_append, scan_step hopen hclose, hbreak other]

end Bracket

/-- A text that is one whole bracketed span. -/
def IsSpan (raw : Text) : Prop :=
  ∃ inner, raw = '[' :: inner ∧ Bracket.scan .plain inner = ⟨inner, [], true⟩

theorem isSpan_of_closed {behind : Text} (h : (Bracket.scan .plain behind).closed = true) :
    IsSpan ('[' :: (Bracket.scan .plain behind).inner) :=
  ⟨_, rfl, Bracket.scan_inner_of_closed h⟩

/-- An induction along a text: over the characters outside brackets one by one, over a bracketed
span as a whole. -/
@[elab_as_elim]
theorem spanInduction {motive : Text → Prop} (nil : motive [])
    (char : ∀ c rest, c ≠ '[' → motive rest → motive (c :: rest))
    (span : ∀ behind, motive (Bracket.scan .plain behind).rest → motive ('[' :: behind))
    (text : Text) : motive text := by
  induction h : text.length using Nat.strongRecOn generalizing text with
  | ind n ih =>
    cases text with
    | nil => exact nil
    | cons c rest =>
      by_cases hc : c = '['
      · subst hc
        have hlt := Bracket.scan_rest_length_le .plain rest
        exact span rest (ih _ (by simp only [← h, List.length_cons]; omega) _ rfl)
      · exact char c rest hc (ih _ (by simp [← h]) _ rfl)

/-- An induction along a text as it is cut into tokens: a span and the plain text before it at
once. -/
@[elab_as_elim]
theorem bracketInduction {motive : Text → Prop} (plain : ∀ text, '[' ∉ text → motive text)
    (span : ∀ start behind, '[' ∉ start → motive (Bracket.scan .plain behind).rest →
      motive (start ++ '[' :: behind))
    (text : Text) : motive text := by
  induction h : text.length using Nat.strongRecOn generalizing text with
  | ind n ih =>
    by_cases hmem : '[' ∈ text
    · obtain ⟨start, behind, rfl, hstart⟩ := List.eq_append_cons_of_mem hmem
      have hle := Bracket.scan_rest_length_le .plain behind
      rw [List.length_append, List.length_cons] at h
      exact span start behind hstart (ih _ (by omega) _ rfl)
    · exact plain text hmem

/-! ## 2. The tokens of a text -/

theorem takeWhile_of_plain {text : Text} (h : '[' ∉ text) (behind : Text) :
    (text ++ behind).takeWhile (· ≠ '[') = text ++ behind.takeWhile (· ≠ '[') :=
  List.takeWhile_append_of_pos fun _ hc => decide_eq_true fun he => h (he ▸ hc)

theorem dropWhile_of_plain {text : Text} (h : '[' ∉ text) (behind : Text) :
    (text ++ behind).dropWhile (· ≠ '[') = behind.dropWhile (· ≠ '[') :=
  List.dropWhile_append_of_pos fun _ hc => decide_eq_true fun he => h (he ▸ hc)

theorem tokenize_of_plain (known : Text → Bool) {text : Text} (h : '[' ∉ text) :
    tokenize known text = Token.ofText text := by
  have htake := takeWhile_of_plain h []
  have hdrop := dropWhile_of_plain h []
  rw [List.append_nil] at htake hdrop
  rw [tokenize]
  split
  · rw [htake]
    simp
  · next heq =>
    rw [hdrop] at heq
    cases heq

theorem tokenize_bracket (known : Text → Bool) {start : Text} (h : '[' ∉ start) (behind : Text) :
    tokenize known (start ++ '[' :: behind) =
      Token.ofText start
        ++ Token.ofSpan known ('[' :: (Bracket.scan .plain behind).inner)
            (Bracket.scan .plain behind).closed
        ++ tokenize known (Bracket.scan .plain behind).rest := by
  rw [tokenize]
  split
  · next heq =>
    rw [dropWhile_of_plain h] at heq
    simp at heq
  · next bracket rest heq =>
    rw [dropWhile_of_plain h] at heq
    rw [takeWhile_of_plain h]
    simp at heq
    obtain ⟨rfl, rfl⟩ := heq
    simp

namespace Token

/-- A character of plain text as a token. -/
def ofChar (c : Char) : Token := if c = '\n' then .newline else .data [c]

/-- A token with its text spelled out. -/
def letters : Token → List Token
  | .data text => text.map fun c => .data [c]
  | token => [token]

/-- Tokens with every piece of text spelled out, one character to a token. -/
def spell (tokens : List Token) : List Token := tokens.flatMap letters

@[simp] theorem spell_nil : spell [] = [] := rfl

@[simp] theorem spell_cons (token : Token) (tokens : List Token) :
    spell (token :: tokens) = token.letters ++ spell tokens := rfl

@[simp] theorem spell_append (before behind : List Token) :
    spell (before ++ behind) = spell before ++ spell behind :=
  List.flatMap_append

theorem spell_newline (tokens : List Token) :
    spell (.newline :: tokens) = .newline :: spell tokens :=
  rfl

theorem spell_opening (name : Text) (attributes : Attributes) (raw : Text) (tokens : List Token) :
    spell (.opening name attributes raw :: tokens) =
      .opening name attributes raw :: spell tokens := rfl

theorem spell_closing (name raw : Text) (tokens : List Token) :
    spell (.closing name raw :: tokens) = .closing name raw :: spell tokens := rfl

theorem spell_ofPiece (piece : Text) : spell (ofPiece piece) = piece.map fun c => .data [c] := by
  cases piece <;> simp [ofPiece, letters]

theorem spell_ofTextBehind (piece text : Text) :
    spell (ofTextBehind piece text) = (piece.map fun c => .data [c]) ++ text.map ofChar := by
  induction text generalizing piece with
  | nil => simp [ofTextBehind, spell_ofPiece]
  | cons c rest ih =>
    rw [ofTextBehind]
    split
    · next hc => simp [ih, spell_ofPiece, letters, ofChar, hc]
    · next hc => simp [ih, ofChar, hc]

/-- Plain text is its characters. -/
theorem spell_ofText (text : Text) : spell (ofText text) = text.map ofChar := by
  rw [ofText, spell_ofTextBehind]
  rfl

theorem rawText_append (before behind : List Token) :
    rawText (before ++ behind) = rawText before ++ rawText behind :=
  List.flatMap_append

theorem rawText_map_ofChar (text : Text) : rawText (text.map ofChar) = text := by
  induction text with
  | nil => rfl
  | cons c rest ih =>
    have hc : (ofChar c).raw = [c] := by
      by_cases h : c = '\n' <;> simp [ofChar, raw, h]
    rw [List.map_cons, rawText, List.flatMap_cons, hc]
    exact congrArg (c :: ·) ih

/-- Spelling out keeps the characters. -/
theorem rawText_spell (tokens : List Token) : rawText (spell tokens) = rawText tokens := by
  induction tokens with
  | nil => rfl
  | cons token tokens ih =>
    have htoken : rawText token.letters = token.raw := by
      cases token with
      | data text => simp [letters, rawText, raw, List.flatMap_map]
      | newline => rfl
      | opening name attributes text => simp [letters, rawText, raw]
      | closing name text => simp [letters, rawText, raw]
    rw [spell_cons, rawText_append, ih, htoken]
    rfl

end Token

/-! ## 3. Tags among the tokens -/

namespace Tag

/-- The token of a tag that was written so. -/
def token (raw : Text) : Tag → Token
  | .opening name attributes => .opening name attributes raw
  | .closing name => .closing name raw

@[simp] theorem letters_token (raw : Text) (tag : Tag) :
    (tag.token raw).letters = [tag.token raw] := by
  cases tag <;> rfl

@[simp] theorem raw_token (raw : Text) (tag : Tag) : (tag.token raw).raw = raw := by
  cases tag <;> rfl

theorem token_inj {raw other : Text} {tag tag' : Tag} :
    tag.token raw = tag'.token other ↔ tag = tag' ∧ raw = other := by
  cases tag <;> cases tag' <;> simp [token, and_assoc]

theorem token_ne_data (raw text : Text) (tag : Tag) : tag.token raw ≠ .data text := by
  cases tag <;> exact Token.noConfusion

theorem token_ne_newline (raw : Text) (tag : Tag) : tag.token raw ≠ .newline := by
  cases tag <;> exact Token.noConfusion

theorem token_ne_ofChar (raw : Text) (tag : Tag) (c : Char) : tag.token raw ≠ Token.ofChar c := by
  unfold Token.ofChar
  split
  · exact token_ne_newline raw tag
  · exact token_ne_data raw _ tag

theorem token_notMem_plain (raw : Text) (tag : Tag) (text : Text) :
    tag.token raw ∉ text.map Token.ofChar := by
  intro h
  obtain ⟨c, -, hc⟩ := List.mem_map.mp h
  exact token_ne_ofChar raw tag c hc.symm

theorem token_mem_spell_iff {raw : Text} {tag : Tag} {tokens : List Token} :
    tag.token raw ∈ Token.spell tokens ↔ tag.token raw ∈ tokens := by
  induction tokens with
  | nil => rfl
  | cons token tokens ih =>
    rw [Token.spell_cons, List.mem_append, List.mem_cons, ih]
    refine or_congr_left ?_
    cases token with
    | data text => simp [Token.letters, token_ne_data, (token_ne_data raw _ tag).symm]
    | newline => simp [Token.letters]
    | opening name attributes text => simp [Token.letters]
    | closing name text => simp [Token.letters]

end Tag

namespace Token

/-- A span is the tag that it writes if the name is known, else it is plain text. -/
theorem ofSpan_cases (known : Text → Bool) (raw : Text) (closed : Bool) :
    (∃ tag, closed = true ∧ Tag.ofSpan? raw = some tag ∧ known tag.name = true ∧
        ofSpan known raw closed = [tag.token raw]) ∨
      (ofSpan known raw closed = ofText raw ∧
        ∀ tag, closed = true → Tag.ofSpan? raw = some tag → known tag.name = false) := by
  cases closed with
  | false => exact Or.inr ⟨rfl, fun _ h => Bool.noConfusion h⟩
  | true =>
    cases htag : Tag.ofSpan? raw with
    | none => exact Or.inr ⟨by simp [ofSpan, htag], fun _ _ h => by cases h⟩
    | some tag =>
      by_cases hknown : known tag.name = true
      · refine Or.inl ⟨tag, rfl, rfl, hknown, ?_⟩
        cases tag <;> simp_all [ofSpan, Tag.name, Tag.token]
      · refine Or.inr ⟨?_, fun other _ h => ?_⟩
        · cases tag <;> simp_all [ofSpan, Tag.name]
        · cases h
          exact Bool.eq_false_iff.mpr hknown

end Token

/-- The tokens of a text, spelled out. -/
def spelled (known : Text → Bool) (text : Text) : List Token := Token.spell (tokenize known text)

@[simp] theorem spelled_nil (known : Text → Bool) : spelled known [] = [] := by
  rw [spelled, tokenize_of_plain known List.not_mem_nil]
  rfl

theorem spelled_of_plain (known : Text → Bool) {text : Text} (h : '[' ∉ text) :
    spelled known text = text.map Token.ofChar := by
  rw [spelled, tokenize_of_plain known h, Token.spell_ofText]

theorem spelled_bracket (known : Text → Bool) (behind : Text) :
    spelled known ('[' :: behind) =
      Token.spell (Token.ofSpan known ('[' :: (Bracket.scan .plain behind).inner)
          (Bracket.scan .plain behind).closed)
        ++ spelled known (Bracket.scan .plain behind).rest := by
  have h := tokenize_bracket known List.not_mem_nil behind
  rw [List.nil_append] at h
  rw [spelled, h, Token.spell_append, Token.spell_append]
  rfl

/-- The tokens of a text that begins with a bracket: the tag of a known name, or the characters of
the span. -/
theorem spelled_bracket_cases (known : Text → Bool) (behind : Text) :
    (∃ tag, (Bracket.scan .plain behind).closed = true ∧
        Tag.ofSpan? ('[' :: (Bracket.scan .plain behind).inner) = some tag ∧
        known tag.name = true ∧
        spelled known ('[' :: behind) = tag.token ('[' :: (Bracket.scan .plain behind).inner)
          :: spelled known (Bracket.scan .plain behind).rest) ∨
      (Token.ofSpan known ('[' :: (Bracket.scan .plain behind).inner)
          (Bracket.scan .plain behind).closed =
            Token.ofText ('[' :: (Bracket.scan .plain behind).inner) ∧
        spelled known ('[' :: behind) =
          ('[' :: (Bracket.scan .plain behind).inner).map Token.ofChar
            ++ spelled known (Bracket.scan .plain behind).rest) := by
  have hspelled := spelled_bracket known behind
  rcases Token.ofSpan_cases known ('[' :: (Bracket.scan .plain behind).inner)
    (Bracket.scan .plain behind).closed with ⟨tag, hclosed, htag, hknown, htoken⟩ | ⟨htext, -⟩
  · rw [htoken, Token.spell_cons, Tag.letters_token] at hspelled
    exact Or.inl ⟨tag, hclosed, htag, hknown, hspelled⟩
  · rw [htext, Token.spell_ofText] at hspelled
    exact Or.inr ⟨htext, hspelled⟩

/-- Plain text in front of a text puts its characters in front of the tokens. -/
theorem spelled_append_of_plain (known : Text → Bool) {start : Text} (h : '[' ∉ start)
    (behind : Text) :
    spelled known (start ++ behind) = start.map Token.ofChar ++ spelled known behind := by
  by_cases hmem : '[' ∈ behind
  · obtain ⟨plain, rest, rfl, hplain⟩ := List.eq_append_cons_of_mem hmem
    have hboth : '[' ∉ start ++ plain := fun hc => (List.mem_append.mp hc).elim h hplain
    rw [← List.append_assoc, spelled, tokenize_bracket known hboth, spelled,
      tokenize_bracket known hplain]
    simp only [Token.spell_append, Token.spell_ofText, List.map_append, List.append_assoc]
  · have hboth : '[' ∉ start ++ behind := fun hc => (List.mem_append.mp hc).elim h hmem
    rw [spelled_of_plain known hboth, spelled_of_plain known hmem, List.map_append]

theorem spelled_cons (known : Text → Bool) {c : Char} (h : c ≠ '[') (rest : Text) :
    spelled known (c :: rest) = Token.ofChar c :: spelled known rest :=
  spelled_append_of_plain known (fun hmem : '[' ∈ [c] => h (List.mem_singleton.mp hmem).symm) rest

/-- A whole span in front of a text puts its tag, or its characters, in front of the tokens. -/
theorem IsSpan.spelled_append (known : Text → Bool) {raw : Text} (h : IsSpan raw)
    (behind : Text) :
    spelled known (raw ++ behind) =
      Token.spell (Token.ofSpan known raw true) ++ spelled known behind := by
  obtain ⟨inner, rfl, hscan⟩ := h
  have hclosed : (Bracket.scan .plain inner).closed = true := by rw [hscan]
  rw [List.cons_append, spelled_bracket, Bracket.scan_append_of_closed hclosed, hscan]
  rfl

theorem Token.rawText_ofText (text : Text) : Token.rawText (Token.ofText text) = text := by
  rw [← Token.rawText_spell, Token.spell_ofText, Token.rawText_map_ofChar]

theorem Token.rawText_ofSpan (known : Text → Bool) (raw : Text) (closed : Bool) :
    Token.rawText (Token.ofSpan known raw closed) = raw := by
  rcases Token.ofSpan_cases known raw closed with ⟨tag, -, -, -, htag⟩ | ⟨htext, -⟩
  · rw [htag]
    simp [Token.rawText]
  · rw [htext, Token.rawText_ofText]

theorem rawText_spelled (known : Text → Bool) (text : Text) :
    Token.rawText (spelled known text) = text := by
  induction text using spanInduction with
  | nil => rw [spelled_nil]; rfl
  | char c rest hc ih =>
    rw [spelled_cons known hc, ← List.singleton_append, Token.rawText_append, ih]
    exact congrArg (· ++ rest) (Token.rawText_map_ofChar [c])
  | span behind ih =>
    rw [spelled_bracket, Token.rawText_append, Token.rawText_spell, Token.rawText_ofSpan, ih,
      List.cons_append, Bracket.scan_append]

/-- **Tokens lose no character**: joined again they are the text. -/
theorem rawText_tokenize (known : Text → Bool) (text : Text) :
    Token.rawText (tokenize known text) = text := by
  rw [← Token.rawText_spell]
  exact rawText_spelled known text

/-- **Which names are known chooses among the tags of a text**; it neither moves a tag nor makes
one. -/
theorem tag_mem_spelled_iff {known : Text → Bool} {raw : Text} {tag : Tag} {text : Text} :
    tag.token raw ∈ spelled known text ↔
      known tag.name = true ∧ tag.token raw ∈ spelled (fun _ => true) text := by
  induction text using spanInduction with
  | nil => simp
  | char c rest hc ih =>
    rw [spelled_cons known hc, spelled_cons _ hc, List.mem_cons, List.mem_cons]
    simp only [Tag.token_ne_ofChar, false_or]
    exact ih
  | span behind ih =>
    have hplain := tag.token_notMem_plain raw
    rw [spelled_bracket, spelled_bracket, List.mem_append, List.mem_append, ih, and_or_left]
    refine or_congr_left ?_
    rcases Token.ofSpan_cases known _ _ with ⟨other, hclosed, hspan, hknown, htag⟩ | ⟨htext, hno⟩
    · rcases Token.ofSpan_cases (fun _ => true) _ _ with ⟨same, -, hsame, -, htag'⟩ | ⟨-, hno'⟩
      · obtain rfl : other = same := Option.some.inj (hspan.symm.trans hsame)
        rw [htag, htag']
        constructor
        · intro h
          obtain ⟨rfl, -⟩ := Tag.token_inj.mp (by simpa using h)
          exact ⟨hknown, h⟩
        · exact And.right
      · exact absurd (hno' other hclosed hspan) Bool.true_eq_false.mp
    · rw [htext, Token.spell_ofText, iff_false_left (hplain _), not_and]
      intro hknown
      rcases Token.ofSpan_cases (fun _ => true) _ _ with ⟨same, hclosed, hsame, -, htag'⟩ | ⟨htext', -⟩
      · rw [htag']
        intro h
        obtain ⟨rfl, -⟩ := Tag.token_inj.mp (by simpa using h)
        rw [hno tag hclosed hsame] at hknown
        cases hknown
      · rw [htext', Token.spell_ofText]
        exact hplain _

/-- **A text is the tag of a known name and nothing else** exactly if it is one whole span that
writes the tag. -/
theorem tokenize_eq_tag_iff {known : Text → Bool} {raw : Text} {tag : Tag} :
    tokenize known raw = [tag.token raw] ↔
      IsSpan raw ∧ Tag.ofSpan? raw = some tag ∧ known tag.name = true := by
  constructor
  · intro h
    have hspelled : spelled known raw = [tag.token raw] := by rw [spelled, h]; simp
    cases raw with
    | nil => rw [spelled_nil] at hspelled; cases hspelled
    | cons c behind =>
      by_cases hc : c = '['
      · subst hc
        rw [spelled_bracket] at hspelled
        rcases Token.ofSpan_cases known ('[' :: (Bracket.scan .plain behind).inner)
          (Bracket.scan .plain behind).closed with ⟨other, hclosed, hspan, hknown, htag⟩ | ⟨htext, -⟩
        · rw [htag] at hspelled
          simp only [Token.spell_cons, Tag.letters_token, Token.spell_nil, List.append_nil,
            List.singleton_append, List.cons.injEq, Tag.token_inj] at hspelled
          obtain ⟨⟨rfl, -, hraw⟩, -⟩ := hspelled
          have hwhole := isSpan_of_closed hclosed
          rw [hraw] at hwhole hspan
          exact ⟨hwhole, hspan, hknown⟩
        · rw [htext, Token.spell_ofText] at hspelled
          simp only [List.map_cons, List.cons_append, List.cons.injEq] at hspelled
          exact absurd hspelled.1.symm (Tag.token_ne_ofChar _ tag _)
      · rw [spelled_cons known hc, List.cons.injEq] at hspelled
        exact absurd hspelled.1.symm (Tag.token_ne_ofChar _ tag _)
  · rintro ⟨⟨inner, rfl, hscan⟩, hspan, hknown⟩
    have h := tokenize_bracket known List.not_mem_nil inner
    rw [List.nil_append, hscan, tokenize_of_plain known List.not_mem_nil] at h
    rw [h]
    rcases Token.ofSpan_cases known ('[' :: inner) true with ⟨other, -, hother, -, htag⟩ | ⟨-, hno⟩
    · obtain rfl : tag = other := Option.some.inj (hspan.symm.trans hother)
      rw [htag]
      rfl
    · rw [hno tag rfl hspan] at hknown
      cases hknown

theorem token_notMem_ofText (raw text : Text) (tag : Tag) : tag.token raw ∉ Token.ofText text := by
  intro h
  have hspelled := Tag.token_mem_spell_iff.mpr h
  rw [Token.spell_ofText] at hspelled
  exact tag.token_notMem_plain raw text hspelled

/-- **A tag among the tokens of a text is read alone as it is read there.** -/
theorem tokenize_of_mem {known : Text → Bool} {text raw : Text} {tag : Tag}
    (h : tag.token raw ∈ tokenize known text) : tokenize known raw = [tag.token raw] := by
  induction text using bracketInduction with
  | plain text hplain =>
    rw [tokenize_of_plain known hplain] at h
    exact absurd h (token_notMem_ofText raw text tag)
  | span start behind hstart ih =>
    rw [tokenize_bracket known hstart, List.mem_append, List.mem_append] at h
    rcases h with (hbefore | hspan) | hrest
    · exact absurd hbefore (token_notMem_ofText raw start tag)
    · rcases Token.ofSpan_cases known _ _ with ⟨other, hclosed, hother, hknown, htoken⟩ | ⟨htext, -⟩
      · rw [htoken, List.mem_singleton, Tag.token_inj] at hspan
        obtain ⟨rfl, rfl⟩ := hspan
        exact tokenize_eq_tag_iff.mpr ⟨isSpan_of_closed hclosed, hother, hknown⟩
      · rw [htext] at hspan
        exact absurd hspan (token_notMem_ofText raw _ tag)
    · exact ih hrest

end Dispatch.Markup
