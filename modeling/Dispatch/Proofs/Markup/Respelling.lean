import Dispatch.Proofs.Markup.ClosingTags
import Dispatch.Proofs.Markup.TagSpelling
import Dispatch.Proofs.Markup.Told

/-!
# Tags that are spelled otherwise

A tag keeps the characters that wrote it, but they matter only in a body that its formatter takes
raw. Two ways to write a tag in another way are looked at: its name in another case, and blanks just
inside its brackets (`Respells`). Both write the same tag (`Writes.respelled`), and a tag text may
be replaced in every text (`tokenize_replaced`). Where no body is taken raw, tokens are formatted
without regard to how their tags were written (`formatTokens_unspelled`). Main statement:
`format_respelled`.
-/

namespace Dispatch.Markup

/-! ## 1. Spellings of a tag -/

/-- A tag as it is spelled: blanks around what is between the brackets, and in there the name with
what stands in front of it and behind it. -/
structure Spelling where
  left : Text
  front : Text
  name : Text
  behind : Text
  right : Text

namespace Spelling

/-- What is between the brackets, without the blanks around it. -/
def inner (spelling : Spelling) : Text := spelling.front ++ spelling.name ++ spelling.behind

/-- The tag as it is written. -/
def text (spelling : Spelling) : Text :=
  '[' :: (spelling.left ++ spelling.inner ++ spelling.right ++ [']'])

/-- The blanks are blanks, and the name stands in its place. -/
structure Correct (spelling : Spelling) : Prop where
  blankLeft : ∀ c ∈ spelling.left, Text.isBlank c = true
  blankRight : ∀ c ∈ spelling.right, Text.isBlank c = true
  place : NamePlace spelling.front spelling.name spelling.behind
  trimmedName : Text.trim spelling.name = spelling.name
  trimmed : Text.trim spelling.inner = spelling.inner
  nonempty : spelling.inner ≠ []

end Spelling

/-- A tag is on one line between brackets. -/
theorem exists_brackets {raw : Text} {tag : Tag} (h : Tag.ofSpan? raw = some tag) :
    ∃ body, raw = '[' :: (body ++ [']']) ∧ (∀ c ∈ body, Tag.isLineEnd c = false) ∧
      Tag.ofInner? (Text.trim body) = some tag := by
  unfold Tag.ofSpan? at h
  split at h
  · cases h
  · next hline =>
    have hends : ∀ c ∈ raw, Tag.isLineEnd c = false := by simpa using hline
    split at h
    · next body =>
      split at h
      · next hlast =>
        obtain ⟨inner, rfl⟩ := List.getLast?_eq_some_iff.mp hlast
        rw [List.dropLast_concat] at h
        refine ⟨inner, rfl, fun c hc => hends c ?_, h⟩
        exact List.mem_cons_of_mem _ (List.mem_append_left _ hc)
      · cases h
    · cases h

/-- **Every tag has a spelling.** -/
theorem exists_spelling {raw : Text} {tag : Tag} (h : Tag.ofSpan? raw = some tag) :
    ∃ spelling : Spelling, spelling.Correct ∧ spelling.text = raw := by
  obtain ⟨body, rfl, -, htag⟩ := exists_brackets h
  obtain ⟨left, right, hbody, hleft, hright⟩ := Text.exists_trim body
  obtain ⟨front, name, behind, hinner, hplace, hname⟩ := exists_namePlace (Text.trim_trim body)
  have hne : Text.trim body ≠ [] := by
    intro hnil
    rw [hnil] at htag
    cases htag
  have htrim := Text.trim_trim body
  rw [hinner] at hbody htrim hne
  exact ⟨⟨left, front, name, behind, right⟩, ⟨hleft, hright, hplace, hname, htrim, hne⟩,
    congrArg (fun body => '[' :: (body ++ [']'])) hbody.symm⟩

/-- The text is one span, and it is the tag. -/
def Writes (raw : Text) (tag : Tag) : Prop := IsSpan raw ∧ Tag.ofSpan? raw = some tag

/-- **A tag has the name that its spelling says**, and it is the same tag with every name that is
lowered alike. -/
theorem Spelling.writes_respelled {spelling : Spelling} (hcorrect : spelling.Correct) {tag : Tag}
    (h : Writes spelling.text tag) :
    Text.lower spelling.name = tag.name ∧ ∀ name, Text.lower name = Text.lower spelling.name →
      Writes { spelling with name := name }.text tag := by
  obtain ⟨body, hbody, hline, hinner⟩ := exists_brackets h.2
  obtain rfl : spelling.left ++ spelling.inner ++ spelling.right = body :=
    List.append_cancel_right (List.cons.inj hbody).2
  obtain ⟨found, hfound, hname, hsame⟩ :=
    hcorrect.place.ofInner? hcorrect.trimmedName hcorrect.trimmed hcorrect.nonempty
  rw [Text.trim_between hcorrect.blankLeft hcorrect.blankRight, hcorrect.trimmed] at hinner
  obtain rfl : found = tag := Option.some.inj (hfound.symm.trans hinner)
  refine ⟨hname.symm, fun name hlower => ⟨?_, ?_⟩⟩
  · have hsigns := Text.filter_eq_of_lower_eq (fun _ => isSign_of_isBracketing) hlower
    refine isSpan_congr ?_ h.1
    simp only [Spelling.inner, List.filter_append, hsigns]
  · have hends : ∀ c ∈ spelling.left ++ { spelling with name := name }.inner ++ spelling.right,
        Tag.isLineEnd c = false := by
      intro c hc
      refine Bool.eq_false_iff.mpr fun hend => ?_
      have hsign : Text.isSign c = true := by
        simp only [Tag.isLineEnd, Bool.or_eq_true, decide_eq_true_eq] at hend
        rcases hend with rfl | rfl <;> decide
      have hmem : c ∈ spelling.left ++ spelling.inner ++ spelling.right := by
        simp only [Spelling.inner, List.mem_append] at hc ⊢
        rwa [← Text.mem_iff_of_lower_eq hlower hsign]
      rw [hline c hmem] at hend
      cases hend
    have htrim : Text.trim { spelling with name := name }.inner =
        { spelling with name := name }.inner :=
      trim_respelled hlower hcorrect.trimmedName hcorrect.trimmed
    refine (ofSpan?_brackets hends).trans ?_
    rw [Text.trim_between hcorrect.blankLeft hcorrect.blankRight, htrim]
    exact hsame name hlower

/-- **A tag with blanks just inside its brackets** is the same tag. -/
theorem writes_spaced {body : Text} {tag : Tag} (h : Writes ('[' :: (body ++ [']'])) tag)
    {left right : Text}
    (hblank : ∀ c ∈ left ++ right, Text.isBlank c = true ∧ c ≠ '\n' ∧ c ≠ '\r') :
    Writes ('[' :: (left ++ body ++ right ++ [']'])) tag := by
  obtain ⟨hspan, hread⟩ := h
  obtain ⟨inner, hinner, hline, htag⟩ := exists_brackets hread
  obtain rfl : body = inner := List.append_cancel_right (List.cons.inj hinner).2
  have hleft : ∀ c ∈ left, Text.isBlank c = true := fun c hc =>
    (hblank c (List.mem_append_left _ hc)).1
  have hright : ∀ c ∈ right, Text.isBlank c = true := fun c hc =>
    (hblank c (List.mem_append_right _ hc)).1
  have hnone {blanks : Text} (hblanks : ∀ c ∈ blanks, Text.isBlank c = true) :
      blanks.filter isBracketing = [] :=
    List.filter_eq_nil_iff.mpr fun c hc => by
      rw [not_isBracketing_of_isBlank (hblanks c hc)]
      exact Bool.false_ne_true
  constructor
  · refine isSpan_congr ?_ hspan
    rw [List.filter_append, List.filter_append, hnone hleft, hnone hright, List.nil_append,
      List.append_nil]
  · have hends : ∀ c ∈ left ++ body ++ right, Tag.isLineEnd c = false := by
      intro c hc
      have hcases : c ∈ left ++ right ∨ c ∈ body := by
        simp only [List.mem_append] at hc ⊢
        rcases hc with (hc | hc) | hc
        · exact Or.inl (Or.inl hc)
        · exact Or.inr hc
        · exact Or.inl (Or.inr hc)
      rcases hcases with hc | hc
      · obtain ⟨-, hnewline, hreturn⟩ := hblank c hc
        simp [Tag.isLineEnd, hnewline, hreturn]
      · exact hline c hc
    rw [ofSpan?_brackets hends, Text.trim_between hleft hright, htag]

/-- Another way to write a tag: its name is spelled otherwise, or there are blanks just inside its
brackets. -/
inductive Respells : Text → Text → Prop
  | named {spelling : Spelling} (correct : spelling.Correct) {name : Text}
      (lower : Text.lower name = Text.lower spelling.name) :
      Respells spelling.text { spelling with name := name }.text
  | spaced {body left right : Text}
      (blank : ∀ c ∈ left ++ right, Text.isBlank c = true ∧ c ≠ '\n' ∧ c ≠ '\r') :
      Respells ('[' :: (body ++ [']'])) ('[' :: (left ++ body ++ right ++ [']']))

theorem Writes.respelled {raw other : Text} {tag : Tag} (h : Writes raw tag)
    (hother : Respells raw other) : Writes other tag := by
  cases hother with
  | named hcorrect hlower => exact (Spelling.writes_respelled hcorrect h).2 _ hlower
  | spaced hblank => exact writes_spaced h hblank

/-! ## 2. Another tag text in a text -/

theorem Writes.tokenize_append {known : Text → Bool} {raw : Text} {tag : Tag} (h : Writes raw tag)
    (hknown : known tag.name = true) (behind : Text) :
    tokenize known (raw ++ behind) = tag.token raw :: tokenize known behind := by
  rw [h.1.tokenize_append]
  rcases Token.ofSpan_cases known raw true with ⟨other, -, hother, -, htoken⟩ | ⟨-, hno⟩
  · obtain rfl : tag = other := Option.some.inj (h.2.symm.trans hother)
    rw [htoken]
    rfl
  · rw [hno tag rfl h.2] at hknown
    cases hknown

/-- A tag in some tokens stands in the second part of them, or it ends the first part. -/
theorem tag_in_append {first second before after : List Token} {token : Token}
    (h : first ++ second = before ++ token :: after) :
    (∃ between, before = first ++ between ∧ second = between ++ token :: after) ∨
      ∃ between, first = before ++ token :: between ∧ after = between ++ second := by
  rcases List.append_eq_append_iff.mp h with ⟨between, hbefore, hsecond⟩ | ⟨between, hfirst, hrest⟩
  · exact Or.inl ⟨between, hbefore, hsecond⟩
  · cases between with
    | nil => exact Or.inl ⟨[], by simpa using hfirst.symm, by simpa using hrest.symm⟩
    | cons other between =>
      obtain ⟨rfl, hafter⟩ := List.cons.inj hrest
      exact Or.inr ⟨between, hfirst, hafter⟩

/-- What begins with a bracket is read behind plain text as it is read alone. -/
theorem tokenize_plain_append (known : Text → Bool) {start : Text} (h : '[' ∉ start)
    (behind : Text) :
    tokenize known (start ++ '[' :: behind) =
      Token.ofText start ++ tokenize known ('[' :: behind) := by
  have halone := tokenize_bracket known List.not_mem_nil behind
  rw [List.nil_append] at halone
  rw [tokenize_bracket known h, halone, List.append_assoc]
  rfl

/-- A span with another text behind it: if the span is broken off, a bracket breaks it off again. -/
theorem tokenize_span_append (known : Text → Bool) {start behind : Text} (h : '[' ∉ start)
    {other : Text}
    (hrest : (Bracket.scan .plain behind).closed = true ∨
      (Bracket.scan .plain behind).rest ≠ [] ∧ other.head? = some '[') :
    tokenize known (start ++ '[' :: (Bracket.scan .plain behind).inner ++ other) =
      Token.ofText start
        ++ Token.ofSpan known ('[' :: (Bracket.scan .plain behind).inner)
            (Bracket.scan .plain behind).closed
        ++ tokenize known other := by
  have hscan : Bracket.scan .plain ((Bracket.scan .plain behind).inner ++ other) =
      ⟨(Bracket.scan .plain behind).inner, other, (Bracket.scan .plain behind).closed⟩ := by
    cases hclosed : (Bracket.scan .plain behind).closed with
    | true =>
      have hinner := Bracket.scan_inner_of_closed hclosed
      rw [Bracket.scan_append_of_closed (by rw [hinner]), hinner]
      rfl
    | false =>
      obtain ⟨hne, hhead⟩ := hrest.resolve_left (by rw [hclosed]; exact Bool.false_ne_true)
      obtain ⟨tail, rfl⟩ := List.head?_eq_some_iff.mp hhead
      rcases Bracket.scan_of_not_closed hclosed with hend | ⟨-, -, hbreak⟩
      · exact absurd hend hne
      · exact hbreak tail
  rw [List.append_assoc, List.cons_append, tokenize_bracket known h, hscan]

/-- There is no tag among the tokens of plain text. -/
theorem ofText_ne_tag {text raw : Text} {tag : Tag} {before after : List Token} :
    Token.ofText text ≠ before ++ tag.token raw :: after := by
  intro h
  refine token_notMem_ofText raw text tag ?_
  rw [h]
  exact List.mem_append_right _ List.mem_cons_self

/-- A tag among the tokens of a span is all of them, and its name is known. -/
theorem ofSpan_eq_tag {known : Text → Bool} {span raw : Text} {closed : Bool} {tag : Tag}
    {before after : List Token}
    (h : Token.ofSpan known span closed = before ++ tag.token raw :: after) :
    before = [] ∧ after = [] ∧ known tag.name = true := by
  rcases Token.ofSpan_cases known span closed with ⟨found, -, -, hknown, htoken⟩ | ⟨htext, -⟩
  · rw [htoken] at h
    cases before with
    | cons first before => cases before <;> cases h
    | nil =>
      obtain ⟨hfound, hnone⟩ := List.cons.inj h
      obtain ⟨rfl, -⟩ := Tag.token_inj.mp hfound
      exact ⟨rfl, hnone.symm, hknown⟩
  · exact absurd (htext.symm.trans h) ofText_ne_tag

/-- What breaks a span off is a bracket, also when a tag behind the span is written otherwise. -/
theorem closed_or_bracket {known : Text → Bool} {behind raw other : Text} {tag : Tag}
    {before after : List Token}
    (h : tokenize known (Bracket.scan .plain behind).rest = before ++ tag.token raw :: after)
    (hother : other.head? = some '[') :
    (Bracket.scan .plain behind).closed = true ∨
      (Bracket.scan .plain behind).rest ≠ [] ∧
        (Token.rawText before ++ other ++ Token.rawText after).head? = some '[' := by
  cases hclosed : (Bracket.scan .plain behind).closed with
  | true => exact Or.inl rfl
  | false =>
    have hwhole := rawText_tokenize known (Bracket.scan .plain behind).rest
    rw [h, Token.rawText_append] at hwhole
    rcases Bracket.scan_of_not_closed hclosed with hend | ⟨tail, htail, -⟩
    · rw [hend, tokenize_of_plain known List.not_mem_nil] at h
      exact absurd h ofText_ne_tag
    · refine Or.inr ⟨by rw [htail]; exact List.cons_ne_nil _ _, ?_⟩
      cases hbefore : Token.rawText before with
      | nil =>
        rw [List.nil_append, List.head?_append, hother]
        rfl
      | cons c front =>
        rw [hbefore, htail] at hwhole
        exact congrArg some (List.cons.inj hwhole).1

/-- **A tag text in a text may be replaced** by every other one that writes the same tag. -/
theorem tokenize_replaced {known : Text → Bool} {text raw other : Text} {tag : Tag}
    {before after : List Token} (h : tokenize known text = before ++ tag.token raw :: after)
    (hother : Writes other tag) :
    tokenize known (Token.rawText before ++ other ++ Token.rawText after) =
      before ++ tag.token other :: after := by
  obtain ⟨bracketed, hbracketed, -⟩ := hother.1
  have hhead : other.head? = some '[' := by rw [hbracketed]; rfl
  induction text using bracketInduction generalizing before with
  | plain text hno =>
    rw [tokenize_of_plain known hno] at h
    exact absurd h ofText_ne_tag
  | span start behind hstart ih =>
    rw [tokenize_bracket known hstart] at h
    rcases tag_in_append h with ⟨between, rfl, hrest⟩ | ⟨between, hfront, rfl⟩
    · -- the tag stands behind the span
      have htokens := tokenize_span_append known hstart (closed_or_bracket hrest hhead)
      rw [ih hrest] at htokens
      rw [Token.rawText_append, Token.rawText_append, Token.rawText_ofText, Token.rawText_ofSpan,
        List.append_assoc _ _ other, List.append_assoc _ _ (Token.rawText after), htokens,
        List.append_assoc _ between]
    · rcases tag_in_append hfront with ⟨inside, rfl, hspan⟩ | ⟨inside, htext, -⟩
      · -- the tag is the span
        obtain ⟨rfl, rfl, hknown⟩ := ofSpan_eq_tag hspan
        have hread := tokenize_plain_append known hstart
          (bracketed ++ (Bracket.scan .plain behind).rest)
        rw [← List.cons_append, ← hbracketed, hother.tokenize_append hknown] at hread
        rw [List.append_nil, List.nil_append, Token.rawText_ofText, rawText_tokenize,
          List.append_assoc, hread]
      · exact absurd htext ofText_ne_tag

/-- A tag among the tokens of a text is written there. -/
theorem writes_of_tokenize {known : Text → Bool} {text raw : Text} {tag : Tag}
    {before after : List Token} (h : tokenize known text = before ++ tag.token raw :: after) :
    Writes raw tag := by
  have hmem : tag.token raw ∈ tokenize known text := by
    rw [h]
    exact List.mem_append_right _ List.mem_cons_self
  obtain ⟨hspan, hread, -⟩ := tokenize_eq_tag_iff.mp (tokenize_of_mem hmem)
  exact ⟨hspan, hread⟩

/-! ## 3. Formatting without the spelling -/

/-- The token without the characters that wrote its tag. -/
def Token.unspelled : Token → Token
  | .data text => .data text
  | .newline => .newline
  | .opening name attributes _ => .opening name attributes []
  | .closing name _ => .closing name []

/-- **Where a tag ends** does not depend on the spelling of tags. -/
theorem find_unspelled (name : Text) (options : TagOptions) (depth : Nat) (tokens : List Token) :
    Closing.find name options depth (tokens.map Token.unspelled) =
      Closing.find name options depth tokens := by
  induction tokens generalizing depth with
  | nil => rfl
  | cons token rest ih =>
    cases token with
    | data text => rw [List.map_cons, Token.unspelled, Closing.find, Closing.find, ih]
    | newline => rw [List.map_cons, Token.unspelled, Closing.find, Closing.find, ih]
    | opening other attributes raw =>
      rw [List.map_cons, Token.unspelled, Closing.find, Closing.find, ih, ih]
    | closing other raw =>
      rw [List.map_cons, Token.unspelled]
      cases depth with
      | zero => simp only [Closing.find, ih]
      | succ depth => simp only [Closing.find, ih]

theorem bodyTokens_unspelled (name : Text) (options : TagOptions) (tokens : List Token) :
    bodyTokens name options (tokens.map Token.unspelled) =
      (bodyTokens name options tokens).map Token.unspelled := by
  rw [bodyTokens, find_unspelled, Closing.body, ← List.map_take]
  rfl

theorem dropNewline_unspelled (tokens : List Token) :
    dropNewline (tokens.map Token.unspelled) = (dropNewline tokens).map Token.unspelled := by
  cases tokens with
  | nil => rfl
  | cons token rest => cases token <;> rfl

theorem following_unspelled (options : TagOptions) (name : Text) (tokens : List Token) :
    options.following name (tokens.map Token.unspelled) =
      (options.following name tokens).map Token.unspelled := by
  have hbehind (closing : Closing) : closing.behind (tokens.map Token.unspelled) =
      (closing.behind tokens).map Token.unspelled := by
    rw [Closing.behind, ← List.map_drop]
    rfl
  simp only [TagOptions.following, tokensBehind, find_unspelled, hbehind, dropNewline_unspelled]
  split
  · rfl
  · split <;> rfl

section Formatting

variable {rules : Rules} {context : Context}

/-- A token for which no formatter is called shows the same without its spelling, unless it opens a
tag without a rule. -/
theorem shown_unspelled {token : Token} (h : ¬rules.Calls token)
    (hknows : ∀ name attributes raw, token = .opening name attributes raw →
      rules.knows name = true) : token.unspelled.shown = token.shown := by
  cases token with
  | data text => rfl
  | newline => rfl
  | opening name attributes raw => exact absurd (hknows name attributes raw rfl) h
  | closing name raw => rfl

/-- **Tokens are formatted without regard to the spelling of their tags**, if none of them takes its
body raw. -/
theorem formatTokens_unspelled {tokens : List Token} (hknows : rules.KnowsAll tokens)
    (hraw : rules.TakesNoRaw tokens) (parent : Option ParentTag) :
    formatTokens rules context parent (tokens.map Token.unspelled) =
      formatTokens rules context parent tokens := by
  induction tokens using callInduction rules generalizing parent with
  | nil => rfl
  | copied token rest htoken ih =>
    have hsame : ¬rules.Calls token.unspelled := by cases token <;> exact htoken
    have hshown : token.unspelled.shown = token.shown := shown_unspelled htoken
      fun name attributes raw hopens => hknows name attributes raw (hopens ▸ List.mem_cons_self)
    have hsub := List.subset_cons_self token rest
    rw [List.map_cons, formatTokens_copied hsame, formatTokens_copied htoken, hshown,
      ih (hknows.mono hsub) (hraw.mono hsub)]
  | called name attributes raw rest rule hrule ihbody ihbehind =>
    have htakes := hraw name attributes raw List.mem_cons_self rule hrule
    have hsub := List.subset_cons_self (.opening name attributes raw) rest
    have hinside := bodyTokens_subset name rule.options rest
    have hfollows := rule.options.following_subset name rest
    have hvalue : formatValue rules context name rule.options (rest.map Token.unspelled) =
        formatValue rules context name rule.options rest := by
      rw [formatValue, formatValue, bodyTokens_unspelled,
        ihbody ((hknows.mono hsub).mono hinside) ((hraw.mono hsub).mono hinside)]
      split
      · rfl
      · next hformats =>
        have halone := TagOptions.standalone_of_bodiless hformats htakes
        simp only [TagOptions.rawValue, halone, ↓reduceIte]
    rw [List.map_cons, Token.unspelled, formatTokens_called hrule, formatTokens_called hrule,
      hvalue, following_unspelled,
      ihbehind ((hknows.mono hsub).mono hfollows) ((hraw.mono hsub).mono hfollows)]

end Formatting

/-- A parser formats a text by its tokens without their spelling, if no tag takes its body raw. -/
theorem format_eq_unspelled (parser : TagParser) (text : Text) (context : Context)
    (hembedded : parser.rules.All fun rule => rule.options.renderEmbedded = true) :
    parser.format text context =
      (formatTokens parser.rules context none
        ((parser.tokens text).map Token.unspelled)).outcome parser.history := by
  have hknows : parser.rules.KnowsAll (parser.tokens text) := fun name attributes raw hmem =>
    (@ofSpan?_of_mem_tokenize _ text raw (.opening name attributes) hmem).2
  have hraw := Rules.takesNoRaw_of_embedded hembedded (parser.tokens text)
  rw [format_eq, ← formatTokens_tokenize, formatTokens_unspelled hknows hraw]
  rfl

/-- **The spelling of tags is invisible if no tag takes its body raw.** Two texts whose tokens
differ at most in how their tags are written have the same outcome: the same text or failure, and
the same calls. And a tag may be written otherwise wherever it stands in a text: with its name, that
is the key as well in `[name=value]`, in every spelling that is lowered alike, or with blanks just
inside its brackets. Then the text has the same tokens but for how that tag is written. -/
theorem format_respelled :
    (∀ (parser : TagParser) (context : Context) (text other : Text),
      (parser.rules.All fun rule => rule.options.renderEmbedded = true) →
      (parser.tokens text).map Token.unspelled = (parser.tokens other).map Token.unspelled →
        parser.format text context = parser.format other context) ∧
    ∀ (known : Text → Bool) (text : Text) (before : List Token) (tag : Tag) (raw : Text)
      (after : List Token), tokenize known text = before ++ tag.token raw :: after →
        Token.rawText before ++ raw ++ Token.rawText after = text ∧
        (∃ spelling : Spelling, spelling.Correct ∧ spelling.text = raw) ∧
        (∀ spelling : Spelling, spelling.Correct → spelling.text = raw →
          Text.lower spelling.name = tag.name) ∧
        ∀ other, Respells raw other →
          tokenize known (Token.rawText before ++ other ++ Token.rawText after) =
            before ++ tag.token other :: after := by
  constructor
  · intro parser context text other hembedded htokens
    rw [format_eq_unspelled parser text context hembedded, htokens,
      format_eq_unspelled parser other context hembedded]
  · intro known text before tag raw after htokens
    have hwrites := writes_of_tokenize htokens
    refine ⟨?_, exists_spelling hwrites.2, ?_, fun other hother => ?_⟩
    · rw [← rawText_tokenize known text, htokens, Token.rawText_append, List.append_assoc]
      cases tag <;> rfl
    · rintro spelling hcorrect rfl
      exact (Spelling.writes_respelled hcorrect hwrites).1
    · exact tokenize_replaced htokens (hwrites.respelled hother)

/-- The opening tag of bold text with a value of its own. -/
def boldSpelling : Spelling := ⟨[], [], "b".toList, "=1".toList, []⟩

theorem correct_boldSpelling : boldSpelling.Correct where
  blankLeft := List.forall_mem_nil _
  blankRight := List.forall_mem_nil _
  place := .opening (by decide) (by decide) (by decide)
    (.inr ⟨[], '=', "1".toList, rfl, .inl rfl, List.forall_mem_nil _⟩)
  trimmedName := by decide
  trimmed := by decide
  nonempty := List.cons_ne_nil _ _

/-- Bold text in a quotation, with its tags in capitals and with blanks in them: the outcome is the
same, and each of these tags can be put in the place of the other one. -/
theorem format_loudQuote :
    let quotes : TagParser := ⟨quoteRules, []⟩
    let text := "[q]a[b=1]x[/b][/q]".toList
    let other := "[ Q\t]a[B=1]x[/ b][/q]".toList
    let bold := Tag.opening "b".toList [("b".toList, "1".toList)]
    let quote := Tag.opening "q".toList []
    let ends := [Token.data "x".toList, .closing "b".toList "[/b]".toList,
      .closing "q".toList "[/q]".toList]
    ((quotes.rules.All fun rule => rule.options.renderEmbedded = true) ∧
      (quotes.tokens text).map Token.unspelled = (quotes.tokens other).map Token.unspelled ∧
      quotes.tokens text ≠ quotes.tokens other ∧
      (quotes.format other []).result = .ok "<q>a<b>x</b></q>".toList) ∧
    (quotes.tokens text = [quote.token "[q]".toList, .data "a".toList] ++
        bold.token "[b=1]".toList :: ends ∧
      Respells "[b=1]".toList "[B=1]".toList ∧
      quotes.tokens "[q]a[B=1]x[/b][/q]".toList =
        [quote.token "[q]".toList, .data "a".toList] ++ bold.token "[B=1]".toList :: ends) ∧
    (Respells "[q]".toList "[ q\t]".toList ∧
      quotes.tokens "[ q\t]a[b=1]x[/b][/q]".toList =
        quote.token "[ q\t]".toList :: .data "a".toList :: bold.token "[b=1]".toList :: ends) := by
  intro quotes text other bold quote ends
  have hembedded : quotes.rules.All fun rule => rule.options.renderEmbedded = true :=
    Rules.all_of_entries (by decide)
  have htokens :
      (quotes.tokens text).map Token.unspelled = (quotes.tokens other).map Token.unspelled := by
    decide +kernel
  have hbold : quotes.tokens text = [quote.token "[q]".toList, .data "a".toList] ++
      bold.token "[b=1]".toList :: ends := by
    decide +kernel
  have hnamed : Respells "[b=1]".toList "[B=1]".toList :=
    @Respells.named boldSpelling correct_boldSpelling "B".toList (by decide +kernel)
  have hspaced : Respells "[q]".toList "[ q\t]".toList :=
    @Respells.spaced "q".toList " ".toList "\t".toList
      (List.forall_mem_cons.mpr ⟨by decide, List.forall_mem_singleton.mpr (by decide)⟩)
  refine ⟨⟨hembedded, htokens, by decide +kernel, ?_⟩, ⟨hbold, hnamed, ?_⟩, hspaced, ?_⟩
  · rw [← format_respelled.1 quotes [] text other hembedded htokens]
    decide +kernel
  · exact (format_respelled.2 _ text _ bold _ ends hbold).2.2.2 _ hnamed
  · exact (format_respelled.2 _ text [] quote _ _ hbold).2.2.2 _ hspaced

end Dispatch.Markup
