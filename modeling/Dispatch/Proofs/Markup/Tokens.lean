import Dispatch.Proofs.Markup.Sites

/-!
# The tokens of a text

Which characters make up a token is settled by the text alone; the known names only decide whether a
tag is taken for one.

* `tokenize_eq_map`: with some names known, a text has the same tokens as with all names known, but
  the tags of the other names are pieces of text.
* `tokenize_wellFormed`: tokens lose no character, and each of them is what it says: a piece of a
  line, a newline, or a tag of a known name that is that tag also when it is read alone. So whatever
  rows of tokens formatting comes to (`Rules.Reaches`), it never meets an opening tag that it has no
  rule for.
-/

namespace Dispatch.Markup

/-! ## 1. Plain text -/

namespace Token

/-- A token of plain text: a newline, or a piece of one line that is not empty. -/
def Plain : Token → Prop
  | .data text => text ≠ [] ∧ '\n' ∉ text
  | .newline => True
  | _ => False

theorem plain_of_mem_ofPiece {piece : Text} (h : '\n' ∉ piece) {token : Token}
    (hmem : token ∈ ofPiece piece) : token.Plain := by
  cases piece with
  | nil => exact absurd hmem List.not_mem_nil
  | cons c piece =>
    obtain rfl := List.mem_singleton.mp hmem
    exact ⟨List.cons_ne_nil c piece, h⟩

theorem plain_of_mem_ofTextBehind {piece text : Text} (h : '\n' ∉ piece) {token : Token}
    (hmem : token ∈ ofTextBehind piece text) : token.Plain := by
  induction text generalizing piece with
  | nil => exact plain_of_mem_ofPiece h hmem
  | cons c rest ih =>
    rw [ofTextBehind] at hmem
    split at hmem
    · rcases List.mem_append.mp hmem with hpiece | hbehind
      · exact plain_of_mem_ofPiece h hpiece
      · rcases List.mem_cons.mp hbehind with rfl | hrest
        · exact trivial
        · exact ih List.not_mem_nil hrest
    · next hc =>
      have hlonger : '\n' ∉ piece ++ [c] := by simp [h, Ne.symm hc]
      exact ih hlonger hmem

/-- Plain text has plain tokens only. -/
theorem plain_of_mem_ofText {text : Text} {token : Token} (hmem : token ∈ ofText text) :
    token.Plain :=
  plain_of_mem_ofTextBehind List.not_mem_nil hmem

theorem ofTextBehind_of_line {text : Text} (h : '\n' ∉ text) (piece : Text) :
    ofTextBehind piece text = ofPiece (piece ++ text) := by
  induction text generalizing piece with
  | nil => rw [ofTextBehind, List.append_nil]
  | cons c rest ih =>
    have hc : c ≠ '\n' := fun he => h (he ▸ List.mem_cons_self)
    have hrest : '\n' ∉ rest := fun hmem => h (List.mem_cons_of_mem c hmem)
    rw [ofTextBehind, if_neg hc, ih hrest, List.append_assoc, List.singleton_append]

/-- A piece of a line is one token. -/
theorem ofText_of_line {text : Text} (hne : text ≠ []) (h : '\n' ∉ text) :
    ofText text = [.data text] := by
  rw [ofText, ofTextBehind_of_line h, List.nil_append, ofPiece, if_neg]
  simpa using hne

end Token

/-! ## 2. Tags -/

/-- The characters of a tag: they stand in brackets and on one line. -/
structure TagText (raw : Text) : Prop where
  head : raw.head? = some '['
  last : raw.getLast? = some ']'
  newline : '\n' ∉ raw
  carriageReturn : '\r' ∉ raw

theorem tagText_of_ofSpan? {raw : Text} {tag : Tag} (h : Tag.ofSpan? raw = some tag) :
    TagText raw := by
  unfold Tag.ofSpan? at h
  split at h
  · cases h
  · next hline =>
    have hends : ∀ c ∈ raw, Tag.isLineEnd c = false := by simpa using hline
    split at h
    · next body =>
      split at h
      · next hlast =>
        refine ⟨rfl, ?_, fun hmem => ?_, fun hmem => ?_⟩
        · rw [List.getLast?_cons, hlast]
          rfl
        · cases hends _ hmem
        · cases hends _ hmem
      · cases h
    · cases h

theorem TagText.ne_nil {raw : Text} (h : TagText raw) : raw ≠ [] := by
  intro hnil
  have hhead := h.head
  rw [hnil] at hhead
  cases hhead

namespace Token

/-- A token as it is if only some names are known: a tag of another name is a piece of text. -/
def recognized (known : Text → Bool) : Token → Token
  | .opening name attributes raw =>
    if known name then .opening name attributes raw else .data raw
  | .closing name raw => if known name then .closing name raw else .data raw
  | token => token

theorem recognized_of_plain (known : Text → Bool) {token : Token} (h : token.Plain) :
    token.recognized known = token := by
  cases token with
  | data text => rfl
  | newline => rfl
  | opening name attributes raw => exact absurd h id
  | closing name raw => exact absurd h id

theorem recognized_token (known : Text → Bool) (raw : Text) (tag : Tag) :
    (tag.token raw).recognized known = if known tag.name then tag.token raw else .data raw := by
  cases tag <;> rfl

theorem map_recognized_ofText (known : Text → Bool) (text : Text) :
    (ofText text).map (recognized known) = ofText text := by
  have hsame : ∀ token ∈ ofText text, token.recognized known = id token :=
    fun token hmem => recognized_of_plain known (plain_of_mem_ofText hmem)
  rw [List.map_congr_left hsame, List.map_id]

/-- A span that writes a tag of an unknown name is one piece of text. -/
theorem ofSpan_eq_map (known : Text → Bool) (raw : Text) (closed : Bool) :
    ofSpan known raw closed = (ofSpan (fun _ => true) raw closed).map (recognized known) := by
  rcases ofSpan_cases known raw closed with ⟨tag, hclosed, htag, hknown, htoken⟩ | ⟨htext, hno⟩
  · rcases ofSpan_cases (fun _ => true) raw closed with ⟨same, -, hsame, -, hall⟩ | ⟨-, hnone⟩
    · obtain rfl : tag = same := Option.some.inj (htag.symm.trans hsame)
      rw [htoken, hall, List.map_singleton, recognized_token, if_pos hknown]
    · cases hnone tag hclosed htag
  · rcases ofSpan_cases (fun _ => true) raw closed with ⟨tag, hclosed, htag, -, hall⟩ | ⟨hplain, -⟩
    · have hunknown := hno tag hclosed htag
      have hraw := tagText_of_ofSpan? htag
      rw [htext, hall, List.map_singleton, recognized_token, hunknown,
        if_neg Bool.false_ne_true, ofText_of_line hraw.ne_nil hraw.newline]
    · rw [htext, hplain, map_recognized_ofText]

end Token

/-- **The known names do not move a token.** A text has the tokens that it has with all names known,
one by one and in the same order, but a tag of a name that is not known is a piece of text with the
same characters. -/
theorem tokenize_eq_map (known : Text → Bool) (text : Text) :
    tokenize known text = (tokenize (fun _ => true) text).map (Token.recognized known) := by
  induction text using bracketInduction with
  | plain text hplain =>
    rw [tokenize_of_plain known hplain, tokenize_of_plain _ hplain, Token.map_recognized_ofText]
  | span start behind hstart ih =>
    rw [tokenize_bracket known hstart, tokenize_bracket _ hstart, List.map_append, List.map_append,
      Token.map_recognized_ofText, ← Token.ofSpan_eq_map, ← ih]

/-- An unknown tag is one piece of text, next to the text before it. -/
example : tokenize (fun name => decide (name = "b".toList)) "a[i x=\"]\"][B]".toList =
    [.data "a".toList, .data "[i x=\"]\"]".toList, .opening "b".toList [] "[B]".toList] := by
  decide +kernel

/-! ## 3. Every token -/

/-- What a token of a text is if only some names are known. -/
def Token.WellFormed (known : Text → Bool) : Token → Prop
  | .data text => text ≠ [] ∧ '\n' ∉ text
  | .newline => True
  | .opening name attributes raw =>
    known name = true ∧ TagText raw ∧ tokenize known raw = [.opening name attributes raw]
  | .closing name raw => known name = true ∧ TagText raw ∧ tokenize known raw = [.closing name raw]

theorem Token.Plain.wellFormed {token : Token} (h : token.Plain) (known : Text → Bool) :
    token.WellFormed known := by
  cases token with
  | data text => exact h
  | newline => exact trivial
  | opening name attributes raw => exact absurd h id
  | closing name raw => exact absurd h id

theorem Tag.wellFormed_token {known : Text → Bool} {raw : Text} {tag : Tag}
    (h : tokenize known raw = [tag.token raw]) : (tag.token raw).WellFormed known := by
  obtain ⟨-, htag, hknown⟩ := tokenize_eq_tag_iff.mp h
  have hraw := tagText_of_ofSpan? htag
  cases tag with
  | opening name attributes => exact ⟨hknown, hraw, h⟩
  | closing name => exact ⟨hknown, hraw, h⟩

theorem plain_or_tag_of_mem {known : Text → Bool} {text : Text} {token : Token}
    (h : token ∈ tokenize known text) : token.Plain ∨ ∃ tag raw, token = Tag.token raw tag := by
  induction text using bracketInduction with
  | plain text hplain =>
    rw [tokenize_of_plain known hplain] at h
    exact Or.inl (Token.plain_of_mem_ofText h)
  | span start behind hstart ih =>
    rw [tokenize_bracket known hstart, List.mem_append, List.mem_append] at h
    rcases h with (hbefore | hspan) | hrest
    · exact Or.inl (Token.plain_of_mem_ofText hbefore)
    · rcases Token.ofSpan_cases known _ _ with ⟨tag, -, -, -, htoken⟩ | ⟨htext, -⟩
      · rw [htoken, List.mem_singleton] at hspan
        exact Or.inr ⟨tag, _, hspan⟩
      · rw [htext] at hspan
        exact Or.inl (Token.plain_of_mem_ofText hspan)
    · exact ih hrest

theorem wellFormed_of_mem {known : Text → Bool} {text : Text} {token : Token}
    (h : token ∈ tokenize known text) : token.WellFormed known := by
  rcases plain_or_tag_of_mem h with hplain | ⟨tag, raw, rfl⟩
  · exact hplain.wellFormed known
  · exact Tag.wellFormed_token (tokenize_of_mem h)

/-! ## 4. The rows of tokens that formatting comes to -/

/-- The rows of tokens that formatting a row comes to: what stands behind a token that is copied, the
body of a tag if it is formatted, and what follows a tag. -/
inductive Rules.Reaches (rules : Rules) (tokens : List Token) : List Token → Prop
  | start : Reaches rules tokens tokens
  | behind {token rest} (before : Reaches rules tokens (token :: rest))
      (htoken : ¬rules.Calls token) : Reaches rules tokens rest
  | body {name attributes raw rest rule}
      (before : Reaches rules tokens (.opening name attributes raw :: rest))
      (hrule : Dict.get? name rules = some rule) (hbody : rule.options.formatsBody = true) :
      Reaches rules tokens (bodyTokens name rule.options rest)
  | following {name attributes raw rest rule}
      (before : Reaches rules tokens (.opening name attributes raw :: rest))
      (hrule : Dict.get? name rules = some rule) :
      Reaches rules tokens (rule.options.following name rest)

section Reached

variable {rules others : Rules} {tokens row : List Token}

/-- What formatting comes to from a row that it comes to. -/
theorem Rules.Reaches.trans {later : List Token} (h : rules.Reaches tokens row)
    (hlater : rules.Reaches row later) : rules.Reaches tokens later := by
  induction hlater with
  | start => exact h
  | behind _ htoken ih => exact .behind ih htoken
  | body _ hrule hbody ih => exact .body ih hrule hbody
  | following _ hrule ih => exact .following ih hrule

/-- Formatting comes to no other tokens. -/
theorem Rules.Reaches.subset (h : rules.Reaches tokens row) : row ⊆ tokens := by
  induction h with
  | start => exact List.Subset.refl tokens
  | behind _ _ ih => exact List.Subset.trans (List.subset_cons_self _ _) ih
  | body _ _ _ ih =>
    exact List.Subset.trans (bodyTokens_subset _ _ _)
      (List.Subset.trans (List.subset_cons_self _ _) ih)
  | @following _ _ _ rest rule _ _ ih =>
    exact List.Subset.trans (rule.options.following_subset _ rest)
      (List.Subset.trans (List.subset_cons_self _ _) ih)

/-- **Formatting looks up the names of the tags that it comes to, and no others.** -/
theorem formatTokens_eq_of_reaches (context : Context) (parent : Option ParentTag)
    (h : ∀ name attributes raw rest, rules.Reaches tokens (.opening name attributes raw :: rest) →
      Dict.get? name others = Dict.get? name rules) :
    formatTokens others context parent tokens = formatTokens rules context parent tokens := by
  -- the induction carries the tokens outside a body along, which do not matter here
  induction parent, tokens, ([] : List Token) using tagInduction rules with
  | nil parent _ => rw [formatTokens_nil, formatTokens_nil]
  | copied parent token rest _ htoken ih =>
    have hbehind := ih fun name attributes raw later hreach =>
      h name attributes raw later ((Rules.Reaches.start.behind htoken).trans hreach)
    have hother : ¬others.Calls token := by
      cases token with
      | opening name attributes raw =>
        intro hcalls
        refine htoken ?_
        rw [Rules.Calls, Rules.knows, Dict.contains] at hcalls ⊢
        rwa [← h name attributes raw rest .start]
      | data text => exact id
      | newline => exact id
      | closing name raw => exact id
    rw [formatTokens_copied htoken, formatTokens_copied hother, hbehind]
  | embedded parent name attributes raw rest _ rule hrule hbody ihbody ihbehind =>
    have hsame := (h name attributes raw rest .start).trans hrule
    have hinside := ihbody fun name attributes raw later hreach =>
      h name attributes raw later ((Rules.Reaches.start.body hrule hbody).trans hreach)
    have hbehind := ihbehind fun name attributes raw later hreach =>
      h name attributes raw later ((Rules.Reaches.start.following hrule).trans hreach)
    rw [formatTokens_embedded hrule hbody, formatTokens_embedded hsame hbody, hinside, hbehind]
  | raw parent name attributes raw rest _ rule hrule hbody ih =>
    have hsame := (h name attributes raw rest .start).trans hrule
    have hbehind := ih fun name attributes raw later hreach =>
      h name attributes raw later ((Rules.Reaches.start.following hrule).trans hreach)
    rw [formatTokens_raw hrule hbody, formatTokens_raw hsame hbody, hbehind]

/-- Wherever formatting a text comes to an opening tag, there is a rule for it. -/
theorem exists_rule_of_reaches {parser : TagParser} {text name raw : Text} {attributes : Attributes}
    {rest : List Token}
    (h : parser.rules.Reaches (parser.tokens text) (.opening name attributes raw :: rest)) :
    ∃ rule, Dict.get? name parser.rules = some rule := by
  have hmem : .opening name attributes raw ∈ parser.tokens text := h.subset List.mem_cons_self
  obtain ⟨hknown, -, -⟩ := wellFormed_of_mem hmem
  exact Option.isSome_iff_exists.mp hknown

end Reached

/-- **Tokens lose nothing, and each is what it says.** Reading goes on behind each bracketed span, so
it ends. The tokens have the characters of the text; a piece of text is not empty and lies on one
line; a tag has a known name, stands in brackets on one line, and is the same tag when it is read
alone. So a parser never comes to an opening tag that it has no rule for, and whatever would be done
with such a tag makes no difference. -/
theorem tokenize_wellFormed (known : Text → Bool) (text : Text) :
    (∀ start behind, text = start ++ '[' :: behind → '[' ∉ start →
      tokenize known text =
          Token.ofText start
            ++ Token.ofSpan known ('[' :: (Bracket.scan .plain behind).inner)
                (Bracket.scan .plain behind).closed
            ++ tokenize known (Bracket.scan .plain behind).rest ∧
        (Bracket.scan .plain behind).rest.length < text.length) ∧
    Token.rawText (tokenize known text) = text ∧
    (∀ token ∈ tokenize known text, token.WellFormed known) ∧
    ∀ parser : TagParser,
      (∀ name attributes raw rest,
        parser.rules.Reaches (parser.tokens text) (.opening name attributes raw :: rest) →
        ∃ rule, Dict.get? name parser.rules = some rule) ∧
      ∀ (others : Rules) (context : Context),
        (∀ name, parser.rules.knows name = true →
          Dict.get? name others = Dict.get? name parser.rules) →
        formatTokens others context none (parser.tokens text) =
          formatTokens parser.rules context none (parser.tokens text) := by
  refine ⟨?_, rawText_tokenize known text, fun token hmem => wellFormed_of_mem hmem, ?_⟩
  · rintro start behind rfl hstart
    have hle := Bracket.scan_rest_length_le .plain behind
    refine ⟨tokenize_bracket known hstart behind, ?_⟩
    rw [List.length_append, List.length_cons]
    omega
  · refine fun parser => ⟨fun name attributes raw rest hreach => exists_rule_of_reaches hreach, ?_⟩
    intro others context hsame
    refine formatTokens_eq_of_reaches context none fun name attributes raw rest hreach => ?_
    obtain ⟨rule, hrule⟩ := exists_rule_of_reaches hreach
    exact hsame name (Rules.knows_of_get? hrule)

end Dispatch.Markup
