import Dispatch.Proofs.Markup.Finished
import Dispatch.Proofs.Markup.LineBreaks
import Dispatch.Proofs.Markup.SpelledTags

/-!
# Closing tags at the end

A tag that nothing ends runs to the end of its body, so a closing tag at the very end has nothing to
add: it ends a tag that ends there anyway, or it closes nothing and is dropped. This holds at every
depth as long as bodies are formatted; a body that is taken raw would show the closing tag. Main
statement: `format_append_closings`.
-/

namespace Dispatch.Markup

/-! ## 1. Closing tags behind a tag -/

/-- The token is a closing tag. -/
def Token.isClosing : Token → Bool
  | .closing _ _ => true
  | _ => false

/-- The tokens are closing tags and nothing else. -/
def AllClosing (tokens : List Token) : Prop := ∀ token ∈ tokens, token.isClosing = true

namespace AllClosing

variable {closings : List Token}

theorem nil : AllClosing [] := fun _ h => absurd h List.not_mem_nil

theorem mono {others : List Token} (h : AllClosing closings) (hsub : others ⊆ closings) :
    AllClosing others :=
  fun token htoken => h token (hsub htoken)

theorem concat (h : AllClosing closings) (name raw : Text) :
    AllClosing (closings ++ [.closing name raw]) := by
  intro token htoken
  rcases List.mem_append.mp htoken with hfront | hlast
  · exact h token hfront
  · rw [List.mem_singleton.mp hlast]
    rfl

theorem exists_cons {token : Token} (h : AllClosing (token :: closings)) :
    (∃ name raw, token = .closing name raw) ∧ AllClosing closings := by
  refine ⟨?_, h.mono (List.subset_cons_self token closings)⟩
  have htoken := h token List.mem_cons_self
  cases token with
  | closing name raw => exact ⟨name, raw, rfl⟩
  | data text => cases htoken
  | newline => cases htoken
  | opening name attributes raw => cases htoken

theorem head?_ne_newline (h : AllClosing closings) : closings.head? ≠ some .newline := by
  intro hhead
  cases h .newline (List.mem_of_head? hhead)

theorem dropNewline (h : AllClosing closings) : dropNewline closings = closings :=
  @dropNewline_append [] closings fun _ => h.head?_ne_newline

theorem spell (h : AllClosing closings) : Token.spell closings = closings := by
  induction closings with
  | nil => rfl
  | cons token closings ih =>
    obtain ⟨⟨name, raw, rfl⟩, hrest⟩ := h.exists_cons
    rw [Token.spell_closing, ih hrest]

/-- Closing tags that close nothing leave no trace. -/
theorem formatTokens {rules : Rules} {context : Context} {parent : Option ParentTag}
    (h : AllClosing closings) : formatTokens rules context parent closings = pure [] := by
  induction closings with
  | nil => exact formatTokens_nil
  | cons token closings ih =>
    obtain ⟨⟨name, raw, rfl⟩, hrest⟩ := h.exists_cons
    rw [formatTokens_closing, ih hrest]

end AllClosing

/-- **Closing tags at the end stay at the end**: behind a tag they go to the end of its body or to
the end of what follows it, and nothing else moves. -/
theorem cut_append_closings (name : Text) (options : TagOptions) (rest : List Token)
    {closings : List Token} (h : AllClosing closings) :
    ∃ inside behind, AllClosing inside ∧ AllClosing behind ∧
      bodyTokens name options (rest ++ closings) = bodyTokens name options rest ++ inside ∧
      tokensBehind name options (rest ++ closings) = tokensBehind name options rest ++ behind := by
  rcases Closing.find_append name options 0 rest with ⟨hended, -⟩ | ⟨hend, depth, hlater⟩
  · have hended : OpenedTag.Ended ⟨name, options, rest⟩ := hended
    refine ⟨[], closings, .nil, h, ?_, hended.tokensBehind_append fun _ => h.head?_ne_newline⟩
    rw [List.append_nil]
    exact hended.bodyTokens_append closings
  · -- the tag runs off the end of the tokens, so it ends among the closing tags
    have hbody : bodyTokens name options rest = rest := by
      rw [bodyTokens, hend]
      exact List.take_length
    have hbehind : tokensBehind name options rest = [] := by
      have hdrop : (⟨rest.length, true⟩ : Closing).behind rest = [] :=
        List.drop_eq_nil_of_le (Nat.le_succ _)
      simp only [tokensBehind, hend, hdrop, dropNewline, ite_self]
    have hclosings := behind_subset (Closing.find name options depth closings) closings
    refine ⟨(Closing.find name options depth closings).body closings,
      (Closing.find name options depth closings).behind closings,
      h.mono (List.take_subset _ _), h.mono hclosings, ?_, ?_⟩
    · rw [bodyTokens, hlater, Closing.body_laterBy, hbody]
    · rw [hbehind, List.nil_append]
      simp only [tokensBehind, hlater, Closing.behind_laterBy, (h.mono hclosings).dropNewline,
        ite_self]

/-! ## 2. Tokens -/

/-- No tag that the tokens open takes its body raw. -/
def Rules.TakesNoRaw (rules : Rules) (tokens : List Token) : Prop :=
  ∀ name attributes raw, .opening name attributes raw ∈ tokens →
    ∀ rule, Dict.get? name rules = some rule → rule.options.takesRaw = false

theorem Rules.TakesNoRaw.mono {rules : Rules} {tokens others : List Token}
    (h : rules.TakesNoRaw tokens) (hsub : others ⊆ tokens) : rules.TakesNoRaw others :=
  fun name attributes raw hmem => h name attributes raw (hsub hmem)

theorem Rules.takesNoRaw_of_embedded {rules : Rules}
    (h : rules.All fun rule => rule.options.renderEmbedded = true) (tokens : List Token) :
    rules.TakesNoRaw tokens := by
  intro name _ _ _ rule hrule
  rw [TagOptions.takesRaw, h name rule hrule, Bool.not_true, Bool.and_false]

/-- A tag whose formatter gets no body, neither formatted nor raw. -/
theorem TagOptions.standalone_of_bodiless {options : TagOptions}
    (hformats : ¬options.formatsBody = true) (hraw : options.takesRaw = false) :
    options.standalone = true := by
  by_contra halone
  rw [Bool.not_eq_true] at halone
  cases hembedded : options.renderEmbedded with
  | true => exact hformats (by rw [formatsBody, halone, hembedded]; rfl)
  | false =>
    rw [takesRaw, halone, hembedded] at hraw
    cases hraw

/-- **Closing tags behind some tokens do not change what is made of them.** -/
theorem formatTokens_append_closings {rules : Rules} {context : Context} {tokens : List Token}
    (hraw : rules.TakesNoRaw tokens) {closings : List Token} (h : AllClosing closings)
    (parent : Option ParentTag) :
    formatTokens rules context parent (tokens ++ closings) =
      formatTokens rules context parent tokens := by
  induction tokens using callInduction rules generalizing closings parent with
  | nil => rw [List.nil_append, h.formatTokens, formatTokens_nil]
  | copied token rest htoken ih =>
    rw [List.cons_append, formatTokens_copied htoken, formatTokens_copied htoken,
      ih (hraw.mono (List.subset_cons_self token rest)) h]
  | called name attributes raw rest rule hrule ihbody ihbehind =>
    have hrest := hraw.mono (List.subset_cons_self _ rest)
    have htakes := hraw name attributes raw List.mem_cons_self rule hrule
    obtain ⟨inside, behind, hinside, hbehind, hbody, htail⟩ :=
      cut_append_closings name rule.options rest h
    have hvalue : formatValue rules context name rule.options (rest ++ closings) =
        formatValue rules context name rule.options rest := by
      rw [formatValue, formatValue, hbody,
        ihbody (hrest.mono (bodyTokens_subset name rule.options rest)) hinside]
      split
      · rfl
      · next hformats =>
        have halone := TagOptions.standalone_of_bodiless hformats htakes
        simp only [TagOptions.rawValue, halone, ↓reduceIte]
    have hfollowing : ∃ later, AllClosing later ∧
        rule.options.following name (rest ++ closings) =
          rule.options.following name rest ++ later := by
      rw [TagOptions.following, TagOptions.following]
      split
      · exact ⟨closings, h, rfl⟩
      · exact ⟨behind, hbehind, htail⟩
    obtain ⟨later, hlater, hfollows⟩ := hfollowing
    rw [List.cons_append, formatTokens_called hrule, formatTokens_called hrule, hvalue, hfollows,
      ihbehind (hrest.mono (rule.options.following_subset name rest)) hlater]

/-! ## 3. Texts -/

/-- The text ends inside a quoted region of a bracket that is still open. -/
def endsInQuotes (text : Text) : Bool := (openEnd text).any fun state => !state.outside

/-- **An opening bracket behind a text** is read by itself, unless the text ends inside quotes. -/
theorem tokenize_append_bracket (known : Text → Bool) {text : Text} (h : endsInQuotes text = false)
    (behind : Text) :
    tokenize known (text ++ '[' :: behind) =
      tokenize known text ++ tokenize known ('[' :: behind) := by
  have hempty : Token.ofText [] = [] := rfl
  have hbracket := tokenize_bracket known List.not_mem_nil behind
  rw [List.nil_append, hempty, List.nil_append] at hbracket
  induction text using bracketInduction with
  | plain text hplain =>
    rw [tokenize_bracket known hplain, tokenize_of_plain known hplain, hbracket, List.append_assoc]
  | span start inner hstart ih =>
    rw [endsInQuotes] at h
    rw [List.append_assoc, List.cons_append, tokenize_bracket known hstart,
      tokenize_bracket known hstart]
    rcases scan_ends inner with hclosed | ⟨hbroken, hrest, hlonger⟩ | hopen
    · rw [openEnd_of_ended hstart (Or.inl hclosed)] at h
      rw [Bracket.scan_append_of_closed hclosed, hclosed, ih h]
      simp only [List.append_assoc]
    · rw [openEnd_of_ended hstart (Or.inr hrest)] at h
      rw [hlonger, hbroken, ih h]
      simp only [List.append_assoc]
    · rw [openEnd_of_open hstart hopen] at h
      have houtside : (inner.foldl Quoting.next .plain).outside = true := by simpa using h
      have hbreak := Bracket.scan_break (c := '[') (by rw [houtside]; rfl) behind
      rw [crosses_of_open hopen, hbreak, hopen, tokenize_of_plain known List.not_mem_nil, hempty,
        List.append_nil, List.append_nil]

/-- A closing tag of a name. -/
def closingText (name : Text) : Text := '[' :: '/' :: (name ++ [']'])

theorem spellsClosing_closingText {name : Text} (h : isValidName name = true) :
    SpellsClosing name (closingText name) := by
  have hspells := @SpellsClosing.intro name [] [] name [] .nil .nil (lower_of_valid h) .nil
  rwa [List.append_nil] at hspells

/-- Closing tags of known names are read as such. -/
theorem tokenize_closings {known : Text → Bool} {names : List Text}
    (h : ∀ name ∈ names, isValidName name = true ∧ known name = true) :
    tokenize known (names.flatMap closingText) =
      names.map fun name => .closing name (closingText name) := by
  induction names with
  | nil => exact tokenize_of_plain known List.not_mem_nil
  | cons name names ih =>
    obtain ⟨hvalid, hknown⟩ := h name List.mem_cons_self
    obtain ⟨hwhole, htag⟩ := (spellsClosing_closingText hvalid).reads hvalid
    have hspan : Token.ofSpan known (closingText name) true =
        [.closing name (closingText name)] := by
      simp only [Token.ofSpan, ↓reduceIte, htag, hknown]
    rw [List.flatMap_cons, hwhole.tokenize_append, hspan,
      ih fun other hother => h other (List.mem_cons_of_mem _ hother)]
    rfl

/-- A quote that a text leaves open takes all that is behind the text and holds no such quote. -/
theorem tokenize_append_of_quotes (known : Text → Bool) {text behind : Text} {quote : Char}
    (h : openEnd text = some (.inside quote)) (hquote : quote ∉ behind) :
    ∃ front inner, tokenize known text = front ++ Token.ofText ('[' :: inner) ∧
      tokenize known (text ++ behind) = front ++ Token.ofText ('[' :: (inner ++ behind)) := by
  obtain ⟨front, inner, htext, hbehind⟩ := tokenize_append_of_open known h
  have hscan : Bracket.scan (.inside quote) behind = ⟨behind, [], false⟩ := by
    have hcrosses := Quoting.crosses_inside hquote []
    rw [List.append_nil] at hcrosses
    rw [hcrosses]
    simp [Bracket.scan]
  refine ⟨front, inner, htext, ?_⟩
  rw [hbehind, hscan, tokenize_of_plain known List.not_mem_nil]
  exact List.append_nil _

theorem quote_notMem_closings {names : List Text} (h : ∀ name ∈ names, isValidName name = true)
    {quote : Char} (hquote : isQuote quote = true) : quote ∉ names.flatMap closingText := by
  intro hmem
  obtain ⟨name, hname, hchar⟩ := List.mem_flatMap.mp hmem
  simp only [closingText, List.mem_cons, List.mem_append, List.not_mem_nil, or_false] at hchar
  rcases hchar with rfl | rfl | hchar | rfl
  · exact absurd hquote (by decide)
  · exact absurd hquote (by decide)
  · have hnot := not_isNameChar_of_isQuote hquote
    exact ne_of_isNameChar (isNameChar_of_mem (h name hname) hchar) hnot rfl
  · exact absurd hquote (by decide)

/-- Behind the text, one closing tag for each name is read, and nothing else. -/
def TagParser.ReadsClosings (parser : TagParser) (text : Text) (names : List Text) : Prop :=
  ∃ closings, closings.length = names.length ∧ AllClosing closings ∧
    parser.tokens (text ++ names.flatMap closingText) = parser.tokens text ++ closings

/-- **Where closing tags are read as such**: behind every text that does not end inside quotes. -/
theorem readsClosings_iff (parser : TagParser) (text : Text) {names : List Text}
    (hnames : ∀ name ∈ names, isValidName name = true ∧ parser.rules.knows name = true)
    (hsome : names ≠ []) : parser.ReadsClosings text names ↔ endsInQuotes text = false := by
  obtain ⟨name, others, rfl⟩ := List.exists_cons_of_ne_nil hsome
  constructor
  · rintro ⟨closings, hlength, hclosings, htokens⟩
    by_contra hquotes
    rw [Bool.not_eq_false, endsInQuotes, Option.any_eq_true] at hquotes
    obtain ⟨state, hopen, hinside⟩ := hquotes
    cases state with
    | plain => cases hinside
    | allowed => cases hinside
    | inside quote =>
      have hquote := quote_notMem_closings (fun name hname => (hnames name hname).1)
        (openEnd_isQuote hopen)
      obtain ⟨front, inner, htext, hbehind⟩ :=
        tokenize_append_of_quotes (fun name => Dict.contains name parser.rules) hopen hquote
      rw [TagParser.tokens, TagParser.tokens, hbehind, htext, List.append_assoc] at htokens
      obtain ⟨token, rest, rfl⟩ := List.exists_cons_of_length_pos (Nat.lt_of_lt_of_eq
        (Nat.succ_pos _) hlength.symm)
      obtain ⟨⟨closed, raw, rfl⟩, -⟩ := hclosings.exists_cons
      have hmem : .closing closed raw ∈
          Token.ofText ('[' :: (inner ++ (name :: others).flatMap closingText)) := by
        rw [List.append_cancel_left htokens]
        exact List.mem_append_right _ List.mem_cons_self
      exact token_notMem_ofText raw _ (.closing closed) hmem
  · intro hquotes
    have hbracket : (name :: others).flatMap closingText =
        '[' :: ('/' :: (name ++ [']']) ++ others.flatMap closingText) := rfl
    have hclosings := tokenize_closings hnames
    rw [hbracket] at hclosings
    refine ⟨(name :: others).map fun name => .closing name (closingText name), List.length_map _,
      fun token htoken => ?_, ?_⟩
    · obtain ⟨other, -, rfl⟩ := List.mem_map.mp htoken
      rfl
    · rw [hbracket, TagParser.tokens, tokenize_append_bracket _ hquotes]
      exact congrArg (parser.tokens text ++ ·) hclosings

/-- **Closing tags at the end change nothing.** If every tag takes its body formatted, a text has the
same outcome with any closing tags behind it, whichever tags are open there and in whatever order
they are closed: the same text, the same calls, the same failure. The closing tags of known names
are read as such unless the text ends inside quotes. -/
theorem format_append_closings (parser : TagParser) (context : Context) (text : Text)
    (names : List Text)
    (hembedded : parser.rules.All fun rule => rule.options.renderEmbedded = true) :
    (parser.ReadsClosings text names →
      parser.format (text ++ names.flatMap closingText) context = parser.format text context) ∧
    ((∀ name ∈ names, isValidName name = true ∧ parser.rules.knows name = true) → names ≠ [] →
      (parser.ReadsClosings text names ↔ endsInQuotes text = false)) := by
  refine ⟨?_, fun hnames hsome => readsClosings_iff parser text hnames hsome⟩
  rintro ⟨closings, -, hclosings, htokens⟩
  have hraw := Rules.takesNoRaw_of_embedded hembedded
  have hspelled : spelled parser.rules.knows (text ++ names.flatMap closingText) =
      spelled parser.rules.knows text ++ closings := by
    have hspell := congrArg Token.spell htokens
    rw [Token.spell_append, hclosings.spell] at hspell
    exact hspell
  rw [format_eq, format_eq, hspelled, formatTokens_append_closings (hraw _) hclosings]

/-- Tags that overlap and are left open, closed in the wrong order and once too often. -/
theorem format_closedItems :
    let items : TagParser := ⟨itemRules, []⟩
    let text := "[item]a[line]b[item x=1]c[line".toList
    let names := ["item".toList, "line".toList, "item".toList, "item".toList]
    (itemRules.All fun rule => rule.options.renderEmbedded = true) ∧
      items.ReadsClosings text names ∧
      (items.format (text ++ names.flatMap closingText) []).result =
        .ok "abc[line".toList := by
  intro items text names
  have hembedded : itemRules.All fun rule => rule.options.renderEmbedded = true :=
    Rules.all_of_entries (by decide)
  obtain ⟨hsame, hreads⟩ := format_append_closings items [] text names hembedded
  have hclosings : items.ReadsClosings text names :=
    (hreads (by decide +kernel) (by decide)).mpr (by decide +kernel)
  refine ⟨hembedded, hclosings, ?_⟩
  rw [hsame hclosings]
  decide +kernel

end Dispatch.Markup
