import Dispatch.Markup.TagParser
import Dispatch.Proofs.Markup.Cut

/-!
# Laws of formatting

What `formatTokens` does with the first token, as equations between programs. From them: it only
looks at the characters of plain text, so it may be read on tokens that are spelled out
(`formatTokens_spell`), and a parser without rules needs no path of its own (`format_eq`).
-/

namespace Dispatch.Markup

/-- Whether there is a rule for a name. -/
def Rules.knows (rules : Rules) (name : Text) : Bool := Dict.contains name rules

theorem Rules.knows_of_get? {rules : Rules} {name : Text} {rule : Rule}
    (h : Dict.get? name rules = some rule) : rules.knows name = true := by
  rw [Rules.knows, Dict.contains, h]
  rfl

theorem Rules.not_knows_of_get? {rules : Rules} {name : Text} (h : Dict.get? name rules = none) :
    rules.knows name = false := by
  rw [Rules.knows, Dict.contains, h]
  rfl

theorem Rules.get?_of_not_knows {rules : Rules} {name : Text} (h : ¬rules.knows name = true) :
    Dict.get? name rules = none := by
  cases hrule : Dict.get? name rules with
  | none => rfl
  | some rule => exact absurd (Rules.knows_of_get? hrule) h

variable {rules : Rules} {context : Context} {parent : Option ParentTag}

/-! ## 1. The first token -/

@[simp] theorem formatTokens_nil : formatTokens rules context parent [] = pure [] := by
  rw [formatTokens]

theorem formatTokens_data (text : Text) (rest : List Token) :
    formatTokens rules context parent (.data text :: rest) =
      (text ++ ·) <$> formatTokens rules context parent rest := by
  rw [formatTokens, map_eq_pure_bind]

theorem formatTokens_newline (rest : List Token) :
    formatTokens rules context parent (.newline :: rest) =
      (['\n'] ++ ·) <$> formatTokens rules context parent rest := by
  rw [formatTokens, map_eq_pure_bind]
  rfl

theorem formatTokens_closing (name raw : Text) (rest : List Token) :
    formatTokens rules context parent (.closing name raw :: rest) =
      formatTokens rules context parent rest := by
  rw [formatTokens]

section Opening

variable {name : Text} {rule : Rule} (attributes : Attributes) (raw : Text) (rest : List Token)

theorem formatTokens_unruled (hrule : Dict.get? name rules = none) :
    formatTokens rules context parent (.opening name attributes raw :: rest) =
      (raw ++ ·) <$> formatTokens rules context parent rest := by
  rw [formatTokens, hrule, map_eq_pure_bind]

theorem formatTokens_standalone (hrule : Dict.get? name rules = some rule)
    (halone : rule.options.standalone = true) :
    formatTokens rules context parent (.opening name attributes raw :: rest) = do
      let text ← invoke rule.formatter ⟨name, [], attributes, parent, context⟩
      let behind ← formatTokens rules context parent rest
      return text ++ behind := by
  rw [formatTokens]
  simp only [hrule, halone, ↓reduceIte]

theorem formatTokens_element (hrule : Dict.get? name rules = some rule)
    (hbody : rule.options.standalone = false) :
    formatTokens rules context parent (.opening name attributes raw :: rest) = do
      let inner ←
        if rule.options.renderEmbedded then
          formatTokens rules context (some ⟨name, rule.options⟩)
            (bodyTokens name rule.options rest)
        else pure (Token.rawText (bodyTokens name rule.options rest))
      let value := if rule.options.strip then Text.trim inner else inner
      let text ← invoke rule.formatter ⟨name, value, attributes, parent, context⟩
      let behind ← formatTokens rules context parent (tokensBehind name rule.options rest)
      return text ++ behind := by
  rw [formatTokens]
  simp only [hrule, hbody, Bool.false_eq_true, ↓reduceIte]

end Opening

/-! ## 2. Plain text -/

theorem formatTokens_ofChar (c : Char) (rest : List Token) :
    formatTokens rules context parent (Token.ofChar c :: rest) =
      ([c] ++ ·) <$> formatTokens rules context parent rest := by
  unfold Token.ofChar
  split
  · next hc => rw [hc, formatTokens_newline]
  · exact formatTokens_data [c] rest

/-- Plain text is copied. -/
theorem formatTokens_plain (text : Text) (rest : List Token) :
    formatTokens rules context parent (text.map Token.ofChar ++ rest) =
      (text ++ ·) <$> formatTokens rules context parent rest := by
  induction text with
  | nil => exact (id_map _).symm
  | cons c text ih =>
    rw [List.map_cons, List.cons_append, formatTokens_ofChar, ih, Functor.map_map]
    rfl

theorem formatTokens_letters (text : Text) (rest : List Token) :
    formatTokens rules context parent ((Token.data text).letters ++ rest) =
      (text ++ ·) <$> formatTokens rules context parent rest := by
  induction text with
  | nil => exact (id_map _).symm
  | cons c text ih =>
    rw [Token.letters] at ih ⊢
    rw [List.map_cons, List.cons_append, formatTokens_data, ih, Functor.map_map]
    rfl

/-- **Formatting only looks at the characters of plain text.** -/
theorem formatTokens_spell {tokens : List Token} (h : .data [] ∉ tokens) :
    formatTokens rules context parent (Token.spell tokens) =
      formatTokens rules context parent tokens := by
  have tail {token : Token} {rest : List Token} (h : .data [] ∉ token :: rest) : .data [] ∉ rest :=
    fun hmem => h (List.mem_cons_of_mem _ hmem)
  induction parent, tokens using formatTokens.induct rules context with
  | case1 parent => rfl
  | case2 parent text rest ih =>
    rw [Token.spell_cons, formatTokens_letters, ih (tail h), formatTokens_data]
  | case3 parent rest ih =>
    rw [Token.spell_newline, formatTokens_newline, ih (tail h), formatTokens_newline]
  | case4 parent name raw rest ih =>
    rw [Token.spell_closing, formatTokens_closing, ih (tail h), formatTokens_closing]
  | case5 parent name attributes raw rest hrule ih =>
    rw [Token.spell_opening, formatTokens_unruled _ _ _ hrule, ih (tail h),
      formatTokens_unruled _ _ _ hrule]
  | case6 parent name attributes raw rest rule hrule halone ih =>
    rw [Token.spell_opening, formatTokens_standalone _ _ _ hrule halone, ih (tail h),
      formatTokens_standalone _ _ _ hrule halone]
  | case7 parent name attributes raw rest rule hrule halone _ _ body hembedded ihbehind ihbody =>
    have halone := Bool.eq_false_iff.mpr halone
    have ihbehind := ihbehind fun hmem => tail h (tokensBehind_subset _ _ _ hmem)
    have ihbody := ihbody fun hmem => tail h (bodyTokens_subset _ _ _ hmem)
    rw [Token.spell_opening, formatTokens_element _ _ _ hrule halone,
      formatTokens_element _ _ _ hrule halone, bodyTokens_spell, tokensBehind_spell _ _ (tail h),
      ihbody, ihbehind, Token.rawText_spell]
  | case8 parent name attributes raw rest rule hrule halone _ _ hraw ihbehind =>
    have halone := Bool.eq_false_iff.mpr halone
    have ihbehind := ihbehind fun hmem => tail h (tokensBehind_subset _ _ _ hmem)
    rw [Token.spell_opening, formatTokens_element _ _ _ hrule halone,
      formatTokens_element _ _ _ hrule halone, if_neg hraw, if_neg hraw, bodyTokens_spell,
      tokensBehind_spell _ _ (tail h), ihbehind, Token.rawText_spell]

theorem data_nil_notMem_ofPiece (piece : Text) : .data [] ∉ Token.ofPiece piece := by
  cases piece <;> simp [Token.ofPiece]

theorem data_nil_notMem_ofTextBehind (piece text : Text) :
    .data [] ∉ Token.ofTextBehind piece text := by
  induction text generalizing piece with
  | nil => exact data_nil_notMem_ofPiece piece
  | cons c rest ih =>
    rw [Token.ofTextBehind]
    split
    · intro h
      rcases List.mem_append.mp h with h | h
      · exact data_nil_notMem_ofPiece piece h
      · rcases List.mem_cons.mp h with h | h
        · cases h
        · exact ih [] h
    · exact ih _

theorem data_nil_notMem_ofSpan (known : Text → Bool) (raw : Text) (closed : Bool) :
    .data [] ∉ Token.ofSpan known raw closed := by
  rcases Token.ofSpan_cases known raw closed with ⟨tag, -, -, -, htag⟩ | ⟨htext, -⟩
  · rw [htag]
    exact fun h => Tag.token_ne_data raw [] tag (List.mem_singleton.mp h).symm
  · rw [htext]
    exact data_nil_notMem_ofTextBehind [] raw

/-- No token of a text is empty. -/
theorem data_nil_notMem_tokenize (known : Text → Bool) (text : Text) :
    .data [] ∉ tokenize known text := by
  induction text using bracketInduction with
  | plain text h =>
    rw [tokenize_of_plain known h]
    exact data_nil_notMem_ofTextBehind [] text
  | span start behind h ih =>
    rw [tokenize_bracket known h]
    intro hmem
    rcases List.mem_append.mp hmem with hmem | hmem
    · rcases List.mem_append.mp hmem with hmem | hmem
      · exact data_nil_notMem_ofTextBehind [] start hmem
      · exact data_nil_notMem_ofSpan known _ _ hmem
    · exact ih hmem

/-- The text of a parser's input may be read character by character. -/
theorem formatTokens_tokenize (known : Text → Bool) (text : Text) :
    formatTokens rules context parent (tokenize known text) =
      formatTokens rules context parent (spelled known text) :=
  (formatTokens_spell (data_nil_notMem_tokenize known text)).symm

/-! ## 3. Formatting a text -/

theorem spelled_of_unknown (text : Text) :
    spelled (fun _ => false) text = text.map Token.ofChar := by
  induction text using spanInduction with
  | nil => exact spelled_nil _
  | char c rest hc ih => rw [spelled_cons _ hc, ih, List.map_cons]
  | span behind ih =>
    rcases spelled_bracket_cases (fun _ => false) behind with ⟨tag, -, -, hknown, -⟩ | ⟨-, hplain⟩
    · cases hknown
    · rw [hplain, ih, ← List.map_append, List.cons_append, Bracket.scan_append]

/-- The outcome of an action for a parser that has had some calls: the text or the failure, and the
calls that the action adds. -/
def Formatting.outcome (action : Formatting Text) (history : List Call) : Formatted :=
  let (result, made) := action.run.run history
  ⟨result, made.drop history.length⟩

/-- **A parser formats a text by its tokens**, also if it has no rules. -/
theorem format_eq (parser : TagParser) (text : Text) (context : Context) :
    parser.format text context =
      (formatTokens parser.rules context none
        (spelled parser.rules.knows text)).outcome parser.history := by
  rw [TagParser.format]
  split
  · next hempty =>
    have hrules : parser.rules = [] := List.isEmpty_iff.mp hempty
    have hknown : parser.rules.knows = fun _ => false := by
      rw [hrules]
      rfl
    have h := @formatTokens_plain parser.rules context none text []
    rw [List.append_nil, formatTokens_nil, map_pure, List.append_nil] at h
    rw [hknown, spelled_of_unknown, h]
    change _ = (⟨.ok text, parser.history.drop parser.history.length⟩ : Formatted)
    rw [List.drop_length]
  · rw [TagParser.tokens, formatTokens_tokenize]
    rfl

end Dispatch.Markup
