import Mathlib.Control.Monad.Basic
import Dispatch.Proofs.Markup.Run

/-!
# No tag and no text is lost

However its tags are closed, a text is cut into bodies and rests between which only closing tags and
newlines fall (`exists_taken`). So, if every tag takes its body formatted, every opening tag gets
one call, and if every formatter copies the body, all text comes out in order. Main statement:
`format_conserves`.
-/

namespace Dispatch.Markup

/-! ## 1. What is counted -/

namespace Token

/-- What the opening tags among the tokens say. -/
def openings (tokens : List Token) : List (Text × Attributes) :=
  tokens.flatMap fun
    | .opening name attributes _ => [(name, attributes)]
    | _ => []

/-- The pieces of text among the tokens, joined. -/
def dataText (tokens : List Token) : Text :=
  tokens.flatMap fun
    | .data text => text
    | _ => []

/-- The pieces of text and the newlines among the tokens, joined. -/
def lineText (tokens : List Token) : Text :=
  tokens.flatMap fun
    | .data text => text
    | .newline => ['\n']
    | _ => []

/-- What is read off the pieces of text character by character does not change when they are
spelled out. -/
theorem flatMap_spell {γ : Type} {f : Token → List γ}
    (h : ∀ text, (Token.data text).letters.flatMap f = f (.data text)) (tokens : List Token) :
    (spell tokens).flatMap f = tokens.flatMap f := by
  induction tokens with
  | nil => rfl
  | cons token tokens ih =>
    have htoken : token.letters.flatMap f = f token := by
      cases token with
      | data text => exact h text
      | newline => exact List.append_nil _
      | opening name attributes raw => exact List.append_nil _
      | closing name raw => exact List.append_nil _
    rw [spell_cons, List.flatMap_append, List.flatMap_cons, htoken, ih]

theorem openings_spell (tokens : List Token) : openings (spell tokens) = openings tokens :=
  flatMap_spell (fun text => by simp [letters, List.flatMap_map]) tokens

theorem dataText_spell (tokens : List Token) : dataText (spell tokens) = dataText tokens :=
  flatMap_spell (fun text => by simp [letters, List.flatMap_map]) tokens

theorem lineText_spell (tokens : List Token) : lineText (spell tokens) = lineText tokens :=
  flatMap_spell (fun text => by simp [letters, List.flatMap_map]) tokens

theorem openings_append (before behind : List Token) :
    openings (before ++ behind) = openings before ++ openings behind :=
  List.flatMap_append

theorem lineText_append (before behind : List Token) :
    lineText (before ++ behind) = lineText before ++ lineText behind :=
  List.flatMap_append

/-- Without its newlines, the text outside the tags is the text of the pieces. -/
theorem filter_lineText {tokens : List Token} (h : ∀ text, .data text ∈ tokens → '\n' ∉ text) :
    (lineText tokens).filter (· ≠ '\n') = dataText tokens := by
  induction tokens with
  | nil => rfl
  | cons token tokens ih =>
    have hrest := ih fun text htext => h text (List.mem_cons_of_mem _ htext)
    rw [← List.singleton_append, lineText_append, List.filter_append, hrest]
    cases token with
    | data text =>
      have hkept : text.filter (· ≠ '\n') = text := List.filter_eq_self.mpr fun c hc =>
        decide_eq_true fun he => h text List.mem_cons_self (he ▸ hc)
      have hsingle : lineText [.data text] = text := List.append_nil text
      rw [hsingle, hkept]
      rfl
    | newline => rfl
    | opening name attributes raw => rfl
    | closing name raw => rfl

end Token

/-- A token of a text is a character or a tag. -/
theorem ofChar_or_tag_of_mem {known : Text → Bool} {text : Text} {token : Token}
    (h : token ∈ spelled known text) :
    (∃ c, token = Token.ofChar c) ∨ ∃ tag raw, token = Tag.token raw tag := by
  induction text using spanInduction with
  | nil => simp at h
  | char c rest hc ih =>
    rw [spelled_cons known hc] at h
    rcases List.mem_cons.mp h with rfl | h
    · exact Or.inl ⟨c, rfl⟩
    · exact ih h
  | span behind ih =>
    rcases spelled_bracket_cases known behind with ⟨tag, -, -, -, htag⟩ | ⟨-, hplain⟩
    · rw [htag] at h
      rcases List.mem_cons.mp h with rfl | h
      · exact Or.inr ⟨tag, _, rfl⟩
      · exact ih h
    · rw [hplain] at h
      rcases List.mem_append.mp h with h | h
      · obtain ⟨c, -, hc⟩ := List.mem_map.mp h
        exact Or.inl ⟨c, hc.symm⟩
      · exact ih h

/-- A piece of text never holds a newline. -/
theorem newline_notMem_of_data_mem {known : Text → Bool} {text piece : Text}
    (h : .data piece ∈ spelled known text) : '\n' ∉ piece := by
  rcases ofChar_or_tag_of_mem h with ⟨c, hc⟩ | ⟨tag, raw, htag⟩
  · unfold Token.ofChar at hc
    split at hc
    · cases hc
    · next hne =>
      rw [Token.data.inj hc]
      exact fun hmem => hne (List.mem_singleton.mp hmem).symm
  · exact absurd htag.symm (Tag.token_ne_data raw piece tag)

/-- What a text opens is known. -/
theorem known_of_opening_mem {known : Text → Bool} {text name raw : Text} {attributes : Attributes}
    (h : .opening name attributes raw ∈ spelled known text) : known name = true :=
  (@tag_mem_spelled_iff known raw (.opening name attributes) text).mp h |>.1

/-! ## 2. Every opening tag gets its call -/

/-- Every rule has a property. -/
def Rules.All (rules : Rules) (p : Rule → Prop) : Prop :=
  ∀ name rule, Dict.get? name rules = some rule → p rule

theorem Rules.all_of_entries {rules : Rules} {p : Rule → Prop} (h : ∀ entry ∈ rules, p entry.2) :
    rules.All p := by
  induction rules with
  | nil => exact fun _ _ hrule => nomatch hrule
  | cons entry rules ih =>
    intro name rule hrule
    rw [Dict.get?_cons] at hrule
    split at hrule
    · obtain rfl := Option.some.inj hrule
      exact h entry List.mem_cons_self
    · exact ih (fun other hother => h other (List.mem_cons_of_mem _ hother)) name rule hrule

/-- The opening tags among these tokens all have rules. -/
def Rules.KnowsAll (rules : Rules) (tokens : List Token) : Prop :=
  ∀ name attributes raw, .opening name attributes raw ∈ tokens → rules.knows name = true

theorem Rules.KnowsAll.mono {rules : Rules} {tokens others : List Token}
    (h : rules.KnowsAll tokens) (hsub : others ⊆ tokens) : rules.KnowsAll others :=
  fun name attributes raw hmem => h name attributes raw (hsub hmem)

/-- What a call is for: the name and the attributes of a tag. -/
def Call.heading (call : Call) : Text × Attributes := (call.tag, call.attributes)

/-- The opening tags behind a tag are those of its body and those behind it. -/
theorem openings_cut (name : Text) (options : TagOptions) (tokens : List Token) :
    Token.openings tokens =
      Token.openings (bodyTokens name options tokens)
        ++ Token.openings (tokensBehind name options tokens) := by
  obtain ⟨taken, hcut, htaken⟩ := exists_taken name options tokens
  have hnone : Token.openings taken = [] := by
    refine List.flatMap_eq_nil_iff.mpr fun token htoken => ?_
    rcases htaken token htoken with ⟨raw, rfl⟩ | ⟨rfl, -⟩ <;> rfl
  have hopenings := congrArg Token.openings hcut
  rwa [Token.openings_append, Token.openings_append, hnone, List.append_nil] at hopenings

section Counting

variable {rules : Rules} {context : Context} {parent : Option ParentTag} {made : List Call}
  {tokens : List Token} {outcome : Except FormatError Text} {calls : List Call}

/-- A tag whose body is not formatted, although bodies are, has none. -/
theorem standalone_of_embedded {options : TagOptions} (h : options.renderEmbedded = true)
    (hbody : options.formatsBody = false) : options.standalone = true := by
  rw [TagOptions.formatsBody, h, Bool.and_true] at hbody
  cases hstandalone : options.standalone with
  | true => rfl
  | false => rw [hstandalone] at hbody; cases hbody

/-- **A run that succeeds calls the formatters once for every opening tag**, if all bodies are
formatted. -/
theorem Formats.headings_perm (h : Formats rules context parent made tokens outcome calls)
    (hembedded : rules.All fun rule => rule.options.renderEmbedded = true)
    (hknown : rules.KnowsAll tokens) {out : Text} (hok : outcome = .ok out) :
    (calls.map Call.heading).Perm (Token.openings tokens) := by
  induction h generalizing out with
  | nil => exact List.Perm.refl _
  | @copied parent made token rest outcome calls htoken behind ih =>
    have hnone : Token.openings [token] = [] := by
      cases token with
      | data text => rfl
      | newline => rfl
      | opening name attributes raw =>
        exact absurd (hknown name attributes raw List.mem_cons_self) htoken
      | closing name raw => rfl
    obtain ⟨inner, hinner, -⟩ := exceptMap_eq_ok hok
    rw [← List.singleton_append, Token.openings_append, hnone, List.nil_append]
    exact ih (hknown.mono (List.subset_cons_self token rest)) hinner
  | bodyFails => cases hok
  | fails => cases hok
  | @replies parent made name attributes raw rest rule inner inside text outcome calls hrule hbody
      _ _ _ ihbody ihbehind =>
    obtain ⟨halone, -⟩ := TagOptions.standalone_of_formatsBody hbody
    obtain ⟨later, hlater, -⟩ := exceptMap_eq_ok hok
    have hrest := hknown.mono (List.subset_cons_self _ rest)
    rw [TagOptions.following_of_body halone] at ihbehind
    have hinside := ihbody (hrest.mono (bodyTokens_subset _ _ _)) rfl
    have hbehind := ihbehind (hrest.mono (tokensBehind_subset _ _ _)) hlater
    rw [List.map_append, List.map_cons]
    have hheading : Token.openings (.opening name attributes raw :: rest) =
        (name, attributes) :: Token.openings rest := rfl
    rw [hheading, openings_cut name rule.options rest]
    exact List.perm_middle.trans ((hinside.append hbehind).cons _)
  | rawFails => cases hok
  | @rawReplies parent made name attributes raw rest rule text outcome calls hrule hbody _ _ ih =>
    obtain ⟨later, hlater, -⟩ := exceptMap_eq_ok hok
    have halone := standalone_of_embedded (hembedded name rule hrule) hbody
    rw [TagOptions.following_of_standalone halone] at ih
    exact (ih (hknown.mono (List.subset_cons_self _ rest)) hlater).cons _

/-! ## 3. All text comes out -/

/-- A formatter that writes the body and nothing else, around which no blanks are dropped. -/
def Rule.Copies (rule : Rule) : Prop :=
  (∃ template, rule.formatter = .template template ∧
    Template.parse "%s".toList = .ok template) ∧ rule.options.strip = false

theorem parse_body : Template.parse "%s".toList = .ok ⟨"%s".toList, [.body]⟩ := by
  decide +kernel

/-- The rule with these options that copies. -/
def Rule.copying (options : TagOptions) : Rule :=
  ⟨options, .template ⟨"%s".toList, [.body]⟩⟩

theorem copies_copying {options : TagOptions} (h : options.strip = false) :
    (Rule.copying options).Copies :=
  ⟨⟨_, rfl, parse_body⟩, h⟩

/-- A formatter that copies replies with the value. -/
theorem reply_of_copies (hcopies : rules.All Rule.Copies) {rule : Rule} {call : Call}
    (hrule : Dict.get? call.tag rules = some rule) (earlier : List Call) :
    rules.reply earlier call = .ok call.value := by
  obtain ⟨⟨template, htemplate, hparse⟩, -⟩ := hcopies call.tag rule hrule
  obtain rfl := Except.ok.inj (parse_body.symm.trans hparse)
  rw [Rules.reply, hrule]
  simp only [htemplate, Formatter.answer, Template.render, Template.renderSegments,
    Template.renderSegment]
  change Except.ok (call.value ++ []) = _
  rw [List.append_nil]

/-- Of what a tag takes, only its body and what stands behind it hold characters that are kept. -/
theorem lineText_cut (name : Text) (options : TagOptions) (tokens : List Token) {keep : Char → Bool}
    (hlines : keep '\n' = true →
      options.newlineCloses = false ∧ options.swallowTrailingNewline = false) :
    (Token.lineText tokens).filter keep =
      (Token.lineText (bodyTokens name options tokens)).filter keep
        ++ (Token.lineText (tokensBehind name options tokens)).filter keep := by
  obtain ⟨taken, hcut, htaken⟩ := exists_taken name options tokens
  have hnone : (Token.lineText taken).filter keep = [] := by
    refine List.filter_eq_nil_iff.mpr fun c hc hkeep => ?_
    obtain ⟨token, htoken, hmem⟩ := List.mem_flatMap.mp hc
    rcases htaken token htoken with ⟨raw, rfl⟩ | ⟨rfl, hon⟩
    · cases hmem
    · rw [List.mem_singleton.mp hmem] at hkeep
      obtain ⟨hcloses, hswallows⟩ := hlines hkeep
      rw [hcloses, hswallows] at hon
      exact hon.elim Bool.false_ne_true Bool.false_ne_true
  have htext := congrArg (fun tokens => (Token.lineText tokens).filter keep) hcut
  simpa only [Token.lineText_append, List.filter_append, hnone, List.append_nil] using htext

/-- **A run whose formatters copy brings out all text**, but for the newlines that tags take. -/
theorem Formats.filter_eq (h : Formats rules context parent made tokens outcome calls)
    (hembedded : rules.All fun rule => rule.options.renderEmbedded = true)
    (hcopies : rules.All Rule.Copies) (hknown : rules.KnowsAll tokens) {keep : Char → Bool}
    (hlines : keep '\n' = true → rules.All fun rule =>
      rule.options.newlineCloses = false ∧ rule.options.swallowTrailingNewline = false) :
    ∃ out, outcome = .ok out ∧ out.filter keep = (Token.lineText tokens).filter keep := by
  induction h with
  | nil => exact ⟨[], rfl, rfl⟩
  | @copied parent made token rest outcome calls htoken behind ih =>
    obtain ⟨out, rfl, hout⟩ := ih (hknown.mono (List.subset_cons_self token rest))
    have hshown : token.shown = Token.lineText [token] := by
      cases token with
      | data text => exact (List.append_nil text).symm
      | newline => rfl
      | opening name attributes raw =>
        exact absurd (hknown name attributes raw List.mem_cons_self) htoken
      | closing name raw => rfl
    refine ⟨token.shown ++ out, rfl, ?_⟩
    rw [← List.singleton_append, Token.lineText_append, List.filter_append, List.filter_append,
      hshown, hout]
  | bodyFails hrule _ _ ih =>
    obtain ⟨out, hout, -⟩ :=
      ih ((hknown.mono (List.subset_cons_self _ _)).mono (bodyTokens_subset _ _ _))
    cases hout
  | fails hrule _ _ hreply _ =>
    rw [reply_of_copies hcopies hrule] at hreply
    cases hreply
  | @replies parent made name attributes raw rest rule inner inside text outcome calls hrule hbody
      _ hreply _ ihbody ihbehind =>
    obtain ⟨halone, -⟩ := TagOptions.standalone_of_formatsBody hbody
    rw [TagOptions.following_of_body halone] at ihbehind
    have hrest := hknown.mono (List.subset_cons_self _ rest)
    obtain ⟨_, hinner, hbodyText⟩ := ihbody (hrest.mono (bodyTokens_subset _ _ _))
    obtain ⟨out, rfl, hout⟩ := ihbehind (hrest.mono (tokensBehind_subset _ _ _))
    obtain rfl := Except.ok.inj hinner
    -- the reply is the body as it was formatted
    have hstrip : rule.options.stripped inner = inner := by
      rw [TagOptions.stripped, (hcopies name rule hrule).2, if_neg Bool.false_ne_true]
    rw [reply_of_copies hcopies hrule, hstrip] at hreply
    obtain rfl := Except.ok.inj hreply
    refine ⟨inner ++ out, rfl, ?_⟩
    have hcut := lineText_cut name rule.options rest fun hkeep => hlines hkeep name rule hrule
    rw [List.filter_append, hbodyText, hout, ← hcut]
    rfl
  | rawFails hrule _ hreply =>
    rw [reply_of_copies hcopies hrule] at hreply
    cases hreply
  | @rawReplies parent made name attributes raw rest rule text outcome calls hrule hbody hreply _
      ih =>
    have halone := standalone_of_embedded (hembedded name rule hrule) hbody
    rw [TagOptions.following_of_standalone halone] at ih
    obtain ⟨out, rfl, hout⟩ := ih (hknown.mono (List.subset_cons_self _ rest))
    rw [reply_of_copies hcopies hrule, TagOptions.rawValue, if_pos halone] at hreply
    obtain rfl := Except.ok.inj hreply
    exact ⟨out, rfl, hout⟩

end Counting

/-! ## 4. A whole text -/

/-- **No tag and no text is lost or doubled**, whatever the markup. If every tag takes its body
formatted and no formatter fails, the formatters are called once for every opening tag of the text.
If moreover every formatter copies the body, the pieces of text come out in order, and with them the
newlines if no tag takes any. -/
theorem format_conserves (parser : TagParser) (text : Text) (context : Context)
    (hembedded : parser.rules.All fun rule => rule.options.renderEmbedded = true) :
    ((∀ reply ∈ parser.replies (parser.format text context).calls, ∃ t, reply = .ok t) →
      ((parser.format text context).calls.map Call.heading).Perm
        (Token.openings (parser.tokens text))) ∧
    (parser.rules.All Rule.Copies →
      ∃ out, (parser.format text context).result = .ok out ∧
        out.filter (· ≠ '\n') = Token.dataText (parser.tokens text) ∧
        ((parser.rules.All fun rule => rule.options.newlineCloses = false ∧
            rule.options.swallowTrailingNewline = false) →
          out = Token.lineText (parser.tokens text))) := by
  have hformats := format_formats parser text context
  have hknown : parser.rules.KnowsAll (spelled parser.rules.knows text) :=
    fun _ _ _ hmem => known_of_opening_mem hmem
  constructor
  · intro hreplies
    obtain ⟨out, hout⟩ := format_ok_of_replies parser text context hreplies
    have hperm := hformats.headings_perm hembedded hknown hout
    rwa [spelled, Token.openings_spell] at hperm
  · intro hcopies
    have hnone : decide ('\n' ≠ '\n') ≠ true := by simp
    obtain ⟨out, hout, hpieces⟩ :=
      @Formats.filter_eq _ _ _ _ _ _ _ hformats hembedded hcopies hknown (· ≠ '\n')
        fun hkeep => absurd hkeep hnone
    refine ⟨out, hout, ?_, fun hlines => ?_⟩
    · rw [hpieces, Token.filter_lineText fun _ => newline_notMem_of_data_mem, spelled,
        Token.dataText_spell]
      rfl
    · obtain ⟨_, hall, htext⟩ :=
        @Formats.filter_eq _ _ _ _ _ _ _ hformats hembedded hcopies hknown (fun _ => true)
          fun _ => hlines
      obtain rfl := Except.ok.inj (hout.symm.trans hall)
      have hkeep (text : Text) : text.filter (fun _ => true) = text :=
        List.filter_eq_self.mpr fun _ _ => rfl
      rw [hkeep, hkeep, spelled, Token.lineText_spell] at htext
      exact htext

/-- Rules for a line that a newline closes and for an item that the next one closes. -/
def itemRules : Rules :=
  [("item".toList, .copying { sameTagCloses := true }),
   ("line".toList, .copying { newlineCloses := true })]

/-- Tags that overlap, one that is not closed and one that closes nothing. -/
theorem format_overlapping :
    let formatted := TagParser.format ⟨itemRules, []⟩
      "[item]a[line]b[/item]c\nd[item x=1]e[/line]".toList []
    (formatted.calls.map Call.heading).Perm
        [("item".toList, []), ("line".toList, []), ("item".toList, [("x".toList, "1".toList)])] ∧
      ∃ out, formatted.result = .ok out ∧ out.filter (· ≠ '\n') = "abcde".toList := by
  have hembedded : itemRules.All fun rule => rule.options.renderEmbedded = true :=
    Rules.all_of_entries (by decide)
  have hcopies : itemRules.All Rule.Copies := by
    refine Rules.all_of_entries ?_
    simp only [itemRules, List.forall_mem_cons]
    exact ⟨copies_copying rfl, copies_copying rfl, fun _ h => absurd h List.not_mem_nil⟩
  obtain ⟨hcalls, htext⟩ := format_conserves ⟨itemRules, []⟩
    "[item]a[line]b[/item]c\nd[item x=1]e[/line]".toList [] hembedded
  have hreplies : TagParser.replies ⟨itemRules, []⟩ (TagParser.format ⟨itemRules, []⟩
      "[item]a[line]b[/item]c\nd[item x=1]e[/line]".toList []).calls =
        [.ok "b".toList, .ok "ab".toList, .ok "e".toList] := by
    decide +kernel
  have hopenings : Token.openings (TagParser.tokens ⟨itemRules, []⟩
      "[item]a[line]b[/item]c\nd[item x=1]e[/line]".toList) =
        [("item".toList, []), ("line".toList, []), ("item".toList, [("x".toList, "1".toList)])] := by
    decide +kernel
  have hpieces : Token.dataText (TagParser.tokens ⟨itemRules, []⟩
      "[item]a[line]b[/item]c\nd[item x=1]e[/line]".toList) = "abcde".toList := by
    decide +kernel
  obtain ⟨out, hout, hfilter, -⟩ := htext hcopies
  refine ⟨?_, out, hout, hfilter.trans hpieces⟩
  rw [← hopenings]
  refine hcalls ?_
  rw [hreplies]
  simp

end Dispatch.Markup
