import Dispatch.Markup.Passes
import Dispatch.Proofs.Markup.Conservation

/-!
# Rules for tags that a text does not hold

Where the tags of a text are does not depend on the rules (`tagsOf`), so a rule for a name that no
tag of the text has changes nothing: the text has the same tokens (`tokenize_congr`), the same runs
(`Formats.congr`), and so the same outcome and calls. A parser that knows no tag of the text agrees
with the parser without rules, which hands the text back. Main statement: `format_extension`.
-/

namespace Dispatch.Markup

/-! ## 1. The tags of a text -/

/-- The bracketed spans of a text, from left to right. The search for the next one goes on where a
span ends. -/
def spansOf (text : Text) : List Bracket :=
  match h : text.dropWhile (· ≠ '[') with
  | [] => []
  | _ :: behind =>
    let span := Bracket.scan .plain behind
    have : span.rest.length < text.length :=
      Nat.lt_of_le_of_lt (Bracket.scan_rest_length_le .plain behind) (length_lt_of_dropWhile_eq h)
    span :: spansOf span.rest
termination_by text.length

/-- The tag that a span writes, if it is closed and writes one. -/
def Bracket.tag? (span : Bracket) : Option Tag :=
  if span.closed then Tag.ofSpan? ('[' :: span.inner) else none

/-- The tags of a text, from left to right, whatever names are known. -/
def tagsOf (text : Text) : List Tag := (spansOf text).filterMap Bracket.tag?

theorem spansOf_bracket {start : Text} (h : '[' ∉ start) (behind : Text) :
    spansOf (start ++ '[' :: behind) =
      Bracket.scan .plain behind :: spansOf (Bracket.scan .plain behind).rest := by
  rw [spansOf]
  split
  · next heq =>
    rw [dropWhile_of_plain h] at heq
    simp at heq
  · next bracket rest heq =>
    rw [dropWhile_of_plain h] at heq
    simp at heq
    obtain ⟨rfl, rfl⟩ := heq
    rfl

theorem tagsOf_bracket {start : Text} (h : '[' ∉ start) (behind : Text) :
    tagsOf (start ++ '[' :: behind) =
      (Bracket.scan .plain behind).tag?.toList
        ++ tagsOf (Bracket.scan .plain behind).rest := by
  rw [tagsOf, spansOf_bracket h, List.filterMap_cons]
  cases (Bracket.scan .plain behind).tag? <;> rfl

/-! ## 2. Tokens -/

/-- The tokens of a span depend on the known names only if it writes a tag, and then only on the
name of that tag. -/
theorem ofSpan_congr {known other : Text → Bool} {span : Bracket}
    (h : ∀ tag ∈ span.tag?, known tag.name = other tag.name) :
    Token.ofSpan known ('[' :: span.inner) span.closed =
      Token.ofSpan other ('[' :: span.inner) span.closed := by
  cases htag : span.tag? with
  | none =>
    rw [Bracket.tag?] at htag
    simp only [Token.ofSpan, htag]
  | some tag =>
    have hname := h tag htag
    rw [Bracket.tag?] at htag
    cases tag with
    | opening name attributes =>
      have hname : known name = other name := hname
      simp only [Token.ofSpan, htag, hname]
    | closing name =>
      have hname : known name = other name := hname
      simp only [Token.ofSpan, htag, hname]

/-- **The tokens of a text depend only on which of its own tags are known.** -/
theorem tokenize_congr {known other : Text → Bool} {text : Text}
    (h : ∀ tag ∈ tagsOf text, known tag.name = other tag.name) :
    tokenize known text = tokenize other text := by
  induction text using bracketInduction with
  | plain text hplain => rw [tokenize_of_plain known hplain, tokenize_of_plain other hplain]
  | span start behind hstart ih =>
    rw [tagsOf_bracket hstart] at h
    have hspan : ∀ tag ∈ (Bracket.scan .plain behind).tag?, known tag.name = other tag.name :=
      fun tag htag => h tag (List.mem_append_left _ (Option.mem_toList.mpr htag))
    have hrest := ih fun tag htag => h tag (List.mem_append_right _ htag)
    rw [tokenize_bracket known hstart, tokenize_bracket other hstart, ofSpan_congr hspan, hrest]

/-! ## 3. Runs -/

/-- The rules agree about the tags that the tokens open. -/
def Rules.Agree (rules others : Rules) (tokens : List Token) : Prop :=
  ∀ name attributes raw, .opening name attributes raw ∈ tokens →
    Dict.get? name others = Dict.get? name rules

theorem Rules.Agree.mono {rules others : Rules} {tokens part : List Token}
    (h : rules.Agree others tokens) (hsub : part ⊆ tokens) : rules.Agree others part :=
  fun name attributes raw hmem => h name attributes raw (hsub hmem)

/-- Two rows of calls agree about the calls for every name that the rules know. -/
def Rules.Recall (rules : Rules) (made others : List Call) : Prop :=
  ∀ name, rules.knows name = true →
    others.filter (fun call => call.tag = name) = made.filter (fun call => call.tag = name)

theorem Rules.Recall.append {rules : Rules} {made others : List Call} (h : rules.Recall made others)
    (calls : List Call) : rules.Recall (made ++ calls) (others ++ calls) := by
  intro name hknown
  rw [List.filter_append, List.filter_append, h name hknown]

section Runs

variable {rules others : Rules} {context : Context} {parent : Option ParentTag}
  {made earlier : List Call} {tokens : List Token} {outcome : Except FormatError Text}
  {calls : List Call}

theorem reply_congr {call : Call} {rule : Rule} (hrule : Dict.get? call.tag rules = some rule)
    (hsame : Dict.get? call.tag others = some rule) (hrecall : rules.Recall made earlier) :
    others.reply earlier call = rules.reply made call := by
  simp only [Rules.reply, hrule, hsame, hrecall call.tag (Rules.knows_of_get? hrule)]

theorem Rules.Agree.get? {name raw : Text} {attributes : Attributes} {rest : List Token}
    {rule : Rule} (h : rules.Agree others (.opening name attributes raw :: rest))
    (hrule : Dict.get? name rules = some rule) : Dict.get? name others = some rule :=
  (h name attributes raw List.mem_cons_self).trans hrule

/-- **A run only looks at the rules of the tags that it meets**, and at their calls before. -/
theorem Formats.congr (h : Formats rules context parent made tokens outcome calls)
    (hagree : rules.Agree others tokens) (hrecall : rules.Recall made earlier) :
    Formats others context parent earlier tokens outcome calls := by
  induction h generalizing earlier with
  | nil => exact .nil
  | @copied parent made token rest outcome calls htoken _ ih =>
    have hcopied : ¬others.Calls token := by
      cases token with
      | opening name attributes raw =>
        intro hcalls
        have hsame := hagree name attributes raw List.mem_cons_self
        refine htoken ?_
        rw [Rules.Calls, Rules.knows, Dict.contains] at hcalls ⊢
        rwa [← hsame]
      | data text => exact id
      | newline => exact id
      | closing name raw => exact id
    exact .copied hcopied (ih (hagree.mono (List.subset_cons_self _ _)) hrecall)
  | @bodyFails parent made name attributes raw rest rule failure calls hrule hbody _ ih =>
    have hrest := hagree.mono (List.subset_cons_self _ rest)
    exact .bodyFails (hagree.get? hrule) hbody
      (ih (hrest.mono (bodyTokens_subset _ _ _)) hrecall)
  | @fails parent made name attributes raw rest rule inner inside failure hrule hbody _ hreply ih =>
    have hrest := hagree.mono (List.subset_cons_self _ rest)
    have hsame := hagree.get? hrule
    refine .fails hsame hbody (ih (hrest.mono (bodyTokens_subset _ _ _)) hrecall) ?_
    exact (reply_congr hrule hsame (hrecall.append inside)).trans hreply
  | @replies parent made name attributes raw rest rule inner inside text outcome calls hrule hbody
      _ hreply _ ihbody ihbehind =>
    have hrest := hagree.mono (List.subset_cons_self _ rest)
    have hsame := hagree.get? hrule
    have hinside := hrecall.append inside
    refine .replies hsame hbody (ihbody (hrest.mono (bodyTokens_subset _ _ _)) hrecall) ?_ ?_
    · exact (reply_congr hrule hsame hinside).trans hreply
    · exact ihbehind (hrest.mono (rule.options.following_subset _ _)) (hinside.append _)
  | @rawFails parent made name attributes raw rest rule failure hrule hbody hreply =>
    have hsame := hagree.get? hrule
    exact .rawFails hsame hbody ((reply_congr hrule hsame hrecall).trans hreply)
  | @rawReplies parent made name attributes raw rest rule text outcome calls hrule hbody hreply _
      ih =>
    have hrest := hagree.mono (List.subset_cons_self _ rest)
    have hsame := hagree.get? hrule
    refine .rawReplies hsame hbody ((reply_congr hrule hsame hrecall).trans hreply) ?_
    exact ih (hrest.mono (rule.options.following_subset _ _)) (hrecall.append _)

end Runs

/-! ## 4. Parsers with further rules -/

/-- The parser has the rules of another, whose formatters have had the same calls. For names that
the other does not know it may have any rules. -/
structure TagParser.Extends (extended base : TagParser) : Prop where
  rules : ∀ name, base.rules.knows name = true →
    Dict.get? name extended.rules = Dict.get? name base.rules
  history : base.rules.Recall base.history extended.history

theorem TagParser.Extends.refl (parser : TagParser) : parser.Extends parser :=
  ⟨fun _ _ => rfl, fun _ _ => rfl⟩

/-- Every parser extends the one without rules. -/
theorem TagParser.extends_empty (parser : TagParser) : parser.Extends {} :=
  ⟨fun _ hknown => Bool.noConfusion hknown, fun _ hknown => Bool.noConfusion hknown⟩

/-- **Adding a formatter for a further name extends a parser.** -/
theorem TagParser.Extends.insert {extended base : TagParser} (h : extended.Extends base)
    {tag : Text} (hnew : base.hasTag tag = false) (options : TagOptions) (formatter : Formatter) :
    (extended.insert tag options formatter).Extends base := by
  have hne {name : Text} (hknown : base.rules.knows name = true) : name ≠ Text.lower tag := by
    rintro rfl
    exact Bool.false_ne_true (hnew.symm.trans hknown)
  refine ⟨fun name hknown => ?_, fun name hknown => ?_⟩
  · rw [← h.rules name hknown]
    exact Dict.get?_insert_of_ne (hne hknown) _ _
  · rw [← h.history name hknown, TagParser.insert, List.filter_filter]
    refine List.filter_congr fun call _ => ?_
    by_cases hname : call.tag = name
    · simp [hname, hne hknown]
    · simp [hname]

/-- The rules know none of the tags of the text. -/
def Rules.KnowsNone (rules : Rules) (text : Text) : Prop :=
  ∀ tag ∈ tagsOf text, rules.knows tag.name = false

/-- The further rules are all for names that no tag of the text has. -/
theorem format_of_extends {extended base : TagParser} (hext : extended.Extends base) {text : Text}
    (habsent : ∀ tag ∈ tagsOf text, extended.rules.knows tag.name = true →
      base.rules.knows tag.name = true) (context : Context) :
    extended.format text context = base.format text context := by
  have hnames : ∀ tag ∈ tagsOf text, extended.rules.knows tag.name = base.rules.knows tag.name := by
    intro tag htag
    by_cases hknown : base.rules.knows tag.name = true
    · rw [Rules.knows, Dict.contains, hext.rules tag.name hknown]
      rfl
    · have hunknown : extended.rules.knows tag.name ≠ true := fun h => hknown (habsent tag htag h)
      rw [Bool.eq_false_iff.mpr hknown, Bool.eq_false_iff.mpr hunknown]
  have htokens : spelled extended.rules.knows text = spelled base.rules.knows text :=
    congrArg Token.spell (tokenize_congr hnames)
  have hagree : base.rules.Agree extended.rules (spelled base.rules.knows text) :=
    fun name attributes raw hmem => hext.rules name (known_of_opening_mem hmem)
  refine Formats.format_eq ?_
  rw [htokens]
  exact (format_formats base text context).congr hagree hext.history

/-- A parser that knows no tag of the text hands it back. -/
theorem format_of_knowsNone {parser : TagParser} {text : Text} (h : parser.rules.KnowsNone text)
    (context : Context) : parser.format text context = ⟨.ok text, []⟩ := by
  refine (format_of_extends parser.extends_empty (fun tag htag hknown => ?_) context).trans rfl
  rw [h tag htag] at hknown
  cases hknown

/-- **Rules for tags that the text does not hold do not matter.** A parser with further rules has
the same outcome and makes the same calls, as long as no tag of the text has one of the further
names. If no tag of the text has a rule at all, a parser hands the text back and calls no formatter,
and so do two passes, be there one, both or none of them. -/
theorem format_extension (text : Text) (context : Context) :
    (∀ base extended : TagParser, extended.Extends base →
      (∀ tag ∈ tagsOf text, extended.rules.knows tag.name = true →
        base.rules.knows tag.name = true) →
      extended.format text context = base.format text context) ∧
    (∀ parser : TagParser, parser.rules.KnowsNone text →
      parser.format text context = ⟨.ok text, []⟩) ∧
    (∀ passes : Passes,
      (∀ parser, passes.complex = some parser ∨ passes.simple = some parser →
        parser.rules.KnowsNone text) →
      passes.format text context = ⟨.ok text, [], []⟩) := by
  refine ⟨fun base extended hext habsent => format_of_extends hext habsent context,
    fun parser h => format_of_knowsNone h context, fun passes h => ?_⟩
  have hpass (pass : Option TagParser) (hnone : ∀ parser, pass = some parser →
      parser.rules.KnowsNone text) : Passes.formatPass pass text context = ⟨.ok text, []⟩ := by
    cases pass with
    | none => rfl
    | some parser => exact format_of_knowsNone (hnone parser rfl) context
  have hcomplex := hpass passes.complex fun parser hparser => h parser (Or.inl hparser)
  have hsimple := hpass passes.simple fun parser hparser => h parser (Or.inr hparser)
  simp only [Passes.format, hcomplex, hsimple]

/-- Items with an unknown tag inside that quotes a bracket, and a bracket that is left open: a rule
for notes changes nothing, and without the rule for items nothing happens at all. -/
theorem format_itemsWithoutNotes :
    let items : TagParser := ⟨itemRules, []⟩
    let text := "[item]a[box x=\"]\"]b[/item]c[/box][[d".toList
    (items.insert "Note".toList {} (Rule.copying {}).formatter).format text [] =
        items.format text [] ∧
      (TagParser.insert "note".toList {} (Rule.copying {}).formatter {}).format text [] =
        ⟨.ok text, []⟩ ∧
      Passes.format ⟨none, some {}⟩ text [] = ⟨.ok text, [], []⟩ := by
  intro items text
  obtain ⟨hextends, hnone, hpasses⟩ := format_extension text []
  refine ⟨?_, ?_, ?_⟩
  · have hnew : items.hasTag "Note".toList = false := by decide +kernel
    exact hextends items _ ((TagParser.Extends.refl items).insert hnew _ _) (by decide +kernel)
  · have hunknown : (TagParser.insert "note".toList {} (Rule.copying {}).formatter {}).rules.KnowsNone
        text := by
      unfold Rules.KnowsNone
      decide +kernel
    exact hnone _ hunknown
  · refine hpasses ⟨none, some {}⟩ fun parser hparser => ?_
    rcases hparser with hnever | hempty
    · cases hnever
    · obtain rfl := Option.some.inj hempty
      exact fun _ _ => rfl

end Dispatch.Markup
