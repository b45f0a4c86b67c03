import Dispatch.Proofs.Markup.Declarations
import Dispatch.Proofs.Markup.Finished
import Dispatch.Proofs.Markup.SimpleSettings
import Dispatch.Proofs.Markup.SpelledTags

/-!
# Every rule can be called

The names of a parser that was built are valid (`TagParser.Built.valid`), so its tags are read in
every spelling. An opening tag alone calls its formatter with the empty body (`format_opening`), and
a tag around plain text calls it with the text (`format_around`). Main statement: `format_live`.
-/

namespace Dispatch.Markup

/-! ## 1. Parsers that were built -/

/-- The parser was built, of settings or of the declarations of a registry; it may have formatted
since. -/
inductive TagParser.Built : TagParser → Prop
  | simple {settings : SimpleFormatters} {events : List Event} {parser : TagParser}
      (h : ((buildSimpleParser settings).run.run events).1 = .ok parser) : Built parser
  | complex {registry : Registry} {events : List Event} {parser : TagParser}
      (h : ((buildComplexParser registry).run events).1.1 = .ok parser) : Built parser
  | used {parser : TagParser} (h : Built parser) (calls : List Call) :
      Built (parser.remember calls)

namespace TagParser

theorem valid_of_insertAll {rows : List (Text × Rule)}
    (h : ∀ row ∈ rows, isValidName row.1 = true) {name : Text}
    (hname : name ∈ (insertAll {} rows).tagNames) : isValidName name = true := by
  rw [mem_tagNames_insertAll fun row hrow => lower_of_valid (h row hrow)] at hname
  obtain ⟨row, hrow, rfl⟩ := List.mem_map.mp hname
  exact h row hrow

/-- **Every name of a parser that was built is valid.** -/
theorem Built.valid {parser : TagParser} (h : parser.Built) {name : Text}
    (hname : name ∈ parser.tagNames) : isValidName name = true := by
  induction h with
  | @simple settings events parser h =>
    rcases buildSimpleParser_run settings events with
      ⟨-, rows, hrows, hok⟩ | ⟨_, _, _, _, error, -, -, -, herror⟩
    · obtain rfl := Except.ok.inj (hok.symm.trans h)
      refine valid_of_insertAll (fun row hrow => ?_) hname
      obtain ⟨setting, -, template, hgives, rfl⟩ := exists_of_mem_images hrows hrow
      exact hgives.valid
    · cases herror.symm.trans h
  | @complex registry events parser h =>
    rcases Registry.drains registry with ⟨formatters, hcomplete⟩ | ⟨failure, hstopped⟩
    · rw [hcomplete.buildComplexParser_run] at h
      obtain rfl := Except.ok.inj h
      refine valid_of_insertAll (fun row hrow => ?_) hname
      obtain ⟨formatter, hmem, rfl⟩ := List.mem_map.mp hrow
      obtain ⟨declaration, -, hmakes⟩ := hcomplete.last formatter hmem
      have hname : formatter.row.1 = declaration.name := hmakes.tag
      rw [hname]
      exact hmakes.valid
    · rw [Registry.buildComplexParser_run, hstopped.result] at h
      cases h
  | used _ calls ih => exact ih hname

theorem exists_rule {parser : TagParser} {name : Text} (h : name ∈ parser.tagNames) :
    ∃ rule, Dict.get? name parser.rules = some rule := by
  rw [tagNames, ← Dict.contains_iff_mem_keys] at h
  exact Option.isSome_iff_exists.mp h

end TagParser

/-! ## 2. The call of a tag -/

/-- The outcome of one call and nothing else: the formatter of a rule is called after its earlier
calls, and its answer is all there is. -/
def Rule.once (rule : Rule) (history : List Call) (call : Call) : Formatted :=
  ⟨rule.formatter.answer (history.filter fun other => other.tag = call.tag) call, [call]⟩

section Calls

variable {parser : TagParser} {rule : Rule}

theorem outcome_invoke {call : Call} (hrule : Dict.get? call.tag parser.rules = some rule) :
    (invoke rule.formatter call).outcome parser.history = rule.once parser.history call := by
  rw [Formatting.outcome_of_run (invoke_run hrule parser.history), Rules.reply, hrule]
  rfl

/-- Where nothing stands behind a tag, the value is empty. -/
theorem formatValue_nil (rules : Rules) (context : Context) (name : Text) (options : TagOptions) :
    formatValue rules context name options [] = pure [] := by
  have hbody : bodyTokens name options [] = [] := rfl
  have hstripped : options.stripped [] = [] := by
    rw [TagOptions.stripped]
    split <;> rfl
  have hraw : options.rawValue name [] = [] := by
    rw [TagOptions.rawValue, hbody]
    exact (ite_congr rfl (fun _ => rfl) fun _ => hstripped).trans (ite_self [])
  rw [formatValue, hbody, formatTokens_nil, map_pure, hstripped, hraw, ite_self]

/-- An opening tag alone calls its formatter with the empty body. -/
theorem format_opening (tag : OpeningTag) (hrule : Dict.get? tag.name parser.rules = some rule)
    (context : Context) :
    parser.format tag.raw context =
      rule.once parser.history ⟨tag.name, [], tag.attributes, none, context⟩ := by
  have hread : tokenize parser.rules.knows tag.raw = [tag.tag.token tag.raw] :=
    tokenize_eq_tag_iff.mpr ⟨tag.isSpan.1, tag.isSpan.2, Rules.knows_of_get? hrule⟩
  have hfollowing : rule.options.following tag.name [] = [] :=
    List.subset_nil.mp (rule.options.following_subset tag.name [])
  rw [format_eq, ← formatTokens_tokenize, hread, OpeningTag.tag, Tag.token,
    formatTokens_called hrule, formatValue_nil, hfollowing, formatTokens_nil, pure_bind]
  simp only [pure_bind, List.append_nil, bind_pure]
  exact outcome_invoke hrule

/-- A tag around plain text calls its formatter with the text. -/
theorem format_around (tag : OpeningTag) (closing : ClosingTag tag.name)
    (hrule : Dict.get? tag.name parser.rules = some rule) (hbody : rule.options.standalone = false)
    {body : Text} (hplain : '[' ∉ body) (hnewline : rule.options.newlineCloses = true → '\n' ∉ body)
    (context : Context) :
    parser.format (tag.raw ++ body ++ closing.raw) context =
      rule.once parser.history
        ⟨tag.name, rule.options.stripped body, tag.attributes, none, context⟩ := by
  have hfits : (Document.element tag (.leaf body .nil) closing .nil).Fits parser.rules := by
    refine ⟨fun other hother => ?_, ⟨hplain, trivial⟩, trivial⟩
    obtain rfl := Option.some.inj (hrule.symm.trans hother)
    refine ⟨hbody, fun hcloses => ?_, fun _ => List.not_mem_nil⟩
    rw [Document.text, Document.text, List.append_nil]
    exact hnewline hcloses
  have hvalue := format_text_eq_value parser context _ hfits
  simp only [Document.text, List.append_nil] at hvalue
  have hnone : Document.swallowed false body = body := rfl
  rw [hvalue, Document.format]
  simp only [Document.evaluate, hrule, hnone, Document.text, List.append_nil, ite_self, pure_bind,
    bind_pure]
  exact outcome_invoke hrule

end Calls

/-- **No rule of a parser that was built is dead.** A tag of its name, in any spelling and with any
blanks around the name and the slash that do not end the line, is read as such; alone it calls the
formatter with the empty body, and around a text without brackets it calls it once, with the text
as its body. -/
theorem format_live {parser : TagParser} (hbuilt : parser.Built) {name : Text}
    (hname : name ∈ parser.tagNames) :
    ∃ rule, Dict.get? name parser.rules = some rule ∧
      (∀ raw, SpellsOpening name raw → parser.tokens raw = [.opening name [] raw] ∧
        ∀ context, parser.format raw context =
          rule.once parser.history ⟨name, [], [], none, context⟩) ∧
      (∀ raw, SpellsClosing name raw → parser.tokens raw = [.closing name raw]) ∧
      (rule.options.standalone = false →
        ∀ opening closing body context, SpellsOpening name opening → SpellsClosing name closing →
          '[' ∉ body → (rule.options.newlineCloses = true → '\n' ∉ body) →
          parser.format (opening ++ body ++ closing) context = rule.once parser.history
            ⟨name, if rule.options.strip then Text.trim body else body, [], none, context⟩) := by
  have hvalid := hbuilt.valid hname
  obtain ⟨rule, hrule⟩ := TagParser.exists_rule hname
  have hknown : parser.rules.knows name = true := Rules.knows_of_get? hrule
  have hopening {raw : Text} (h : SpellsOpening name raw) (known : Text → Bool)
      (hknown : known name = true) : tokenize known raw = [.opening name [] raw] := by
    obtain ⟨hspan, htag⟩ := h.reads hvalid
    exact (@tokenize_eq_tag_iff known raw (.opening name [])).mpr ⟨hspan, htag, hknown⟩
  have hclosing {raw : Text} (h : SpellsClosing name raw) (known : Text → Bool)
      (hknown : known name = true) : tokenize known raw = [.closing name raw] := by
    obtain ⟨hspan, htag⟩ := h.reads hvalid
    exact (@tokenize_eq_tag_iff known raw (.closing name)).mpr ⟨hspan, htag, hknown⟩
  refine ⟨rule, hrule, fun raw h => ⟨hopening h _ hknown, fun context => ?_⟩,
    fun raw h => hclosing h _ hknown,
    fun hbody opening closing body context hopens hcloses hplain hnewline => ?_⟩
  · exact format_opening ⟨name, [], raw, hopening h _ rfl⟩ hrule context
  · exact format_around ⟨name, [], opening, hopening hopens _ rfl⟩
      ⟨closing, hclosing hcloses _ rfl⟩ hrule hbody hplain hnewline context

/-- The rule of a handler that gives the body back. -/
def noteRule : Rule := ⟨{ strip := true }, .handler ⟨fun _ call => .ok call.value⟩⟩

/-- A registry in which the handler is declared. -/
def noteRegistry : Registry :=
  ⟨[⟨" Note", { strip := true }, "Note", .ok ⟨fun _ call => .ok call.value⟩⟩]⟩

/-- The parser of that registry. -/
def noteParser : TagParser := { rules := [("note".toList, noteRule)] }

theorem format_noteParser :
    noteParser.Built ∧ "note".toList ∈ noteParser.tagNames ∧
      noteParser.format ("[ NOTE ]".toList ++ " x ".toList ++ "[/ note]".toList) [] =
        ⟨.ok "x".toList, [⟨"note".toList, "x".toList, [], none, []⟩]⟩ := by
  have hbuilt : noteParser.Built := @TagParser.Built.complex noteRegistry [] noteParser rfl
  have hname : "note".toList ∈ noteParser.tagNames := List.mem_singleton.mpr rfl
  have hspace : IsGap [' '] := by
    intro c hc
    rw [List.mem_singleton.mp hc]
    decide
  have hopening : SpellsOpening "note".toList "[ NOTE ]".toList :=
    @SpellsOpening.intro _ [' '] "NOTE".toList [' '] hspace (by decide +kernel) hspace
  have hclosing : SpellsClosing "note".toList "[/ note]".toList :=
    @SpellsClosing.intro _ [] [' '] "note".toList [] .nil hspace (by decide +kernel) .nil
  obtain ⟨rule, hrule, -, -, haround⟩ := format_live hbuilt hname
  obtain rfl : noteRule = rule := Option.some.inj hrule
  refine ⟨hbuilt, hname, ?_⟩
  rw [haround rfl _ _ " x ".toList [] hopening hclosing (by decide) (by decide)]
  rfl

end Dispatch.Markup
